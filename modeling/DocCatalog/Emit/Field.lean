import DocCatalog.Emit.Literal
/-!
# Fields of generated objects

One field with its indentation and the line breaks behind it. An absent optional field is no text.
-/

namespace DocCatalog.Emit

/-- Blanks in front of a line. -/
def spaces (n : Nat) : String := String.ofList (List.replicate n ' ')

/-- A field with the given source text as its value. -/
def sourceField (indent : Nat) (name value : String) : String :=
  spaces indent ++ name ++ ": " ++ value ++ ",\n"

def strField (indent : Nat) (name value : String) : String := sourceField indent name (quote value)

def templateField (indent : Nat) (name value : String) : String :=
  sourceField indent name (template value)

def optStrField (indent : Nat) (name : String) (value : Option String) : String :=
  match value with
  | some v => strField indent name v
  | none => ""

/-- A list whose items are lines already. It is on one line when it is empty. -/
def listField (indent : Nat) (name : String) (items : List String) : String :=
  if items.isEmpty then sourceField indent name "[]"
  else
    spaces indent ++ name ++ ": [\n" ++ String.join items ++ spaces indent ++ "],\n"

/-- An item of a list on a line of its own. -/
def itemLine (indent : Nat) (item : String) : String := spaces indent ++ item ++ ",\n"

def strListField (indent : Nat) (name : String) (items : List String) : String :=
  listField indent name (items.map fun s => itemLine (indent + 2) (quote s))

def templateListField (indent : Nat) (name : String) (items : List String) : String :=
  listField indent name (items.map fun s => itemLine (indent + 2) (template s))

/-- A list that is left out when it is empty. -/
def optStrListField (indent : Nat) (name : String) (items : List String) : String :=
  if items.isEmpty then "" else strListField indent name items

/-- An object of a list, with its fields. -/
def objectItem (indent : Nat) (fields : String) : String :=
  spaces indent ++ "\x7b\n" ++ fields ++ spaces indent ++ "\x7d,\n"

/-- Whole lines. -/
def linesOf (lines : List String) : String := String.join (lines.map (· ++ "\n"))

end DocCatalog.Emit
