import DocCatalog.Toml.Quoted
import DocCatalog.Toml.Scalar
import DocCatalog.Toml.Table
/-!
# Settings files

Reads the text of a settings file.

* `value`: a value, nested less than `maxDepth` deep.
* `statement`: a line of the file, which is a field or a header.
* `parse`: the fields of the whole file. There are none if the text is malformed anywhere.
-/

namespace DocCatalog.Toml

/-- A reader takes characters from the head of the text, or fails. -/
abbrev Reading := StateT (List Char) Option

namespace Reading

/-- Takes the longest head of which all characters satisfy `p`. -/
def takeWhile (p : Char → Bool) : Reading (List Char) := fun s =>
  some (s.takeWhile p, s.dropWhile p)

/-- Takes `part` if the text begins with it. -/
def accept (part : String) : Reading Bool := fun s =>
  if part.toList.isPrefixOf s then some (true, s.drop part.length) else some (false, s)

def expect (part : String) : Reading Unit := do
  if ← accept part then return () else failure

/-- What another reader finds behind the opening quotes. -/
def quoted (quotes : String) (read : List Char → Read (List Char)) : Reading String := do
  expect quotes
  let (text, rest) ← read (← get)
  set rest
  return String.ofList text

/-! ## Blanks -/

def blanks : Reading Unit := do
  let _ ← takeWhile fun c => c == ' ' || c == '\t'

/-- A comment, up to the end of its line. -/
def comment : Reading Unit := do
  if ← accept "#" then
    let _ ← takeWhile isPlain

def lineBreak : Reading Bool := fun s =>
  match lineBreak? s with
  | some (_, rest) => some (true, rest)
  | none => some (false, s)

/-- Blanks, comments and line breaks, at most `lines` of these. -/
def blankLines : (lines : Nat) → Reading Unit
  | 0 => return ()
  | lines + 1 => do
    blanks
    comment
    if ← lineBreak then blankLines lines

/-- All blanks, comments and line breaks at the head of the text. -/
def skipLines : Reading Unit := do blankLines ((← get).length + 1)

/-! ## Keys

A key is a row of words or quoted strings with dots between them. -/

def isKeyPart (c : Char) : Bool := c.isAlphanum || c == '_' || c == '-'

def simpleKey : Reading String := do
  match ← get with
  | '\"' :: _ => quoted "\"" basic
  | '\'' :: _ => quoted "'" literal
  | _ =>
    let word ← takeWhile isKeyPart
    if word.isEmpty then failure else return String.ofList word

/-- The keys behind a first one, at most `dots` of them. -/
def moreKeys : (dots : Nat) → Reading (List String)
  | 0 => failure
  | dots + 1 => do
    blanks
    if ← accept "." then
      blanks
      return (← simpleKey) :: (← moreKeys dots)
    else return []

def key : Reading Key := do
  let first ← simpleKey
  let more ← moreKeys ((← get).length + 1)
  let all := first :: more
  return ⟨all.dropLast, all.getLast?.getD first⟩

/-! ## Values

Values nest, so that a value is read over a reader of the values inside of it, one level at a time.
-/

/-- The characters of a value without quotes. -/
def isBare (c : Char) : Bool := c.isAlphanum || "_+-.:".toList.contains c

/-- A value without quotes. A blank may stand between a date and a time. -/
def bare : Reading Value := do
  let word ← takeWhile isBare
  let time :=
    match afterDate? word, ← get with
    | some [], ' ' :: rest =>
      let time := rest.takeWhile isBare
      if (afterMinutes? time).isSome then ' ' :: time else []
    | _, _ => []
  modify (·.drop time.length)
  scalar? (word ++ time)

/-- Items between commas, up to a closing bracket, at most `items` of them. The last may have a comma
behind it. -/
def itemsUntil {α : Type} (close : String) (item : Reading α) : (items : Nat) → Reading (List α)
  | 0 => failure
  | items + 1 => do
    skipLines
    if ← accept close then return []
    let first ← item
    skipLines
    if ← accept "," then return first :: (← itemsUntil close item items)
    else
      expect close
      return [first]

/-- All items up to a closing bracket. -/
def items {α : Type} (close : String) (item : Reading α) : Reading (List α) := do
  itemsUntil close item ((← get).length + 1)

/-- A key with its value. -/
def entry (value : Reading Value) : Reading (Key × Value) := do
  let k ← key
  blanks
  expect "="
  blanks
  return (k, ← value)

/-- A value, where `inner` reads the values inside of it. -/
def valueOver (inner : Reading Value) : Reading Value := do
  match ← get with
  | '\"' :: '\"' :: '\"' :: _ => return .string (← quoted "\"\"\"" longBasic)
  | '\'' :: '\'' :: '\'' :: _ => return .string (← quoted "'''" longLiteral)
  | '\"' :: _ => return .string (← quoted "\"" basic)
  | '\'' :: _ => return .string (← quoted "'" literal)
  | '[' :: _ =>
    expect "["
    return .array (← items "]" inner)
  | '{' :: _ =>
    expect "\x7b"
    let entries ← items "\x7d" (entry inner)
    return .table .inline (← insertAll [] entries)
  | _ => bare

/-- A value inside of which others are nested less than `depth` deep. -/
def value : (depth : Nat) → Reading Value
  | 0 => failure
  | depth + 1 => valueOver (value depth)

/-- How deep values may be nested. -/
def maxDepth : Nat := 81

/-! ## Statements

A file is read line by line. What its lines say together is left to the blocks. -/

inductive Statement where
  | field (key : Key) (value : Value)
  /-- A header, in double brackets if `isElement` holds. -/
  | header (isElement : Bool) (key : Key)

/-- The header between the given brackets. -/
def header (isElement : Bool) (opening closing : String) : Reading Statement := do
  expect opening
  blanks
  let k ← key
  blanks
  expect closing
  return .header isElement k

def statement : Reading Statement := do
  match ← get with
  | '[' :: '[' :: _ => header true "[[" "]]"
  | '[' :: _ => header false "[" "]"
  | _ =>
    let (k, v) ← entry (value maxDepth)
    return .field k v

/-- The statements of a file, each on a line of its own. -/
def statements : (lines : Nat) → Reading (List Statement)
  | 0 => failure
  | lines + 1 => do
    skipLines
    if (← get).isEmpty then return []
    let first ← statement
    blanks
    comment
    if ← lineBreak then return first :: (← statements lines)
    else if (← get).isEmpty then return [first]
    else failure

end Reading

/-! ## Files -/

/-- The fields in front of the first header, and the blocks. -/
def blocksOf : List Reading.Statement → List (Key × Value) × List Block
  | [] => ([], [])
  | .field k v :: rest =>
    let (entries, blocks) := blocksOf rest
    ((k, v) :: entries, blocks)
  | .header isElement k :: rest =>
    let (entries, blocks) := blocksOf rest
    ([], ⟨isElement, k, entries⟩ :: blocks)

/-- The fields of a settings file. A byte order mark may stand in front. -/
def parse (text : String) : Option Fields := do
  let cs := text.toList
  let cs := if cs.head? == some '\ufeff' then cs.drop 1 else cs
  let (statements, _) ← (Reading.statements (cs.length + 1)).run cs
  let (entries, blocks) := blocksOf statements
  let top ← insertAll [] entries
  blocks.foldlM Block.addTo top

end DocCatalog.Toml
