import DocCatalog.Script.Node
import DocCatalog.Script.Literal
import DocCatalog.Text.Blank
/-!
# Values

What an expression says without running it: literals, and calls with their arguments. All other
expressions are kept as source text.

* `Value.ofNode`: the value of an expression. Parentheses, `as` and `satisfies` are looked through.
* `Value.sourceText`: a value as source text again.
-/

namespace DocCatalog.Script

inductive Value where
  | str (text : String)
  /-- A number as it is written, with its sign. -/
  | number (text : String)
  | bool (b : Bool)
  | object (properties : List (String × Value))
  | array (items : List Value)
  /-- A call of `callee`, as written, with the type arguments between the angle brackets. -/
  | call (callee : String) (typeArguments : Option String) (arguments : List Value) (line : Nat)
  /-- Anything else, as source text. -/
  | expr (text : String)
  deriving Repr, Inhabited

/-- A call such as `input.required<string>('x')` or `new EventEmitter<T>()`. -/
structure Call where
  callee : String
  typeArguments : Option String
  arguments : List Value
  line : Nat
  deriving Repr, Inhabited

namespace Value

def asString? : Value → Option String
  | .str s => some s
  | _ => none

def asCall? : Value → Option Call
  | .call callee types args line => some ⟨callee, types, args, line⟩
  | _ => none

def isTrue : Value → Bool
  | .bool b => b
  | _ => false

/-- The first property of an object literal under the given key. -/
def property? (v : Value) (key : String) : Option Value :=
  match v with
  | .object properties => (properties.find? (·.1 == key)).map (·.2)
  | _ => none

/-! ## As source text -/

/-- A single-quoted literal. Backslashes and single quotes are escaped, nothing else. -/
def quoted (s : String) : String :=
  "'" ++ String.ofList (s.toList.flatMap fun c =>
    if c == '\\' || c == '\'' then ['\\', c] else [c]) ++ "'"

mutual

/-- The value as source text. -/
def sourceText : Value → String
  | .str s => quoted s
  | .number n => n
  | .bool b => if b then "true" else "false"
  | .object [] => "\x7b\x7d"
  | .object (p :: ps) => "\x7b " ++ ", ".intercalate (propertyTexts (p :: ps)) ++ " \x7d"
  | .array items => "[" ++ ", ".intercalate (itemTexts items) ++ "]"
  | .call callee types args _ =>
    callee ++ (match types with | some t => "<" ++ t ++ ">" | none => "")
      ++ "(" ++ ", ".intercalate (itemTexts args) ++ ")"
  | .expr text => text

def itemTexts : List Value → List String
  | [] => []
  | v :: vs => sourceText v :: itemTexts vs

def propertyTexts : List (String × Value) → List String
  | [] => []
  | (key, v) :: ps => (key ++ ": " ++ sourceText v) :: propertyTexts ps

end

/-! ## From expressions -/

/-- Type arguments without the angle brackets around them. -/
def typeArgumentsText (n : Node) : String :=
  String.ofList (Text.trim (Text.dropEnd ['>'] (Text.dropStart ['<'] n.text.toList)))

/-- The callee of a call as written, behind `new` if the call makes something. -/
def calleeText (kind : Kind) (children : List Node) : String :=
  let written := ((children.find? (·.role == .callee)).map Node.text).getD ""
  if kind == .construct then "new " ++ written else written

/-- The type arguments among the parts of a call. -/
def typeArgumentsOf (children : List Node) : Option String :=
  (children.find? (·.kind == .typeArguments)).map typeArgumentsText

/-- The text of a property's name. Strings stand for their value. -/
def keyText (key : Node) : String :=
  if key.kind == .string then Literal.value key.text else key.text

/-- A sign in front of a number belongs to it. -/
def isSignedNumber (n : Node) : Bool :=
  n.text.toList.head? == some '-' && (n.child? .operand).any (·.kind == .number)

mutual

/-- The value of an expression. -/
def ofNode : Node → Value
  | .leaf role kind gap text row last =>
    match kind with
    | .string => .str (Literal.value text)
    | .number => .number text
    | .trueWord => .bool true
    | .falseWord => .bool false
    | _ => .expr (Node.leaf role kind gap text row last).text
  | .branch role kind children =>
    let whole := Node.branch role kind children
    match kind with
    | .template =>
      if children.any (·.kind == .substitution) then .expr whole.text
      else .str (Literal.value whole.text)
    | .unary => if isSignedNumber whole then .number whole.text else .expr whole.text
    | .object => .object (propertiesOf children)
    | .array => .array (itemsOf children)
    | .call | .construct =>
      .call (calleeText kind children) (typeArgumentsOf children) (argumentsOf children) whole.line
    | .parenthesized | .asExpression | .satisfiesExpression =>
      (firstOf children).getD (.expr whole.text)
    | _ => .expr whole.text

/-- The values of all named nodes but comments. -/
def itemsOf : List Node → List Value
  | [] => []
  | c :: cs => if c.isNamed && c.kind != .comment then ofNode c :: itemsOf cs else itemsOf cs

/-- The value of the first named node that is no comment. -/
def firstOf : List Node → Option Value
  | [] => none
  | c :: cs => if c.isNamed && c.kind != .comment then some (ofNode c) else firstOf cs

/-- The arguments among the parts of a call. -/
def argumentsOf : List Node → List Value
  | [] => []
  | .branch _ .arguments args :: _ => itemsOf args
  | _ :: cs => argumentsOf cs

/-- The properties among the parts of an object literal. Methods and spreads are left out. -/
def propertiesOf : List Node → List (String × Value)
  | [] => []
  | .branch _ .pair parts :: cs =>
    match parts.find? (·.role == .key), valueOf parts with
    | some key, some v => (keyText key, v) :: propertiesOf cs
    | _, _ => propertiesOf cs
  | c :: cs =>
    if c.kind == .shorthandName then (c.text, .expr c.text) :: propertiesOf cs
    else propertiesOf cs

/-- The value in the part of that name. -/
def valueOf : List Node → Option Value
  | [] => none
  | c :: cs => if c.role == .value then some (ofNode c) else valueOf cs

end

end Value

/-- The call that a node of kind `call` or `construct` is. -/
def Call.ofNode (n : Node) : Call :=
  ⟨Value.calleeText n.kind n.children, Value.typeArgumentsOf n.children,
    Value.argumentsOf n.children, n.line⟩

end DocCatalog.Script
