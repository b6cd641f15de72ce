import DocCatalog.Text.Blank
import DocCatalog.Text.Split
/-!
# Notes and examples of a quick reference

* `codeLines`: the lines inside of fences that are neither blank nor comments.
* `notesOf`: callouts such as `**Note**: …`, and the bullets under `**DO:**` and `**DON'T:**`.
-/

namespace DocCatalog.Reference

/-! ## Code -/

/-- The lines inside of fences. `fenced` holds inside of one. -/
def codeLinesFrom (fenced : Bool) : List (List Char) → List (List Char)
  | [] => []
  | line :: rest =>
    let trimmed := Text.trim line
    if ['\x60', '\x60', '\x60'].isPrefixOf trimmed then codeLinesFrom (!fenced) rest
    else if fenced && !trimmed.isEmpty && trimmed.head? != some '#' then
      trimmed :: codeLinesFrom fenced rest
    else codeLinesFrom fenced rest

/-! ## Callouts

A line outside of a paragraph plays one part only: the first mark that is found in it decides which.
-/

/-- The word of a callout. -/
inductive Callout where
  | important
  | note
  | critical
  deriving DecidableEq, Repr

def Callout.mark : Callout → List Char
  | .important => "**Important**:".toList
  | .note => "**Note**:".toList
  | .critical => "**CRITICAL**:".toList

/-- The first callout in a line, and the text behind it. -/
def calloutIn? : List Char → Option (Callout × List Char)
  | [] => none
  | c :: r =>
    let here := [Callout.important, .note, .critical].findSome? fun k =>
      (Text.afterStart? k.mark (c :: r)).map (k, ·)
    here <|> calloutIn? r

/-- Which bullets are notes: those under a heading of their own. -/
inductive Bullets where
  | recommended
  | discouraged
  deriving DecidableEq, Repr

def Bullets.mark : Bullets → List Char
  | .recommended => "**DO:**".toList
  | .discouraged => "**DON'T:**".toList

/-- The words in front of a note made from a bullet. -/
def Bullets.lead : Bullets → List Char
  | .recommended => "DO: ".toList
  | .discouraged => "DON'T: ".toList

/-- The note that a bullet makes. -/
def bulletNote? (bullets : Option Bullets) (line : List Char) : Option (List Char) :=
  match bullets, line with
  | some b, '-' :: item =>
    let item := Text.trim item
    if item.isEmpty then none else some (b.lead ++ item)
  | _, _ => none

/-- The notes in the lines. `bullets` tells which bullets are being listed; a heading ends the list.
`paragraph` holds the lines of a paragraph that is being read, if one is. A callout of importance
without text of its own begins a paragraph, which ends before the next blank line. -/
def notesFrom (bullets : Option Bullets) (paragraph : Option (List (List Char))) :
    List (List Char) → List (List Char)
  | [] => flush paragraph
  | line :: rest =>
    let trimmed := Text.trim line
    match paragraph with
    | some block =>
      if trimmed.isEmpty then flush (some block) ++ notesFrom bullets none rest
      else notesFrom bullets (some (block ++ [trimmed])) rest
    | none =>
      if ['#', '#'].isPrefixOf trimmed then notesFrom none none rest
      else if Text.contains Bullets.recommended.mark trimmed then
        notesFrom (some .recommended) none rest
      else if Text.contains Bullets.discouraged.mark trimmed then
        notesFrom (some .discouraged) none rest
      else
        match calloutIn? trimmed with
        | some (callout, text) =>
          let text := Text.trim text
          match callout, text.isEmpty with
          | .important, true => notesFrom bullets (some []) rest
          | _, true => notesFrom bullets none rest
          | .critical, false => ("CRITICAL: ".toList ++ text) :: notesFrom bullets none rest
          | _, false => text :: notesFrom bullets none rest
        | none => (bulletNote? bullets trimmed).toList ++ notesFrom bullets none rest
where
  /-- The note that a paragraph makes, unless it is empty. -/
  flush : Option (List (List Char)) → List (List Char)
    | none => []
    | some [] => []
    | some block => [Text.join ['\n'] block]

end DocCatalog.Reference
