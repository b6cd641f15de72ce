import DocCatalog.Text.Blank
import DocCatalog.Text.Split
/-!
# Inline links

A link in running text, such as `{@link AxCard the card}`, reads as its label, or as its target
where the label is blank.

* `parseLink?`: the link at the head of a text.
* `flattenLinks`: a text with every link replaced by what it reads as.
-/

namespace DocCatalog.Doc

/-- The words that may name a link. -/
def linkWords : List (List Char) := ["link".toList, "linkcode".toList, "linkplain".toList]

/-- The characters of a link's target. -/
def isTargetChar (c : Char) : Bool := !Text.isBlank c && c != '|' && c != '}'

/-- The target and the label of a link, from the blank behind its word on, and the text behind it.
A bar separates the label from the target, or blanks do. -/
def parseLinkBody? (s : List Char) : Option (List Char × List Char × List Char) :=
  let inner := Text.trimStart s
  let target := inner.takeWhile isTargetChar
  let rest := Text.trimStart (inner.drop target.length)
  let rest := match rest with
    | '|' :: r => r
    | r => r
  let label := rest.takeWhile (· != '}')
  match rest.drop label.length with
  | [] => none
  | _ :: after =>
    if inner.length < s.length && !target.isEmpty then some (target, Text.trim label, after)
    else none

/-- The target and the label of the link at the head of the text, and the text behind it. -/
def parseLink? (s : List Char) : Option (List Char × List Char × List Char) :=
  match s with
  | '{' :: '@' :: r =>
    linkWords.findSome? fun word => (Text.afterStart? word r).bind parseLinkBody?
  | _ => none

/-- The text with every link replaced by its label, or by its target if the label is blank. -/
def flattenLinks (s : List Char) : List Char := go s.length s
where
  /-- `fuel` bounds the number of characters. -/
  go : (fuel : Nat) → List Char → List Char
    | 0, s => s
    | _, [] => []
    | fuel + 1, c :: r =>
      match parseLink? (c :: r) with
      | some (target, label, after) => (if label.isEmpty then target else label) ++ go fuel after
      | none => c :: go fuel r

end DocCatalog.Doc
