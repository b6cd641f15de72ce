import Mathlib.Data.List.Forall2
import DocCatalog.Outline.OfTree
import DocCatalog.Proofs.Outline.Unwinding
import DocCatalog.Proofs.Script.Grammar

/-!
# Where call chains stand

Every statement in a tree has its place, the path to it from the root. An expression statement has one
expression of its own, a declaration has those that it gives to its variables, and each of them that is a
chain of member calls is listed once.

* **`Node.at?`**: the node at a path.
* **`Site`**, **`Site.LiesAt`**, **`Site.Before`**: the expressions of statements, and their order.
* **`sitesOf`**: all of them under a node, in that order.
* **`mem_sitesOf`**, **`ascending_sitesOf`**, **`map_contents_chainsIn`**: there are no others, none comes
  twice, and the chains are read off them.
* **`ListsChains`**, **`parse_listsChains`**: the chains of a tree.
-/

namespace DocCatalog

namespace Script.Node

/-- The node at a path, which is a list of positions among children. -/
def at? : Node → List Nat → Option Node
  | n, [] => some n
  | n, i :: path => (n.children[i]?).bind fun c => c.at? path

/-- What holds of a node when it holds of its children holds of all nodes. -/
@[elab_as_elim]
theorem children_induction {motive : Node → Prop}
    (h : ∀ n, (∀ c ∈ n.children, motive c) → motive n) (n : Node) : motive n := by
  refine h n fun c hc => children_induction h c
termination_by sizeOf n
decreasing_by
  cases n with
  | leaf => cases hc
  | branch role kind parts =>
      have hsize := List.sizeOf_lt_of_mem (show c ∈ parts from hc)
      simp only [branch.sizeOf_spec]
      omega

end Script.Node

namespace Outline

open Script

/-! ## Sites

A site is the path to a statement, and the number of an expression among those that the statement
has of its own. -/

/-- An expression of a statement, with its position: the expression that the statement consists of, or
the one that the declarator at that position gives to its variable. -/
inductive IsOwn (statement : Node) : Nat → Node → Prop
  | expression {e : Node} (hkind : statement.kind = .expressionStatement)
      (he : statement.namedChildren.find? (·.kind != .comment) = some e) : IsOwn statement 0 e
  | declared {i : Nat} {declarator e : Node} (hi : statement.children[i]? = some declarator)
      (hdeclarator : declarator.kind = .variableDeclarator)
      (he : declarator.child? .value = some e) : IsOwn statement i e

/-- An expression of a statement, with the path to the statement. -/
structure Site where
  path : List Nat
  position : Nat
  expression : Node

namespace Site

/-- The same expression seen from the parent, where its path begins with the given position. -/
def under (i : Nat) (s : Site) : Site := { s with path := i :: s.path }

/-- There is a statement at the path, and the expression is its own. -/
def LiesAt (n : Node) (s : Site) : Prop :=
  ∃ statement, n.at? s.path = some statement ∧ IsOwn statement s.position s.expression

/-- A statement goes before those nested in it and before its later siblings, and the declarators of a
declaration are in order. -/
def Before (s t : Site) : Prop := s.path < t.path ∨ s.path = t.path ∧ s.position < t.position

end Site

/-- What the declarator at a position gives to its variable. -/
def declaredSite? (declarator : Node) (i : Nat) : Option Site :=
  if declarator.kind = .variableDeclarator then (declarator.child? .value).map fun e => ⟨[], i, e⟩
  else none

/-- What a declaration gives to its variables. -/
def declaredSites (n : Node) : List Site := n.children.zipIdx.filterMap fun (d, i) => declaredSite? d i

/-- The expressions of a statement with their positions. -/
def ownSites (n : Node) : List Site :=
  match n.kind with
  | .expressionStatement =>
    ((n.namedChildren.find? (·.kind != .comment)).map fun e => ⟨[], 0, e⟩).toList
  | .lexicalDeclaration | .variableDeclaration => declaredSites n
  | _ => []

mutual

/-- The expressions of a statement and of all that are nested in it. -/
def sitesOf : Node → List Site
  | .leaf role kind gap text row last => ownSites (.leaf role kind gap text row last)
  | .branch role kind children => ownSites (.branch role kind children) ++ sitesAmong 0 children

/-- The expressions of siblings, of which the first one has position `i`. -/
def sitesAmong (i : Nat) : List Node → List Site
  | [] => []
  | n :: after =>
    (if n.isNamed then (sitesOf n).map (Site.under i) else []) ++ sitesAmong (i + 1) after

end

/-- The sites of a statement itself stand before those that lie deeper. -/
theorem sitesOf_eq (n : Node) : sitesOf n = ownSites n ++ sitesAmong 0 n.children := by
  cases n with
  | leaf => rw [sitesOf, Node.children, sitesAmong, List.append_nil]
  | branch => rw [sitesOf, Node.children]

/-! ## All sites

Along the tree it is shown that a listed site is where it says, and that each one that is anywhere
is listed. -/

variable {n : Node} {s : Site} {children : List Node} {i : Nat}

/-- A declaration has the value of each variable as a site, numbered by its place among the
children. -/
theorem declaredSite?_eq_some {declarator : Node} : declaredSite? declarator i = some s ↔
    s.path = [] ∧ s.position = i ∧ declarator.kind = .variableDeclarator
      ∧ declarator.child? .value = some s.expression := by
  unfold declaredSite?
  obtain ⟨path, position, e⟩ := s
  constructor
  · intro h
    split at h
    · next hkind =>
        obtain ⟨e, he, hsite⟩ := Option.map_eq_some_iff.mp h
        cases hsite
        exact ⟨rfl, rfl, hkind, he⟩
    · cases h
  · rintro ⟨rfl, rfl, hkind, he⟩
    rw [if_pos hkind, he, Option.map_some]

theorem mem_declaredSites : s ∈ declaredSites n ↔ s.path = [] ∧ ∃ declarator : Node,
    n.children[s.position]? = some declarator ∧ declarator.kind = .variableDeclarator
      ∧ declarator.child? .value = some s.expression := by
  rw [declaredSites, List.mem_filterMap]
  constructor
  · rintro ⟨⟨d, i⟩, hmem, hsite⟩
    obtain ⟨hpath, rfl, hkind, he⟩ := declaredSite?_eq_some.mp hsite
    exact ⟨hpath, d, List.mem_zipIdx_iff_getElem?.mp hmem, hkind, he⟩
  · rintro ⟨hpath, d, hd, hkind, he⟩
    exact ⟨(d, s.position), List.mem_zipIdx_iff_getElem?.mpr hd,
      declaredSite?_eq_some.mpr ⟨hpath, rfl, hkind, he⟩⟩

/-- Only declarations have declarators with a value. -/
theorem declares_of_declarator {declarator e : Node} (h : n.IsRegular)
    (hi : n.children[i]? = some declarator) (hdeclarator : declarator.kind = .variableDeclarator)
    (he : declarator.child? .value = some e) : n.kind.declares = true := by
  cases h with
  | leaf => cases hi
  | branch named regular declared =>
      refine declared ⟨declarator, List.mem_of_getElem? hi, ?_⟩
      cases declarator with
      | leaf => cases he
      | branch => exact beq_iff_eq.mpr hdeclarator

/-- What a statement lists is its own. -/
theorem isOwn_of_mem_ownSites (hs : s ∈ ownSites n) :
    s.path = [] ∧ IsOwn n s.position s.expression := by
  have hdeclared : s ∈ declaredSites n → s.path = [] ∧ IsOwn n s.position s.expression := fun hs => by
    obtain ⟨hpath, d, hd, hdeclarator, he⟩ := mem_declaredSites.mp hs
    exact ⟨hpath, .declared hd hdeclarator he⟩
  unfold ownSites at hs
  split at hs
  · next hkind =>
      obtain ⟨e, he, rfl⟩ := Option.map_eq_some_iff.mp (Option.mem_toList.mp hs)
      exact ⟨rfl, .expression hkind he⟩
  · exact hdeclared hs
  · exact hdeclared hs
  · cases hs

/-- A declaration lists the values of its variables. -/
theorem ownSites_of_declares (h : n.kind.declares = true) : ownSites n = declaredSites n := by
  unfold ownSites
  unfold Kind.declares at h
  split at h
  · next hkind => rw [hkind]
  · next hkind => rw [hkind]
  · cases h

/-- **A statement lists** what is its own and no more. -/
theorem mem_ownSites (h : n.IsRegular) :
    s ∈ ownSites n ↔ s.path = [] ∧ IsOwn n s.position s.expression := by
  refine ⟨isOwn_of_mem_ownSites, ?_⟩
  obtain ⟨path, position, e⟩ := s
  rintro ⟨rfl, hown⟩
  cases hown with
  | expression hkind he =>
      rw [ownSites, hkind]
      simp only [he, Option.map_some, Option.toList_some, List.mem_singleton]
  | declared hi hdeclarator he =>
      rw [ownSites_of_declares (declares_of_declarator h hi hdeclarator he)]
      exact mem_declaredSites.mpr ⟨rfl, _, hi, hdeclarator, he⟩

/-- The sites among siblings are those under one of them. -/
theorem mem_sitesAmong : s ∈ sitesAmong i children ↔ ∃ j c t, children[j]? = some c
    ∧ Node.isNamed c = true ∧ t ∈ sitesOf c ∧ s = t.under (i + j) := by
  induction children generalizing i with
  | nil => simp [sitesAmong]
  | cons n after ih =>
      rw [sitesAmong, List.mem_append, ih]
      constructor
      · -- the site is under the first child, with number zero, or under a later one, whose number
        -- is one less among the rest
        rintro (hfirst | ⟨j, c, t, hj, hnamed, ht, rfl⟩)
        · split at hfirst
          · next hnamed =>
              obtain ⟨t, ht, rfl⟩ := List.mem_map.mp hfirst
              exact ⟨0, n, t, rfl, hnamed, ht, rfl⟩
          · cases hfirst
        · exact ⟨j + 1, c, t, hj, hnamed, ht, by rw [Nat.add_right_comm, Nat.add_assoc]⟩
      · rintro ⟨j, c, t, hj, hnamed, ht, rfl⟩
        cases j with
        | zero =>
            obtain rfl : n = c := Option.some.inj hj
            rw [if_pos hnamed]
            exact Or.inl (List.mem_map_of_mem ht)
        | succ j => exact Or.inr ⟨j, c, t, hj, hnamed, ht, by rw [Nat.add_right_comm, Nat.add_assoc]⟩

/-- A site is one of the node itself, or one of a child. -/
theorem liesAt_iff : Site.LiesAt n s ↔ (s.path = [] ∧ IsOwn n s.position s.expression)
    ∨ ∃ j c t, n.children[j]? = some c ∧ Site.LiesAt c t ∧ s = t.under j := by
  obtain ⟨path, position, e⟩ := s
  constructor
  · rintro ⟨statement, hat, hown⟩
    cases path with
    | nil =>
        obtain rfl : n = statement := Option.some.inj hat
        exact Or.inl ⟨rfl, hown⟩
    | cons j path =>
        obtain ⟨c, hc, hat⟩ := Option.bind_eq_some_iff.mp hat
        exact Or.inr ⟨j, c, ⟨path, position, e⟩, hc, ⟨statement, hat, hown⟩, rfl⟩
  · rintro (⟨rfl, hown⟩ | ⟨j, c, ⟨path, position, e⟩, hc, ⟨statement, hat, hown⟩, hsite⟩)
    · exact ⟨n, rfl, hown⟩
    · cases hsite
      exact ⟨statement, Option.bind_eq_some_iff.mpr ⟨c, hc, hat⟩, hown⟩

/-- Nothing stands in punctuation. -/
theorem isNamed_of_liesAt (h : n.IsRegular) (hs : s.LiesAt n) : Node.isNamed n = true := by
  cases h with
  | leaf =>
      obtain ⟨path, position, e⟩ := s
      rcases liesAt_iff.mp hs with ⟨-, hown⟩ | ⟨j, c, t, hc, -⟩
      · cases hown with
        | expression hkind => rw [Node.isNamed, hkind]; rfl
        | declared hi => cases hi
      · cases hc
  | @branch role kind children named =>
      show kind.isNamed = true
      cases kind <;> first | rfl | exact absurd rfl named

/-- **The sites under a node** are the expressions of all statements that stand there. -/
theorem mem_sitesOf (n : Node) (h : n.IsRegular) (s : Site) : s ∈ sitesOf n ↔ s.LiesAt n := by
  induction n using Node.children_induction generalizing s with
  | h n ih =>
      have hchild : ∀ {j : Nat} {c : Node}, n.children[j]? = some c → c ∈ n.children ∧ c.IsRegular := by
        intro j c hc
        refine ⟨List.mem_of_getElem? hc, ?_⟩
        cases h with
        | leaf => cases hc
        | branch named regular => exact regular c (List.mem_of_getElem? hc)
      rw [sitesOf_eq, List.mem_append, mem_ownSites h, mem_sitesAmong, liesAt_iff]
      simp only [Nat.zero_add]
      -- what lies under a child is listed there, by induction, and a child with a site under it is
      -- named
      refine or_congr_right ⟨?_, ?_⟩
      · rintro ⟨j, c, t, hc, -, ht, hsite⟩
        obtain ⟨hmem, hregular⟩ := hchild hc
        exact ⟨j, c, t, hc, (ih c hmem hregular t).mp ht, hsite⟩
      · rintro ⟨j, c, t, hc, ht, hsite⟩
        obtain ⟨hmem, hregular⟩ := hchild hc
        exact ⟨j, c, t, hc, isNamed_of_liesAt hregular ht, (ih c hmem hregular t).mpr ht, hsite⟩

/-! ## Their order

Sites are listed in strictly ascending order, so that none of them comes twice. -/

/-- The order is the same one level deeper. -/
theorem before_under {t : Site} : (s.under i).Before (t.under i) ↔ s.Before t := by
  simp only [Site.Before, Site.under, List.cons_lt_cons_iff, Nat.lt_irrefl, false_or, true_and,
    List.cons.injEq]

/-- The values of a declaration come in the order of its variables. -/
theorem ascending_declaredSites (n : Node) : (declaredSites n).Pairwise Site.Before := by
  rw [declaredSites, List.pairwise_filterMap]
  have hascending : n.children.zipIdx.Pairwise fun a b => a.2 < b.2 := by
    rw [← List.pairwise_map (f := Prod.snd), List.zipIdx_map_snd]
    exact List.pairwise_lt_range'
  refine hascending.imp fun {a b} hlt s hs t ht => Or.inr ?_
  obtain ⟨hspath, hsposition, -⟩ := declaredSite?_eq_some.mp hs
  obtain ⟨htpath, htposition, -⟩ := declaredSite?_eq_some.mp ht
  exact ⟨hspath.trans htpath.symm, by omega⟩

theorem ascending_ownSites (n : Node) : (ownSites n).Pairwise Site.Before := by
  unfold ownSites
  split
  · cases n.namedChildren.find? (·.kind != .comment) <;> simp
  · exact ascending_declaredSites n
  · exact ascending_declaredSites n
  · exact List.Pairwise.nil

/-- Sites below one child come before those below the next. -/
theorem ascending_sitesAmong_of (h : ∀ c ∈ children, (sitesOf c).Pairwise Site.Before) :
    (sitesAmong i children).Pairwise Site.Before := by
  induction children generalizing i with
  | nil => exact List.Pairwise.nil
  | cons n after ih =>
      rw [sitesAmong]
      refine List.pairwise_append.mpr ⟨?_, ih fun c hc => h c (List.mem_cons_of_mem n hc), ?_⟩
      · split
        · exact List.pairwise_map.mpr ((h n List.mem_cons_self).imp before_under.mpr)
        · exact List.Pairwise.nil
      · intro s hs t ht
        split at hs
        · obtain ⟨s, -, rfl⟩ := List.mem_map.mp hs
          obtain ⟨j, c, t, -, -, -, rfl⟩ := mem_sitesAmong.mp ht
          refine Or.inl (List.cons_lt_cons_iff.mpr (Or.inl ?_))
          omega
        · cases hs

/-- **All sites come in order**, by induction over the tree. -/
theorem ascending_sitesOf (n : Node) : (sitesOf n).Pairwise Site.Before := by
  induction n using Node.children_induction with
  | h n ih =>
      rw [sitesOf_eq]
      refine List.pairwise_append.mpr ⟨ascending_ownSites n, ascending_sitesAmong_of ih, ?_⟩
      intro s hs t ht
      obtain ⟨j, c, t, -, -, -, rfl⟩ := mem_sitesAmong.mp ht
      refine Or.inl ?_
      rw [(isOwn_of_mem_ownSites hs).1]
      exact List.nil_lt_cons _ _

/-! ## Chains

The chains are what the program reads off the expressions at these sites. Those that are no chains
are passed over. -/

/-- The receiver and the calls of a chain, if the expression is one. -/
def contents? (e : Node) : Option (String × List Call) :=
  if e.kind = .call ∧ (unwind e).1 ≠ "" ∧ (unwind e).2 ≠ [] then some (unwind e) else none

/-- An expression is read as a chain exactly if it is one. -/
theorem isSome_contents? {e : Node} :
    (contents? e).isSome = true ↔ ∃ receiver steps, IsChain e receiver steps := by
  unfold contents?
  constructor
  · intro h
    split at h
    · -- every expression is unwound in one way; the two conditions are those of a chain
      next hchain =>
        obtain ⟨-, htext, hcalls⟩ := hchain
        obtain ⟨receiver, steps, hsteps, hwhole⟩ := exists_chained e
        rw [hsteps.unwind_of_whole hwhole] at htext hcalls
        exact ⟨receiver, steps, hsteps, hwhole, fun hnil => hcalls (hnil ▸ rfl), htext⟩
    · cases h
  · rintro ⟨receiver, steps, hchain⟩
    have hunwind := hchain.chained.unwind_of_whole hchain.whole
    rw [if_pos]
    · rfl
    · rw [hunwind]
      exact ⟨hchain.kind, hchain.nonempty, fun hnil => hchain.calls (List.map_eq_nil_iff.mp hnil)⟩

/-- What is listed of a chain, but for its place. -/
def contents (c : CallChain) : String × List Call := (c.receiver, c.calls)

/-- What is read off one expression, apart from the comment. -/
theorem map_contents_chainOf (anchor : Anchor) (e : Node) :
    (chainOf anchor e).map contents = (contents? e).toList := by
  unfold chainOf contents?
  by_cases hkind : e.kind = .call
  · by_cases htext : (unwind e).1 = ""
    · simp [hkind, htext]
    · by_cases hcalls : (unwind e).2 = []
      · simp [hkind, hcalls]
      · simp [hkind, htext, hcalls, contents]
  · simp [hkind]

/-- The values of a declaration are those at its sites. -/
theorem map_expression_declaredSites (n : Node) :
    (declaredSites n).map (·.expression) = declaredValues n := by
  have hvalue : ∀ d : Node × Nat, (declaredSite? d.1 d.2).map Site.expression
      = if d.1.kind == .variableDeclarator then d.1.child? .value else none := by
    intro d
    unfold declaredSite?
    by_cases hkind : d.1.kind = .variableDeclarator
    · simp only [hkind, if_true, beq_self_eq_true, Option.map_map]
      exact Option.map_id'
    · simp only [hkind, if_false, Option.map_none, beq_iff_eq]
  rw [declaredSites, declaredValues, List.map_filterMap, List.filterMap_filter]
  conv_rhs => rw [← List.zipIdx_map_fst 0 n.children, List.filterMap_map]
  exact List.filterMap_congr fun d _ => hvalue d

/-- The chains of one statement are read off its own sites. -/
theorem map_contents_ownChains (anchor : Anchor) (exporting : Option Anchor) (n : Node) :
    (ownChains anchor exporting n).map contents
      = (ownSites n).filterMap fun s => contents? s.expression := by
  have hdeclared : ∀ anchor, ((declaredValues n).flatMap (chainOf anchor)).map contents
      = (declaredSites n).filterMap fun s => contents? s.expression := by
    intro anchor
    rw [List.map_flatMap, ← map_expression_declaredSites, List.flatMap_map,
      List.filterMap_eq_flatMap_toList]
    exact List.flatMap_congr fun s _ => map_contents_chainOf anchor s.expression
  unfold ownChains
  -- an expression statement, the two kinds of declarations, and any other node
  split
  · next hkind =>
      simp only [ownSites, hkind]
      cases n.namedChildren.find? (·.kind != .comment) with
      | none => rfl
      | some e =>
          refine (map_contents_chainOf anchor e).trans ?_
          simp only [Option.map_some, Option.toList_some, List.filterMap_cons, List.filterMap_nil]
          cases contents? e <;> rfl
  · next hkind =>
      simp only [ownSites, hkind]
      exact hdeclared _
  · next hkind =>
      simp only [ownSites, hkind]
      exact hdeclared _
  · next hexpression hlexical hvariable =>
      have hnone : ownSites n = [] := by
        unfold ownSites
        split
        · exact absurd ‹_› hexpression
        · exact absurd ‹_› hlexical
        · exact absurd ‹_› hvariable
        · rfl
      rw [hnone]
      rfl

/-- The program goes through the children of a node, whatever the node is. -/
theorem chainsIn_eq (anchor : Anchor) (n : Node) :
    chainsIn anchor n
      = chainsAmong (if n.kind == .exportStatement then some anchor else none) [] n.children := by
  cases n with
  | leaf => rw [chainsIn, Node.children, chainsAmong]
  | branch => rw [chainsIn, Node.children, Node.kind]

/-- **The chains under a node** are what its statements have, one after the other. -/
theorem map_contents_chainsAmong (h : ∀ c ∈ children, ∀ anchor, (chainsIn anchor c).map contents
      = (sitesAmong 0 (Node.children c)).filterMap fun s => contents? s.expression)
    (exporting : Option Anchor) (before : List Node) :
    (chainsAmong exporting before children).map contents
      = (sitesAmong i children).filterMap fun s => contents? s.expression := by
  induction children generalizing i before with
  | nil => rw [chainsAmong, sitesAmong]; rfl
  | cons n after ih =>
      rw [chainsAmong, sitesAmong, List.map_append, List.filterMap_append,
        ih (fun c hc => h c (List.mem_cons_of_mem n hc))]
      refine congrArg (· ++ _) ?_
      split
      · rw [List.map_append, map_contents_ownChains, h n List.mem_cons_self, sitesOf_eq,
          List.map_append, List.filterMap_append, List.filterMap_map, List.filterMap_map]
        rfl
      · rfl

/-- **The chains below a node** are read off the sites below it. -/
theorem map_contents_chainsIn (n : Node) (anchor : Anchor) : (chainsIn anchor n).map contents
    = (sitesAmong 0 n.children).filterMap fun s => contents? s.expression := by
  induction n using Node.children_induction generalizing anchor with
  | h n ih =>
      rw [chainsIn_eq]
      exact map_contents_chainsAmong ih _ _

/-! ## The chains of a tree

A program is no statement itself, so its sites are those below it. -/

/-- The chains of a tree: one for each expression of a statement that is a chain, at any depth. -/
structure ListsChains (root : Node) (chains : List CallChain) (sites : List Site) : Prop where
  inOrder : sites.Pairwise Site.Before
  complete : ∀ s : Site, s ∈ sites ↔
    s.LiesAt root ∧ ∃ receiver steps, IsChain s.expression receiver steps
  /-- A chain has the text of its receiver and all of its calls. -/
  whole : List.Forall₂ (fun (s : Site) c => ∀ receiver steps, IsChain s.expression receiver steps →
    c.receiver = receiver.text ∧ c.calls = steps.map Step.toCall) sites chains

/-- A program is no statement itself. -/
theorem sitesOf_program {root : Node} (hkind : root.kind = .program) :
    sitesOf root = sitesAmong 0 root.children := by
  rw [sitesOf_eq, ownSites, hkind, List.nil_append]

/-- A chain is listed for each site that has one. -/
theorem forall₂_contents? (sites : List Site) :
    List.Forall₂ (fun s found => contents? s.expression = some found)
      (sites.filter fun s => (contents? s.expression).isSome)
      (sites.filterMap fun s => contents? s.expression) := by
  induction sites with
  | nil => exact .nil
  | cons s sites ih =>
      cases hs : contents? s.expression with
      | none => simpa [hs] using ih
      | some found => simpa [hs] using ih

/-- **The chains of a regular tree** are those at its sites. -/
theorem listsChains_of_isRegular {root : Node} (h : root.IsRegular) (hkind : root.kind = .program) :
    ∃ sites, ListsChains root (ofTree root).chains sites := by
  refine ⟨(sitesOf root).filter fun s => (contents? s.expression).isSome, ?_, ?_, ?_⟩
  · exact (ascending_sitesOf root).filter _
  · intro s
    rw [List.mem_filter, mem_sitesOf root h, isSome_contents?]
  · have hall := forall₂_contents? (sitesOf root)
    have hchains : (ofTree root).chains.map contents
        = (sitesOf root).filterMap fun s => contents? s.expression := by
      rw [sitesOf_program hkind]
      exact map_contents_chainsIn root ⟨root.line, none⟩
    rw [← hchains, List.forall₂_map_right_iff] at hall
    refine hall.imp fun s c hs receiver steps hchain => ?_
    have hunwind := hchain.chained.unwind_of_whole hchain.whole
    -- the same expression was unwound for the outline and for the site
    have hfound : unwind s.expression = contents c := by
      unfold contents? at hs
      split at hs
      · exact Option.some.inj hs
      · cases hs
    exact Prod.mk.inj (hfound.symm.trans hunwind)

/-- **The chains of a tree**: every expression of a statement that is a chain is listed once and whole,
those of a statement before those nested in it. -/
theorem parse_listsChains {dialect : Dialect} {text : String} {root : Node}
    (h : parse dialect text = .ok root) : ∃ sites, ListsChains root (ofTree root).chains sites := by
  obtain ⟨hregular, hkind⟩ := isRegular_of_parse h
  exact listsChains_of_isRegular hregular hkind

/-- A chain that a variable is bound to, with a chain in its callback, and a chain behind both. -/
def nestedText : String := "const s = a.b(() => { c.d(1); }), t = 2;\n(e).f().g(s);\n"

/-- A chain in a function that is an argument of another chain, and one whose receiver is in
parentheses. -/
theorem parse_listsChains_nested : ∃ root, parse .plain nestedText = .ok root
    ∧ (∃ sites, ListsChains root (ofTree root).chains sites)
    ∧ (ofTree root).chains.map (fun c => (c.receiver, c.calls.map (·.callee)))
      = [("a", ["b"]), ("c", ["d"]), ("(e)", ["f", "g"])] := by
  have hchains : (parse .plain nestedText).map (fun root =>
      (ofTree root).chains.map fun c => (c.receiver, c.calls.map (·.callee)))
      = .ok [("a", ["b"]), ("c", ["d"]), ("(e)", ["f", "g"])] := by
    decide +kernel
  cases hparse : parse .plain nestedText with
  | error line =>
      rw [hparse] at hchains
      cases hchains
  | ok root =>
      rw [hparse] at hchains
      exact ⟨root, rfl, parse_listsChains hparse, Except.ok.inj hchains⟩

end Outline

end DocCatalog
