import DocCatalog.Script.Reader

/-!
# The shape of trees

A reader of a tree relies on where things can stand: punctuation has no parts, and what binds a variable
stands in a declaration. A rule that gives nodes of such a shape still does so behind, before or inside
of another one, so the shape of all trees follows from what the smallest rules give.

* **`Node.IsRegular`**, **`Node.IsPlain`**: the shape of a tree, and a node that may stand anywhere.
* **`Reader.IsSound`**: the comments that a reader still holds may stand anywhere, too.
* **`Rule.Gives`**, **`Rule.Keeps`**: all nodes that a rule gives are of some sort, and the reader stays
  sound. These are classes, so that a rule is found by what it is put together from.
* **`gives_behind`**, **`gives_behind_test`**: the two ways in which a rule goes on.
-/

namespace DocCatalog.Script

/-! ## Trees

A declarator stands in a declaration, and tokens have no parts. All else may stand anywhere. -/

/-- Whether nodes of the kind declare variables. -/
@[reducible]
def Kind.declares : Kind → Bool
  | .lexicalDeclaration | .variableDeclaration => true
  | _ => false

namespace Node

/-- Whether the node binds a variable. -/
def isDeclarator : Node → Bool
  | .leaf .. => false
  | .branch _ kind _ => kind == .variableDeclarator

/-- Punctuation has no parts, and only declarations hold what binds a variable. -/
inductive IsRegular : Node → Prop
  | leaf {role : Role} {kind : Kind} {gap text : String} {row lastRow : Nat} :
      IsRegular (.leaf role kind gap text row lastRow)
  | branch {role : Role} {kind : Kind} {children : List Node} (named : kind ≠ .token)
      (regular : ∀ c ∈ children, c.IsRegular)
      (declared : (∃ c ∈ children, c.isDeclarator = true) → kind.declares = true) :
      IsRegular (.branch role kind children)

/-- The node may stand anywhere. -/
structure IsPlain (n : Node) : Prop where
  regular : n.IsRegular
  binds : n.isDeclarator = false

variable {n : Node}

/-- A node without parts may stand anywhere. -/
theorem IsPlain.leaf {role : Role} {kind : Kind} {gap text : String} {row lastRow : Nat} :
    IsPlain (.leaf role kind gap text row lastRow) :=
  ⟨.leaf, rfl⟩

/-- Parts that may stand anywhere make a regular tree. -/
theorem IsRegular.of_plain {role : Role} {kind : Kind} {children : List Node} (named : kind ≠ .token)
    (h : ∀ c ∈ children, c.IsPlain) : IsRegular (.branch role kind children) := by
  refine .branch named (fun c hc => (h c hc).regular) ?_
  rintro ⟨c, hc, hbinds⟩
  rw [(h c hc).binds] at hbinds
  cases hbinds

/-- What a node is for makes no difference to its shape. -/
theorem IsPlain.withRole (h : n.IsPlain) (role : Role) : (n.withRole role).IsPlain := by
  obtain ⟨hregular, hbinds⟩ := h
  cases hregular with
  | leaf => exact .leaf
  | branch named regular declared => exact ⟨.branch named regular declared, hbinds⟩

end Node

open Node (IsRegular IsPlain)

/-! ## Pieces

A rule gives pieces, which are nodes with the comments in front of them. What is said of nodes
carries over to pieces, and the ways to put pieces together keep it. -/

/-- A test that holds. What a class asks of a kind is computed. -/
class Holds (test : Bool) : Prop where
  eq_true : test = true

instance : Holds true := ⟨rfl⟩

/-- Whether nodes of the kind may have any parts and stand anywhere. -/
@[reducible]
def Kind.isOrdinary : Kind → Bool
  | .token | .variableDeclarator => false
  | _ => true

instance {c : Prop} [Decidable c] {k k' : Kind} [Holds k.isOrdinary] [Holds k'.isOrdinary] :
    Holds (if c then k else k').isOrdinary := by
  split <;> infer_instance

/-- A node of an ordinary kind may stand anywhere if its parts may. -/
theorem Node.IsPlain.branch {role : Role} {kind : Kind} [h : Holds kind.isOrdinary]
    {children : List Node} (hchildren : ∀ c ∈ children, c.IsPlain) :
    IsPlain (.branch role kind children) := by
  have hkind := h.eq_true
  constructor
  · refine .of_plain ?_ hchildren
    rintro rfl
    cases hkind
  · cases kind <;> first | rfl | cases hkind

/-- All nodes of the pieces are of some sort, and the comments between them may stand anywhere. -/
class Piece.Are (P : Node → Prop) (ps : List Piece) : Prop where
  comments : ∀ p ∈ ps, ∀ c ∈ p.comments, c.IsPlain
  nodes : ∀ p ∈ ps, P p.node

namespace Piece

variable {P : Node → Prop} {ps qs : List Piece}

instance : Are P [] := ⟨by simp, by simp⟩

instance [hps : Are P ps] [hqs : Are P qs] : Are P (ps ++ qs) where
  comments p hp := (List.mem_append.mp hp).elim (hps.comments p) (hqs.comments p)
  nodes p hp := (List.mem_append.mp hp).elim (hps.nodes p) (hqs.nodes p)

/-- Pieces with the proof of what they are, which is found with them. -/
instance (ps : {ps : List Piece // Are P ps}) : Are P ps.val := ps.property

instance {c : Prop} [Decidable c] [Are P ps] [Are P qs] : Are P (if c then ps else qs) := by
  split <;> infer_instance

theorem are_single {p : Piece} (hcomments : ∀ c ∈ p.comments, c.IsPlain) (hnode : P p.node) :
    Are P [p] where
  comments _ hq := List.mem_singleton.mp hq ▸ hcomments
  nodes _ hq := List.mem_singleton.mp hq ▸ hnode

instance [h : Are IsPlain ps] : Are IsRegular ps where
  comments := h.comments
  nodes p hp := (h.nodes p hp).regular

instance {role : Role} [h : Are IsPlain ps] : Are IsPlain (inRole role ps) where
  comments p hp := by
    obtain ⟨q, hq, rfl⟩ := List.mem_map.mp hp
    exact h.comments q hq
  nodes p hp := by
    obtain ⟨q, hq, rfl⟩ := List.mem_map.mp hp
    exact (h.nodes q hq).withRole role

/-- The nodes of pieces are theirs and the comments in front of them. -/
theorem forall_mem_spread (hplain : ∀ n : Node, n.IsPlain → P n) (h : Are P ps) :
    ∀ n ∈ spread ps, P n := by
  intro n hn
  obtain ⟨p, hp, hn⟩ := List.mem_flatMap.mp hn
  rcases List.mem_append.mp hn with hcomment | hnode
  · exact hplain n (h.comments p hp n hcomment)
  · rw [List.mem_singleton.mp hnode]
    exact h.nodes p hp

/-- With the comments between them, the nodes of some pieces are what the pieces are. -/
theorem forall_mem_parts {p : Piece} (hplain : ∀ n : Node, n.IsPlain → P n) (h : Are P (p :: ps)) :
    ∀ n ∈ p.node :: spread ps, P n := by
  intro n hn
  rcases List.mem_cons.mp hn with rfl | hn
  · exact h.nodes p List.mem_cons_self
  · refine forall_mem_spread hplain ⟨fun q hq => ?_, fun q hq => ?_⟩ n hn
    · exact h.comments q (List.mem_cons_of_mem p hq)
    · exact h.nodes q (List.mem_cons_of_mem p hq)

instance {kind : Kind} [Holds kind.isOrdinary] [h : Are IsPlain ps] : Are IsPlain (gather kind ps) := by
  cases ps with
  | nil => exact inferInstanceAs (Are IsPlain [])
  | cons p ps =>
      exact are_single (h.comments p List.mem_cons_self)
        (.branch (forall_mem_parts (fun _ hn => hn) h))

/-- A node that binds a variable may have any parts. -/
instance [h : Are IsPlain ps] : Are IsRegular (gather .variableDeclarator ps) := by
  cases ps with
  | nil => exact inferInstanceAs (Are IsRegular [])
  | cons p ps =>
      exact are_single (h.comments p List.mem_cons_self)
        (.of_plain (by decide) (forall_mem_parts (fun _ hn => hn) h))

/-- A declaration may hold what binds a variable. -/
instance {kind : Kind} [hkind : Holds kind.declares] [h : Are IsRegular ps] :
    Are IsPlain (gather kind ps) := by
  have hdeclares := hkind.eq_true
  cases ps with
  | nil => exact inferInstanceAs (Are IsPlain [])
  | cons p ps =>
      have hparts := forall_mem_parts (fun _ hn => hn.regular) h
      refine are_single (h.comments p List.mem_cons_self) ⟨.branch ?_ hparts fun _ => hdeclares, ?_⟩
      · rintro rfl
        cases hdeclares
      · cases kind <;> first | rfl | cases hdeclares

end Piece

/-! ## Readers

A reader holds the comments that it has passed, and these go in front of the next node. -/

/-- The comments that wait for the next piece may stand anywhere. -/
def Reader.IsSound (r : Reader) : Prop := ∀ c ∈ r.current.comments, c.IsPlain

/-- Comments have no parts, so that those which are read may stand anywhere. -/
theorem Lexeme.isPlain_of_mem_next {fuel : Nat} {comments : List Node} {cs : List Char} {row : Nat}
    (h : ∀ c ∈ comments, c.IsPlain) : ∀ c ∈ (next fuel comments cs row).1.comments, c.IsPlain := by
  have hreverse : ∀ c ∈ comments.reverse, c.IsPlain := fun c hc => h c (List.mem_reverse.mp hc)
  induction fuel generalizing comments cs row with
  | zero => exact hreverse
  | succ fuel ih =>
      unfold next
      dsimp only
      split
      · have hnote : ∀ note, note.IsPlain → ∀ c ∈ note :: comments, c.IsPlain := fun note hnote c hc =>
          (List.mem_cons.mp hc).elim (fun heq => heq ▸ hnote) (h c)
        exact ih (hnote _ .leaf) fun c hc => hnote _ .leaf c (List.mem_reverse.mp hc)
      · exact hreverse

/-- A reader stays sound wherever it goes on. -/
theorem Reader.isSound_jump (r : Reader) (cs : List Char) (row : Nat) : (r.jump cs row).IsSound :=
  Lexeme.isPlain_of_mem_next (by simp)

/-! ## Rules

A rule takes a reader to some pieces and another reader. That the pieces are right and the reader
stays sound is shown once for each way to put rules together. So instances find it for whole rules.
-/

namespace Rule

variable {α β : Type} {P : Node → Prop} {r r' : Reader} {ps : List Piece}

/-- What the rule gives is of some sort. -/
class Gives (P : Node → Prop) (a : Rule) : Prop where
  gives : ∀ {r ps r'}, a r = .ok (ps, r') → r.IsSound → r'.IsSound ∧ Piece.Are P ps

/-- The reader is still sound afterwards. -/
class Keeps (a : Parse α) : Prop where
  keeps : ∀ {r x r'}, a r = .ok (x, r') → r.IsSound → r'.IsSound

/-- What one rule and then another one read was read by the first and by the second. -/
theorem exists_of_bind {a : Parse α} {f : α → Parse β} {y : β} (h : (a >>= f) r = .ok (y, r')) :
    ∃ x s, a r = .ok (x, s) ∧ f x s = .ok (y, r') := by
  change (a r).bind (fun p => f p.1 p.2) = .ok (y, r') at h
  cases hfirst : a r with
  | error stop =>
      rw [hfirst] at h
      cases h
  | ok p =>
      rw [hfirst] at h
      exact ⟨p.1, p.2, rfl, h⟩

/-! ### Tests

A test looks at the reader and gives no nodes, so it only has to leave what was read as it is. -/

section Tests

instance {x : α} : Keeps (pure x : Parse α) where
  keeps h hr := by
    cases h
    exact hr

theorem keeps_behind_test {c : Parse α} {f : α → Parse β} [hc : Keeps c] (hf : ∀ x, Keeps (f x)) :
    Keeps (c >>= f) where
  keeps h hr := by
    obtain ⟨x, s, hfirst, hthen⟩ := exists_of_bind h
    exact (hf x).keeps hthen (hc.keeps hfirst hr)

instance {c : Parse α} {f : α → Parse β} [Keeps c] [∀ x, Keeps (f x)] : Keeps (c >>= f) :=
  keeps_behind_test inferInstance

instance {c : Prop} [Decidable c] {a b : Parse α} [Keeps a] [Keeps b] : Keeps (if c then a else b) := by
  split <;> infer_instance

instance : Keeps (get : Parse Reader) where
  keeps h hr := by
    cases h
    exact hr

instance : Keeps current := by unfold current; infer_instance
instance : Keeps following := by unfold following; infer_instance
instance {s : String} : Keeps (at? s) := by unfold at?; infer_instance
instance {ss : List String} : Keeps (atAny ss) := by unfold atAny; infer_instance
instance : Keeps atWord := by unfold atWord; infer_instance
instance {ss : List String} : Keeps (thenAny ss) := by unfold thenAny; infer_instance
instance : Keeps thenWord := by unfold thenWord; infer_instance

end Tests

/-! ### Composing

Rules in a row, a choice of them, and a rule behind a test give what their parts give. These are
instances, so that the shape of a rule is found along the way it is written. -/

section Composing

variable {a b : Rule}

instance [hps : Piece.Are P ps] : Gives P (pure ps) where
  gives h hr := by
    cases h
    exact ⟨hr, hps⟩

/-- **A rule behind a rule** may count on what that one gives. -/
theorem gives_behind {Q : Node → Prop} {f : List Piece → Rule} (ha : Gives Q a)
    (hf : ∀ ps, Piece.Are Q ps → Gives P (f ps)) : Gives P (a >>= f) where
  gives h hr := by
    obtain ⟨ps, s, hfirst, hthen⟩ := exists_of_bind h
    obtain ⟨hs, hps⟩ := ha.gives hfirst hr
    exact (hf ps hps).gives hthen hs

/-- **A rule behind a test** is not to count on what that one finds. -/
theorem gives_behind_test {c : Parse α} {f : α → Rule} [hc : Keeps c] (hf : ∀ x, Gives P (f x)) :
    Gives P (c >>= f) where
  gives h hr := by
    obtain ⟨x, s, hfirst, hthen⟩ := exists_of_bind h
    exact (hf x).gives hthen (hc.keeps hfirst hr)

instance {f : List Piece → Rule} [ha : Gives IsPlain a]
    [hf : ∀ ps : {ps : List Piece // Piece.Are IsPlain ps}, Gives P (f ps.val)] : Gives P (a >>= f) :=
  gives_behind ha fun ps hps => hf ⟨ps, hps⟩

instance {c : Parse α} {f : α → Rule} [Keeps c] [∀ x, Gives P (f x)] : Gives P (c >>= f) :=
  gives_behind_test inferInstance

instance [ha : Gives P a] [hb : Gives P b] : Gives P (a ++ b) :=
  gives_behind ha fun _ _ => gives_behind hb fun _ _ => inferInstance

instance {c : Prop} [Decidable c] [Gives P a] [Gives P b] : Gives P (if c then a else b) := by
  split <;> infer_instance

instance : Gives P fail where
  gives h := by cases h

instance : Gives P nothing := by unfold nothing; infer_instance

instance (priority := low) [ha : Gives IsPlain a] : Gives IsRegular a where
  gives h hr := by
    obtain ⟨hr', hps⟩ := ha.gives h hr
    exact ⟨hr', inferInstance⟩

instance [ha : Gives P a] [hb : Gives P b] : Gives P (either a b) where
  gives h hr := by
    unfold either at h
    split at h
    · next x hfirst =>
        cases h
        exact ha.gives hfirst hr
    · -- the second rule begins behind the same comments
      exact hb.gives h hr

/-- A rule gives the same as a statement of its own. -/
theorem gives_beginning (ha : Gives P a) : Gives P (beginning a) where
  gives h hr := ha.gives h hr

instance [ha : Gives P a] : Gives P (beginning a) := gives_beginning ha

instance [ha : Gives P a] : Gives P (outermost a) where
  gives h hr := ha.gives h hr

instance {kind : Kind} [Holds kind.isOrdinary] [Gives IsPlain a] : Gives IsPlain (node kind a) := by
  unfold node
  infer_instance

instance [Gives IsPlain a] : Gives IsRegular (node .variableDeclarator a) := by
  unfold node
  infer_instance

/-- A declaration may read what binds variables. -/
instance {kind : Kind} [Holds kind.declares] [ha : Gives IsRegular a] : Gives IsPlain (node kind a) :=
  gives_behind ha fun _ _ => inferInstance

instance {kind : Kind} [Holds kind.isOrdinary] [Gives IsPlain a] : Gives IsPlain (joined kind a) := by
  unfold joined
  infer_instance

instance {role : Role} [Gives IsPlain a] : Gives IsPlain (inRole role a) := by
  unfold inRole
  infer_instance

instance {c : Parse Bool} [Keeps c] [Gives P a] : Gives P (when c a) := by unfold when; infer_instance
instance {s : String} [Gives P a] : Gives P (whenAt s a) := by unfold whenAt; infer_instance

instance {c : Parse Bool} [Keeps c] [Gives P a] : Gives P (while_ c a) := by
  have hloop (n : Nat) : Gives P (while_.loop c a n) := by
    induction n with
    | zero => exact inferInstanceAs (Gives P fail)
    | succ n ih =>
        exact inferInstanceAs
          (Gives P (c >>= fun goesOn => if goesOn then a ++ while_.loop c a n else nothing))
  unfold while_
  infer_instance

instance {s : String} [Gives P a] : Gives P (untilAt s a) := by unfold untilAt; infer_instance

/-- A setting has no part in the comments. -/
theorem gives_setting {f : Reader → Reader} (hf : ∀ r, (f r).current = r.current) [ha : Gives P a] :
    Gives P (setting f a) where
  gives {r ps r'} h hr := by
    unfold setting at h
    split at h
    · next x s hinside =>
        cases h
        have hstart : (f r).IsSound := by
          rw [Reader.IsSound, hf]
          exact hr
        obtain ⟨hs, hps⟩ := ha.gives hinside hstart
        exact ⟨hs, hps⟩
    · cases h

instance {closed : Bool} [Gives P a] : Gives P (setting ({ · with closed := closed }) a) :=
  gives_setting fun _ => rfl

instance {closed noIn : Bool} [Gives P a] :
    Gives P (setting ({ · with closed := closed, noIn := noIn }) a) :=
  gives_setting fun _ => rfl

instance [Gives P a] : Gives P (enclosed a) := by unfold enclosed; infer_instance
instance [Gives P a] : Gives P (inBody a) := by unfold inBody; infer_instance

end Composing

/-! ### Reading lexemes

A lexeme is a leaf, and a leaf may stand anywhere. -/

section Lexemes

instance {kind : Kind} : Gives IsPlain (take kind) where
  gives h hr := by
    unfold take at h
    dsimp only at h
    split at h
    · cases h
    · cases h
      exact ⟨Reader.isSound_jump _ _ _, Piece.are_single hr .leaf⟩

instance {s : String} : Gives IsPlain (tok s) := by unfold tok; infer_instance
instance {s : String} : Gives IsPlain (optTok s) := by unfold optTok; infer_instance
instance {kind : Kind} : Gives IsPlain (word kind) := by unfold word; infer_instance

instance {kind : Kind} {length : List Char → Option Nat} : Gives IsPlain (cut kind length) where
  gives h hr := by
    unfold cut at h
    dsimp only at h
    split at h
    · cases h
    · cases h
      exact ⟨Reader.isSound_jump _ _ _, Piece.are_single hr .leaf⟩

instance {kind : Kind} {length : List Char → Option Nat} : Gives IsPlain (raw kind length) where
  gives h hr := by
    unfold raw at h
    split at h
    · cases h
    · cases h
      exact ⟨hr, inferInstance⟩
    · cases h
      exact ⟨Reader.isSound_jump _ _ _, Piece.are_single (by simp) .leaf⟩

instance {operators signature : Bool} : Gives IsPlain (lineBreak operators signature) where
  gives {r ps r'} h hr := by
    unfold lineBreak at h
    split at h
    · cases h
    · next n _ =>
        rw [List.splitAt_eq] at h
        cases h
        refine ⟨fun c hc => hr c (List.mem_of_mem_drop hc), ?_, ?_⟩
        · intro p hp c hc
          obtain ⟨note, -, rfl⟩ := List.mem_map.mp hp
          cases hc
        · intro p hp
          obtain ⟨note, hnote, rfl⟩ := List.mem_map.mp hp
          exact hr note (List.mem_of_mem_take hnote)

instance {operators : Bool} : Gives IsPlain (optLineBreak operators) := by
  unfold optLineBreak
  infer_instance

instance {operators : Bool} : Gives IsPlain (semicolon operators) := by unfold semicolon; infer_instance

variable {a : Rule} [Gives IsPlain a]

instance {openMark closeMark : String} : Gives IsPlain (bracketed openMark closeMark a) := by
  unfold bracketed
  infer_instance

instance {close : String} : Gives IsPlain (commaList close a) := by unfold commaList; infer_instance

end Lexemes

instance {a : Rule} [Gives P a] [Gives P (take .token)] : Gives P (commas a) := by
  unfold commas
  infer_instance

end Rule

end DocCatalog.Script
