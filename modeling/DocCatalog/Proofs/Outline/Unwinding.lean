import DocCatalog.Outline.Chains

/-!
# Chains of member calls

An expression `r.a(x).b(y)` is a call of a member of `r.a(x)`, which is a call of a member of `r`. The
outermost call is the last one in the source, so the calls are found from the last one to the first.

* **`IsMemberCall`**: a call of a member, and what the member belongs to.
* **`Chained`**: an expression is a receiver with some calls of members behind it.
* **`unwind_of_isMemberCall`**, **`unwind_of_not`**: one step of unwinding.
* **`Chained.unwind_of_whole`**: a chain is unwound to the text of its receiver and to all of its calls.
* **`exists_chained`**: every expression is a receiver that is no such call, with calls behind it.
-/

namespace DocCatalog.Outline

open Script

/-! ## Chains

A chain is described from its receiver outwards, call by call, and the program unwinds it from
outside. The two meet in one step each. -/

/-- What is called in `e` is a member of `object`. -/
structure IsMemberCall (e object property : Node) : Prop where
  call : e.kind = .call
  callee : ∃ callee, e.child? .callee = some callee ∧ callee.kind = .member
    ∧ callee.child? .object = some object ∧ callee.child? .property = some property

/-- A call in a chain, with the name of the member that is called. -/
structure Step where
  call : Node
  property : Node

/-- The expressions between the parentheses of a call. -/
def argumentNodes (call : Node) : List Node :=
  (call.children.findSome? fun
    | .branch _ .arguments items => some (items.filter fun n => n.isNamed && n.kind != .comment)
    | _ => none).getD []

/-- What the outline says of a call in a chain. -/
def Step.toCall (s : Step) : Call where
  callee := s.property.text
  typeArguments := Value.typeArgumentsOf s.call.children
  arguments := (argumentNodes s.call).map Value.ofNode
  line := s.property.line

/-- The expression is the receiver with the calls of some members behind it, in source order. -/
inductive Chained (receiver : Node) : List Step → Node → Prop
  | receiver : Chained receiver [] receiver
  | call {steps : List Step} {object property e : Node} (h : Chained receiver steps object)
      (hcall : IsMemberCall e object property) : Chained receiver (steps ++ [⟨e, property⟩]) e

/-- The expression is a chain of calls on a receiver that is not empty, and no such call itself. -/
structure IsChain (e receiver : Node) (steps : List Step) : Prop where
  chained : Chained receiver steps e
  whole : ∀ object property, ¬ IsMemberCall receiver object property
  calls : steps ≠ []
  nonempty : receiver.text ≠ ""

variable {e object property receiver : Node} {steps : List Step}

/-! ## One step

The program finds the member that is called and what it belongs to among the parts of a call, by
their roles. -/

/-- The object is the first part in this role. -/
theorem unwindObject_eq (parts : List Node) :
    unwindObject parts = (parts.find? (·.role == .object)).map unwind := by
  induction parts with
  | nil => rw [unwindObject, List.find?_nil, Option.map_none]
  | cons c parts ih =>
      rw [unwindObject, List.find?_cons]
      cases c.role == .object with
      | true => rfl
      | false => exact ih

/-- What unwinding finds in the callee of a call. -/
def unwoundCallee (callee : Node) : Option (String × List Call × Node) :=
  if callee.kind = .member then
    match callee.child? .object, callee.child? .property with
    | some object, some property => some ((unwind object).1, (unwind object).2, property)
    | _, _ => none
  else none

/-- The callee decides, whatever stands behind it. -/
theorem unwindCallee_cons_of_callee {c : Node} (parts : List Node) (hrole : c.role = .callee) :
    unwindCallee (c :: parts) = unwoundCallee c := by
  have hgoes : ¬ (c.role != .callee) = true := by simp [hrole]
  cases c with
  | leaf role kind gap text row last =>
      rw [unwindCallee.eq_3 _ _ (by rintro role parts ⟨⟩), if_neg hgoes, unwoundCallee]
      split <;> rfl
  | branch role kind inner =>
      by_cases hkind : kind = .member
      · subst hkind
        rw [unwindCallee.eq_2, if_neg hgoes, unwoundCallee, unwindObject_eq]
        show _ = if Kind.member = Kind.member then _ else none
        unfold Node.child? Node.children
        cases inner.find? (·.role == .object) <;> cases inner.find? (·.role == .property) <;> rfl
      · have hnot : ¬ (Node.branch role kind inner).kind = .member := hkind
        rw [unwindCallee.eq_3 _ _ (by rintro role parts ⟨⟩; exact hkind rfl), if_neg hgoes,
          unwoundCallee, if_neg hnot]

theorem unwindCallee_eq (parts : List Node) :
    unwindCallee parts = (parts.find? (·.role == .callee)).bind unwoundCallee := by
  induction parts with
  | nil => rw [unwindCallee, List.find?_nil, Option.bind_none]
  | cons c parts ih =>
      by_cases hrole : c.role = .callee
      · rw [unwindCallee_cons_of_callee parts hrole, List.find?_cons_of_pos (by simpa using hrole)]
        rfl
      · rw [List.find?_cons_of_neg (by simpa using hrole), ← ih, unwindCallee.eq_def]
        simp [hrole]

/-- The values of some items, without punctuation and comments. -/
theorem itemsOf_eq (items : List Node) :
    Value.itemsOf items
      = (items.filter fun n => n.isNamed && n.kind != .comment).map Value.ofNode := by
  induction items with
  | nil => rw [Value.itemsOf, List.filter_nil, List.map_nil]
  | cons c items ih =>
      rw [Value.itemsOf, ih, List.filter_cons]
      split <;> rfl

/-- The arguments of a call are the values of their nodes. -/
theorem argumentsOf_eq (call : Node) :
    Value.argumentsOf call.children = (argumentNodes call).map Value.ofNode := by
  unfold argumentNodes
  induction call.children with
  | nil => rw [Value.argumentsOf]; rfl
  | cons c parts ih =>
      rw [Value.argumentsOf.eq_def, List.findSome?_cons]
      split
      · next h => cases h
      · next h =>
          cases h
          exact itemsOf_eq _
      · -- a child that is no list of arguments is passed over by both
        next hother h =>
          cases h
          rw [ih]
          split
          · next hitems =>
            split at hitems
            · next args => exact absurd rfl (hother _ args)
            · cases hitems
          · rfl

/-- Only members can be unwound, and they have an object and a property. -/
theorem unwoundCallee_eq_some {callee : Node} {found : String × List Call × Node}
    (h : unwoundCallee callee = some found) : callee.kind = .member
      ∧ ∃ object property, callee.child? .object = some object
        ∧ callee.child? .property = some property := by
  unfold unwoundCallee at h
  split at h
  · next hmember =>
      split at h
      · next object property hobject hproperty =>
          exact ⟨hmember, object, property, hobject, hproperty⟩
      · cases h
  · cases h

/-- **A call of a member** stands behind the calls of its object. -/
theorem unwind_of_isMemberCall (h : IsMemberCall e object property) :
    unwind e = ((unwind object).1, (unwind object).2 ++ [Step.toCall ⟨e, property⟩]) := by
  obtain ⟨callee, hcallee, hmember, hobject, hproperty⟩ := h.callee
  have hunwound : unwoundCallee callee
      = some ((unwind object).1, (unwind object).2, property) := by
    rw [unwoundCallee, if_pos hmember, hobject, hproperty]
  have harguments := argumentsOf_eq e
  cases e with
  | leaf => cases hcallee
  | branch role kind parts =>
      obtain rfl : kind = .call := h.call
      have hfound : parts.find? (·.role == .callee) = some callee := hcallee
      rw [unwind.eq_2, if_neg (by decide), unwindCallee_eq, hfound, Option.bind_some, hunwound]
      simp only [Step.toCall, ← harguments]
      rfl

/-- **What is no call of a member** is a receiver without calls. -/
theorem unwind_of_not (h : ∀ object property, ¬ IsMemberCall e object property) :
    unwind e = (e.text, []) := by
  cases e with
  | leaf => rw [unwind.eq_1]
  | branch role kind parts =>
      rw [unwind.eq_2]
      split
      · rfl
      · next hkind =>
          cases hfound : unwindCallee parts with
          | none => rfl
          | some found =>
              -- the callee would make the call one of a member
              rw [unwindCallee_eq, Option.bind_eq_some_iff] at hfound
              obtain ⟨callee, hcallee, hunwound⟩ := hfound
              obtain ⟨hmember, object, property, hobject, hproperty⟩ :=
                unwoundCallee_eq_some hunwound
              have hcall : kind = .call := Decidable.of_not_not fun hne => hkind (bne_iff_ne.mpr hne)
              exact absurd ⟨hcall, callee, hcallee, hmember, hobject, hproperty⟩ (h object property)

/-! ## Whole chains

Unwinding ends at a receiver that is no such call, since what a member belongs to is smaller than
the call. -/

/-- A chain is unwound to what its receiver is unwound to, and then all of its calls. -/
theorem Chained.unwind_eq (h : Chained receiver steps e) :
    unwind e = ((unwind receiver).1, (unwind receiver).2 ++ steps.map Step.toCall) := by
  induction h with
  | receiver => rw [List.map_nil, List.append_nil]
  | call _ hcall ih => rw [unwind_of_isMemberCall hcall, ih, List.map_append, List.append_assoc]; rfl

/-- **A chain is unwound** to the text of its receiver and to its calls, from the first one on. -/
theorem Chained.unwind_of_whole (h : Chained receiver steps e)
    (hwhole : ∀ object property, ¬ IsMemberCall receiver object property) :
    unwind e = (receiver.text, steps.map Step.toCall) := by
  rw [h.unwind_eq, unwind_of_not hwhole, List.nil_append]

/-- What the member belongs to is a part of the call. -/
theorem IsMemberCall.sizeOf_lt (h : IsMemberCall e object property) : sizeOf object < sizeOf e := by
  obtain ⟨callee, hcallee, -, hobject, -⟩ := h.callee
  have hlt : ∀ {n c : Node} {role : Role}, n.child? role = some c → sizeOf c < sizeOf n := by
    intro n c role hc
    cases n with
    | leaf => cases hc
    | branch role kind parts =>
        have hmem : c ∈ parts := List.mem_of_find?_eq_some hc
        have hsize := List.sizeOf_lt_of_mem hmem
        simp only [Node.branch.sizeOf_spec]
        omega
  exact Nat.lt_trans (hlt hobject) (hlt hcallee)

/-- **Every expression** is a receiver that is no call of a member, with calls behind it. -/
theorem exists_chained (e : Node) : ∃ receiver steps, Chained receiver steps e
    ∧ ∀ object property, ¬ IsMemberCall receiver object property := by
  by_cases h : ∃ object property, IsMemberCall e object property
  · obtain ⟨object, property, hcall⟩ := h
    obtain ⟨receiver, steps, hsteps, hwhole⟩ := exists_chained object
    exact ⟨receiver, steps ++ [⟨e, property⟩], hsteps.call hcall, hwhole⟩
  · exact ⟨e, [], .receiver, fun object property hcall => h ⟨object, property, hcall⟩⟩
termination_by sizeOf e
decreasing_by exact hcall.sizeOf_lt

theorem IsChain.kind (h : IsChain e receiver steps) : e.kind = .call := by
  cases h.chained with
  | receiver => exact absurd rfl h.calls
  | call _ hcall => exact hcall.call

end DocCatalog.Outline
