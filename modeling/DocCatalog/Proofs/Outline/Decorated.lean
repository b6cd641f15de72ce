import DocCatalog.Outline.Members
import Mathlib.Data.List.Forall2

/-!
# Decorators in front of members

A class body is a row of runs: comments and decorators up to a node of another kind, or up to the end.
The decorators of a run are those of the field or method that ends it, and of no member where the run
ends otherwise.

* **`IsMember`**, **`IsPassed`**: the nodes that become members, and those across which decorators wait.
* **`Decorated`**: the members that a row of nodes gives, run by run.
* **`membersFrom_run`**, **`membersFrom_field`**, **`membersFrom_method`**, **`membersFrom_other`**: the
  pending decorators across a run, and at what ends it.
* **`decorated_behind`**, **`decorated_iff`**: what the runs give, and that there is one way to read them.
* **`Adds`**, **`adds_listsFrom`**: what one more decorator changes.
* **`AssignsDecorators`**, **`membersOf_assigns`**: the members of a class body.
-/

namespace DocCatalog.Outline

open Script

/-! ## Runs

The body of a class is cut at its members. What stands between two of them, comments apart, decides
which decorators come to the second. -/

/-- The node becomes a member of the class. -/
def IsMember (n : Node) : Prop := n.kind = .field ∨ n.kind = .method

/-- Decorators in front of the node wait for a member behind it. -/
def IsPassed (n : Node) : Prop := n.kind = .decorator ∨ n.kind = .comment

instance : DecidablePred IsMember := fun n =>
  inferInstanceAs (Decidable (n.kind = .field ∨ n.kind = .method))

/-- The decorators of a row of nodes in their order. -/
def decoratorsAmong (nodes : List Node) : List Decorator :=
  (nodes.filter (·.kind == .decorator)).map decoratorOf

/-- There is nothing but comments and decorators. -/
def IsRun (run : List Placed) : Prop := ∀ p ∈ run, IsPassed p.node

/-- The decorators of a run. -/
def frontOf (run : List Placed) : List Decorator := decoratorsAmong (run.map (·.node))

/-- The members that a row of nodes gives. A member has the decorators of the run in front of it, and a
field has those that stand inside of it behind them. -/
inductive Decorated : List Placed → List Member → Prop
  | last {run : List Placed} (hrun : IsRun run) : Decorated run []
  | field {run rest : List Placed} {p : Placed} {members : List Member} (hrun : IsRun run)
      (hp : p.node.kind = .field) (h : Decorated rest members) :
      Decorated (run ++ p :: rest)
        ({ fieldOf p with decorators := frontOf run ++ decoratorsAmong p.node.children } :: members)
  | method {run rest : List Placed} {p : Placed} {members : List Member} (hrun : IsRun run)
      (hp : p.node.kind = .method) (h : Decorated rest members) :
      Decorated (run ++ p :: rest) ({ methodOf p with decorators := frontOf run } :: members)
  | other {run rest : List Placed} {p : Placed} {members : List Member} (hrun : IsRun run)
      (hpassed : ¬ IsPassed p.node) (hmember : ¬ IsMember p.node) (h : Decorated rest members) :
      Decorated (run ++ p :: rest) members

/-- The named nodes of a class body, each in its place. -/
def namedPlaces (body : Node) : List Placed := (Placed.all body.children).filter (·.node.isNamed)

/-- The decorators of the members, a list for each of them. -/
def decoratorLists (body : Node) : List (List Decorator) := (membersOf body).map (·.decorators)

/-- Behind comments and decorators a member follows. -/
def MemberFollows (after : List Node) : Prop :=
  ∃ gap m rest, after = gap ++ m :: rest ∧ (∀ n ∈ gap, IsPassed n) ∧ IsMember m

/-- What a decorator between the nodes `before` and `after` adds to the decorators of the members: it
goes to the next one if that one follows, and else to none. -/
inductive Adds (d : Decorator) (before after : List Node) :
    List (List Decorator) → List (List Decorator) → Prop
  | next {earlier later : List (List Decorator)} {front back : List Decorator}
      (hafter : MemberFollows after) (hearlier : earlier.length = before.countP (IsMember ·)) :
      Adds d before after (earlier ++ (front ++ back) :: later) (earlier ++ (front ++ d :: back) :: later)
  | none {lists : List (List Decorator)} (hafter : ¬ MemberFollows after) :
      Adds d before after lists lists

/-- The member is the one that its node makes, apart from the decorators. -/
inductive IsMadeOf (p : Placed) : Member → Prop
  | field {decorators : List Decorator} (hp : p.node.kind = .field) :
      IsMadeOf p { fieldOf p with decorators := decorators }
  | method {decorators : List Decorator} (hp : p.node.kind = .method) :
      IsMadeOf p { methodOf p with decorators := decorators }

/-- What the nodes of a class body and the decorators among them give to its members. -/
structure AssignsDecorators (body : Node) : Prop where
  named : (namedPlaces body).map (·.node) = body.namedChildren
  /-- The members with their decorators are read off the runs, and in one way only. -/
  runs : ∀ members, Decorated (namedPlaces body) members ↔ members = membersOf body
  /-- Members keep the order of their nodes. -/
  order : List.Forall₂ IsMadeOf ((namedPlaces body).filter (IsMember ·.node)) (membersOf body)
  /-- Every decorator is one of the next member and of no other one, or of none. -/
  added : ∀ (before after : List Node) (d other : Node), d.kind = .decorator →
    body.namedChildren = before ++ d :: after → other.namedChildren = before ++ after →
    Adds (decoratorOf d) before after (decoratorLists other) (decoratorLists body)

variable {pending : List Decorator} {p : Placed} {ps rest run : List Placed} {members : List Member}

/-! ## Pending decorators

The program carries along the decorators that it has met. What it does with them depends on the kind
of the next node, and there are four: a decorator, a comment, a member, and any other. -/

/-- Nodes without a name are skipped. -/
theorem membersFrom_filter_isNamed (pending : List Decorator) (ps : List Placed) :
    membersFrom pending (ps.filter (·.node.isNamed)) = membersFrom pending ps := by
  induction ps generalizing pending with
  | nil => rfl
  | cons p ps ih =>
      cases hnamed : p.node.isNamed with
      | false => rw [List.filter_cons_of_neg (by simp [hnamed]), ih, membersFrom, hnamed]; rfl
      | true =>
          rw [List.filter_cons_of_pos (by simp [hnamed]), membersFrom, membersFrom]
          simp only [ih]

/-- The members of a body come of its named nodes. -/
theorem membersOf_eq (body : Node) : membersOf body = membersFrom [] (namedPlaces body) :=
  (membersFrom_filter_isNamed [] (Placed.all body.children)).symm

/-- A decorator waits behind those that do. -/
theorem membersFrom_decorator (h : p.node.kind = .decorator) :
    membersFrom pending (p :: rest) = membersFrom (pending ++ [decoratorOf p.node]) rest := by
  simp [membersFrom, Node.isNamed, h, Kind.isNamed]

/-- A comment changes nothing. -/
theorem membersFrom_comment (h : p.node.kind = .comment) :
    membersFrom pending (p :: rest) = membersFrom pending rest := by
  simp [membersFrom, Node.isNamed, h, Kind.isNamed]

/-- A field takes all that wait, and then its own decorators. -/
theorem membersFrom_field (h : p.node.kind = .field) :
    membersFrom pending (p :: rest)
      = { fieldOf p with decorators := pending ++ decoratorsAmong p.node.children }
        :: membersFrom [] rest := by
  simp [membersFrom, Node.isNamed, h, Kind.isNamed, fieldOf, decoratorsIn, decoratorsAmong]

/-- A method takes all that wait. -/
theorem membersFrom_method (h : p.node.kind = .method) :
    membersFrom pending (p :: rest)
      = { methodOf p with decorators := pending } :: membersFrom [] rest := by
  simp [membersFrom, Node.isNamed, h, Kind.isNamed]

/-- Any other node drops them. -/
theorem membersFrom_other (hnamed : p.node.isNamed = true) (hpassed : ¬ IsPassed p.node)
    (hmember : ¬ IsMember p.node) : membersFrom pending (p :: rest) = membersFrom [] rest := by
  rw [membersFrom, hnamed, Bool.not_true, if_neg Bool.false_ne_true]
  split
  · next h => exact absurd (Or.inl h) hpassed
  · next h => exact absurd (Or.inl h) hmember
  · next h => exact absurd (Or.inr h) hmember
  · next h => exact absurd (Or.inr h) hpassed
  · rfl

theorem frontOf_append (run others : List Placed) :
    frontOf (run ++ others) = frontOf run ++ frontOf others := by
  rw [frontOf, decoratorsAmong, List.map_append, List.filter_append, List.map_append, ← decoratorsAmong,
    ← decoratorsAmong, ← frontOf, ← frontOf]

theorem frontOf_decorator (h : p.node.kind = .decorator) : frontOf [p] = [decoratorOf p.node] := by
  simp [frontOf, decoratorsAmong, h]

theorem frontOf_comment (h : p.node.kind = .comment) : frontOf [p] = [] := by
  simp [frontOf, decoratorsAmong, h]

/-- **Across a run** its decorators are put to those that wait already. -/
theorem membersFrom_run (hrun : IsRun run) (pending : List Decorator) (rest : List Placed) :
    membersFrom pending (run ++ rest) = membersFrom (pending ++ frontOf run) rest := by
  induction run generalizing pending with
  | nil => exact congrArg (membersFrom · rest) (List.append_nil pending).symm
  | cons p run ih =>
      have hrest := ih fun q hq => hrun q (List.mem_cons_of_mem p hq)
      have hfront : frontOf (p :: run) = frontOf [p] ++ frontOf run := frontOf_append [p] run
      rw [List.cons_append, hfront]
      rcases hrun p List.mem_cons_self with hdecorator | hcomment
      · rw [membersFrom_decorator hdecorator, hrest, frontOf_decorator hdecorator, List.append_assoc]
      · rw [membersFrom_comment hcomment, hrest, frontOf_comment hcomment, List.nil_append]

/-- A run at the end of the body gives no member. -/
theorem membersFrom_isRun (hrun : IsRun run) (pending : List Decorator) :
    membersFrom pending run = [] := by
  have h := membersFrom_run hrun pending []
  rwa [List.append_nil] at h

/-! ## Reading the runs

The relation reads a body run by run, the program node by node. They meet when the program is taken
at the end of a run, with the decorators of this run pending. -/

theorem IsRun.nil : IsRun [] := fun _ hp => nomatch hp

theorem IsRun.concat (hrun : IsRun run) (hp : IsPassed p.node) : IsRun (run ++ [p]) :=
  List.forall_mem_append.mpr ⟨hrun, List.forall_mem_singleton.mpr hp⟩

-- The invariant: what is pending are the decorators since the last node that ended a run.
/-- **What the program gives** behind a run is what the relation asks for. -/
theorem decorated_behind (hrun : IsRun run) (hnamed : ∀ p ∈ ps, p.node.isNamed = true) :
    Decorated (run ++ ps) (membersFrom (frontOf run) ps) := by
  induction ps generalizing run with
  | nil =>
      rw [List.append_nil]
      exact .last hrun
  | cons p ps ih =>
      obtain ⟨hp, hps⟩ := List.forall_mem_cons.mp hnamed
      -- behind a node that ends the run a new one begins
      have hnext : Decorated ps (membersFrom [] ps) := ih .nil hps
      by_cases hpassed : IsPassed p.node
      · have hlonger := ih (hrun.concat hpassed) hps
        rw [List.append_assoc, List.singleton_append, frontOf_append] at hlonger
        rcases hpassed with hdecorator | hcomment
        · rwa [frontOf_decorator hdecorator, ← membersFrom_decorator hdecorator] at hlonger
        · rwa [frontOf_comment hcomment, List.append_nil, ← membersFrom_comment hcomment] at hlonger
      · by_cases hmember : IsMember p.node
        · rcases hmember with hfield | hmethod
          · rw [membersFrom_field hfield]
            exact .field hrun hfield hnext
          · rw [membersFrom_method hmethod]
            exact .method hrun hmethod hnext
        · rw [membersFrom_other hp hpassed hmember]
          exact .other hrun hpassed hmember hnext

/-- Conversely the relation allows nothing else. -/
theorem Decorated.eq_membersFrom (h : Decorated ps members)
    (hnamed : ∀ p ∈ ps, p.node.isNamed = true) : members = membersFrom [] ps := by
  induction h with
  | last hrun => exact (membersFrom_isRun hrun []).symm
  | field hrun hp _ ih =>
      have hrest := (List.forall_mem_cons.mp (List.forall_mem_append.mp hnamed).2).2
      rw [membersFrom_run hrun, List.nil_append, membersFrom_field hp, ← ih hrest]
  | method hrun hp _ ih =>
      have hrest := (List.forall_mem_cons.mp (List.forall_mem_append.mp hnamed).2).2
      rw [membersFrom_run hrun, List.nil_append, membersFrom_method hp, ← ih hrest]
  | other hrun hpassed hmember _ ih =>
      obtain ⟨hp, hrest⟩ := List.forall_mem_cons.mp (List.forall_mem_append.mp hnamed).2
      rw [membersFrom_run hrun, membersFrom_other hp hpassed hmember, ← ih hrest]

theorem isNamed_of_mem_namedPlaces {body : Node} (h : p ∈ namedPlaces body) :
    p.node.isNamed = true := (List.mem_filter.mp h).2

/-- **There is one way to read the runs** of a class body. -/
theorem decorated_iff {body : Node} :
    Decorated (namedPlaces body) members ↔ members = membersOf body := by
  have hnamed := fun p (hp : p ∈ namedPlaces body) => isNamed_of_mem_namedPlaces hp
  rw [membersOf_eq]
  refine ⟨fun h => h.eq_membersFrom hnamed, ?_⟩
  rintro rfl
  exact decorated_behind .nil hnamed

/-- A node across which decorators wait is no member. -/
theorem IsPassed.not_isMember {n : Node} (h : IsPassed n) : ¬ IsMember n := by
  rcases h with h | h <;> simp [IsMember, h]

/-- There are no members in a run. -/
theorem filter_isMember_run (hrun : IsRun run) : run.filter (IsMember ·.node) = [] :=
  List.filter_eq_nil_iff.mpr fun p hp => by simpa using (hrun p hp).not_isMember

/-- **Every member is made** of its own node, in the order of the body. -/
theorem Decorated.isMadeOf (h : Decorated ps members) :
    List.Forall₂ IsMadeOf (ps.filter (IsMember ·.node)) members := by
  induction h with
  | last hrun =>
      rw [filter_isMember_run hrun]
      exact .nil
  | field hrun hp _ ih =>
      rw [List.filter_append, filter_isMember_run hrun, List.nil_append,
        List.filter_cons_of_pos (by simp [IsMember, hp])]
      exact .cons (.field hp) ih
  | method hrun hp _ ih =>
      rw [List.filter_append, filter_isMember_run hrun, List.nil_append,
        List.filter_cons_of_pos (by simp [IsMember, hp])]
      exact .cons (.method hp) ih
  | other hrun _ hmember _ ih =>
      rw [List.filter_append, filter_isMember_run hrun, List.nil_append,
        List.filter_cons_of_neg (by simpa using hmember)]
      exact ih

/-! ## One more decorator

A decorator more in front of a member makes its list one longer. Where none follows nothing changes.
-/

/-- The decorators of the members that a row gives behind those that wait already. -/
def listsFrom (pending : List Decorator) (ps : List Placed) : List (List Decorator) :=
  (membersFrom pending ps).map (·.decorators)

/-- A node becomes one member or none, and which decorators that one has and which wait behind the node
does not depend on where it stands. -/
theorem exists_listsFrom_cons {n : Node} (hnamed : n.isNamed = true) (pending : List Decorator) :
    ∃ own waiting, own.length = (if IsMember n then 1 else 0)
      ∧ ∀ p rest, p.node = n → listsFrom pending (p :: rest) = own ++ listsFrom waiting rest := by
  -- a decorator waits and a comment changes nothing
  by_cases hpassed : IsPassed n
  · rcases hpassed with h | h
    · refine ⟨[], pending ++ [decoratorOf n], by simp [IsMember, h], ?_⟩
      rintro p rest rfl
      rw [listsFrom, membersFrom_decorator h, ← listsFrom, List.nil_append]
    · refine ⟨[], pending, by simp [IsMember, h], ?_⟩
      rintro p rest rfl
      rw [listsFrom, membersFrom_comment h, ← listsFrom, List.nil_append]
  · -- a field and a method take what waits, and any other node drops it
    by_cases hmember : IsMember n
    · rw [if_pos hmember]
      rcases hmember with h | h
      · refine ⟨[pending ++ decoratorsAmong n.children], [], rfl, ?_⟩
        rintro p rest rfl
        rw [listsFrom, membersFrom_field h, List.map_cons, ← listsFrom, List.singleton_append]
      · refine ⟨[pending], [], rfl, ?_⟩
        rintro p rest rfl
        rw [listsFrom, membersFrom_method h, List.map_cons, ← listsFrom, List.singleton_append]
    · rw [if_neg hmember]
      refine ⟨[], [], rfl, ?_⟩
      rintro p rest rfl
      rw [listsFrom, membersFrom_other hnamed hpassed hmember, ← listsFrom, List.nil_append]

/-- The same for a row of nodes. -/
theorem exists_listsFrom_append {nodes : List Node} (hnamed : ∀ n ∈ nodes, n.isNamed = true)
    (pending : List Decorator) :
    ∃ own waiting, own.length = nodes.countP (IsMember ·)
      ∧ ∀ ps rest, ps.map (·.node) = nodes →
        listsFrom pending (ps ++ rest) = own ++ listsFrom waiting rest := by
  induction nodes generalizing pending with
  | nil =>
      refine ⟨[], pending, rfl, fun ps rest hps => ?_⟩
      rw [List.map_eq_nil_iff.mp hps, List.nil_append, List.nil_append]
  | cons n nodes ih =>
      obtain ⟨hn, hnodes⟩ := List.forall_mem_cons.mp hnamed
      obtain ⟨first, between, hfirst, hcons⟩ := exists_listsFrom_cons hn pending
      obtain ⟨own, waiting, hown, happend⟩ := ih hnodes between
      refine ⟨first ++ own, waiting, ?_, fun ps rest hps => ?_⟩
      · rw [List.length_append, hfirst, hown, List.countP_cons, Nat.add_comm]
        simp only [decide_eq_true_eq]
      · obtain ⟨p, ps, rfl, hnode, hps⟩ := List.map_eq_cons_iff.mp hps
        rw [List.cons_append, hcons p _ hnode, happend ps rest hps, List.append_assoc]

/-- The decorators of the members depend on the nodes only. -/
theorem listsFrom_congr {qs : List Placed} (hnamed : ∀ p ∈ ps, p.node.isNamed = true)
    (h : qs.map (·.node) = ps.map (·.node)) : listsFrom pending qs = listsFrom pending ps := by
  obtain ⟨own, waiting, -, happend⟩ :=
    exists_listsFrom_append (List.forall_mem_map.mpr hnamed) pending
  have hqs := happend qs [] h
  rwa [← happend ps [] rfl, List.append_nil, List.append_nil] at hqs

/-- What waits in front of a row goes to the first of its members, if that one follows. -/
theorem exists_listsFrom_of_follows (h : MemberFollows (ps.map (·.node))) :
    ∃ back later, ∀ pending, listsFrom pending ps = (pending ++ back) :: later := by
  obtain ⟨gap, m, rest, hsplit, hgap, hm⟩ := h
  obtain ⟨run, tail, rfl, rfl, htail⟩ := List.map_eq_append_iff.mp hsplit
  obtain ⟨p, rest, rfl, rfl, -⟩ := List.map_eq_cons_iff.mp htail
  have hrun : IsRun run := List.forall_mem_map.mp hgap
  rcases hm with hfield | hmethod
  · refine ⟨frontOf run ++ decoratorsAmong p.node.children, listsFrom [] rest, fun pending => ?_⟩
    rw [listsFrom, membersFrom_run hrun, membersFrom_field hfield, List.map_cons, ← listsFrom,
      List.append_assoc]
  · refine ⟨frontOf run, listsFrom [] rest, fun pending => ?_⟩
    rw [listsFrom, membersFrom_run hrun, membersFrom_method hmethod, List.map_cons, ← listsFrom]

/-- Whether a member follows does not depend on what decorators wait across. -/
theorem memberFollows_cons_of_passed {n : Node} {nodes : List Node} (hn : IsPassed n) :
    MemberFollows (n :: nodes) ↔ MemberFollows nodes := by
  constructor
  · rintro ⟨gap, m, rest, hsplit, hgap, hm⟩
    cases gap with
    | nil => exact absurd ((List.cons.inj hsplit).1 ▸ hm) hn.not_isMember
    | cons g gap =>
        exact ⟨gap, m, rest, (List.cons.inj hsplit).2, (List.forall_mem_cons.mp hgap).2, hm⟩
  · rintro ⟨gap, m, rest, rfl, hgap, hm⟩
    exact ⟨n :: gap, m, rest, rfl, List.forall_mem_cons.mpr ⟨hn, hgap⟩, hm⟩

/-- What waits in front of a row is lost, if no member follows. -/
theorem membersFrom_of_not_follows (hnamed : ∀ p ∈ ps, p.node.isNamed = true)
    (h : ¬ MemberFollows (ps.map (·.node))) (pending : List Decorator) :
    membersFrom pending ps = membersFrom [] ps := by
  induction ps generalizing pending with
  | nil => rfl
  | cons p ps ih =>
      obtain ⟨hp, hps⟩ := List.forall_mem_cons.mp hnamed
      rw [List.map_cons] at h
      by_cases hpassed : IsPassed p.node
      · rw [memberFollows_cons_of_passed hpassed] at h
        rcases hpassed with hdecorator | hcomment
        · rw [membersFrom_decorator hdecorator, membersFrom_decorator hdecorator, ih hps h,
            ih hps h ([] ++ _)]
        · rw [membersFrom_comment hcomment, membersFrom_comment hcomment, ih hps h]
      · have hmember : ¬ IsMember p.node := fun hm =>
          h ⟨[], p.node, ps.map (·.node), rfl, fun q hq => (nomatch hq), hm⟩
        rw [membersFrom_other hp hpassed hmember, membersFrom_other hp hpassed hmember]

theorem map_node_namedPlaces (body : Node) : (namedPlaces body).map (·.node) = body.namedChildren := by
  have hgo : ∀ before nodes, (Placed.all.go before nodes).map (·.node) = nodes := by
    intro before nodes
    induction nodes generalizing before with
    | nil => rfl
    | cons n nodes ih => rw [Placed.all.go, List.map_cons, ih]
  have hfilter := List.filter_map (p := Node.isNamed) (f := Placed.node) (l := Placed.all body.children)
  rw [Placed.all, hgo] at hfilter
  exact hfilter.symm

theorem decoratorLists_eq (body : Node) : decoratorLists body = listsFrom [] (namedPlaces body) := by
  rw [decoratorLists, membersOf_eq, listsFrom]

/-- **One more decorator** among the nodes of a row is one more of the next member, or nothing. -/
theorem adds_listsFrom {front back : List Placed} (hd : p.node.kind = .decorator)
    (hfront : ∀ q ∈ front, q.node.isNamed = true) (hback : ∀ q ∈ back, q.node.isNamed = true) :
    Adds (decoratorOf p.node) (front.map (·.node)) (back.map (·.node))
      (listsFrom [] (front ++ back)) (listsFrom [] (front ++ p :: back)) := by
  obtain ⟨own, waiting, hown, happend⟩ :=
    exists_listsFrom_append (List.forall_mem_map.mpr hfront) []
  have hdecorator : listsFrom waiting (p :: back)
      = listsFrom (waiting ++ [decoratorOf p.node]) back := by
    rw [listsFrom, membersFrom_decorator hd, ← listsFrom]
  rw [happend front back rfl, happend front (p :: back) rfl, hdecorator]
  -- with the decorator or without it, the same ones wait in front of it and the same row follows
  by_cases hafter : MemberFollows (back.map (·.node))
  · obtain ⟨behind, later, hlists⟩ := exists_listsFrom_of_follows hafter
    rw [hlists, hlists, List.append_assoc, List.singleton_append]
    exact .next hafter hown
  · rw [listsFrom, listsFrom, membersFrom_of_not_follows hback hafter,
      membersFrom_of_not_follows hback hafter (waiting ++ _)]
    exact .none hafter

/-- The same for two class bodies, in which the nodes may stand in other places. -/
theorem adds_decoratorLists {body other d : Node} {before after : List Node}
    (hd : d.kind = .decorator) (hbody : body.namedChildren = before ++ d :: after)
    (hother : other.namedChildren = before ++ after) :
    Adds (decoratorOf d) before after (decoratorLists other) (decoratorLists body) := by
  rw [← map_node_namedPlaces] at hbody hother
  obtain ⟨front, tail, hplaces, rfl, htail⟩ := List.map_eq_append_iff.mp hbody
  obtain ⟨p, back, rfl, rfl, rfl⟩ := List.map_eq_cons_iff.mp htail
  have hnamed : ∀ q ∈ front ++ p :: back, q.node.isNamed = true := fun q hq =>
    isNamed_of_mem_namedPlaces (hplaces ▸ hq)
  obtain ⟨hfront, htail⟩ := List.forall_mem_append.mp hnamed
  have hback := (List.forall_mem_cons.mp htail).2
  have hnodes : (namedPlaces other).map (·.node) = (front ++ back).map (·.node) := by
    rw [hother, List.map_append]
  rw [decoratorLists_eq, decoratorLists_eq, hplaces,
    listsFrom_congr (List.forall_mem_append.mpr ⟨hfront, hback⟩) hnodes]
  exact adds_listsFrom hd hfront hback

/-- **The decorators in a class body** go to the members behind them. -/
theorem membersOf_assigns (body : Node) : AssignsDecorators body where
  named := map_node_namedPlaces body
  runs _ := decorated_iff
  order := (decorated_iff.mpr rfl).isMadeOf
  added _ _ _ _ hd hbody hother := adds_decoratorLists hd hbody hother

/-- A comment lets decorators pass, a static block and the end of the body do not. -/
example :
    let decorator (text : String) : Node := .leaf .plain .decorator "" text 0 0
    let body : Node := .branch .body .classBody
      [decorator "@A", .leaf .plain .comment "" "/* b */" 0 0, decorator "@B",
        .branch .plain .method [.leaf .name .propertyName "" "m" 0 0],
        decorator "@C", .branch .plain .staticBlock [],
        decorator "@D", .branch .plain .field [decorator "@E", .leaf .name .propertyName "" "x" 0 0],
        decorator "@F"]
    (membersOf body).map (fun m => (m.name, m.decorators.map (·.name)))
      = [("m", ["A", "B"]), ("x", ["D", "E"])] := by decide

end DocCatalog.Outline
