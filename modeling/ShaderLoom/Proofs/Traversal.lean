import Mathlib.Data.List.Perm.Subperm
import Mathlib.Data.List.Range
import Mathlib.Logic.Relation
import ShaderLoom.Stage.Schedule

/-!
# Depth-first traversal

`Schedule.visit` works on any dependency function.  This module says what it does there, without
reference to stage graphs.

Three colors are kept in two lists: the nodes that are finished are in the order, those under
way are on the path, the others have not been met.  The order is `Settled` at all times: nothing
is repeated, and every node stands behind all that it depends on.  A visit that succeeds only
appends to the order, and only nodes that are reachable and not on the path (`Grown`).  A visit
that fails names a node that is met again while it is under way; all nodes of the path lead to
the current one, so the named node depends on itself.

The depth bound plays no part in this: paths have no repeats, so a path as long as there are
nodes holds all of them, and the visit stops before the bound does (`exists_depth_of_not_mem`).

## Main definitions

* `Schedule.Heralds` — wherever one node stands in a list, another stands before it
* `Schedule.Settled` — every node stands behind all that it depends on
* `Schedule.Grown` — what visits may do to an order

## Main results

* `Schedule.visit_ok_cases`, `Schedule.visit_error_cases` — what one visit does
* `Schedule.visit_grown` — what a visit that succeeds adds
* `Schedule.visit_error` — a visit that fails has met a cycle
* `Schedule.Settled.not_cyclic` — a settled order has no cycle among its nodes
-/

namespace ShaderLoom
namespace Schedule

open Relation

/-! ## Folds that may fail -/

/-- A fold that fails does so at one element, after succeeding on those before it. -/
theorem foldlM_error {α β ε : Type} {step : β → α → Except ε β} {cause : ε} :
    ∀ {items : List α} {start : β}, items.foldlM step start = .error cause →
      ∃ front item back middle, items = front ++ item :: back ∧
        front.foldlM step start = .ok middle ∧ step middle item = .error cause := by
  intro items
  induction items with
  | nil => intro start failed; cases failed
  | cons first rest ih =>
      intro start failed
      rw [List.foldlM_cons] at failed
      cases stepped : step start first with
      | error other =>
          rw [stepped] at failed
          cases failed
          exact ⟨[], first, rest, start, rfl, rfl, stepped⟩
      | ok next =>
          rw [stepped] at failed
          obtain ⟨front, item, back, middle, rfl, succeeded, failing⟩ := ih failed
          refine ⟨first :: front, item, back, middle, rfl, ?_, failing⟩
          rw [List.foldlM_cons, stepped]
          exact succeeded

/-- A fold depends on what its step does with the elements of the list. -/
theorem foldlM_congr {α β ε : Type} {step other : β → α → Except ε β} :
    ∀ {items : List α} {start : β},
      (∀ item ∈ items, ∀ value, other value item = step value item) →
      items.foldlM other start = items.foldlM step start := by
  intro items
  induction items with
  | nil => intro start _; rfl
  | cons first rest ih =>
      intro start same
      rw [List.foldlM_cons, List.foldlM_cons, same first List.mem_cons_self]
      exact congrArg (bind _) (funext fun next =>
        ih fun item member => same item (List.mem_cons_of_mem _ member))

variable {dependencies : NodeId → List NodeId}

/-! ## Reachability -/

variable (dependencies) in
/-- One node depends directly on another. -/
def Needs (n p : NodeId) : Prop :=
  p ∈ dependencies n

variable (dependencies) in
/-- One node depends on another through any number of nodes, or is that node. -/
abbrev Reaches : NodeId → NodeId → Prop :=
  ReflTransGen (Needs dependencies)

variable (dependencies) in
/-- A node depends on itself through at least one dependency. -/
def Cyclic (n : NodeId) : Prop :=
  TransGen (Needs dependencies) n n

/-! ## Nodes that stand before others -/

/-- Wherever `second` stands in a list, `first` stands before it. -/
def Heralds (first second : NodeId) (ids : List NodeId) : Prop :=
  ∀ ⦃front back : List NodeId⦄, ids = front ++ second :: back → first ∈ front

section Heralds

variable {first second : NodeId} {ids : List NodeId}

theorem Heralds.concat {id : NodeId} (early : Heralds first second ids)
    (last : id = second → first ∈ ids) : Heralds first second (ids ++ [id]) := by
  intro front back split
  rcases List.eq_nil_or_concat back with rfl | ⟨back, final, rfl⟩
  · obtain ⟨rfl, ends⟩ := List.append_inj' split rfl
    exact last (List.cons.inj ends).1
  · rw [List.concat_eq_append, ← List.cons_append, ← List.append_assoc] at split
    exact early (List.append_inj' split rfl).1

theorem Heralds.idxOf_lt (heralds : Heralds first second ids) (nodup : ids.Nodup)
    (member : second ∈ ids) :
    first ∈ ids ∧ ids.idxOf first < ids.idxOf second := by
  obtain ⟨front, back, rfl⟩ := List.append_of_mem member
  have early := heralds rfl
  have late : second ∉ front := fun inside =>
    (List.nodup_append.mp nodup).2.2 second inside second List.mem_cons_self rfl
  refine ⟨List.mem_append_left _ early, ?_⟩
  rw [List.idxOf_append_of_mem early, List.idxOf_append_of_notMem late]
  exact Nat.lt_of_lt_of_le (List.idxOf_lt_length_of_mem early) (Nat.le_add_right _ _)

end Heralds

/-! ## Settled orders -/

variable (dependencies) in
/-- An order without repeats in which every node stands behind all that it depends on. -/
structure Settled (order : List NodeId) : Prop where
  nodup : order.Nodup
  behind : ∀ ⦃front : List NodeId⦄ ⦃n : NodeId⦄ ⦃back : List NodeId⦄,
    order = front ++ n :: back → ∀ p ∈ dependencies n, p ∈ front

namespace Settled

variable {order : List NodeId}

theorem nil : Settled dependencies [] :=
  ⟨List.nodup_nil, fun front n back empty => by simp at empty⟩

/-- A node is appended once all that it depends on is there. -/
theorem concat (settled : Settled dependencies order) {id : NodeId} (new : id ∉ order)
    (ready : ∀ p ∈ dependencies id, p ∈ order) : Settled dependencies (order ++ [id]) := by
  refine ⟨?_, ?_⟩
  · rw [List.nodup_append]
    refine ⟨settled.nodup, by simp, ?_⟩
    intro a member b single equal
    rw [List.mem_singleton] at single
    exact new (single ▸ equal ▸ member)
  · intro front n back split p needed
    have early : Heralds p n order := fun _ _ split => settled.behind split p needed
    refine early.concat (fun same => ?_) split
    subst same
    exact ready p needed

theorem mem_of_needs (settled : Settled dependencies order) {n p : NodeId} (member : n ∈ order)
    (needs : Needs dependencies n p) : p ∈ order := by
  obtain ⟨front, back, rfl⟩ := List.append_of_mem member
  exact List.mem_append_left _ (settled.behind rfl p needs)

/-- A settled order holds everything that its nodes depend on. -/
theorem mem_of_reaches (settled : Settled dependencies order) {n m : NodeId}
    (member : n ∈ order) (reaches : Reaches dependencies n m) : m ∈ order := by
  induction reaches with
  | refl => exact member
  | tail _ needs ih => exact settled.mem_of_needs ih needs

theorem idxOf_lt (settled : Settled dependencies order) {n p : NodeId} (member : n ∈ order)
    (needs : Needs dependencies n p) : order.idxOf p < order.idxOf n := by
  have heralds : Heralds p n order := fun _ _ split => settled.behind split p needs
  exact (heralds.idxOf_lt settled.nodup member).2

/-- Positions fall along dependencies, so no node of a settled order depends on itself. -/
theorem not_cyclic (settled : Settled dependencies order) {n : NodeId} (member : n ∈ order) :
    ¬ Cyclic dependencies n := by
  have falls : ∀ {m}, TransGen (Needs dependencies) n m → order.idxOf m < order.idxOf n := by
    intro m path
    induction path with
    | single needs => exact settled.idxOf_lt member needs
    | tail path needs ih =>
        exact Nat.lt_trans (settled.idxOf_lt
          (settled.mem_of_reaches member path.to_reflTransGen) needs) ih
  intro cycle
  exact Nat.lt_irrefl _ (falls cycle)

end Settled

/-! ## Growing orders -/

variable (dependencies) in
/-- What visiting `sources` in turn may do to an order: it appends nodes that the sources depend
on and that are not on the path, until the sources themselves are there. -/
structure Grown (path sources order result : List NodeId) : Prop where
  settled : Settled dependencies result
  appended : ∃ added, result = order ++ added ∧
    ∀ n ∈ added, n ∉ path ∧ ∃ s ∈ sources, Reaches dependencies s n
  covers : ∀ s ∈ sources, s ∈ result

namespace Grown

variable {path sources order result : List NodeId}

theorem mem_of_mem (grown : Grown dependencies path sources order result) {n : NodeId}
    (member : n ∈ order) : n ∈ result := by
  obtain ⟨added, rfl, _⟩ := grown.appended
  exact List.mem_append_left _ member

theorem mem_or_reaches (grown : Grown dependencies path sources order result) {n : NodeId}
    (member : n ∈ result) : n ∈ order ∨ n ∉ path ∧ ∃ s ∈ sources, Reaches dependencies s n := by
  obtain ⟨added, rfl, reached⟩ := grown.appended
  rcases List.mem_append.mp member with old | new
  · exact .inl old
  · exact .inr (reached n new)

/-- Visiting nothing appends nothing. -/
theorem refl (settled : Settled dependencies order) (present : ∀ s ∈ sources, s ∈ order) :
    Grown dependencies path sources order order :=
  ⟨settled, ⟨[], (List.append_nil order).symm, fun _ member => by cases member⟩, present⟩

/-- Visiting some sources and then others is visiting all of them. -/
theorem trans {more middle : List NodeId} (first : Grown dependencies path sources order middle)
    (second : Grown dependencies path more middle result) :
    Grown dependencies path (sources ++ more) order result := by
  obtain ⟨added, rfl, reached⟩ := first.appended
  obtain ⟨added', rfl, reached'⟩ := second.appended
  refine ⟨second.settled, ⟨added ++ added', List.append_assoc _ _ _, ?_⟩, ?_⟩
  · intro n member
    rcases List.mem_append.mp member with early | late
    · obtain ⟨off, s, source, reaches⟩ := reached n early
      exact ⟨off, s, List.mem_append_left _ source, reaches⟩
    · obtain ⟨off, s, source, reaches⟩ := reached' n late
      exact ⟨off, s, List.mem_append_right _ source, reaches⟩
  · intro s member
    rcases List.mem_append.mp member with early | late
    · exact second.mem_of_mem (first.covers s early)
    · exact second.covers s late

end Grown

/-- If each step of a fold visits one source, the fold visits all of them. -/
theorem grown_foldlM {ε : Type} {path : List NodeId}
    {step : List NodeId → NodeId → Except ε (List NodeId)}
    (grows : ∀ {order id result}, Settled dependencies order → step order id = .ok result →
      Grown dependencies path [id] order result) :
    ∀ {sources order result : List NodeId}, Settled dependencies order →
      sources.foldlM step order = .ok result →
        Grown dependencies path sources order result := by
  intro sources
  induction sources with
  | nil =>
      intro order result settled succeeded
      cases succeeded
      exact Grown.refl settled fun _ member => by cases member
  | cons source rest ih =>
      intro order result settled succeeded
      rw [List.foldlM_cons] at succeeded
      cases stepped : step order source with
      | error cause => rw [stepped] at succeeded; cases succeeded
      | ok middle =>
          rw [stepped] at succeeded
          have first := grows settled stepped
          exact first.trans (ih first.settled succeeded)

/-! ## One visit -/

section Visit

variable {depth : Nat} {path order : List NodeId} {id : NodeId}

theorem visit_of_mem (member : id ∈ order) :
    visit dependencies depth path order id = .ok order := by
  cases depth <;> simp [visit, member]

theorem visit_of_mem_path (missing : id ∉ order) (current : id ∈ path) :
    visit dependencies depth path order id = .error id := by
  cases depth <;> simp [visit, missing, current]

/-- A node that is met for the first time comes after all that it depends on. -/
theorem visit_of_new (missing : id ∉ order) (off : id ∉ path) :
    visit dependencies (depth + 1) path order id = (do
      let before ← (dependencies id).foldlM (visit dependencies depth (id :: path)) order
      return before ++ [id]) := by
  simp only [visit, missing, off, if_false]

/-- **What a visit that succeeds does**: nothing, or it visits what the node depends on and then
appends the node. -/
theorem visit_ok_cases {result : List NodeId}
    (succeeded : visit dependencies depth path order id = .ok result) :
    (id ∈ order ∧ result = order) ∨ (id ∉ order ∧ id ∉ path ∧ ∃ less middle, depth = less + 1 ∧
      (dependencies id).foldlM (visit dependencies less (id :: path)) order = .ok middle ∧
      result = middle ++ [id]) := by
  by_cases done : id ∈ order
  · rw [visit_of_mem done] at succeeded
    exact .inl ⟨done, (Except.ok.inj succeeded).symm⟩
  · by_cases current : id ∈ path
    · rw [visit_of_mem_path done current] at succeeded
      cases succeeded
    · refine .inr ⟨done, current, ?_⟩
      cases depth with
      | zero => simp [visit, done, current] at succeeded
      | succ less =>
          rw [visit_of_new done current] at succeeded
          cases folded : (dependencies id).foldlM
            (visit dependencies less (id :: path)) order with
          | error cause => rw [folded] at succeeded; cases succeeded
          | ok middle =>
              rw [folded] at succeeded
              exact ⟨less, middle, rfl, folded, (Except.ok.inj succeeded).symm⟩

/-- **What a visit that fails has met**: a node of the path, the depth bound, or a failure
further on. -/
theorem visit_error_cases {closing : NodeId}
    (failed : visit dependencies depth path order id = .error closing) :
    id ∉ order ∧ ((id ∈ path ∧ closing = id) ∨ (id ∉ path ∧ ((depth = 0 ∧ closing = id) ∨
      ∃ less, depth = less + 1 ∧
        (dependencies id).foldlM (visit dependencies less (id :: path)) order =
          .error closing))) := by
  by_cases done : id ∈ order
  · rw [visit_of_mem done] at failed
    cases failed
  · refine ⟨done, ?_⟩
    by_cases current : id ∈ path
    · rw [visit_of_mem_path done current] at failed
      exact .inl ⟨current, (Except.error.inj failed).symm⟩
    · refine .inr ⟨current, ?_⟩
      cases depth with
      | zero =>
          simp only [visit, done, current, if_false, Except.error.injEq] at failed
          exact .inl ⟨rfl, failed.symm⟩
      | succ less =>
          rw [visit_of_new done current] at failed
          cases folded : (dependencies id).foldlM
            (visit dependencies less (id :: path)) order with
          | ok middle => rw [folded] at failed; cases failed
          | error cause =>
              rw [folded] at failed
              obtain rfl : cause = closing := Except.error.inj failed
              exact .inr ⟨less, rfl, folded⟩

end Visit

/-! ## Visits that succeed -/

/-- A visit that succeeds appends the node, after what it depends on. -/
theorem visit_grown {depth : Nat} : ∀ {path order result : List NodeId} {id : NodeId},
    Settled dependencies order → visit dependencies depth path order id = .ok result →
      Grown dependencies path [id] order result := by
  induction depth with
  | zero =>
      intro path order result id settled succeeded
      rcases visit_ok_cases succeeded with ⟨done, rfl⟩ | ⟨_, _, less, _, impossible, _⟩
      · exact Grown.refl settled (List.forall_mem_singleton.mpr done)
      · cases impossible
  | succ depth ih =>
      intro path order result id settled succeeded
      rcases visit_ok_cases succeeded with
        ⟨done, rfl⟩ | ⟨missing, off, less, middle, same, folded, rfl⟩
      · exact Grown.refl settled (List.forall_mem_singleton.mpr done)
      · cases same
        have before := grown_foldlM (fun s v => ih s v) settled folded
        -- The nodes below are not on the path, so the node itself is not among them.
        have new : id ∉ middle := by
          intro member
          rcases before.mem_or_reaches member with old | ⟨apart, _⟩
          · exact missing old
          · exact apart List.mem_cons_self
        obtain ⟨added, rfl, reached⟩ := before.appended
        refine ⟨before.settled.concat new before.covers,
          ⟨added ++ [id], List.append_assoc _ _ _, ?_⟩, ?_⟩
        · intro n member
          rcases List.mem_append.mp member with below | self
          · obtain ⟨apart, s, source, reaches⟩ := reached n below
            exact ⟨fun on => apart (List.mem_cons_of_mem _ on), id, List.mem_singleton_self id,
              reaches.head source⟩
          · rw [List.mem_singleton] at self
            rw [self]
            exact ⟨off, id, List.mem_singleton_self id, .refl⟩
        · intro s member
          rw [List.mem_singleton] at member
          rw [member]
          exact List.mem_append_right _ (List.mem_singleton_self id)

/-! ## Visits that fail -/

/-- As many distinct numbers below a bound as the bound allows. -/
theorem length_le_of_nodup_of_lt {numbers : List NodeId} {bound : Nat} (nodup : numbers.Nodup)
    (below : ∀ n ∈ numbers, n < bound) : numbers.length ≤ bound := by
  have inside : numbers ⊆ List.range bound :=
    fun n member => List.mem_range.mpr (below n member)
  simpa using (List.subperm_of_subset nodup inside).length_le

/-- **The depth bound is never met.**  A path on which another node has room is shorter than
there are nodes. -/
theorem exists_depth_of_not_mem {bound depth : Nat} {path : List NodeId} {id : NodeId}
    (small : id < bound) (off : id ∉ path) (nodup : path.Nodup) (below : ∀ n ∈ path, n < bound)
    (enough : bound ≤ path.length + depth) :
    ∃ less, depth = less + 1 ∧ (id :: path).Nodup ∧ (∀ n ∈ id :: path, n < bound) ∧
      bound ≤ (id :: path).length + less := by
  have longer := List.nodup_cons.mpr ⟨off, nodup⟩
  have inside : ∀ n ∈ id :: path, n < bound := List.forall_mem_cons.mpr ⟨small, below⟩
  have few := length_le_of_nodup_of_lt longer inside
  rw [List.length_cons] at few ⊢
  exact ⟨depth - 1, by omega, longer, inside, by omega⟩

section Bounded

variable {bound : Nat} (bounded : ∀ n, n < bound → ∀ p ∈ dependencies n, p < bound)
include bounded

/-- **A visit that fails has met a cycle.**  All nodes of the path lead to the current one; the
one that is reported is met again, so it depends on itself. -/
theorem visit_error {depth : Nat} :
    ∀ {path order : List NodeId} {id closing : NodeId},
      visit dependencies depth path order id = .error closing → id < bound → path.Nodup →
      (∀ n ∈ path, n < bound) → bound ≤ path.length + depth →
      (∀ n ∈ path, TransGen (Needs dependencies) n id) →
        Reaches dependencies id closing ∧ Cyclic dependencies closing := by
  induction depth with
  | zero =>
      intro path order id closing failed small nodup below enough leads
      rcases visit_error_cases failed with ⟨_, ⟨current, rfl⟩ | ⟨off, _⟩⟩
      · exact ⟨.refl, leads _ current⟩
      · obtain ⟨_, impossible, _⟩ := exists_depth_of_not_mem small off nodup below enough
        cases impossible
  | succ depth ih =>
      intro path order id closing failed small nodup below enough leads
      rcases visit_error_cases failed with
        ⟨_, ⟨current, rfl⟩ | ⟨off, ⟨impossible, _⟩ | ⟨less, same, folded⟩⟩⟩
      · exact ⟨.refl, leads _ current⟩
      · cases impossible
      · cases same
        obtain ⟨_, same, longer, inside, room⟩ :=
          exists_depth_of_not_mem small off nodup below enough
        cases same
        obtain ⟨front, p, back, middle, split, _, failing⟩ := foldlM_error folded
        have needs : Needs dependencies id p := by
          rw [Needs, split]
          exact List.mem_append_right _ List.mem_cons_self
        obtain ⟨reaches, cycle⟩ := ih failing (bounded id small p needs) longer inside room
          (List.forall_mem_cons.mpr
            ⟨.single needs, fun n member => (leads n member).tail needs⟩)
        exact ⟨reaches.head needs, cycle⟩

/-- **A visit depends on the nodes that it can meet, and not on the depth bound.** -/
theorem visit_congr {other : NodeId → List NodeId}
    (same : ∀ n, n < bound → other n = dependencies n) {depth : Nat} :
    ∀ {depth' : Nat} {path order : List NodeId} {id : NodeId}, id < bound → path.Nodup →
      (∀ n ∈ path, n < bound) → bound ≤ path.length + depth → bound ≤ path.length + depth' →
        visit other depth' path order id = visit dependencies depth path order id := by
  induction depth with
  | zero =>
      intro depth' path order id small nodup below enough _
      by_cases done : id ∈ order
      · rw [visit_of_mem done, visit_of_mem done]
      · by_cases current : id ∈ path
        · rw [visit_of_mem_path done current, visit_of_mem_path done current]
        · obtain ⟨_, impossible, _⟩ := exists_depth_of_not_mem small current nodup below enough
          cases impossible
  | succ depth ih =>
      intro depth' path order id small nodup below enough enough'
      by_cases done : id ∈ order
      · rw [visit_of_mem done, visit_of_mem done]
      · by_cases current : id ∈ path
        · rw [visit_of_mem_path done current, visit_of_mem_path done current]
        · obtain ⟨_, equal, longer, inside, room⟩ :=
            exists_depth_of_not_mem small current nodup below enough
          obtain ⟨_, rfl, _, _, room'⟩ :=
            exists_depth_of_not_mem small current nodup below enough'
          cases equal
          rw [visit_of_new done current, visit_of_new done current, same id small]
          refine congrArg (· >>= _) (foldlM_congr fun p needs _ => ?_)
          exact ih (bounded id small p needs) longer inside room room'

end Bounded

end Schedule
end ShaderLoom
