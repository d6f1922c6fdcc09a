import Mathlib.Data.Finset.Card
import Mathlib.Data.Finset.Filter
import Mathlib.Data.List.Pairwise
import Mathlib.Logic.Function.Basic
import Mathlib.Logic.Relation
import ShaderLoom.Stage.Node

/-!
# What requests mean

Nodes are read as functions that nothing is known about: the value in an output slot is
determined by the operation, the values in the input slots, the slot and its type.  Under such a
reading a list of nodes can be understood in two ways.

* Carried out one after another, nodes change a store that assigns values to variables
  (`execute`).
* As requests, in no particular order, they are equations, and a variable is evaluated by
  unfolding the request that writes it (`unfold`).

Unfolding is bounded by a depth.  If every variable is written once and no variable feeds
itself, a depth of as many steps as there are requests is enough: the requests that a variable
depends on become fewer with every step (`above_ssubset`), and the equations hold
(`unfolding_meaning`).

## Main definitions

* `Interpretation` — a reading of nodes
* `Interpretation.execute` — carrying out nodes
* `Interpretation.meaning` — the value of a variable by unfolding requests
* `Interpretation.Unfolding` — values that obey the equations of requests

## Main results

* `Interpretation.unfolding_meaning` — unfolding solves the equations
-/

namespace ShaderLoom

open Relation

universe u

/-- A reading of nodes as functions on values. -/
structure Interpretation (D : Type u) where
  /-- The values of variables before anything is carried out. -/
  initial : Variable → D
  /-- The values of expressions. -/
  literal : String → D
  /-- What an operation on the values of its input slots puts into an output slot of a type. -/
  apply : Operation → List (String × D) → String → DataType → D

namespace Interpretation

variable {D : Type u} (I : Interpretation D)

/-- The value of an operand. -/
def operand (store : Variable → D) : Operand → D
  | .read v => store v
  | .literal text => I.literal text

/-- The value of an output slot of a node. -/
def result (store : Variable → D) (node : Node) (slot : String) (type : DataType) : D :=
  I.apply node.operation (node.inputs.map fun entry => (entry.1, I.operand store entry.2))
    slot type

/-- Carries out a node.  All inputs are read before the first output is written. -/
def step (store : Variable → D) (node : Node) : Variable → D :=
  node.outputs.foldl
    (fun after entry =>
      Function.update after entry.2 (I.result store node entry.1 entry.2.type)) store

/-- Carries out nodes one after another. -/
def execute (nodes : List Node) : Variable → D :=
  nodes.foldl I.step I.initial

/-- Only the values of variables that a node reads matter. -/
theorem result_congr {store other : Variable → D} {node : Node}
    (agree : ∀ v ∈ node.reads, store v = other v) (slot : String) (type : DataType) :
    I.result store node slot type = I.result other node slot type := by
  unfold result
  congr 1
  refine List.map_congr_left ?_
  rintro ⟨slot, operand⟩ member
  cases operand with
  | literal text => rfl
  | read v =>
      have reads : v ∈ node.reads := List.mem_filterMap.mpr ⟨_, member, rfl⟩
      simp only [operand, agree v reads]

theorem result_mapReads (store : Variable → D) (f : Variable → Variable) (node : Node)
    (slot : String) (type : DataType) :
    I.result store (node.mapReads f) slot type =
      I.result (fun v => store (f v)) node slot type := by
  unfold result
  rw [Node.mapReads, List.map_map]
  congr 1
  refine List.map_congr_left ?_
  rintro ⟨slot, operand⟩ _
  cases operand <;> rfl

/-- A node leaves alone what it does not write. -/
theorem step_of_notMem {store : Variable → D} {node : Node} {v : Variable}
    (free : v ∉ node.writes) : I.step store node v = store v := by
  unfold step
  rw [Node.writes] at free
  generalize I.result store node = result
  generalize node.outputs = outputs at free
  induction outputs using List.reverseRecOn with
  | nil => rfl
  | append_singleton outputs last ih =>
      rw [List.map_append, List.mem_append, not_or, List.map_singleton,
        List.mem_singleton] at free
      rw [List.foldl_append, List.foldl_cons, List.foldl_nil,
        Function.update_of_ne free.2, ih free.1]

/-- A node puts the value of a slot into the variable that fills it. -/
theorem step_of_mem {store : Variable → D} {node : Node} (distinct : node.writes.Nodup)
    {slot : String} {v : Variable} (member : (slot, v) ∈ node.outputs) :
    I.step store node v = I.result store node slot v.type := by
  unfold step
  rw [Node.writes] at distinct
  generalize I.result store node = result
  generalize node.outputs = outputs at distinct member
  induction outputs using List.reverseRecOn with
  | nil => cases member
  | append_singleton outputs last ih =>
      rw [List.map_append, List.map_singleton, List.nodup_append] at distinct
      rw [List.foldl_append, List.foldl_cons, List.foldl_nil]
      rcases List.mem_append.mp member with early | late
      · have other : v ≠ last.2 :=
          distinct.2.2 v (List.mem_map_of_mem early) last.2 (List.mem_singleton_self _)
        rw [Function.update_of_ne other, ih distinct.1 early]
      · rw [List.mem_singleton] at late
        subst late
        exact Function.update_self _ _ _

/-! ## Unfolding -/

/-- The request that writes a variable, and the slot that the variable fills. -/
def writer? (requests : List Node) (v : Variable) : Option (Node × String) :=
  requests.findSome? fun node =>
    (node.outputs.find? fun entry => entry.2 == v).map fun entry => (node, entry.1)

/-- The value of a variable by unfolding requests to a given depth. -/
def unfold (requests : List Node) : (depth : Nat) → Variable → D
  | 0, v => I.initial v
  | depth + 1, v =>
    match writer? requests v with
    | none => I.initial v
    | some (node, slot) => I.result (unfold requests depth) node slot v.type

/-- The value of a variable by unfolding requests. -/
def meaning (requests : List Node) (v : Variable) : D :=
  I.unfold requests requests.length v

/-- Values that obey the equations that requests stand for. -/
structure Unfolding (requests : List Node) (value : Variable → D) : Prop where
  /-- What no request writes has its initial value. -/
  input : ∀ v, (∀ request ∈ requests, v ∉ request.writes) → value v = I.initial v
  /-- What a request writes has the value that the request gives it. -/
  output : ∀ request ∈ requests, ∀ slot v, (slot, v) ∈ request.outputs →
    value v = I.result value request slot v.type

/-- One variable feeds another if a request reads the one and writes the other. -/
def Feeds (requests : List Node) (u v : Variable) : Prop :=
  ∃ request ∈ requests, u ∈ request.reads ∧ v ∈ request.writes

/-- Requests have no cycle if some rank rises from what they read to what they write. -/
theorem acyclic_of_rank {requests : List Node} (rank : Variable → Nat)
    (rises : ∀ request ∈ requests, ∀ u ∈ request.reads, ∀ v ∈ request.writes, rank u < rank v)
    (v : Variable) : ¬ TransGen (Feeds requests) v v := by
  have climbs : ∀ {w}, TransGen (Feeds requests) v w → rank v < rank w := by
    intro w path
    induction path with
    | single feeds =>
        obtain ⟨request, member, reads, writes⟩ := feeds
        exact rises request member _ reads _ writes
    | tail _ feeds ih =>
        obtain ⟨request, member, reads, writes⟩ := feeds
        exact Nat.lt_trans ih (rises request member _ reads _ writes)
  intro cycle
  exact Nat.lt_irrefl _ (climbs cycle)

/-- Where every variable is written once, no two requests write the same variable. -/
theorem eq_of_mem_writes {requests : List Node}
    (distinct : (requests.flatMap Node.writes).Nodup) {a b : Node} (memberA : a ∈ requests)
    (memberB : b ∈ requests) {v : Variable} (writesA : v ∈ a.writes) (writesB : v ∈ b.writes) :
    a = b := by
  have apart := (List.nodup_flatMap.mp distinct).2
  have symmetric : Std.Symm (Function.onFun List.Disjoint Node.writes) :=
    ⟨fun _ _ disjoint => List.Disjoint.symm disjoint⟩
  by_contra different
  exact apart.forall memberA memberB different writesA writesB

theorem writer?_eq_none {requests : List Node} {v : Variable}
    (free : ∀ request ∈ requests, v ∉ request.writes) : writer? requests v = none := by
  rw [writer?, List.findSome?_eq_none_iff]
  intro request member
  rw [Option.map_eq_none_iff, List.find?_eq_none]
  intro entry output
  rw [beq_iff_eq]
  rintro rfl
  exact free request member (Node.mem_writes output)

theorem writer?_eq_some {requests : List Node} {v : Variable} {node : Node} {slot : String}
    (found : writer? requests v = some (node, slot)) :
    node ∈ requests ∧ (slot, v) ∈ node.outputs := by
  rw [writer?] at found
  obtain ⟨request, member, mapped⟩ := List.exists_of_findSome?_eq_some found
  obtain ⟨⟨slot', w⟩, first, equal⟩ := Option.map_eq_some_iff.mp mapped
  cases equal
  have same := List.find?_some first
  rw [beq_iff_eq] at same
  subst same
  exact ⟨member, List.mem_of_find?_eq_some first⟩

/-- Where every variable is written once, the writer of a variable is the request that writes
it. -/
theorem writer?_of_mem {requests : List Node} (distinct : (requests.flatMap Node.writes).Nodup)
    {request : Node} (member : request ∈ requests) {slot : String} {v : Variable}
    (output : (slot, v) ∈ request.outputs) : writer? requests v = some (request, slot) := by
  cases found : writer? requests v with
  | none =>
      rw [writer?, List.findSome?_eq_none_iff] at found
      have none := found request member
      rw [Option.map_eq_none_iff, List.find?_eq_none] at none
      simpa using none _ output
  | some pair =>
      obtain ⟨node, slot'⟩ := pair
      obtain ⟨member', output'⟩ := writer?_eq_some found
      have same : node = request := eq_of_mem_writes distinct member' member
        (Node.mem_writes output') (Node.mem_writes output)
      subst same
      have within := (List.nodup_flatMap.mp distinct).1 node member
      have entry := List.inj_on_of_nodup_map within output' output rfl
      cases entry
      rfl

/-! ## Unfolding comes to an end -/

open Classical in
/-- The requests that a variable depends on. -/
noncomputable def above (requests : List Node) (v : Variable) : Finset Node :=
  requests.toFinset.filter fun request =>
    ∃ w ∈ request.writes, ReflTransGen (Feeds requests) w v

open Classical in
theorem mem_above {requests : List Node} {v : Variable} {request : Node} :
    request ∈ above requests v ↔
      request ∈ requests ∧ ∃ w ∈ request.writes, ReflTransGen (Feeds requests) w v := by
  rw [above, Finset.mem_filter, List.mem_toFinset]

theorem card_above_le (requests : List Node) (v : Variable) :
    (above requests v).card ≤ requests.length := by
  classical
  exact (Finset.card_filter_le _ _).trans (List.toFinset_card_le requests)

/-- What a request reads depends on fewer requests than what it writes: not on the request. -/
theorem above_ssubset {requests : List Node} (acyclic : ∀ v, ¬ TransGen (Feeds requests) v v)
    {request : Node} (member : request ∈ requests) {u v : Variable} (reads : u ∈ request.reads)
    (writes : v ∈ request.writes) : above requests u ⊂ above requests v := by
  refine Finset.ssubset_iff_of_subset ?_ |>.mpr ⟨request, ?_, ?_⟩
  · intro other before
    obtain ⟨among, w, written, leads⟩ := mem_above.mp before
    exact mem_above.mpr ⟨among, w, written, leads.tail ⟨request, member, reads, writes⟩⟩
  · exact mem_above.mpr ⟨member, v, writes, .refl⟩
  · intro before
    obtain ⟨_, w, written, leads⟩ := mem_above.mp before
    exact acyclic w (TransGen.tail' leads ⟨request, member, reads, written⟩)

/-- Unfolding any deeper than a variable depends on requests changes nothing. -/
theorem unfold_eq_of_le {requests : List Node} (acyclic : ∀ v, ¬ TransGen (Feeds requests) v v)
    {depth deeper : Nat} {v : Variable} (enough : (above requests v).card ≤ depth)
    (more : depth ≤ deeper) : I.unfold requests deeper v = I.unfold requests depth v := by
  induction depth generalizing deeper v with
  | zero =>
      have free : ∀ request ∈ requests, v ∉ request.writes := by
        intro request member writes
        have empty := Finset.card_eq_zero.mp (Nat.le_zero.mp enough)
        have inside : request ∈ above requests v := mem_above.mpr ⟨member, v, writes, .refl⟩
        rw [empty] at inside
        cases inside
      cases deeper with
      | zero => rfl
      | succ deeper => simp only [unfold, writer?_eq_none free]
  | succ depth ih =>
      obtain ⟨deeper, rfl⟩ := Nat.exists_eq_add_of_le' (Nat.le_trans (Nat.succ_pos depth) more)
      rw [unfold, unfold]
      cases found : writer? requests v with
      | none => rfl
      | some pair =>
          obtain ⟨node, slot⟩ := pair
          obtain ⟨member, output⟩ := writer?_eq_some found
          refine I.result_congr ?_ slot v.type
          intro u reads
          have fewer := Finset.card_lt_card (above_ssubset acyclic member reads
            (Node.mem_writes output))
          exact ih (by omega) (Nat.le_of_succ_le_succ more)

/-- **Unfolding solves the equations of requests** that write every variable once and have no
cycle. -/
theorem unfolding_meaning {requests : List Node}
    (distinct : (requests.flatMap Node.writes).Nodup)
    (acyclic : ∀ v, ¬ TransGen (Feeds requests) v v) :
    I.Unfolding requests (I.meaning requests) := by
  refine ⟨?_, ?_⟩
  · intro v free
    unfold meaning
    cases requests.length with
    | zero => rfl
    | succ depth => rw [unfold, writer?_eq_none free]
  · intro request member slot v output
    have count := card_above_le requests v
    have found := writer?_of_mem distinct member output
    unfold meaning
    obtain ⟨depth, enough⟩ := Nat.exists_eq_add_of_le' (List.length_pos_of_mem member)
    rw [enough] at count ⊢
    rw [unfold, found]
    refine I.result_congr ?_ slot v.type
    intro u reads
    have fewer := Finset.card_lt_card (above_ssubset acyclic member reads
      (Node.mem_writes output))
    exact (I.unfold_eq_of_le acyclic (by omega) (Nat.le_succ depth)).symm

end Interpretation
end ShaderLoom
