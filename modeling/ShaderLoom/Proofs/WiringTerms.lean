import ShaderLoom.Proofs.WiringLogic

/-!
# What drafts compute

The wiring of a stage can be followed term by term: `Denotes` is the judgment that a step
succeeds and gives a variable that stands for a given term.  Its rules say how terms grow, node
by node.  A construction that is shared denotes the same term whether it is carried out now or
was before (`denotes_shared`).

## Main definitions

* `Draft.Holds`, `Draft.Fills` — variables and inputs with given terms
* `Denotes` — the judgment about steps

## Main results

* `Draft.Holds.mono` — terms persist
* `denotes_node`, `denotes_shared`, `denotes_mapM`, `denotes_foldlM` — how terms grow
* `yields_output` — the outputs of a stage and their terms
-/

namespace ShaderLoom
namespace Wire

open StageGraph

variable {V : Vocabulary} {name : String}

/-! ## Terms of drafts -/

namespace Draft

/-- What is written stands for an operation, and what is not stands for itself. -/
theorem term_cases (draft : Draft V name) (v : Variable) :
    draft.term v = .input v ∨ ∃ operation arguments slot,
      draft.term v = .apply operation arguments slot v.type := by
  by_cases member : v ∈ written draft.edits
  · obtain ⟨request, among, writes⟩ := List.mem_flatMap.mp member
    obtain ⟨⟨slot, w⟩, output, rfl⟩ := List.mem_map.mp writes
    exact .inr ⟨_, _, slot, draft.unfolding_term.output request among slot w output⟩
  · exact .inl (draft.unfolding_term.input v fun request among writes =>
      member (mem_written among writes))

/-- Terms have the types of their variables. -/
theorem type?_term (draft : Draft V name) (v : Variable) :
    (draft.term v).type? = some v.type := by
  rcases draft.term_cases v with input | ⟨_, _, _, apply⟩
  · rw [input]
    rfl
  · rw [apply]
    rfl

/-- Only an input stands for an input. -/
theorem eq_of_term_eq_input (draft : Draft V name) {v u : Variable}
    (input : draft.term v = .input u) : v = u := by
  rcases draft.term_cases v with same | ⟨_, _, _, apply⟩
  · rw [same] at input
    cases input
    rfl
  · rw [apply] at input
    cases input

/-- A variable has a value and unfolds to a term. -/
def Holds (draft : Draft V name) (v : Variable) (t : Term) : Prop :=
  draft.Has v ∧ draft.term v = t

theorem Holds.mono {earlier later : Draft V name} {v : Variable} {t : Term}
    (holds : earlier.Holds v t) (leads : earlier.Leads later) : later.Holds v t :=
  ⟨holds.1.mono leads, (term_eq_of_leads holds.1 leads).trans holds.2⟩

theorem holds_of_readable {draft : Draft V name} {v : Variable} (has : draft.Has v)
    (readable : Readable V.stage v) : draft.Holds v (.input v) :=
  ⟨has, draft.term_of_readable readable⟩

/-- The type of a variable can be read off the term that it stands for. -/
theorem Holds.type_eq {draft : Draft V name} {v : Variable} {t : Term} (holds : draft.Holds v t)
    {type : DataType} (typed : t.type? = some type) : v.type = type := by
  rw [← holds.2, draft.type?_term] at typed
  cases typed
  rfl

/-- Inputs are at hand, and stand for terms. -/
structure Fills (draft : Draft V name) (inputs : List (String × Operand))
    (arguments : List (String × Term)) : Prop where
  supplies : draft.Supplies inputs
  terms : inputs.map (fun entry => (entry.1, Term.free.operand draft.term entry.2)) = arguments

theorem fills_nil (draft : Draft V name) : draft.Fills [] [] :=
  ⟨draft.supplies_nil, rfl⟩

theorem fills_cons {draft : Draft V name} {v : Variable} {t : Term} (holds : draft.Holds v t)
    {inputs : List (String × Operand)} {arguments : List (String × Term)}
    (rest : draft.Fills inputs arguments) (slot : String) :
    draft.Fills ((slot, .read v) :: inputs) ((slot, t) :: arguments) := by
  refine ⟨supplies_cons holds.1 rest.supplies slot, ?_⟩
  rw [List.map_cons, rest.terms]
  exact congrArg (fun t => (slot, t) :: arguments) holds.2

theorem Fills.mono {earlier later : Draft V name} {inputs : List (String × Operand)}
    {arguments : List (String × Term)} (fills : earlier.Fills inputs arguments)
    (leads : earlier.Leads later) : later.Fills inputs arguments := by
  refine ⟨?_, ?_⟩
  · rintro ⟨slot, operand⟩ member
    have ready := fills.supplies _ member
    cases operand with
    | read v => exact Has.mono ready leads
    | literal text => exact ready
  · rw [← fills.terms]
    refine List.map_congr_left ?_
    rintro ⟨slot, operand⟩ member
    have ready := fills.supplies _ member
    cases operand with
    | read v => exact congrArg (Prod.mk slot) (term_eq_of_leads ready leads)
    | literal text => rfl

/-- Variables in numbered slots stand for their terms. -/
theorem fills_numberedInputs {draft : Draft V name} {vs : List Variable} {ts : List Term}
    (holds : List.Forall₂ draft.Holds vs ts) (slot : Nat → String) :
    draft.Fills (numberedInputs slot vs)
      (ts.zipIdx.map fun entry => (slot entry.2, entry.1)) := by
  have each : ∀ start, draft.Fills
      ((vs.zipIdx start).map fun entry => (slot entry.2, .read entry.1))
      ((ts.zipIdx start).map fun entry => (slot entry.2, entry.1)) := by
    induction holds with
    | nil => exact fun _ => draft.fills_nil
    | cons first _ ih => exact fun start => fills_cons first (ih (start + 1)) (slot start)
  exact each 0

/-- Variables for numbered terms, in slots of their numbers. -/
theorem fills_range {draft : Draft V name} {vs : List Variable}
    {value : Nat → Term} {count : Nat}
    (holds : List.Forall₂ draft.Holds vs ((List.range count).map value)) (slot : Nat → String) :
    draft.Fills (numberedInputs slot vs)
      ((List.range count).map fun index => (slot index, value index)) := by
  have fills := fills_numberedInputs holds slot
  have numbered :
      (((List.range count).map value).zipIdx.map fun entry => (slot entry.2, entry.1)) =
      (List.range count).map fun index => (slot index, value index) := by
    refine List.ext_getElem (by simp) fun index _ _ => ?_
    simp
  rw [numbered] at fills
  exact fills

/-- What a request writes unfolds to its operation on what its inputs unfold to. -/
theorem holds_of_requested {draft : Draft V name} {operation : Operation}
    {inputs : List (String × Operand)} {slot : String} {out : Variable}
    (member : { operation, inputs, outputs := [(slot, out)] } ∈ requested draft.edits)
    {arguments : List (String × Term)} (fills : draft.Fills inputs arguments) :
    draft.Holds out (.apply operation arguments slot out.type) := by
  refine ⟨has_of_requested member, ?_⟩
  rw [draft.unfolding_term.output _ member slot out (List.mem_singleton_self _), ← fills.terms]
  rfl

end Draft

/-! ## Steps that denote terms -/

/-- A step succeeds on a draft and gives a variable that unfolds to a term. -/
def Denotes (step : Wire Variable) (draft : Draft V name) (t : Term) : Prop :=
  Yields step draft [] fun v later => later.Holds v t

/-- **A node with a fresh result** gives a variable that unfolds to its operation. -/
theorem denotes_node {draft : Draft V name} {operation : Operation}
    {inputs : List (String × Operand)} {arguments : List (String × Term)} {slot : String}
    {out : Variable} {type : DataType}
    (complete : Node.Complete { operation, inputs, outputs := [(slot, out)] })
    (worded : Node.Worded { operation, inputs, outputs := [(slot, out)] } operation)
    (fills : draft.Fills inputs arguments) (fresh : draft.Fresh out ∧ out.type = type) :
    Denotes (node operation inputs slot out) draft (.apply operation arguments slot type) := by
  refine (yields_add_fresh complete worded fills.supplies fresh.1).bind ?_
  intro _ later leads _ member
  obtain ⟨_, term⟩ := Draft.holds_of_requested member (fills.mono leads)
  rw [fresh.2] at term
  refine ⟨later.graph.resolve out, later, rfl, .refl later, (List.append_nil _).symm, rfl, ?_,
    (later.term_resolve out).trans term⟩
  exact Draft.has_of_written
    (later.resolve_mem_written (mem_written member (List.mem_singleton_self out)))

/-- A node whose result is used under its own name. -/
theorem denotes_kept {draft : Draft V name} {operation : Operation}
    {inputs : List (String × Operand)} {arguments : List (String × Term)} {slot : String}
    {out : Variable} {type : DataType}
    (complete : Node.Complete { operation, inputs, outputs := [(slot, out)] })
    (worded : Node.Worded { operation, inputs, outputs := [(slot, out)] } operation)
    (fills : draft.Fills inputs arguments) (fresh : draft.Fresh out ∧ out.type = type) :
    Denotes (do add { operation, inputs, outputs := [(slot, out)] }; return out) draft
      (.apply operation arguments slot type) := by
  refine (yields_add_fresh complete worded fills.supplies fresh.1).bind ?_
  intro _ later leads _ member
  have holds := Draft.holds_of_requested member (fills.mono leads)
  rw [fresh.2] at holds
  exact Yields.pure holds

/-- **A node that writes an output** of the stage makes it unfold to its operation. -/
theorem yields_output {draft : Draft V name} {operation : Operation}
    {inputs : List (String × Operand)} {arguments : List (String × Term)} {slot : String}
    {out : Variable} (complete : Node.Complete { operation, inputs, outputs := [(slot, out)] })
    (worded : Node.Worded { operation, inputs, outputs := [(slot, out)] } operation)
    (fills : draft.Fills inputs arguments) (pending : draft.Pending out) :
    Yields (add { operation, inputs, outputs := [(slot, out)] }) draft [out] fun _ later =>
      later.Holds out (.apply operation arguments slot out.type) := by
  refine (yields_add_output complete worded fills.supplies pending).imp ?_
  intro _ later leads member
  exact Draft.holds_of_requested member (fills.mono leads)

/-- A variable is copied into an output of the stage. -/
theorem yields_assign {draft : Draft V name} {source out : Variable} {t : Term}
    (holds : draft.Holds source t) (pending : draft.Pending out) :
    Yields (assign source out) draft [out] fun _ later =>
      later.Holds out (.apply .assign [("in", t)] "out" out.type) := by
  refine yields_output ?_ trivial (Draft.fills_cons holds draft.fills_nil "in") pending
  exact Node.Complete.of_slots (List.Subset.refl _) (List.Subset.refl _) nofun trivial

/-- **A shared construction** denotes what its key stands for, be it carried out now or
before. -/
theorem denotes_shared {draft : Draft V name} {key : String} {t : Term}
    (stands : V.shares key = some t) {construction : Wire Variable}
    (denotes : Denotes construction draft t) : Denotes (shared key construction) draft t := by
  refine Yields.get ?_
  cases found : draft.graph.memo? key with
  | some v =>
      obtain ⟨front, back, entries, _⟩ := List.lookup_eq_some_iff.mp found
      have member : (key, v) ∈ draft.graph.memo := by
        rw [entries]
        exact List.mem_append_right _ List.mem_cons_self
      obtain ⟨has, recalls⟩ := draft.sound.shared (key, v) member
      exact Yields.pure ⟨has, Option.some_inj.mp (recalls.symm.trans stands)⟩
  | none =>
      refine Yields.bind denotes ?_
      intro v later _ _ holds
      have shares : V.shares key = some (later.term v) := by rw [stands, holds.2]
      refine (yields_share later holds.1 shares).imp ?_
      rintro _ after leads rfl
      exact holds.mono leads

/-- A loop that collects variables for terms, while an invariant is kept. -/
theorem yields_mapM {α : Type} {step : α → Wire Variable} {value : α → Term}
    {invariant : Draft V name → Prop} {items : List α} {draft : Draft V name}
    (start : invariant draft)
    (steps : ∀ item ∈ items, ∀ later, draft.Leads later → invariant later →
      Yields (step item) later [] fun v after => after.Holds v (value item) ∧ invariant after) :
    Yields (items.mapM step) draft [] fun vs later =>
      List.Forall₂ later.Holds vs (items.map value) ∧ invariant later := by
  induction items generalizing draft with
  | nil => exact Yields.pure ⟨.nil, start⟩
  | cons item items ih =>
      rw [List.mapM_cons]
      refine (steps item List.mem_cons_self draft (.refl draft) start).bind ?_
      rintro v middle leads _ ⟨first, kept⟩
      have rest := ih kept fun other member later goes =>
        steps other (List.mem_cons_of_mem _ member) later (leads.trans goes)
      refine rest.bind ?_
      rintro vs later goes _ ⟨others, last⟩
      exact Yields.pure ⟨.cons (first.mono goes) others, last⟩

/-- A loop that collects variables for terms. -/
theorem denotes_mapM {α : Type} {step : α → Wire Variable} {value : α → Term} {items : List α}
    {draft : Draft V name}
    (denotes : ∀ item ∈ items, ∀ later, draft.Leads later →
      Denotes (step item) later (value item)) :
    Yields (items.mapM step) draft [] fun vs later =>
      List.Forall₂ later.Holds vs (items.map value) := by
  have loop : Yields (items.mapM step) draft [] fun vs later =>
      List.Forall₂ later.Holds vs (items.map value) ∧ True := by
    refine yields_mapM trivial fun item member later leads _ => ?_
    exact (denotes item member later leads).imp fun _ _ _ holds => ⟨holds, trivial⟩
  exact loop.imp fun _ _ _ collected => collected.1

/-- A loop that replaces a variable by another, and its term with it. -/
theorem denotes_foldlM {α : Type} {step : Variable → α → Wire Variable}
    {value : Term → α → Term} {items : List α}
    (denotes : ∀ {v t} {draft : Draft V name}, ∀ item ∈ items, draft.Holds v t →
      Denotes (step v item) draft (value t item)) :
    ∀ {v t} {draft : Draft V name}, draft.Holds v t →
      Denotes (items.foldlM step v) draft (items.foldl value t) := by
  induction items with
  | nil => exact fun holds => Yields.pure holds
  | cons item items ih =>
      intro v t draft holds
      rw [List.foldlM_cons, List.foldl_cons]
      refine (denotes item List.mem_cons_self holds).bind ?_
      intro w later _ _ next
      exact ih (fun other member => denotes other (List.mem_cons_of_mem _ member)) next

theorem denotes_multiply (draft : Draft V name) {a b : Variable} {s t : Term}
    (holdsA : draft.Holds a s) (holdsB : draft.Holds b t) (type : DataType) {base : String}
    (plain : isPlain base = true) :
    Denotes (multiply a b type base) draft (.product s t type) := by
  refine (yields_named draft type plain).bind ?_
  intro out later leads _ fresh
  refine denotes_node ?_ ?_ ?_ fresh
  · exact Node.Complete.of_spells rfl (Snippet.spells_literal rfl)
      ["a", "b", "result"] rfl (by decide)
  · exact worded_inlineCode "%a * %b" rfl (by simp) ⟨by decide, rfl, rfl, rfl⟩
  · exact Draft.fills_cons (holdsA.mono leads)
      (Draft.fills_cons (holdsB.mono leads) later.fills_nil "b") "a"

theorem denotes_normalize (draft : Draft V name) {vector : Variable} {t : Term}
    (holds : draft.Holds vector t) {type : DataType} (typed : vector.type = type)
    {base : Option String} (plain : isPlain (base.getD "tmp") = true) :
    Denotes (normalize vector base) draft (.normalized t type) := by
  subst typed
  refine (yields_temporary draft vector.type base plain).bind ?_
  intro out later leads _ fresh
  refine denotes_node ?_ trivial ?_ fresh
  · exact Node.Complete.of_slots (List.Subset.refl _) (List.Subset.refl _) nofun trivial
  · exact Draft.fills_cons (holds.mono leads) later.fills_nil "vec"

end Wire
end ShaderLoom
