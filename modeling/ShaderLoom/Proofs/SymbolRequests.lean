import Mathlib.Data.List.Induction
import ShaderLoom.Proofs.FreshNames

/-!
# Requests to a symbol table

A symbol table is filled by two kinds of requests: for a variable under its own name, and for a
new temporary.  A variable is answered by its key, which is its position in the table.

What one request can do is said once (`SymbolTable.Outcome`): it finds the variable, adds it,
meets another variable of its name, or creates a temporary.  Every request has such an outcome
(`SymbolTable.outcome_answer`), and every outcome keeps names distinct and what is in the table
in its place.

## Main definitions

* `SymbolTable.Request`, `SymbolTable.answer` — a request, and how a table answers it
* `SymbolTable.Outcome` — what a request can do
* `SymbolTable.answers`, `SymbolTable.grown` — the answers to requests, and the table after them

## Main results

* `SymbolTable.outcome_answer` — every request has an outcome
* `SymbolTable.requests_consistent` — names and keys, over all sequences of requests
-/

namespace ShaderLoom

/-- Variables are equal if they agree in all their fields. -/
theorem Variable.eq_iff {v w : Variable} :
    v = w ↔ v.name = w.name ∧ v.type = w.type ∧ v.storage = w.storage ∧
      v.arrayLength = w.arrayLength := by
  cases v
  cases w
  simp

namespace SymbolTable

/-! ## Requests -/

/-- What can be asked of a table: a variable under its own name, or a new temporary. -/
inductive Request where
  | declare (v : Variable)
  | fresh (type : DataType) (name : Option String)

/-- The key of a variable: its position in the table. -/
def keyOf (table : SymbolTable) (v : Variable) : Nat :=
  table.symbols.idxOf v

/-- Answers a request by the key of a variable.  A request that fails leaves the table as it
was. -/
def answer (table : SymbolTable) : Request → Except Error Nat × SymbolTable
  | .declare v =>
    match table.declare v with
    | .ok after => (.ok (after.keyOf v), after)
    | .error error => (.error error, table)
  | .fresh type name =>
    let (v, after) := table.fresh type name
    (.ok (after.keyOf v), after)

/-- The answers to requests one after another, and the table after them. -/
def answerAll (table : SymbolTable) : List Request → List (Except Error Nat) × SymbolTable
  | [] => ([], table)
  | request :: rest =>
    let (first, table) := table.answer request
    let (others, table) := table.answerAll rest
    (first :: others, table)

/-- The answers of a new table to requests. -/
def answers (requests : List Request) : List (Except Error Nat) :=
  (answerAll {} requests).1

/-- The table that grows from requests. -/
def grown (requests : List Request) : SymbolTable :=
  (answerAll {} requests).2

/-! ## One request -/

/-- What a request can do: the answer, and the table after it. -/
inductive Outcome (table : SymbolTable) : Request → Except Error Nat → SymbolTable → Prop
  /-- The variable is in the table. -/
  | found {v : Variable} {key : Nat} (stored : table.symbols[key]? = some v) :
    Outcome table (.declare v) (.ok key) table
  /-- The name is free, and the variable is added. -/
  | added {v : Variable} (free : v.name ∉ table.names) :
    Outcome table (.declare v) (.ok table.symbols.length)
      { table with symbols := table.symbols ++ [v] }
  /-- The name belongs to another variable. -/
  | conflict {v existing : Variable} (stored : existing ∈ table.symbols)
      (named : existing.name = v.name) (differs : existing ≠ v) :
    Outcome table (.declare v) (.error (.variableConflict v existing)) table
  /-- A temporary is added, under the requested name if it is free. -/
  | created {type : DataType} {name : Option String} {actual : String} {counter : Nat}
      (free : actual ∉ table.names)
      (requested : ∀ base, name = some base → (actual = base ↔ base ∉ table.names)) :
    Outcome table (.fresh type name) (.ok table.symbols.length)
      { symbols := table.symbols ++ [{ name := actual, type, storage := .temporary }], counter }

variable {table : SymbolTable}

theorem not_mem_symbols {v : Variable} (free : v.name ∉ table.names) : v ∉ table.symbols :=
  fun member => free (List.mem_map_of_mem member)

theorem eq_of_mem_symbols (distinct : table.names.Nodup) {v w : Variable}
    (memberV : v ∈ table.symbols) (memberW : w ∈ table.symbols) (same : v.name = w.name) :
    v = w :=
  List.inj_on_of_nodup_map distinct memberV memberW same

theorem eq_of_getElem?_symbols (distinct : table.names.Nodup) {i j : Nat} {v : Variable}
    (first : table.symbols[i]? = some v) (second : table.symbols[j]? = some v) : i = j := by
  obtain ⟨inside, -⟩ := List.getElem?_eq_some_iff.mp first
  exact (List.getElem?_inj inside distinct.of_map).mp (first.trans second.symm)

/-- A variable that has just been added has the last key. -/
theorem idxOf_concat {symbols : List Variable} {v : Variable} (fresh : v ∉ symbols) :
    (symbols ++ [v]).idxOf v = symbols.length := by
  rw [List.idxOf_append_of_notMem fresh, List.idxOf_cons_self, Nat.add_zero]

/-- The requested name is taken if it is free. -/
theorem nameFresh_eq_iff (table : SymbolTable) (base : String) :
    (table.nameFresh (some base)).1 = base ↔ base ∉ table.names := by
  constructor
  · intro same
    have free := nameFresh_not_mem table (some base)
    rwa [same] at free
  · intro free
    rw [nameFresh, if_neg free]

/-- **Every request has an outcome.** -/
theorem outcome_answer (table : SymbolTable) (request : Request) :
    table.Outcome request (table.answer request).1 (table.answer request).2 := by
  cases request with
  | declare v =>
      simp only [answer, declare]
      cases found : table.find? v.name with
      | none =>
          have free := find?_eq_none_iff.mp found
          have last := idxOf_concat (not_mem_symbols free)
          simp only [keyOf, last]
          exact .added free
      | some existing =>
          obtain ⟨stored, named⟩ := find?_eq_some found
          by_cases same : existing = v
          · subst same
            simp only [if_true, keyOf]
            exact .found (List.getElem?_idxOf stored)
          · simp only [if_neg same]
            exact .conflict stored named same
  | fresh type name =>
      have free := nameFresh_not_mem table name
      have last :=
        idxOf_concat (v := { name := (table.nameFresh name).1, type, storage := .temporary })
        (not_mem_symbols free)
      simp only [answer, fresh, keyOf, last]
      refine .created free ?_
      rintro base rfl
      exact nameFresh_eq_iff table base

/-- Names stay distinct. -/
theorem Outcome.nodup_names {request : Request} {reply : Except Error Nat} {after : SymbolTable}
    (outcome : table.Outcome request reply after) (distinct : table.names.Nodup) :
    after.names.Nodup := by
  cases outcome with
  | found => exact distinct
  | added free => exact nodup_names_concat distinct free
  | conflict => exact distinct
  | created free => exact nodup_names_concat distinct free

/-- What is in the table stays in its place. -/
theorem Outcome.extends {request : Request} {reply : Except Error Nat} {after : SymbolTable}
    (outcome : table.Outcome request reply after) : table.symbols <+: after.symbols := by
  cases outcome with
  | found => exact List.prefix_rfl
  | added => exact List.prefix_append _ _
  | conflict => exact List.prefix_rfl
  | created => exact List.prefix_append _ _

/-- A key that is answered is the key of a variable. -/
theorem Outcome.key_lt {request : Request} {key : Nat} {after : SymbolTable}
    (outcome : table.Outcome request (.ok key) after) : key < after.symbols.length := by
  cases outcome with
  | found stored => exact (List.getElem?_eq_some_iff.mp stored).1
  | added => simp
  | created => simp

/-! ## Sequences of requests -/

theorem answerAll_append (table : SymbolTable) (earlier later : List Request) :
    table.answerAll (earlier ++ later) =
      ((table.answerAll earlier).1 ++ ((table.answerAll earlier).2.answerAll later).1,
        ((table.answerAll earlier).2.answerAll later).2) := by
  induction earlier generalizing table with
  | nil => rfl
  | cons request rest ih => simp only [List.cons_append, answerAll, ih]

theorem answers_concat (earlier : List Request) (request : Request) :
    answers (earlier ++ [request]) =
      answers earlier ++ [((grown earlier).answer request).1] := by
  rw [answers, answerAll_append]
  rfl

theorem grown_concat (earlier : List Request) (request : Request) :
    grown (earlier ++ [request]) = ((grown earlier).answer request).2 := by
  rw [grown, answerAll_append]
  rfl

theorem nodup_names_grown (requests : List Request) : (grown requests).names.Nodup := by
  induction requests using List.reverseRecOn with
  | nil => exact List.nodup_nil
  | append_singleton earlier request ih =>
      rw [grown_concat]
      exact (outcome_answer _ request).nodup_names ih

/-- What is in the table stays in its place, whatever is asked later. -/
theorem grown_extends (earlier later : List Request) :
    (grown earlier).symbols <+: (grown (earlier ++ later)).symbols := by
  induction later using List.reverseRecOn with
  | nil => simp only [List.append_nil, List.prefix_rfl]
  | append_singleton later request ih =>
      rw [← List.append_assoc, grown_concat]
      exact ih.trans (outcome_answer _ request).extends

/-- All keys answered so far are keys of variables. -/
theorem key_lt_of_mem_answers {requests : List Request} {key : Nat}
    (answered : .ok key ∈ answers requests) : key < (grown requests).symbols.length := by
  induction requests using List.reverseRecOn with
  | nil => exact absurd answered List.not_mem_nil
  | append_singleton earlier request ih =>
      have outcome := outcome_answer (grown earlier) request
      rw [answers_concat] at answered
      rw [grown_concat]
      rcases List.mem_append.mp answered with before | now
      · exact Nat.lt_of_lt_of_le (ih before) outcome.extends.length_le
      · rw [← List.mem_singleton.mp now] at outcome
        exact outcome.key_lt

/-! ## Names and keys -/

/-- A name is looked up to the one variable that has it. -/
theorem find?_eq_some_iff (distinct : table.names.Nodup) {name : String} {v : Variable} :
    table.find? name = some v ↔ v ∈ table.symbols ∧ v.name = name := by
  constructor
  · exact find?_eq_some
  · rintro ⟨member, rfl⟩
    cases found : table.find? v.name with
    | none => exact absurd (List.mem_map_of_mem member) (find?_eq_none_iff.mp found)
    | some other =>
        obtain ⟨stored, named⟩ := find?_eq_some found
        rw [eq_of_mem_symbols distinct stored member named]

/-- What a request for a variable under its own name can do. -/
theorem Outcome.declare_cases {v : Variable} {reply : Except Error Nat} {after : SymbolTable}
    (outcome : table.Outcome (.declare v) reply after) :
    (∃ key, table.symbols[key]? = some v ∧ reply = .ok key ∧ after = table) ∨
      (v.name ∉ table.names ∧ reply = .ok table.symbols.length ∧
        after = { table with symbols := table.symbols ++ [v] }) ∨
      ∃ existing ∈ table.symbols, existing.name = v.name ∧ existing ≠ v ∧
        reply = .error (.variableConflict v existing) ∧ after = table := by
  cases outcome with
  | found stored => exact .inl ⟨_, stored, rfl, rfl⟩
  | added free => exact .inr (.inl ⟨free, rfl, rfl⟩)
  | conflict stored named differs => exact .inr (.inr ⟨_, stored, named, differs, rfl, rfl⟩)

/-- What a request for a new temporary does. -/
theorem Outcome.fresh_cases {type : DataType} {name : Option String} {reply : Except Error Nat}
    {after : SymbolTable} (outcome : table.Outcome (.fresh type name) reply after) :
    ∃ actual counter, actual ∉ table.names ∧
      (∀ base, name = some base → (actual = base ↔ base ∉ table.names)) ∧
      reply = .ok table.symbols.length ∧
      after = { symbols := table.symbols ++ [{ name := actual, type, storage := .temporary }],
                counter } := by
  cases outcome with
  | created free requested => exact ⟨_, _, free, requested, rfl, rfl⟩

theorem concat_ne (table : SymbolTable) (v : Variable) :
    { table with symbols := table.symbols ++ [v] } ≠ table := by
  intro same
  have sizes := congrArg (fun table : SymbolTable => table.symbols.length) same
  simp at sizes

/-- A variable is answered by a key from before if and only if it is the variable of that
key. -/
theorem answer_declare_eq_found_iff (distinct : table.names.Nodup) {v : Variable} {key : Nat} :
    table.answer (.declare v) = (.ok key, table) ↔ table.symbols[key]? = some v := by
  rw [Prod.ext_iff]
  rcases (outcome_answer table (.declare v)).declare_cases with
    ⟨other, stored, replied, kept⟩ | ⟨free, -, grows⟩ |
    ⟨existing, stored, named, differs, replied, -⟩
  · rw [replied, kept]
    constructor
    · rintro ⟨same, -⟩
      rwa [← Except.ok.inj same]
    · intro here
      rw [eq_of_getElem?_symbols distinct stored here]
      exact ⟨rfl, rfl⟩
  · rw [grows]
    constructor
    · rintro ⟨-, same⟩
      exact absurd same (concat_ne table v)
    · intro here
      exact absurd (List.mem_of_getElem? here) (not_mem_symbols free)
  · rw [replied]
    constructor
    · rintro ⟨⟨⟩, -⟩
    · intro here
      exact absurd (eq_of_mem_symbols distinct stored (List.mem_of_getElem? here) named) differs

/-- A variable is added if and only if its name is free. -/
theorem answer_declare_eq_added_iff {v : Variable} :
    table.answer (.declare v) =
        (.ok table.symbols.length, { table with symbols := table.symbols ++ [v] }) ↔
      v.name ∉ table.names := by
  rw [Prod.ext_iff]
  rcases (outcome_answer table (.declare v)).declare_cases with
    ⟨key, stored, -, kept⟩ | ⟨free, replied, grows⟩ | ⟨existing, stored, named, -, replied, -⟩
  · rw [kept]
    constructor
    · rintro ⟨-, same⟩
      exact absurd same.symm (concat_ne table v)
    · intro free
      exact absurd (List.mem_of_getElem? stored) (not_mem_symbols free)
  · exact ⟨fun _ => free, fun _ => ⟨replied, grows⟩⟩
  · rw [replied]
    constructor
    · rintro ⟨⟨⟩, -⟩
    · intro free
      exact absurd (named ▸ List.mem_map_of_mem stored) free

/-- A variable is refused if and only if another one has its name, and then nothing changes. -/
theorem answer_declare_eq_error_iff (distinct : table.names.Nodup) {v : Variable}
    {error : Error} {after : SymbolTable} :
    table.answer (.declare v) = (.error error, after) ↔
      after = table ∧ ∃ existing ∈ table.symbols, existing.name = v.name ∧ existing ≠ v ∧
        error = .variableConflict v existing := by
  rw [Prod.ext_iff]
  rcases (outcome_answer table (.declare v)).declare_cases with
    ⟨key, stored, replied, -⟩ | ⟨free, replied, -⟩ |
    ⟨existing, stored, named, differs, replied, kept⟩
  · rw [replied]
    constructor
    · rintro ⟨⟨⟩, -⟩
    · rintro ⟨-, existing, member, named, differs, -⟩
      exact absurd
        (eq_of_mem_symbols distinct member (List.mem_of_getElem? stored) named) differs
  · rw [replied]
    constructor
    · rintro ⟨⟨⟩, -⟩
    · rintro ⟨-, existing, member, named, -⟩
      exact absurd (named ▸ List.mem_map_of_mem member) free
  · rw [replied, kept]
    constructor
    · rintro ⟨same, rfl⟩
      exact ⟨rfl, existing, stored, named, differs, (Except.error.inj same).symm⟩
    · rintro ⟨rfl, other, member, sameName, -, rfl⟩
      rw [eq_of_mem_symbols distinct member stored (sameName.trans named.symm)]
      exact ⟨rfl, rfl⟩

/-- **Names and keys of a symbol table**, after any sequence of requests, failing ones included.
Names are distinct, and a name is looked up to the one variable that has it.  Whatever is asked
later, every key keeps its variable.

A variable is answered by an existing key if and only if the variable of that key agrees with it
in name, type, storage and array length; it is added, under the next key, if and only if its
name is free; and it is refused, with nothing changed, if and only if a variable of its name
differs from it otherwise.

A new temporary is always answered by a key that no request was answered by before, and it has
the requested name if and only if that name was free. -/
theorem requests_consistent (earlier : List Request) :
    (grown earlier).names.Nodup ∧
    (∀ name v, (grown earlier).find? name = some v ↔
      v ∈ (grown earlier).symbols ∧ v.name = name) ∧
    (∀ later (key : Nat) v, (grown earlier).symbols[key]? = some v →
      (grown (earlier ++ later)).symbols[key]? = some v) ∧
    (∀ v : Variable,
      (∀ key, (grown earlier).answer (.declare v) = (.ok key, grown earlier) ↔
        ∃ existing, (grown earlier).symbols[key]? = some existing ∧ existing.name = v.name ∧
          existing.type = v.type ∧ existing.storage = v.storage ∧
          existing.arrayLength = v.arrayLength) ∧
      ((grown earlier).answer (.declare v) = (.ok (grown earlier).symbols.length,
          { grown earlier with symbols := (grown earlier).symbols ++ [v] }) ↔
        v.name ∉ (grown earlier).names) ∧
      ∀ error after, (grown earlier).answer (.declare v) = (.error error, after) ↔
        after = grown earlier ∧ ∃ existing ∈ (grown earlier).symbols, existing.name = v.name ∧
          ¬ (existing.type = v.type ∧ existing.storage = v.storage ∧
            existing.arrayLength = v.arrayLength) ∧
          error = .variableConflict v existing) ∧
    ∀ type name, ∃ v counter,
      (grown earlier).answer (.fresh type name) = (.ok (grown earlier).symbols.length,
        { symbols := (grown earlier).symbols ++ [v], counter }) ∧
      .ok (grown earlier).symbols.length ∉ answers earlier ∧
      v.type = type ∧ v.storage = .temporary ∧ v.arrayLength = none ∧
      v.name ∉ (grown earlier).names ∧
      ∀ base, name = some base → (v.name = base ↔ base ∉ (grown earlier).names) := by
  have distinct := nodup_names_grown earlier
  refine ⟨distinct, fun name v => find?_eq_some_iff distinct, ?_, ?_, ?_⟩
  · intro later key v stored
    obtain ⟨inside, -⟩ := List.getElem?_eq_some_iff.mp stored
    obtain ⟨added, same⟩ := grown_extends earlier later
    rw [← same, List.getElem?_append_left inside, stored]
  · intro v
    refine ⟨fun key => ?_, answer_declare_eq_added_iff, fun error after => ?_⟩
    · rw [answer_declare_eq_found_iff distinct]
      simp only [← Variable.eq_iff, exists_eq_right]
    · rw [answer_declare_eq_error_iff distinct]
      simp only [Ne, Variable.eq_iff]
      grind
  · intro type name
    obtain ⟨actual, counter, free, requested, replied, grows⟩ :=
      (outcome_answer (grown earlier) (.fresh type name)).fresh_cases
    refine ⟨_, counter, Prod.ext replied grows, ?_, rfl, rfl, rfl, free, requested⟩
    intro answered
    exact Nat.lt_irrefl _ (key_lt_of_mem_answers answered)

end SymbolTable
end ShaderLoom
