import Mathlib.Data.List.Count
import ShaderLoom.Proofs.Numerals
import ShaderLoom.Proofs.SymbolRequests
import ShaderLoom.Proofs.TextCuts

/-!
# The budget of the counter

Numbered names come from one counter, whatever they are based on.  A search tries one number
after another until the name is free, and nothing in the loop says when that will be
(`SymbolTable.Search`).  It ends because names with different numbers are different: each
candidate that is taken is taken by a name of its own, so there are at most as many of them as
names.

Over a whole run the same names pay for all searches together.  The counter never goes back, so
every number is tried at most once.  A number that was tried in vain stands at the end of a name
in the table, and a name ends in one number only (`SymbolTable.numberOf?`), whatever bases were
asked for.  So the numbers tried in vain are no more than the names, and the others were each
given to a temporary (`SymbolTable.Budgeted`).

## Main definitions

* `SymbolTable.Search`, `SymbolTable.WordSearch` — the search as a loop, with a counter that is
  a number and with one that is a word of 32 bits
* `SymbolTable.charged` — how many numbers below the counter belong to names
* `SymbolTable.creations` — how many temporaries are asked for

## Main results

* `SymbolTable.Search.failed_le` — no search fails more often than there are names
* `SymbolTable.budgeted_grown` — what the counter can reach in a run
* `SymbolTable.counter_within_budget` — searches end, and words do not overflow
-/

namespace ShaderLoom
namespace SymbolTable

/-! ## Searching -/

/-- The search with a counter of 32 bits.  There is no way on from a word that has no
successor. -/
inductive WordSearch (taken : List String) (base : String) : UInt32 → String × UInt32 → Prop
  | ends {n : UInt32} (room : n.toNat + 1 < UInt32.size)
    (free : numbered base n.toNat ∉ taken) :
    WordSearch taken base n (numbered base n.toNat, n + 1)
  | goesOn {n : UInt32} {found : String × UInt32} (room : n.toNat + 1 < UInt32.size)
      (used : numbered base n.toNat ∈ taken) (onward : WordSearch taken base (n + 1) found) :
    WordSearch taken base n found

section Search

variable {taken : List String} {base : String} {n failed : Nat} {found : String × Nat}

/-- The candidates that are passed are taken. -/
theorem Search.mem_of_lt (search : Search taken base n failed found) {m : Nat} (low : n ≤ m)
    (high : m < n + failed) : numbered base m ∈ taken := by
  induction search with
  | ends => omega
  | @goesOn n failed found used _ ih =>
      by_cases first : m = n
      · rw [first]
        exact used
      · exact ih (by omega) (by omega)

/-- **No search fails more often than there are names.** -/
theorem Search.failed_le (search : Search taken base n failed found) :
    failed ≤ taken.length := by
  by_contra many
  have passed : ∀ m, n ≤ m → m < n + taken.length → numbered base m ∈ taken := by
    intro m low high
    exact search.mem_of_lt low (by omega)
  have last : numbered base (n + taken.length) ∈ taken := search.mem_of_lt (by omega) (by omega)
  exact exists_numbered_not_mem (by omega) (by omega) passed last

/-- There is one way to search. -/
theorem Search.unique (search : Search taken base n failed found) {failed' : Nat}
    {found' : String × Nat} (other : Search taken base n failed' found') :
    failed = failed' ∧ found = found' := by
  induction search generalizing failed' with
  | ends free =>
      cases other with
      | ends => exact ⟨rfl, rfl⟩
      | goesOn used => exact absurd used free
  | goesOn used _ ih =>
      cases other with
      | ends free => exact absurd used free
      | goesOn _ onward =>
          obtain ⟨rfl, rfl⟩ := ih onward
          exact ⟨rfl, rfl⟩

/-- A word that is not the last one has a successor. -/
theorem toNat_add_one {counter : UInt32} (room : counter.toNat + 1 < UInt32.size) :
    (counter + 1).toNat = counter.toNat + 1 := by
  rw [UInt32.toNat_add]
  exact Nat.mod_eq_of_lt room

/-- A search whose counter stays below the limit of words can be made with words. -/
theorem Search.word (search : Search taken base n failed found) (small : found.2 < UInt32.size)
    {counter : UInt32} (same : counter.toNat = n) :
    ∃ after : UInt32, after.toNat = found.2 ∧
      WordSearch taken base counter (found.1, after) := by
  induction search generalizing counter with
  | @ends n free =>
      subst same
      exact ⟨counter + 1, toNat_add_one small, .ends small free⟩
  | @goesOn n failed found used onward ih =>
      subst same
      have room : counter.toNat + 1 < UInt32.size := by
        rw [onward.found_eq] at small
        omega
      obtain ⟨after, reached, search⟩ := ih small (toNat_add_one room)
      exact ⟨after, reached, .goesOn room used search⟩

end Search

/-! ## The numbers of names -/

/-- The number that a name ends in, after its last underscore. -/
def numberOf? (name : String) : Option Nat :=
  Text.readDigits Text.decimalDigit? 10 (Text.afterLast (· == '_') name.toList)

/-- A numbered name ends in its number, whatever its base is. -/
theorem numberOf?_numbered (base : String) (n : Nat) :
    numberOf? (numbered base n) = some n := by
  have spelled : (numbered base n).toList = base.toList ++ '_' :: Nat.toDigits 10 n := by
    simp [numbered, toString]
  have digits : ∀ c ∈ Nat.toDigits 10 n, (c == '_') = false := by
    intro c member
    have digit := Text.isDigit_of_mem_toDigits member
    refine beq_false_of_ne ?_
    rintro rfl
    cases digit
  rw [numberOf?, spelled, Text.afterLast_append rfl, Text.afterLast_of_forall digits,
    Text.readDecimal_toDigits]

/-- How many numbers below a bound belong to names. -/
def charged (names : List String) (bound : Nat) : Nat :=
  (List.range bound).countP fun n => n ∈ names.filterMap numberOf?

/-- Numbers that belong to names are no more than names, as each name has one. -/
theorem charged_le_length (names : List String) (bound : Nat) :
    charged names bound ≤ names.length := by
  rw [charged, List.countP_eq_length_filter]
  have distinct :=
    List.nodup_range.filter (p := fun n => decide (n ∈ names.filterMap numberOf?))
    (l := List.range bound)
  have within : (List.range bound).filter (fun n => n ∈ names.filterMap numberOf?) ⊆
      names.filterMap numberOf? := by
    intro n member
    exact of_decide_eq_true (List.mem_filter.mp member).2
  calc ((List.range bound).filter fun n => n ∈ names.filterMap numberOf?).length
      ≤ (names.filterMap numberOf?).length := (List.subperm_of_subset distinct within).length_le
    _ ≤ names.length := List.length_filterMap_le numberOf? names

theorem charged_mono {names names' : List String} (grows : names ⊆ names') (bound : Nat) :
    charged names bound ≤ charged names' bound := by
  refine List.countP_mono_left ?_
  intro n _ belongs
  rw [decide_eq_true_iff, List.mem_filterMap] at belongs ⊢
  obtain ⟨name, member, ends⟩ := belongs
  exact ⟨name, grows member, ends⟩

/-- Numbers that are passed because of names are charged to them. -/
theorem charged_add_le {names : List String} {base : String} {n failed : Nat}
    (taken : ∀ m, n ≤ m → m < n + failed → numbered base m ∈ names) :
    charged names n + failed ≤ charged names (n + failed) := by
  induction failed with
  | zero => exact Nat.le_refl _
  | succ failed ih =>
      have earlier := ih fun m low high => taken m low (by omega)
      have last : n + failed ∈ names.filterMap numberOf? :=
        List.mem_filterMap.mpr ⟨_, taken _ (by omega) (by omega), numberOf?_numbered base _⟩
      have counted : charged names (n + (failed + 1)) = charged names (n + failed) + 1 := by
        rw [charged, ← Nat.add_assoc, List.range_succ, List.countP_append,
          List.countP_singleton, if_pos (decide_eq_true last), charged]
      omega

theorem charged_le_succ (names : List String) (n : Nat) :
    charged names n ≤ charged names (n + 1) := by
  rw [charged, charged, List.range_succ, List.countP_append]
  exact Nat.le_add_right _ _

/-! ## Runs -/

/-- Whether a request asks for a new temporary. -/
def Request.isFresh : Request → Bool
  | .declare _ => false
  | .fresh _ _ => true

/-- How many temporaries are asked for. -/
def creations (requests : List Request) : Nat :=
  requests.countP Request.isFresh

/-- The counter is paid for: each number below it was given to one of `created` temporaries, or
it belongs to a name. -/
def Budgeted (table : SymbolTable) (created : Nat) : Prop :=
  table.counter ≤ created + charged table.names table.counter

theorem Budgeted.counter_le {table : SymbolTable} {created : Nat}
    (budgeted : table.Budgeted created) : table.counter ≤ created + table.names.length :=
  budgeted.trans (Nat.add_le_add_left (charged_le_length _ _) _)

theorem names_subset_answer (table : SymbolTable) (request : Request) :
    table.names ⊆ (table.answer request).2.names :=
  ((outcome_answer table request).extends.map Variable.name).subset

/-- The counter after a request: a variable under its own name leaves it alone, and a temporary
may need a search. -/
theorem counter_answer_cases (table : SymbolTable) (request : Request) :
    (table.answer request).2.counter = table.counter ∨
      request.isFresh = true ∧ ∃ base failed found,
        Search table.names base table.counter failed found ∧
        (table.answer request).2.counter = found.2 := by
  cases request with
  | declare v =>
      refine .inl ?_
      rcases (outcome_answer table (.declare v)).declare_cases with
        ⟨_, _, _, kept⟩ | ⟨_, _, grows⟩ | ⟨_, _, _, _, _, kept⟩
      · rw [kept]
      · rw [grows]
      · rw [kept]
  | fresh type name =>
      have counted : (table.answer (.fresh type name)).2.counter =
          (table.nameFresh name).2 := rfl
      rcases nameFresh_cases table name with ⟨base, _, _, named⟩ | ⟨_, named⟩
      · rw [counted, named]
        exact .inl rfl
      · obtain ⟨failed, search⟩ := exists_search table (name.getD "tmp")
        rw [counted, named]
        exact .inr ⟨rfl, _, failed, _, search, rfl⟩

/-- A request is paid for: what a search tries in vain by names, and what it ends with by the
temporary it is for. -/
theorem Budgeted.answer {table : SymbolTable} {created : Nat}
    (budgeted : table.Budgeted created) (request : Request) :
    (table.answer request).2.Budgeted (created + [request].countP Request.isFresh) := by
  rw [Budgeted] at budgeted ⊢
  have grows := charged_mono (names_subset_answer table request)
  rcases counter_answer_cases table request with
    kept | ⟨asks, base, failed, found, search, moved⟩
  · have before := grows table.counter
    rw [kept]
    omega
  · have passed := charged_add_le fun m => search.mem_of_lt (m := m)
    have given := charged_le_succ table.names (table.counter + failed)
    have before := grows (table.counter + failed + 1)
    rw [List.countP_singleton, if_pos asks, moved, search.found_eq]
    dsimp only
    omega

theorem creations_concat (earlier : List Request) (request : Request) :
    creations (earlier ++ [request]) = creations earlier + [request].countP Request.isFresh :=
  List.countP_append

/-- **The counter is paid for** after every run. -/
theorem budgeted_grown (requests : List Request) :
    (grown requests).Budgeted (creations requests) := by
  induction requests using List.reverseRecOn with
  | nil => exact Nat.zero_le _
  | append_singleton earlier request ih =>
      rw [grown_concat, creations_concat]
      exact ih.answer request

/-- The sum that bounds the counter only grows. -/
theorem budget_mono (earlier later : List Request) :
    creations earlier + (grown earlier).names.length ≤
      creations (earlier ++ later) + (grown (earlier ++ later)).names.length := by
  have asked : creations earlier ≤ creations (earlier ++ later) :=
    (List.sublist_append_left earlier later).countP_le
  have stored := ((grown_extends earlier later).map Variable.name).length_le
  exact Nat.add_le_add asked stored

/-- **The search for a free name stays within its budget.**  In every table and for every base
there is one way for the search to go: it ends with the name that the table gives out, which is
not in the table, after at most as many failed candidates as the table has names.

After every run from a new table, the counter is at most the number of temporaries that were
asked for plus the number of names.  As long as that sum is below the limit of words of 32 bits,
no search of the run has a counter that overflows: with a word for a counter, it ends with the
same name and the same counter. -/
theorem counter_within_budget (requests : List Request) :
    (∀ (table : SymbolTable) base, ∃ few ≤ table.names.length,
      (∀ failed found, Search table.names base table.counter failed found ↔
        failed = few ∧ found = table.numberedName base) ∧
      (table.numberedName base).1 ∉ table.names ∧
      ∀ name, table.searched? name = some base →
        table.nameFresh name = table.numberedName base) ∧
    (grown requests).counter ≤ creations requests + (grown requests).names.length ∧
    (creations requests + (grown requests).names.length < UInt32.size →
      ∀ earlier type name later base, requests = earlier ++ .fresh type name :: later →
        (grown earlier).searched? name = some base →
        ∃ word after : UInt32, word.toNat = (grown earlier).counter ∧
          after.toNat = (grown (earlier ++ [.fresh type name])).counter ∧
          WordSearch (grown earlier).names base word
            (((grown earlier).nameFresh name).1, after)) := by
  refine ⟨?_, (budgeted_grown requests).counter_le, ?_⟩
  · intro table base
    obtain ⟨few, search⟩ := exists_search table base
    refine ⟨few, search.failed_le, ?_, search.not_mem, fun name => nameFresh_of_searched⟩
    intro failed found
    constructor
    · exact fun other => other.unique search
    · rintro ⟨rfl, rfl⟩
      exact search
  · rintro small earlier type name later base rfl searches
    rw [List.append_cons] at small
    have named := nameFresh_of_searched searches
    have counted : (grown (earlier ++ [.fresh type name])).counter =
        ((grown earlier).numberedName base).2 := by
      rw [grown_concat, ← named]
      rfl
    have fits : ((grown earlier).numberedName base).2 < UInt32.size := by
      rw [← counted]
      have bound := (budgeted_grown (earlier ++ [.fresh type name])).counter_le
      have total := budget_mono (earlier ++ [.fresh type name]) later
      omega
    obtain ⟨failed, search⟩ := exists_search (grown earlier) base
    have start : (UInt32.ofNat (grown earlier).counter).toNat = (grown earlier).counter := by
      refine UInt32.toNat_ofNat_of_lt' (Nat.lt_trans ?_ fits)
      rw [search.found_eq]
      omega
    obtain ⟨after, reached, words⟩ := search.word fits start
    rw [counted, named]
    exact ⟨_, after, start, reached, words⟩

/-- Temporaries of two bases, beside variables whose names look like theirs. -/
def contested : List Request :=
  [.declare { name := "tmp_0", type := .float, storage := .uniform },
    .declare { name := "glow_2", type := .float, storage := .uniform },
    .fresh .vec3 none, .fresh .vec3 (some "glow"), .fresh .vec3 (some "glow")]

/-- Both bases meet a name that is taken, at different numbers of the one counter. -/
theorem counter_within_budget_contested :
    creations contested + (grown contested).names.length < UInt32.size ∧
    (grown contested).names = ["tmp_0", "glow_2", "tmp_1", "glow", "glow_3"] ∧
    ∃ word after : UInt32, word.toNat = 2 ∧ after.toNat = 4 ∧
      WordSearch ["tmp_0", "glow_2", "tmp_1", "glow"] "glow" word ("glow_3", after) := by
  have small : creations contested + (grown contested).names.length < UInt32.size := by
    decide +kernel
  have searches : (grown (contested.take 4)).searched? (some "glow") = some "glow" := by
    decide +kernel
  exact ⟨small, by decide +kernel,
    (counter_within_budget contested).2.2 small (contested.take 4) .vec3
      (some "glow") [] "glow" rfl searches⟩

end SymbolTable
end ShaderLoom
