import Mathlib.Data.List.Nodup
import Mathlib.Data.List.Perm.Subperm
import Mathlib.Data.List.Range
import ShaderLoom.Glsl.SymbolTable

/-!
# Fresh names

The names in a symbol table are pairwise distinct, whatever is declared and however many
temporaries are created.  The reason is that the search for a numbered name ends at a free one.
As a loop it has no bound (`SymbolTable.Search`); but candidates with different numbers are
different, so they cannot all be taken, and the attempts that the bounded search makes are
enough (`exists_search_freeName`).

## Main definitions

* `SymbolTable.Search` — the search for a numbered name as a loop
* `SymbolTable.numberedName` — the numbered name that a table gives out next

## Main results

* `SymbolTable.exists_search` — every search ends
* `SymbolTable.nameFresh_not_mem` — the name of a new temporary is free
* `SymbolTable.nodup_names_declare`, `SymbolTable.nodup_names_fresh` — names stay distinct
-/

namespace ShaderLoom
namespace SymbolTable

theorem numbered_injective {base : String} {m n : Nat}
    (same : numbered base m = numbered base n) : m = n := by
  have characters := congrArg String.toList same
  simp only [numbered, String.toList_append, toString] at characters
  have digits := List.append_cancel_left characters
  have values := congrArg (fun text => Nat.ofDigitChars 10 text 0) digits
  simpa using values

/-- Names with as many different numbers as there are names cannot all be taken and one more be
taken as well. -/
theorem exists_numbered_not_mem {taken : List String} {base : String} {start n : Nat}
    (many : taken.length ≤ n - start) (before : start ≤ n)
    (all : ∀ m, start ≤ m → m < n → numbered base m ∈ taken) : numbered base n ∉ taken := by
  intro last
  have candidates : (List.range' start (n - start + 1)).map (numbered base) ⊆ taken := by
    intro name member
    obtain ⟨m, inside, rfl⟩ := List.mem_map.mp member
    rw [List.mem_range'_1] at inside
    by_cases final : m = n
    · rw [final]
      exact last
    · exact all m inside.1 (by omega)
  have distinct : ((List.range' start (n - start + 1)).map (numbered base)).Nodup :=
    List.Nodup.map (fun _ _ same => numbered_injective same) List.nodup_range'
  have few := (List.subperm_of_subset distinct candidates).length_le
  rw [List.length_map, List.length_range'] at few
  omega

/-! ## Searching -/

/-- The search for a free numbered name.  The loop tries the numbers from `n` on; `failed`
candidates are taken, and then it ends with a name that is free and with the counter after
it. -/
inductive Search (taken : List String) (base : String) : (n failed : Nat) → String × Nat → Prop
  | ends {n : Nat} (free : numbered base n ∉ taken) :
    Search taken base n 0 (numbered base n, n + 1)
  | goesOn {n failed : Nat} {found : String × Nat} (used : numbered base n ∈ taken)
      (onward : Search taken base (n + 1) failed found) : Search taken base n (failed + 1) found

/-- The numbered name that a table gives out next, and the counter after it. -/
def numberedName (table : SymbolTable) (base : String) : String × Nat :=
  freeName table.names base table.names.length table.counter

/-- The base that a numbered name is searched for when a temporary is asked for, if there is a
search. -/
def searched? (table : SymbolTable) : Option String → Option String
  | none => some "tmp"
  | some base => if base ∈ table.names then some base else none

section Search

variable {taken : List String} {base : String} {n failed : Nat} {found : String × Nat}

/-- The search ends with the candidate after those that failed. -/
theorem Search.found_eq (search : Search taken base n failed found) :
    found = (numbered base (n + failed), n + failed + 1) := by
  induction search with
  | ends => rfl
  | @goesOn n failed _ _ _ ih =>
      rw [ih, Nat.add_right_comm n 1 failed, Nat.add_assoc n failed 1]

theorem Search.not_mem (search : Search taken base n failed found) : found.1 ∉ taken := by
  induction search with
  | ends free => exact free
  | goesOn _ _ ih => exact ih

/-- With enough attempts, the bounded search is the search without a bound.  The candidates from
`start` on have been passed. -/
theorem exists_search_freeName {start : Nat} :
    ∀ {attempts n : Nat}, taken.length ≤ attempts + (n - start) → start ≤ n →
      (∀ m, start ≤ m → m < n → numbered base m ∈ taken) →
        ∃ failed, Search taken base n failed (freeName taken base attempts n) := by
  intro attempts
  induction attempts with
  | zero =>
      intro n many before all
      exact ⟨0, .ends (exists_numbered_not_mem (by omega) before all)⟩
  | succ attempts ih =>
      intro n many before all
      rw [freeName]
      split
      · rename_i used
        have passed : ∀ m, start ≤ m → m < n + 1 → numbered base m ∈ taken := by
          intro m low high
          by_cases last : m = n
          · rw [last]
            exact used
          · exact all m low (by omega)
        obtain ⟨failed, search⟩ := ih (by omega) (by omega) passed
        exact ⟨failed + 1, .goesOn used search⟩
      · rename_i free
        exact ⟨0, .ends free⟩

end Search

/-- **Every search ends.** -/
theorem exists_search (table : SymbolTable) (base : String) :
    ∃ failed, Search table.names base table.counter failed (table.numberedName base) := by
  refine exists_search_freeName (Nat.le_add_right _ _) (Nat.le_refl table.counter) ?_
  intro m low high
  omega

/-- A temporary gets the requested name if it is free, and then the counter stays; else there is
a search. -/
theorem nameFresh_cases (table : SymbolTable) (name : Option String) :
    (∃ base, name = some base ∧ base ∉ table.names ∧
        table.nameFresh name = (base, table.counter)) ∨
      table.searched? name = some (name.getD "tmp") ∧
        table.nameFresh name = table.numberedName (name.getD "tmp") := by
  cases name with
  | none => exact .inr ⟨rfl, rfl⟩
  | some base =>
      rw [searched?, nameFresh]
      by_cases used : base ∈ table.names
      · rw [if_pos used, if_pos used]
        exact .inr ⟨rfl, rfl⟩
      · rw [if_neg used, if_neg used]
        exact .inl ⟨base, rfl, used, rfl⟩

/-- A search gives the name. -/
theorem nameFresh_of_searched {table : SymbolTable} {name : Option String} {base : String}
    (searches : table.searched? name = some base) :
    table.nameFresh name = table.numberedName base := by
  rcases nameFresh_cases table name with ⟨_, rfl, free, _⟩ | ⟨some, named⟩
  · rw [searched?, if_neg free] at searches
    cases searches
  · rw [named, Option.some.inj (some.symm.trans searches)]

/-- **The name of a new temporary is free.** -/
theorem nameFresh_not_mem (table : SymbolTable) (name : Option String) :
    (table.nameFresh name).1 ∉ table.names := by
  rcases nameFresh_cases table name with ⟨base, _, free, named⟩ | ⟨_, named⟩
  · rw [named]
    exact free
  · obtain ⟨failed, search⟩ := exists_search table (name.getD "tmp")
    rw [named]
    exact search.not_mem

/-- The name of a new temporary is the one that was asked for or a numbered one. -/
theorem nameFresh_eq (table : SymbolTable) (name : Option String) :
    (table.nameFresh name).1 = name.getD "tmp" ∨
      ∃ n, (table.nameFresh name).1 = numbered (name.getD "tmp") n := by
  rcases nameFresh_cases table name with ⟨base, rfl, _, named⟩ | ⟨_, named⟩
  · rw [named]
    exact .inl rfl
  · obtain ⟨failed, search⟩ := exists_search table (name.getD "tmp")
    rw [named, search.found_eq]
    exact .inr ⟨_, rfl⟩

/-! ## Distinct names -/

theorem find?_eq_none_iff {table : SymbolTable} {name : String} :
    table.find? name = none ↔ name ∉ table.names := by
  rw [find?, List.find?_eq_none, names, List.mem_map]
  constructor
  · rintro other ⟨v, member, rfl⟩
    exact other v member (beq_self_eq_true _)
  · intro absent v member same
    exact absent ⟨v, member, beq_iff_eq.mp same⟩

theorem find?_eq_some {table : SymbolTable} {name : String} {v : Variable}
    (found : table.find? name = some v) : v ∈ table.symbols ∧ v.name = name := by
  rw [find?] at found
  have same := List.find?_some found
  exact ⟨List.mem_of_find?_eq_some found, beq_iff_eq.mp same⟩

theorem nodup_names_concat {table : SymbolTable} (nodup : table.names.Nodup) {v : Variable}
    (free : v.name ∉ table.names) : ((table.symbols ++ [v]).map Variable.name).Nodup := by
  rw [List.map_append, List.map_singleton, List.nodup_append]
  refine ⟨nodup, List.nodup_singleton _, ?_⟩
  intro a member b single equal
  rw [List.mem_singleton] at single
  exact free (single ▸ equal ▸ member)

/-- Declarations keep names distinct. -/
theorem nodup_names_declare {table after : SymbolTable} {v : Variable}
    (nodup : table.names.Nodup) (declared : table.declare v = .ok after) :
    after.names.Nodup := by
  rw [declare] at declared
  cases found : table.find? v.name with
  | none =>
      rw [found] at declared
      cases declared
      exact nodup_names_concat nodup (find?_eq_none_iff.mp found)
  | some existing =>
      rw [found] at declared
      dsimp only at declared
      split at declared
      · cases declared
        exact nodup
      · cases declared

/-- New temporaries keep names distinct. -/
theorem nodup_names_fresh {table : SymbolTable} (nodup : table.names.Nodup) (type : DataType)
    (name : Option String) : (table.fresh type name).2.names.Nodup :=
  nodup_names_concat nodup (nameFresh_not_mem table name)

end SymbolTable
end ShaderLoom
