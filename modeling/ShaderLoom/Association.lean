/-!
# Associations

Finite maps as lists of pairs in order of first insertion.  Inserting keeps the keys pairwise
distinct: a new value for a key takes the place of the old one.
-/

namespace ShaderLoom
namespace Association

/-- Puts a value under a key, in place of any other. -/
def insert {κ ν : Type} [DecidableEq κ] (key : κ) (value : ν) : List (κ × ν) → List (κ × ν)
  | [] => [(key, value)]
  | entry :: rest =>
    if entry.1 = key then (key, value) :: rest else entry :: insert key value rest

/-- Removes a key. -/
def erase {κ ν : Type} [DecidableEq κ] (key : κ) (entries : List (κ × ν)) : List (κ × ν) :=
  entries.filter fun entry => entry.1 ≠ key

/-! ## Lookup -/

theorem mem_of_lookup {κ ν : Type} [BEq κ] [LawfulBEq κ] {entries : List (κ × ν)} {key : κ}
    {value : ν} (found : entries.lookup key = some value) : (key, value) ∈ entries := by
  obtain ⟨front, back, rfl, -⟩ := List.lookup_eq_some_iff.mp found
  exact List.mem_append_right _ List.mem_cons_self

variable {κ ν : Type} [DecidableEq κ]

theorem lookup_insert_self (key : κ) (value : ν) (entries : List (κ × ν)) :
    (insert key value entries).lookup key = some value := by
  induction entries with
  | nil => simp [insert]
  | cons entry rest ih =>
      rw [insert]
      split
      · simp
      · rename_i other
        rw [List.lookup_cons, beq_false_of_ne (Ne.symm other)]
        exact ih

theorem lookup_insert_of_ne {key other : κ} (different : other ≠ key) (value : ν)
    (entries : List (κ × ν)) :
    (insert key value entries).lookup other = entries.lookup other := by
  induction entries with
  | nil => simp [insert, different]
  | cons entry rest ih =>
      rw [insert]
      split
      · rename_i here
        rw [List.lookup_cons, List.lookup_cons, here, beq_false_of_ne different]
      · rw [List.lookup_cons, List.lookup_cons, ih]

end Association
end ShaderLoom
