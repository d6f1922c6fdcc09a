import ShaderLoom.Text.Decimal

/-!
# Numerals read back

The numeral of a natural number is read back as that number, by every reader of numerals: as a
run of digits, as a 32-bit word, decimal or hexadecimal, and as an integer.  All that a reader
has to know is the value of each digit, so that the radix does not matter.

## Main results

* `Text.readDigits_toDigits` — in any radix, a numeral is read back
* `Text.readDecimal32_toString`, `Text.readHex32_toDigits`
* `Text.readInteger_toString`
-/

namespace ShaderLoom
namespace Text

/-- Digits are read from left to right. -/
theorem readDigitsFrom_append {digit? : Char → Option Nat} {radix : Nat}
    (front back : List Char) (soFar : Nat) : readDigitsFrom digit? radix soFar (front ++ back) =
      (readDigitsFrom digit? radix soFar front).bind
        fun n => readDigitsFrom digit? radix n back := by
  induction front generalizing soFar with
  | nil => rfl
  | cons c front ih =>
      rw [List.cons_append, readDigitsFrom, readDigitsFrom]
      cases digit? c with
      | none => rfl
      | some d => exact ih (soFar * radix + d)

/-- Numerals consist of digits. -/
theorem exists_digitChar_of_mem {radix : Nat} (large : 1 < radix) {n : Nat} {c : Char}
    (member : c ∈ Nat.toDigits radix n) : ∃ d < radix, c = Nat.digitChar d := by
  induction n using Nat.strongRecOn with
  | ind n ih =>
      rw [Nat.toDigits_eq_if large] at member
      split at member
      · rename_i small
        exact ⟨n, small, List.mem_singleton.mp member⟩
      · rename_i long
        rcases List.mem_append.mp member with front | last
        · exact ih (n / radix) (Nat.div_lt_self (by omega) large) front
        · exact ⟨n % radix, Nat.mod_lt n (by omega), List.mem_singleton.mp last⟩

section Radix

variable {digit? : Char → Option Nat} {radix : Nat} (large : 1 < radix)
  (reads : ∀ d < radix, digit? (Nat.digitChar d) = some d)
include large reads

theorem readDigitsFrom_toDigits (n : Nat) :
    readDigitsFrom digit? radix 0 (Nat.toDigits radix n) = some n := by
  induction n using Nat.strongRecOn with
  | ind n ih =>
      rw [Nat.toDigits_eq_if large]
      split
      · rename_i small
        rw [readDigitsFrom, reads n small]
        simp [readDigitsFrom]
      · rename_i long
        -- All digits but the last are the numeral of the quotient.
        have front := ih (n / radix) (Nat.div_lt_self (by omega) large)
        have last := reads (n % radix) (Nat.mod_lt n (by omega))
        rw [readDigitsFrom_append, front, Option.bind_some, readDigitsFrom, last]
        simp [readDigitsFrom, Nat.mul_comm, Nat.div_add_mod]

/-- **A numeral is read back.** -/
theorem readDigits_toDigits (n : Nat) :
    readDigits digit? radix (Nat.toDigits radix n) = some n := by
  have read := readDigitsFrom_toDigits large reads n
  cases written : Nat.toDigits radix n with
  | nil => exact absurd written Nat.toDigits_ne_nil
  | cons c rest =>
      rw [written] at read
      exact read

/-- A numeral starts with a digit. -/
theorem toDigits_ne_cons {c : Char} (other : digit? c = none) (n : Nat) (rest : List Char) :
    Nat.toDigits radix n ≠ c :: rest := by
  intro written
  have read := readDigitsFrom_toDigits large reads n
  rw [written, readDigitsFrom, other] at read
  cases read

/-- A word is read back by readers that do not take a plus sign for a digit. -/
theorem readWord32_toDigits (sign : digit? '+' = none) (n : UInt32) :
    readWord32 digit? radix (Nat.toDigits radix n.toNat) = some n := by
  have plain : dropPlus (Nat.toDigits radix n.toNat) = Nat.toDigits radix n.toNat := by
    rw [dropPlus]
    exact toDigits_ne_cons large reads sign n.toNat
  rw [readWord32, plain, readDigits_toDigits large reads]
  dsimp only
  rw [if_pos n.toNat_lt, UInt32.ofNat_toNat]

end Radix

/-! ### Decimal numerals -/

theorem decimalDigit?_digitChar : ∀ d < 10, decimalDigit? (Nat.digitChar d) = some d := by
  decide

theorem readDecimal_toDigits (n : Nat) :
    readDigits decimalDigit? 10 (Nat.toDigits 10 n) = some n :=
  readDigits_toDigits (by decide) decimalDigit?_digitChar n

theorem isDigit_of_mem_toDigits {n : Nat} {c : Char} (member : c ∈ Nat.toDigits 10 n) :
    c.isDigit = true :=
  Nat.isDigit_of_mem_toDigits (by decide) (by decide) member

/-- Digits tell their number. -/
theorem toDigits_inj {m n : Nat} (same : Nat.toDigits 10 m = Nat.toDigits 10 n) : m = n := by
  have read := congrArg (readDigits decimalDigit? 10) same
  rw [readDecimal_toDigits, readDecimal_toDigits] at read
  exact Option.some.inj read

theorem readDecimal32_toString (n : UInt32) :
    readDecimal32 (toString n.toNat).toList = some n := by
  rw [Nat.toString_eq_ofList_toDigits, String.toList_ofList, readDecimal32]
  exact readWord32_toDigits (by decide) decimalDigit?_digitChar (by decide) n

theorem readInteger_toString {n : Nat} (small : n < word128Limit) :
    readInteger (toString n).toList = some (Int.ofNat n) := by
  rw [Nat.toString_eq_ofList_toDigits, String.toList_ofList, readInteger]
  have unsigned : readSign (Nat.toDigits 10 n) = (false, Nat.toDigits 10 n) := by
    rw [readSign]
    · exact toDigits_ne_cons (by decide) decimalDigit?_digitChar (by decide) n
    · exact toDigits_ne_cons (by decide) decimalDigit?_digitChar (by decide) n
  simp only [readNumeral, unsigned, readDecimal_toDigits, Option.map_some, signed]
  rw [saturate, if_neg (by omega), if_neg (by omega)]
  rfl

/-! ### Hexadecimal numerals -/

theorem hexDigit?_digitChar : ∀ d < 16, hexDigit? (Nat.digitChar d) = some d := by
  decide

theorem readHex32_toDigits (n : UInt32) : readHex32 (Nat.toDigits 16 n.toNat) = some n :=
  readWord32_toDigits (by decide) hexDigit?_digitChar (by decide) n

/-- Numerals have a digit without being padded. -/
theorem toList_hexDigits_one (n : Nat) : (hexDigits 1 n).toList = Nat.toDigits 16 n := by
  have digits : 0 < (Nat.toDigits 16 n).length := List.length_pos_iff.mpr Nat.toDigits_ne_nil
  have full : 1 - (Nat.toDigits 16 n).length = 0 := by omega
  rw [hexDigits, String.toList_ofList, full, List.replicate_zero, List.nil_append]

end Text
end ShaderLoom
