import Mathlib.Algebra.Group.Int.Defs
import Mathlib.Algebra.Group.Nat.Defs
import Playfield.Machine.Output

/-!
Decimal numbers as a grammar. A numeral is a digit, or a numeral with one more digit behind it; the
number is then ten times the number before, and the digit. Zeros in front are allowed. The readers
accept exactly the numerals, with the signs that each of them allows, of numbers that fit into a
word: a long row of zeros does not make a number too large, and the least number is read although
its opposite is not.
-/

namespace Playfield.Decimal

/-- Digits that spell a number, most significant first. -/
inductive Numeral : List Char → Nat → Prop where
  | digit {digit : Nat} (small : digit < 10) : Numeral [digit.digitChar] digit
  | more {text : List Char} {number digit : Nat} (front : Numeral text number)
      (small : digit < 10) : Numeral (text ++ [digit.digitChar]) (10 * number + digit)

/-- A numeral with a minus sign in front of it or without. -/
inductive Signed : List Char → Int → Prop where
  | plain {text : List Char} {number : Nat} (numeral : Numeral text number) : Signed text number
  | negative {text : List Char} {number : Nat} (numeral : Numeral text number) :
      Signed ('-' :: text) (-number)

/-- A numeral with a plus sign in front of it or without. -/
inductive Unsigned : List Char → Nat → Prop where
  | plain {text : List Char} {number : Nat} (numeral : Numeral text number) : Unsigned text number
  | positive {text : List Char} {number : Nat} (numeral : Numeral text number) :
      Unsigned ('+' :: text) number

/-! Digits. -/

theorem digit?_digitChar {digit : Nat} (small : digit < 10) :
    digit? digit.digitChar = some digit := by
  have all : ∀ digit < 10, digit? (Nat.digitChar digit) = some digit := by decide
  exact all digit small

theorem digitChar_of_digit? {character : Char} {digit : Nat}
    (read : digit? character = some digit) :
    digit < 10 ∧ character = digit.digitChar ∧ character.toNat - '0'.toNat = digit := by
  rw [digit?] at read
  split at read
  · rename_i bounds
    have low : 48 ≤ character.toNat := bounds.1
    have high : character.toNat ≤ 57 := bounds.2
    cases read
    have small : character.toNat - '0'.toNat < 10 := by
      change character.toNat - 48 < 10
      omega
    refine ⟨small, ?_, rfl⟩
    apply Char.toNat_inj.mp
    rw [Nat.toNat_digitChar_of_lt_ten small]
    exact (Nat.add_sub_cancel' low).symm
  · cases read

/-- The number that further digits make of a number. -/
def valueFrom (number : Nat) (digits : List Char) : Nat :=
  digits.foldl (fun so_far character => so_far * 10 + (character.toNat - '0'.toNat)) number

theorem valueFrom_cons {character : Char} {digit : Nat} (read : digit? character = some digit)
    (number : Nat) (rest : List Char) :
    valueFrom number (character :: rest) = valueFrom (number * 10 + digit) rest := by
  rw [valueFrom, List.foldl_cons, (digitChar_of_digit? read).2.2]
  rfl

theorem le_valueFrom (number : Nat) (digits : List Char) : number ≤ valueFrom number digits := by
  induction digits generalizing number with
  | nil => exact Nat.le_refl number
  | cons character rest ih =>
      have further := ih (number * 10 + (character.toNat - '0'.toNat))
      exact Nat.le_trans (by omega) further

theorem isDigits_iff (text : List Char) :
    isDigits text = true ↔ text ≠ [] ∧ ∀ character ∈ text, (digit? character).isSome := by
  simp [isDigits]

/-! Numerals are what the digits say. -/

theorem Numeral.append {front text : List Char} {number : Nat} (numeral : Numeral front number)
    (digits : ∀ character ∈ text, (digit? character).isSome) :
    Numeral (front ++ text) (valueFrom number text) := by
  induction text generalizing front number with
  | nil => simpa [valueFrom] using numeral
  | cons character rest ih =>
      obtain ⟨digit, read⟩ := Option.isSome_iff_exists.mp (digits character List.mem_cons_self)
      obtain ⟨small, rfl, _⟩ := digitChar_of_digit? read
      have longer := numeral.more small
      rw [Nat.mul_comm] at longer
      have whole := ih longer fun other listed => digits other (List.mem_cons_of_mem _ listed)
      rw [valueFrom_cons read]
      simpa using whole

theorem numeral_of_isDigits {text : List Char} (digits : isDigits text = true) :
    Numeral text (value text) := by
  obtain ⟨present, readable⟩ := (isDigits_iff text).mp digits
  obtain ⟨character, rest, rfl⟩ := List.exists_cons_of_ne_nil present
  obtain ⟨digit, read⟩ := Option.isSome_iff_exists.mp (readable character List.mem_cons_self)
  have spelled : value (character :: rest) = valueFrom digit rest := by
    have first := valueFrom_cons read 0 rest
    rwa [Nat.zero_mul, Nat.zero_add] at first
  obtain ⟨small, rfl, _⟩ := digitChar_of_digit? read
  rw [spelled]
  exact (Numeral.digit small).append
    fun other listed => readable other (List.mem_cons_of_mem _ listed)

theorem Numeral.digits {text : List Char} {number : Nat} (numeral : Numeral text number) :
    isDigits text = true ∧ value text = number := by
  induction numeral with
  | @digit digit small =>
      have read := digit?_digitChar small
      refine ⟨(isDigits_iff _).mpr ⟨List.cons_ne_nil _ _, ?_⟩, ?_⟩
      · simp [read]
      · exact (valueFrom_cons read 0 []).trans (by simp [valueFrom])
  | @more text number digit front small ih =>
      have read := digit?_digitChar small
      obtain ⟨digits, rfl⟩ := ih
      obtain ⟨_, readable⟩ := (isDigits_iff text).mp digits
      refine ⟨(isDigits_iff _).mpr ⟨by simp, ?_⟩, ?_⟩
      · intro character listed
        rcases List.mem_append.mp listed with inside | last
        · exact readable character inside
        · cases List.mem_singleton.mp last
          simp [read]
      · rw [value, List.foldl_append, Nat.mul_comm]
        exact valueFrom_cons read _ []

theorem numeral_iff (text : List Char) (number : Nat) :
    Numeral text number ↔ isDigits text = true ∧ value text = number := by
  constructor
  · exact Numeral.digits
  · rintro ⟨digits, rfl⟩
    exact numeral_of_isDigits digits

theorem numeral_repr (number : Nat) : Numeral (Nat.repr number).toList number := by
  rw [Nat.toList_repr]
  induction number using Nat.strongRecOn with
  | ind number ih =>
      rw [Nat.toDigits_eq_if (by decide)]
      split
      · rename_i small
        exact .digit small
      · rename_i large
        have longer := (ih (number / 10) (by omega)).more (Nat.mod_lt number (by decide : 10 > 0))
        rwa [Nat.div_add_mod] at longer

theorem signed_ofInt (number : Int) : Signed (ofInt number).toList number := by
  rw [ofInt]
  split
  · have opposite : number = -(number.natAbs : Int) := by omega
    have spelled := Signed.negative (numeral_repr number.natAbs)
    rw [← opposite] at spelled
    rw [String.toList_append]
    exact spelled
  · have same : number = (number.natAbs : Int) := by omega
    have spelled := Signed.plain (numeral_repr number.natAbs)
    rwa [← same] at spelled

/-! Reading signed numbers. -/

theorem signed_minus_iff (digits : List Char) (number : Int) :
    Signed ('-' :: digits) number ↔ isDigits digits = true ∧ number = -(value digits : Int) := by
  constructor
  · intro spelled
    cases spelled with
    | plain numeral =>
        have sign : digit? '-' = none := by decide
        exact absurd numeral.digits.1 (by simp [isDigits, sign])
    | negative numeral =>
        obtain ⟨readable, rfl⟩ := numeral.digits
        exact ⟨readable, rfl⟩
  · rintro ⟨readable, rfl⟩
    exact .negative (numeral_of_isDigits readable)

theorem signed_plain_iff {text : List Char} (unsigned : ∀ digits, text ≠ '-' :: digits)
    (number : Int) : Signed text number ↔ isDigits text = true ∧ number = (value text : Int) := by
  constructor
  · intro spelled
    cases spelled with
    | plain numeral =>
        obtain ⟨readable, rfl⟩ := numeral.digits
        exact ⟨readable, rfl⟩
    | negative => exact absurd rfl (unsigned _)
  · rintro ⟨readable, rfl⟩
    exact .plain (numeral_of_isDigits readable)

-- The bound that the reader tests is the one of the word, on either side of zero.
theorem toInt_of_bounded {spells bounded : Prop} [Decidable (spells ∧ bounded)]
    {spelled number : Int} (fits : bounded ↔ -2 ^ 63 ≤ spelled ∧ spelled < 2 ^ 63) :
    (if spells ∧ bounded then some (Int64.ofInt spelled) else none).map Int64.toInt = some number ↔
      (spells ∧ number = spelled) ∧ -2 ^ 63 ≤ number ∧ number < 2 ^ 63 := by
  split
  · rename_i both
    obtain ⟨low, high⟩ := fits.mp both.2
    rw [Option.map_some, Option.some.injEq, Int64.toInt_ofInt_of_le low high]
    constructor
    · rintro rfl
      exact ⟨⟨both.1, rfl⟩, low, high⟩
    · rintro ⟨⟨_, rfl⟩, _⟩
      rfl
  · rename_i neither
    constructor
    · rintro ⟨⟩
    · rintro ⟨⟨spells, rfl⟩, inside⟩
      exact absurd ⟨spells, fits.mpr inside⟩ neither

theorem toInt_readSigned?_iff (text : String) (number : Int) :
    (readSigned? text).map Int64.toInt = some number ↔
      Signed text.toList number ∧ -2 ^ 63 ≤ number ∧ number < 2 ^ 63 := by
  rw [readSigned?]
  split
  · rename_i digits sign
    rw [sign, signed_minus_iff]
    apply toInt_of_bounded
    omega
  · rename_i unsigned
    rw [signed_plain_iff unsigned]
    apply toInt_of_bounded
    omega

theorem readSigned?_ofInt (value : Int64) : readSigned? (ofInt value.toInt) = some value := by
  have spelled := (toInt_readSigned?_iff (ofInt value.toInt) value.toInt).mpr
    ⟨signed_ofInt value.toInt, value.le_toInt, value.toInt_lt⟩
  obtain ⟨read, found, same⟩ := Option.map_eq_some_iff.mp spelled
  rw [found, Int64.toInt_inj.mp same]

/-- Integer replies are read by their grammar: a text is read as a number exactly if it is a
numeral of it, with a minus sign or without, and the number fits into a word. What is printed for a
word is read as that word again. -/
theorem reads_signed_numerals :
    (∀ (text : String) (number : Int),
      (∃ word, readSigned? text = some word ∧ word.toInt = number) ↔
        Signed text.toList number ∧ -2 ^ 63 ≤ number ∧ number < 2 ^ 63) ∧
    ∀ (output : Output) (word : Int64), ∃ piece,
      (output.printNumber word).text = output.text ++ piece ∧ readSigned? piece = some word := by
  constructor
  · intro text number
    rw [← toInt_readSigned?_iff, Option.map_eq_some_iff]
  · intro output word
    exact ⟨ofInt word.toInt, rfl, readSigned?_ofInt word⟩

/-! Reading unsigned numbers. -/

-- A number only grows with its digits, so it is enough that the last one fits.
theorem readDigits_iff {so_far : Nat} (fits : so_far < UInt64.size) (text : List Char)
    (number : Nat) :
    readDigits so_far text = .ok number ↔
      (∀ character ∈ text, (digit? character).isSome) ∧ valueFrom so_far text = number ∧
        number < UInt64.size := by
  induction text generalizing so_far with
  | nil =>
      constructor
      · rintro ⟨⟩
        exact ⟨nofun, rfl, fits⟩
      · rintro ⟨_, rfl, _⟩
        rfl
  | cons character rest ih =>
      rw [readDigits]
      cases read : digit? character with
      | none => simp [read]
      | some digit =>
          simp only [List.forall_mem_cons, read, Option.isSome_some, true_and, valueFrom_cons read]
          split
          · rename_i small
            exact ih small
          · rename_i large
            constructor
            · rintro ⟨⟩
            · rintro ⟨_, rfl, small⟩
              exact absurd (Nat.lt_of_le_of_lt (le_valueFrom _ rest) small) large

theorem readDigits_zero_iff {text : List Char} (present : text ≠ []) (number : Nat) :
    readDigits 0 text = .ok number ↔ Numeral text number ∧ number < 2 ^ 64 := by
  rw [readDigits_iff (by decide), numeral_iff, isDigits_iff]
  constructor
  · rintro ⟨readable, spelled, small⟩
    exact ⟨⟨⟨present, readable⟩, spelled⟩, small⟩
  · rintro ⟨⟨⟨_, readable⟩, spelled⟩, small⟩
    exact ⟨readable, spelled, small⟩

theorem Numeral.ne_nil {text : List Char} {number : Nat} (numeral : Numeral text number) :
    text ≠ [] := by
  cases numeral <;> simp

theorem unsigned_plus_iff (digits : List Char) (number : Nat) :
    Unsigned ('+' :: digits) number ↔ Numeral digits number := by
  constructor
  · intro spelled
    cases spelled with
    | plain numeral =>
        have sign : digit? '+' = none := by decide
        exact absurd numeral.digits.1 (by simp [isDigits, sign])
    | positive numeral => exact numeral
  · exact .positive

theorem unsigned_plain_iff {text : List Char} (bare : ∀ digits, text ≠ '+' :: digits)
    (number : Nat) : Unsigned text number ↔ Numeral text number := by
  constructor
  · intro spelled
    cases spelled with
    | plain numeral => exact numeral
    | positive => exact absurd rfl (bare _)
  · exact .plain

theorem readWord_iff (text : String) (number : Nat) :
    readWord text = .ok number ↔ Unsigned text.toList number ∧ number < 2 ^ 64 := by
  have unspelled : ¬ Numeral [] number := fun numeral => numeral.ne_nil rfl
  rw [readWord]
  split
  · rename_i empty
    simp [empty, unsigned_plain_iff, unspelled]
  · rename_i lone
    simp [lone, unsigned_plus_iff, unspelled]
  · rename_i digits present sign
    rw [sign, unsigned_plus_iff, readDigits_zero_iff present]
  · rename_i empty lone plus
    rw [unsigned_plain_iff plus, readDigits_zero_iff empty]

end Playfield.Decimal
