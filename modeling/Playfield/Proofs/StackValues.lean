import Mathlib.Algebra.Group.Nat.Defs
import Mathlib.Data.List.Induction
import Mathlib.Data.Nat.Log
import Playfield.Proofs.Numerals
import Playfield.Screen.StackPane

/-!
Stack values on screen. A value with more than ten digits is shown by its first six and a power of
ten. Cutting digits off is a division by a power of ten, so the number on screen is the value
rounded towards zero, to a unit that depends on how many digits there are. Rounding keeps the order
of values: the unit changes only at powers of ten, and these are shown exactly.
-/

namespace Playfield.Decimal

/-! Cutting digits off. -/

section Digits
variable {text front back : List Char} {number other : Nat}

theorem Numeral.unique (numeral : Numeral text number) (again : Numeral text other) :
    number = other :=
  numeral.digits.2.symm.trans again.digits.2

theorem Numeral.readable (numeral : Numeral text number) :
    ∀ character ∈ text, (digit? character).isSome :=
  ((isDigits_iff text).mp numeral.digits.1).2

theorem Numeral.cut {last : Char} (present : text ≠ [])
    (numeral : Numeral (text ++ [last]) number) : Numeral text (number / 10) := by
  generalize whole : text ++ [last] = longer at numeral
  cases numeral with
  | digit small =>
      have single := congrArg List.length whole
      rw [List.length_append, List.length_singleton, List.length_singleton] at single
      exact absurd (List.length_eq_zero_iff.mp (by omega)) present
  | @more front number digit numeral small =>
      obtain ⟨rfl, _⟩ := List.append_inj' whole rfl
      have quotient : (10 * number + digit) / 10 = number := by omega
      rw [quotient]
      exact numeral

/-- The first digits of a number spell a quotient of it. -/
theorem Numeral.leading (present : front ≠ []) (numeral : Numeral (front ++ back) number) :
    Numeral front (number / 10 ^ back.length) := by
  induction back using List.reverseRecOn generalizing number with
  | nil => simpa using numeral
  | append_singleton back last ih =>
      rw [← List.append_assoc] at numeral
      have shorter := ih (numeral.cut (List.append_ne_nil_of_left_ne_nil present back))
      rw [List.length_append, List.length_singleton, Nat.pow_succ', ← Nat.div_div_eq_div_mul]
      exact shorter

theorem length_repr (number : Nat) : (Nat.repr number).length = Nat.log 10 number + 1 := by
  apply Nat.le_antisymm
  · apply (Nat.length_repr_le_iff (Nat.succ_pos _)).mpr
    exact Nat.lt_pow_succ_log_self (by decide) number
  · by_contra short
    have few : (Nat.repr number).length ≤ Nat.log 10 number := by omega
    have positive : 0 < Nat.log 10 number := Nat.lt_of_lt_of_le Nat.length_repr_pos few
    have small := (Nat.length_repr_le_iff positive).mp few
    have nonzero : number ≠ 0 := by
      rintro rfl
      simp at positive
    exact absurd (Nat.pow_log_le_self 10 nonzero) (Nat.not_le.mpr small)

theorem ofInt_eq_toString (number : Int) : ofInt number = toString number := by
  rw [ofInt, Int.toString_eq_repr, Int.repr_eq_if]
  split
  · rename_i negative
    have same : number.natAbs = (-number).toNat := by omega
    rw [if_neg (by omega), same]
  · have same : number.natAbs = number.toNat := by omega
    rw [if_pos (by omega), same]

end Digits

end Playfield.Decimal

namespace Playfield.Screen.StackPane

open Decimal

/-- Six digits, the first one not zero and followed by a point, and then a power of ten. -/
inductive Scientific : List Char → Nat → Nat → Prop where
  | spelled {lead : Char} {fraction : List Char} {mantissa : Nat} (exponent : Nat)
      (nonzero : lead ≠ '0') (five : fraction.length = 5)
      (digits : Numeral (lead :: fraction) mantissa) :
      Scientific (lead :: '.' :: (fraction ++ 'e' :: (Nat.repr exponent).toList)) mantissa exponent

/-- The number that a text without a sign says. -/
inductive Magnitude : List Char → Nat → Prop where
  | whole {text : List Char} {number : Nat} (numeral : Numeral text number) : Magnitude text number
  | scientific {text : List Char} {mantissa exponent : Nat}
      (spelled : Scientific text mantissa exponent) (large : 5 ≤ exponent) :
      Magnitude text (mantissa * 10 ^ (exponent - 5))

/-- The number that a text says, with a minus sign or without. -/
inductive Displays : List Char → Int → Prop where
  | plain {text : List Char} {number : Nat} (said : Magnitude text number) : Displays text number
  | negative {text : List Char} {number : Nat} (said : Magnitude text number) :
      Displays ('-' :: text) (-number)

/-! A text says one number. -/

section Unique
variable {text : List Char} {mantissa exponent number : Nat}

theorem Scientific.unique {otherMantissa otherExponent : Nat}
    (spelled : Scientific text mantissa exponent)
    (again : Scientific text otherMantissa otherExponent) :
    mantissa = otherMantissa ∧ exponent = otherExponent := by
  cases spelled with
  | @spelled lead fraction mantissa exponent _ five digits =>
      generalize same :
        lead :: '.' :: (fraction ++ 'e' :: (Nat.repr exponent).toList) = text at again
      cases again with
      | @spelled otherLead otherFraction otherMantissa otherExponent _ otherFive otherDigits =>
          obtain ⟨rfl, point⟩ := List.cons.inj same
          obtain ⟨_, decimals⟩ := List.cons.inj point
          obtain ⟨rfl, letter⟩ := List.append_inj decimals (five.trans otherFive.symm)
          obtain ⟨_, powers⟩ := List.cons.inj letter
          exact ⟨digits.unique otherDigits,
            (numeral_repr exponent).unique (powers ▸ numeral_repr otherExponent)⟩

theorem Scientific.not_numeral (spelled : Scientific text mantissa exponent) :
    ¬ Numeral text number := by
  intro numeral
  have point : digit? '.' = none := by decide
  cases spelled with
  | spelled => simpa [point] using numeral.readable '.' (by simp)

theorem Magnitude.unique {other : Nat} (said : Magnitude text number)
    (again : Magnitude text other) : number = other := by
  cases said with
  | whole numeral =>
      cases again with
      | whole again => exact numeral.unique again
      | scientific again => exact absurd numeral again.not_numeral
  | scientific spelled =>
      cases again with
      | whole again => exact absurd again spelled.not_numeral
      | scientific again =>
          obtain ⟨rfl, rfl⟩ := spelled.unique again
          rfl

theorem Magnitude.unsigned (said : Magnitude ('-' :: text) number) : False := by
  have sign : digit? '-' = none := by decide
  have front : ∃ rest other, Numeral ('-' :: rest) other := by
    generalize same : '-' :: text = whole at said
    cases said with
    | whole numeral => exact ⟨text, number, same ▸ numeral⟩
    | scientific spelled =>
        cases spelled with
        | spelled exponent nonzero five digits =>
            obtain ⟨rfl, _⟩ := List.cons.inj same
            exact ⟨_, _, digits⟩
  obtain ⟨rest, other, numeral⟩ := front
  simpa [sign] using numeral.readable '-' List.mem_cons_self

theorem Displays.unique {first second : Int} (said : Displays text first)
    (again : Displays text second) : first = second := by
  cases said with
  | plain said =>
      cases again with
      | plain again => rw [said.unique again]
      | negative => exact said.unsigned.elim
  | negative said =>
      generalize same : '-' :: _ = text at again
      cases again with
      | plain again => exact (same ▸ again).unsigned.elim
      | negative again =>
          obtain ⟨_, rfl⟩ := List.cons.inj same
          rw [said.unique again]

end Unique

/-! Rounding to six digits. -/

/-- What the last digit on screen counts. -/
def unit (magnitude : Nat) : Nat :=
  if magnitude < threshold then 1 else 10 ^ (Nat.log 10 magnitude - 5)

def rounded (magnitude : Nat) : Nat := magnitude / unit magnitude * unit magnitude

section Rounding
variable {magnitude smaller larger : Nat}

theorem unit_of_small (small : magnitude < threshold) : unit magnitude = 1 :=
  if_pos small

theorem unit_of_large (large : threshold ≤ magnitude) :
    unit magnitude = 10 ^ (Nat.log 10 magnitude - 5) :=
  if_neg (Nat.not_lt.mpr large)

theorem unit_pos (magnitude : Nat) : 0 < unit magnitude := by
  rw [unit]
  split
  · exact Nat.one_pos
  · exact Nat.pow_pos (by decide)

theorem rounded_le (magnitude : Nat) : rounded magnitude ≤ magnitude :=
  Nat.div_mul_le_self magnitude (unit magnitude)

-- Rounding goes to the largest multiple of the unit, so it passes over none.
theorem le_rounded {multiple : Nat} (whole : unit magnitude ∣ multiple)
    (le : multiple ≤ magnitude) : multiple ≤ rounded magnitude := by
  obtain ⟨count, rfl⟩ := whole
  rw [rounded, Nat.mul_comm]
  apply Nat.mul_le_mul_right
  apply (Nat.le_div_iff_mul_le (unit_pos magnitude)).mpr
  rwa [Nat.mul_comm]

theorem threshold_eq : threshold = 10 ^ 10 := by decide

theorem log_of_large (large : threshold ≤ magnitude) : 10 ≤ Nat.log 10 magnitude :=
  Nat.le_log_of_pow_le (by decide) (threshold_eq ▸ large)

theorem power_le_of_large (large : threshold ≤ magnitude) :
    10 ^ Nat.log 10 magnitude ≤ magnitude := by
  apply Nat.pow_log_le_self
  rintro rfl
  exact absurd large (by decide)

theorem power_le_rounded (large : threshold ≤ magnitude) :
    10 ^ Nat.log 10 magnitude ≤ rounded magnitude := by
  have multiple : unit magnitude ∣ 10 ^ Nat.log 10 magnitude := by
    rw [unit_of_large large]
    exact Nat.pow_dvd_pow 10 (Nat.sub_le _ 5)
  exact le_rounded multiple (power_le_of_large large)

theorem unit_eq_or_lt (le : smaller ≤ larger) :
    unit smaller = unit larger ∨
      threshold ≤ larger ∧ smaller < 10 ^ Nat.log 10 larger := by
  by_cases large : threshold ≤ larger
  · by_cases below : smaller < 10 ^ Nat.log 10 larger
    · exact .inr ⟨large, below⟩
    · -- Both have as many digits as the power of ten between them.
      have above : 10 ^ Nat.log 10 larger ≤ smaller := Nat.not_lt.mp below
      have digits : Nat.log 10 smaller = Nat.log 10 larger :=
        Nat.le_antisymm (Nat.log_mono_right le) (Nat.le_log_of_pow_le (by decide) above)
      have also : threshold ≤ smaller :=
        calc threshold = 10 ^ 10 := threshold_eq
          _ ≤ 10 ^ Nat.log 10 larger := Nat.pow_le_pow_right (by decide) (log_of_large large)
          _ ≤ smaller := above
      rw [unit_of_large large, unit_of_large also, digits]
      exact .inl rfl
  · have small : larger < threshold := Nat.not_le.mp large
    rw [unit_of_small small, unit_of_small (Nat.lt_of_le_of_lt le small)]
    exact .inl rfl

theorem rounded_mono (le : smaller ≤ larger) : rounded smaller ≤ rounded larger := by
  obtain same | ⟨large, below⟩ := unit_eq_or_lt le
  · have multiple : unit larger ∣ rounded smaller := by
      rw [← same]
      exact Nat.dvd_mul_left _ _
    exact le_rounded multiple (Nat.le_trans (rounded_le smaller) le)
  · calc rounded smaller ≤ smaller := rounded_le smaller
      _ ≤ 10 ^ Nat.log 10 larger := Nat.le_of_lt below
      _ ≤ rounded larger := power_le_rounded large

end Rounding

/-! The text of a value, without its sign and with it. -/

def unsignedText (magnitude : Nat) : List Char :=
  let digits := (Nat.repr magnitude).toList
  if magnitude < threshold then digits
  else
    digits.take 1 ++ '.' :: ((digits.drop 1).take 5
      ++ 'e' :: (Nat.repr (digits.length - 1)).toList)

theorem toList_valueText (value : Int64) :
    (valueText value).toList =
      if value.toInt < 0 then '-' :: unsignedText value.toInt.natAbs
      else unsignedText value.toInt.natAbs := by
  simp only [valueText, unsignedText]
  split
  · rw [ofInt]
    split
    · rw [String.toList_append]
      rfl
    · rfl
  · split <;> simp

theorem scientific_unsignedText {magnitude : Nat} (large : threshold ≤ magnitude) :
    Scientific (unsignedText magnitude) (magnitude / unit magnitude) (Nat.log 10 magnitude) := by
  have power := power_le_of_large large
  have exponent := log_of_large large
  have numeral := numeral_repr magnitude
  have length : (Nat.repr magnitude).toList.length = Nat.log 10 magnitude + 1 := by
    rw [String.length_toList, length_repr]
  rw [unsignedText, if_neg (Nat.not_lt.mpr large), unit_of_large large]
  generalize (Nat.repr magnitude).toList = digits at numeral length
  obtain ⟨lead, rest, rfl⟩ := List.exists_cons_of_length_eq_add_one length
  rw [List.length_cons, Nat.add_right_cancel_iff] at length
  -- A number is not less than the power of ten of its first digit, so that digit counts.
  have nonzero : lead ≠ '0' := by
    rintro rfl
    have first : Numeral ['0'] (magnitude / 10 ^ rest.length) :=
      numeral.leading (List.cons_ne_nil _ [])
    have zero : Numeral ['0'] 0 := @Numeral.digit 0 (by decide)
    rw [length] at first
    have quotient := Nat.div_pos power (Nat.pow_pos (by decide))
    exact absurd (first.unique zero) (Nat.ne_of_gt quotient)
  have five : (rest.take 5).length = 5 := by
    rw [List.length_take]
    omega
  have digits : Numeral (lead :: rest.take 5) (magnitude / 10 ^ (Nat.log 10 magnitude - 5)) := by
    have cut : lead :: rest = (lead :: rest.take 5) ++ rest.drop 5 := by simp
    rw [cut] at numeral
    have leading := numeral.leading (List.cons_ne_nil _ _)
    rwa [List.length_drop, length] at leading
  have spelled := Scientific.spelled (Nat.log 10 magnitude) nonzero five digits
  simpa [length] using spelled

theorem magnitude_unsignedText (magnitude : Nat) :
    Magnitude (unsignedText magnitude) (rounded magnitude) := by
  by_cases large : threshold ≤ magnitude
  · have exponent := log_of_large large
    have said := Magnitude.scientific (scientific_unsignedText large) (by omega)
    rwa [← unit_of_large large] at said
  · have small : magnitude < threshold := Nat.not_le.mp large
    rw [unsignedText, if_pos small, rounded, unit_of_small small, Nat.div_one, Nat.mul_one]
    exact .whole (numeral_repr magnitude)

/-- The value without the digits that are not on screen. -/
def shown (value : Int64) : Int :=
  if value.toInt < 0 then -rounded value.toInt.natAbs else rounded value.toInt.natAbs

theorem displays_valueText (value : Int64) : Displays (valueText value).toList (shown value) := by
  rw [toList_valueText, shown]
  split
  · exact .negative (magnitude_unsignedText _)
  · exact .plain (magnitude_unsignedText _)

theorem shown_mono {value other : Int64} (le : value ≤ other) : shown value ≤ shown other := by
  have order := Int64.le_iff_toInt_le.mp le
  rw [shown, shown]
  split
  · split
    · have rounding : rounded other.toInt.natAbs ≤ rounded value.toInt.natAbs :=
        rounded_mono (by omega)
      omega
    · omega
  · rw [if_neg (by omega)]
    have rounding : rounded value.toInt.natAbs ≤ rounded other.toInt.natAbs :=
      rounded_mono (by omega)
    omega

/-! The width of a value. -/

theorem log_natAbs_le (value : Int64) : Nat.log 10 value.toInt.natAbs ≤ 18 := by
  have low := value.le_toInt
  have high := value.toInt_lt
  have small : value.toInt.natAbs < 10 ^ 19 := by omega
  exact Nat.lt_succ_iff.mp (Nat.log_lt_of_lt_pow' (by decide) small)

theorem length_unsignedText {magnitude : Nat} (digits : Nat.log 10 magnitude ≤ 18) :
    (unsignedText magnitude).length ≤ 10 := by
  by_cases large : threshold ≤ magnitude
  · have power : (Nat.repr (Nat.log 10 magnitude)).length ≤ 2 :=
      (Nat.length_repr_le_iff (by decide)).mpr (by omega)
    have spelled := scientific_unsignedText large
    generalize unsignedText magnitude = text at spelled
    cases spelled with
    | spelled exponent nonzero five digits =>
        simp only [List.length_cons, List.length_append, five, String.length_toList]
        omega
  · have small : magnitude < threshold := Nat.not_le.mp large
    rw [unsignedText, if_pos small, String.length_toList]
    exact (Nat.length_repr_le_iff (by decide)).mpr (threshold_eq ▸ small)

/-- Stack values are shown faithfully and fit their column. No text is longer than eleven
characters. A value with at most ten digits is shown as it is. Any other is shown by its sign, its
first six digits and the power of ten of the first one; it lies between the number on screen and the
next one with six digits. A text says just one number, and a larger value never shows a smaller
one. -/
theorem valueText_faithful (value : Int64) :
    (valueText value).length ≤ 11 ∧
    (value.toInt.natAbs < 10 ^ 10 → valueText value = toString value.toInt) ∧
    (10 ^ 10 ≤ value.toInt.natAbs → ∃ (text : List Char) (mantissa exponent : Nat),
      (valueText value).toList = (if value.toInt < 0 then '-' :: text else text) ∧
      Scientific text mantissa exponent ∧ 10 ≤ exponent ∧ exponent ≤ 18 ∧
      mantissa * 10 ^ (exponent - 5) ≤ value.toInt.natAbs ∧
      value.toInt.natAbs < (mantissa + 1) * 10 ^ (exponent - 5)) ∧
    (∃! number, Displays (valueText value).toList number) ∧
    ∀ other : Int64, value ≤ other → ∀ low high, Displays (valueText value).toList low →
      Displays (valueText other).toList high → low ≤ high := by
  have written := toList_valueText value
  have digits := log_natAbs_le value
  refine ⟨?_, ?_, ?_, ?_, ?_⟩
  · have width := length_unsignedText digits
    rw [← String.length_toList, written]
    split
    · rw [List.length_cons]
      omega
    · omega
  · intro small
    rw [valueText, if_pos (threshold_eq ▸ small), ofInt_eq_toString]
  · intro large
    rw [← threshold_eq] at large
    refine ⟨_, _, _, written, scientific_unsignedText large, log_of_large large, digits, ?_⟩
    rw [← unit_of_large large, Nat.add_mul, Nat.one_mul]
    exact ⟨rounded_le _, Nat.lt_div_mul_add (unit_pos _)⟩
  · exact ⟨shown value, displays_valueText value,
      fun number said => said.unique (displays_valueText value)⟩
  · intro other le low high said further
    rw [said.unique (displays_valueText value), further.unique (displays_valueText other)]
    exact shown_mono le

/-- The least value, whose magnitude is no value, and the largest value that is shown in full. -/
theorem valueText_faithful_least :
    valueText Int64.minValue = "-9.22337e18" ∧ valueText 9999999999 = "9999999999" ∧
    (∃ (text : List Char) (mantissa exponent : Nat),
      (valueText Int64.minValue).toList = '-' :: text ∧ Scientific text mantissa exponent ∧
      mantissa * 10 ^ (exponent - 5) ≤ 2 ^ 63 ∧ 2 ^ 63 < (mantissa + 1) * 10 ^ (exponent - 5)) ∧
    ∀ low high, Displays (valueText Int64.minValue).toList low →
      Displays (valueText 9999999999).toList high → low ≤ high := by
  obtain ⟨_, _, scientific, _, ordered⟩ := valueText_faithful Int64.minValue
  obtain ⟨_, whole, _⟩ := valueText_faithful 9999999999
  obtain ⟨text, mantissa, exponent, written, spelled, _, _, low, high⟩ := scientific (by decide)
  refine ⟨by decide +kernel, (whole (by decide)).trans (by decide +kernel), ?_, ?_⟩
  · exact ⟨text, mantissa, exponent, written, spelled, low, high⟩
  · exact ordered 9999999999 (by decide)

end Playfield.Screen.StackPane
