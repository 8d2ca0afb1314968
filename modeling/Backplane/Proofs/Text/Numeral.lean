import Backplane.Text.Numeral
import Backplane.Text.Octal
import Mathlib.Algebra.Group.Nat.Defs

/-!
# The grammar of numerals

`Numeral` says which texts are numerals and what number each of them writes:
an optional plus sign, then one or more digits, with any number of zeros in
front.  Reading accepts just these texts, up to the limit of the value, and the
digits that are written for a number read back as the number.
-/

namespace Backplane.Text

/-- One of the digits of a radix. -/
def IsDigit (radix : Nat) (c : Char) : Prop :=
  ∃ value < radix, c = Nat.digitChar value

/-- A text that writes a number. -/
inductive Numeral (radix : Nat) : List Char → Nat → Prop where
  | unsigned {digits : List Char} (inhabited : digits ≠ [])
      (all : ∀ c ∈ digits, IsDigit radix c) :
      Numeral radix digits (Nat.ofDigitChars radix digits 0)
  | signed {digits : List Char} (inhabited : digits ≠ [])
      (all : ∀ c ∈ digits, IsDigit radix c) :
      Numeral radix ('+' :: digits) (Nat.ofDigitChars radix digits 0)

section Digits

variable {radix limit value : Nat} {c : Char}

theorem digit?_eq_some_iff {digit : Nat} :
    digit? radix c = some digit ↔ digit < radix ∧
    c.toNat = '0'.toNat + digit := by
  unfold digit?
  split
  · rw [Option.some.injEq]
    omega
  · constructor
    · intro impossible
      cases impossible
    · intro digitCode
      omega

/-- The digits of a radix up to ten are consecutive characters. -/
theorem isDigit_iff (decimal : radix ≤ 10) :
    IsDigit radix c ↔ ∃ digit, digit? radix c = some digit := by
  simp only [digit?_eq_some_iff]
  constructor
  · rintro ⟨digit, below, rfl⟩
    exact ⟨digit, below, Nat.toNat_digitChar_of_lt_ten (by omega)⟩
  · rintro ⟨digit, below, code⟩
    refine ⟨digit, below, Char.toNat_inj.mp ?_⟩
    rw [code, Nat.toNat_digitChar_of_lt_ten (by omega)]
    rfl

theorem IsDigit.ne_plus (digit : IsDigit radix c) : c ≠ '+' := by
  obtain ⟨value, _, rfl⟩ := digit
  exact Nat.digitChar_ne '+' rfl

/-- Further digits never lower a value. -/
theorem le_ofDigitChars (positive : 0 < radix) (chars : List Char)
    (value : Nat) : value ≤ Nat.ofDigitChars radix chars value := by
  induction chars generalizing value with
  | nil => exact Nat.le_refl value
  | cons c chars induction =>
      rw [Nat.ofDigitChars_cons]
      calc
        value ≤ radix * value := Nat.le_mul_of_pos_left value positive
        _ ≤ radix * value + (c.toNat - '0'.toNat) := Nat.le_add_right _ _
        _ ≤ _ := induction _

/-- Reading goes on to the end when all characters are digits and the whole
value is within the limit; no value on the way is larger. -/
theorem readDigits_eq_ok (decimal : radix ≤ 10) {chars : List Char}
    {result : Nat} (within : value ≤ limit) :
    readDigits radix limit value chars = .ok result ↔
      (∀ c ∈ chars, IsDigit radix c) ∧
      result = Nat.ofDigitChars radix chars value ∧
        result ≤ limit := by
  induction chars generalizing value with
  | nil =>
      rw [readDigits, Except.ok.injEq, Nat.ofDigitChars_nil]
      constructor
      · rintro rfl
        exact ⟨List.forall_mem_nil _, rfl, within⟩
      · rintro ⟨_, rfl, _⟩
        rfl
  | cons c chars induction =>
      rw [readDigits, List.forall_mem_cons, isDigit_iff decimal,
        Nat.ofDigitChars_cons]
      cases read : digit? radix c with
      | none => simp
      | some digit =>
          obtain ⟨below, code⟩ := digit?_eq_some_iff.mp read
          have next : radix * value + (c.toNat - '0'.toNat) =
              value * radix + digit := by
            rw [code, Nat.add_sub_cancel_left, Nat.mul_comm]
          simp only [Option.some.injEq, exists_eq', true_and, next]
          split
          · rename_i fits
            exact induction fits
          · rename_i exceeds
            -- A value past the limit stays past it, whatever digits are behind
            -- it.
            have grows := le_ofDigitChars (Nat.zero_lt_of_lt below) chars
              (value * radix + digit)
            constructor
            · intro impossible
              cases impossible
            · rintro ⟨_, rfl, bounded⟩
              omega

end Digits

theorem unsigned_of_isDigit {radix : Nat} {chars : List Char}
    (all : ∀ c ∈ chars, IsDigit radix c) : unsigned chars = chars := by
  unfold unsigned
  split
  · exact absurd rfl (all '+' List.mem_cons_self).ne_plus
  · rfl

theorem unsigned_eq_self {chars : List Char}
    (bare : ¬ ∃ digits, chars = '+' :: digits) : unsigned chars = chars := by
  unfold unsigned
  split
  · rename_i digits
    exact absurd ⟨digits, rfl⟩ bare
  · rfl

/-- A numeral with its sign taken off. -/
theorem numeral_iff {radix value : Nat} {chars : List Char} :
    Numeral radix chars value ↔
      unsigned chars ≠ [] ∧ (∀ c ∈ unsigned chars, IsDigit radix c) ∧
        value = Nat.ofDigitChars radix (unsigned chars) 0 := by
  constructor
  · intro numeral
    cases numeral with
    | unsigned inhabited all =>
        rw [unsigned_of_isDigit all]
        exact ⟨inhabited, all, rfl⟩
    | signed inhabited all => exact ⟨inhabited, all, rfl⟩
  · rintro ⟨inhabited, all, rfl⟩
    by_cases sign : ∃ digits, chars = '+' :: digits
    · obtain ⟨digits, rfl⟩ := sign
      exact .signed inhabited all
    · rw [unsigned_eq_self sign] at inhabited all ⊢
      exact .unsigned inhabited all

/-- Reading accepts the numerals up to the limit. -/
theorem readNumeral_eq_ok {radix limit value : Nat} (decimal : radix ≤ 10)
    {chars : List Char} :
    readNumeral radix limit chars = .ok value ↔
      Numeral radix chars value ∧ value ≤ limit := by
  rw [readNumeral, numeral_iff]
  split
  · rename_i empty
    simp [empty]
  · rename_i inhabited
    rw [readDigits_eq_ok decimal (Nat.zero_le limit), and_assoc, and_assoc]
    exact ⟨fun read => ⟨inhabited, read⟩, fun numeral => numeral.2⟩

/-- A text that begins with a numeral above a limit, whatever stands behind
it. -/
def Exceeds (radix limit : Nat) (chars : List Char) : Prop :=
  ∃ leading value, leading <+: chars ∧ Numeral radix leading value ∧
    limit < value

/-- Reading stops above the limit just when leading digits lead there; the
characters behind them are not looked at. -/
theorem readDigits_eq_tooLarge {radix limit value : Nat} (decimal : radix ≤ 10)
    {chars : List Char} (within : value ≤ limit) :
    readDigits radix limit value chars = .error .tooLarge ↔
      ∃ leading, leading <+: chars ∧ (∀ c ∈ leading, IsDigit radix c) ∧
        limit < Nat.ofDigitChars radix leading value := by
  induction chars generalizing value with
  | nil =>
      constructor
      · intro impossible
        cases impossible
      · rintro ⟨leading, leads, _, exceeds⟩
        obtain rfl := List.prefix_nil.mp leads
        exact absurd within (Nat.not_le.mpr exceeds)
  | cons c chars induction =>
      -- A leading part that exceeds the limit has at least the first digit in
      -- it.
      have begins : (∃ leading, leading <+: c :: chars ∧
          (∀ c ∈ leading, IsDigit radix c) ∧
          limit < Nat.ofDigitChars radix leading value) ↔
          IsDigit radix c ∧ ∃ leading, leading <+: chars ∧
            (∀ c ∈ leading, IsDigit radix c) ∧
              limit < Nat.ofDigitChars radix leading
                (radix * value + (c.toNat - '0'.toNat)) := by
        constructor
        · rintro ⟨leading, leads, all, exceeds⟩
          cases leading with
          | nil => exact absurd within (Nat.not_le.mpr exceeds)
          | cons first leading =>
              obtain ⟨rfl, behind⟩ := List.cons_prefix_cons.mp leads
              obtain ⟨digit, others⟩ := List.forall_mem_cons.mp all
              exact ⟨digit, leading, behind, others, exceeds⟩
        · rintro ⟨digit, leading, leads, all, exceeds⟩
          exact ⟨c :: leading, List.cons_prefix_cons.mpr ⟨rfl, leads⟩,
            List.forall_mem_cons.mpr ⟨digit, all⟩, exceeds⟩
      rw [begins, readDigits, isDigit_iff decimal]
      cases read : digit? radix c with
      | none => simp
      | some digit =>
          obtain ⟨_, code⟩ := digit?_eq_some_iff.mp read
          have next : radix * value + (c.toNat - '0'.toNat) =
              value * radix + digit := by
            rw [code, Nat.add_sub_cancel_left, Nat.mul_comm]
          simp only [Option.some.injEq, exists_eq', true_and, next]
          split
          · rename_i fits
            exact induction fits
          · rename_i exceeds
            exact iff_of_true rfl
              ⟨[], List.nil_prefix, List.forall_mem_nil _,
                Nat.not_le.mp exceeds⟩

/-- The leading parts of a text are those of its digits, behind the sign if
there is one. -/
theorem exists_numeral_prefix {radix : Nat} {chars : List Char}
    {holds : Nat → Prop} :
    (∃ leading value, leading <+: chars ∧ Numeral radix leading value ∧
      holds value) ↔
      ∃ digits, digits <+: unsigned chars ∧ digits ≠ [] ∧
      (∀ c ∈ digits, IsDigit radix c) ∧
        holds (Nat.ofDigitChars radix digits 0) := by
  by_cases sign : ∃ digits, chars = '+' :: digits
  · obtain ⟨behind, rfl⟩ := sign
    constructor
    · rintro ⟨leading, value, leads, numeral, holding⟩
      cases numeral with
      | unsigned inhabited all =>
          obtain ⟨first, leading, rfl⟩ := List.exists_cons_of_ne_nil inhabited
          obtain ⟨rfl, _⟩ := List.cons_prefix_cons.mp leads
          exact absurd rfl (all '+' List.mem_cons_self).ne_plus
      | signed inhabited all =>
          exact ⟨_, (List.cons_prefix_cons.mp leads).2, inhabited, all, holding⟩
    · rintro ⟨digits, leads, inhabited, all, holding⟩
      exact ⟨'+' :: digits, _, List.cons_prefix_cons.mpr ⟨rfl, leads⟩,
        .signed inhabited all, holding⟩
  · rw [unsigned_eq_self sign]
    constructor
    · rintro ⟨leading, value, leads, numeral, holding⟩
      cases numeral with
      | unsigned inhabited all =>
          exact ⟨leading, leads, inhabited, all, holding⟩
      | signed =>
          obtain ⟨behind, rfl⟩ := leads
          exact absurd ⟨_, rfl⟩ sign
    · rintro ⟨digits, leads, inhabited, all, holding⟩
      exact ⟨digits, _, leads, .unsigned inhabited all, holding⟩

/-- Reading reports a value above the limit for every text that begins with such
a numeral, also if it goes on with something that is no digit. -/
theorem readNumeral_eq_tooLarge {radix limit : Nat} (decimal : radix ≤ 10)
    {chars : List Char} :
    readNumeral radix limit chars = .error .tooLarge ↔
    Exceeds radix limit chars := by
  rw [Exceeds, exists_numeral_prefix, readNumeral]
  split
  · rename_i empty
    constructor
    · intro impossible
      cases impossible
    · rintro ⟨digits, leads, inhabited, _⟩
      rw [empty] at leads
      exact absurd (List.prefix_nil.mp leads) inhabited
  · rw [readDigits_eq_tooLarge decimal (Nat.zero_le limit)]
    refine exists_congr fun leading => and_congr_right fun _ => ?_
    constructor
    · rintro ⟨all, exceeds⟩
      refine ⟨?_, all, exceeds⟩
      rintro rfl
      exact absurd exceeds (Nat.not_lt_zero limit)
    · exact fun leads => leads.2

/-! ## Written digits -/

theorem octalDigit_eq_digitChar {digit : Nat} (below : digit < 8) :
    octalDigit digit = Nat.digitChar digit := by
  have small : ∀ digit : Fin 8, octalDigit digit = Nat.digitChar digit := by
    decide
  exact small ⟨digit, below⟩

theorem isDigit_octalDigits (count value : Nat) :
    ∀ c ∈ octalDigits count value, IsDigit 8 c := by
  induction count generalizing value with
  | zero => exact List.forall_mem_nil _
  | succ count induction =>
      intro c member
      rcases List.mem_append.mp member with before | last
      · exact induction _ c before
      · have below : value % 8 < 8 := Nat.mod_lt _ (by decide)
        rw [List.mem_singleton.mp last, octalDigit_eq_digitChar below]
        exact ⟨value % 8, below, rfl⟩

/-- Written digits read back as the lowest digits of the value. -/
theorem ofDigitChars_octalDigits (count value : Nat) :
    Nat.ofDigitChars 8 (octalDigits count value) 0 = value % 8 ^ count := by
  induction count generalizing value with
  | zero => exact (Nat.mod_one value).symm
  | succ count induction =>
      have below : value % 8 < 8 := Nat.mod_lt _ (by decide)
      rw [octalDigits, Nat.ofDigitChars_append, induction,
        octalDigit_eq_digitChar below, Nat.ofDigitChars_cons_digitChar_of_lt_ten
        (by omega), Nat.ofDigitChars_nil,
        Nat.pow_succ', Nat.mod_mul]
      omega

end Backplane.Text
