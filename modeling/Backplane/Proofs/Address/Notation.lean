import Backplane.Proofs.Text.Operand

/-!
# Reading back a written address

A written address determines the part of the address that is shown, and reading
gives this part back, unless a bus of 16 lines shows an address past its end.
-/

namespace Backplane.AddressWidth

open Text

variable {width : AddressWidth} {address : Nat}

theorem shown_eq_mod (width : AddressWidth) (address : Nat) :
    width.shown address =
      address % 2 ^ (if width.bits = 16 then 17 else width.bits) := by
  cases width <;> rfl

/-- The shown part fits into the shown digits. -/
theorem shown_lt_digits : width.shown address < 8 ^ width.shownDigits := by
  rw [shown_eq_mod]
  cases width <;> exact Nat.lt_of_lt_of_le (Nat.mod_lt _ (by decide))
    (by decide)

/-- One bit more than the address has is shown at most. -/
theorem shown_eq_self (within : address ≤ width.maxAddress) :
    width.shown address = address := by
  have fits : width.maxAddress <
      2 ^ (if width.bits = 16 then 17 else width.bits) := by
    cases width <;> decide
  rw [shown_eq_mod, Nat.mod_eq_of_lt (by omega)]

theorem shown_le_maxAddress (wide : width.bits ≠ 16) :
    width.shown address ≤ width.maxAddress := by
  have powers : width.maxAddress = 2 ^ width.bits - 1 := by cases width <;> rfl
  rw [shown_eq_mod, if_neg wide, powers]
  exact Nat.le_sub_one_of_lt (Nat.mod_lt _ (Nat.two_pow_pos _))

theorem toList_formatAddress (width : AddressWidth) (address : Nat) :
    (width.formatAddress address).toList =
      (if width.ioPageStart ≤ width.shown address then ['i', 'o'] else []) ++
        octalDigits width.shownDigits (width.shown address) := by
  have digits : (octalPadded width.shownDigits (width.shown address)).toList =
      octalDigits width.shownDigits (width.shown address) :=
      String.toList_ofList
  simp only [formatAddress, isIo, decide_eq_true_eq]
  split
  · rw [String.toList_append, digits]
    rfl
  · exact digits

/-- A written address is the text of the shown part, with nothing to trim. -/
theorem addressText_formatAddress (width : AddressWidth) (address : Nat) :
    AddressText (width.formatAddress address) (width.shown address) := by
  have digits := isDigit_octalDigits width.shownDigits (width.shown address)
  have someDigits : 0 < width.shownDigits := by cases width <;> decide
  have operand := operand_octalPadded someDigits (width.shown address)
  rw [Nat.mod_eq_of_lt shown_lt_digits] at operand
  refine ⟨_, _, .refl ?_, ?_, operand⟩
  · intro c member
    rw [toList_formatAddress] at member
    rcases List.mem_append.mp member with mark | digit
    · have markSolid : ∀ c ∈ ['i', 'o'], isBlank c = false :=
        List.forall_mem_cons.mpr ⟨rfl, List.forall_mem_singleton.mpr rfl⟩
      split at mark
      · exact markSolid c mark
      · cases mark
    · exact (digits c digit).solid (by decide)
  · rw [toList_formatAddress]
    split
    · exact .marked _
    · refine .bare ?_
      rintro ⟨rest, marked⟩
      -- The digits alone could be misread only if one of them were the mark.
      have first : 'i' ∈ [] ++ octalDigits width.shownDigits
          (width.shown address) := by
        rw [← marked]
        exact List.mem_cons_self
      obtain ⟨value, below, same⟩ := digits 'i' first
      have digitOnly : ∀ value : Fin 8, 'i' ≠ Nat.digitChar value := by decide
      exact digitOnly ⟨value, below⟩ same

/-- A text writes at most one address. -/
theorem AddressText.unique {text : String} {left right : Nat}
    (first : AddressText text left) (second : AddressText text right) :
    left = right := by
  obtain ⟨core, digits, trims, marked, inner, trimsInner, numeral⟩ := first
  obtain ⟨core', digits', trims', marked', inner', trimsInner', numeral'⟩ :=
    second
  obtain rfl := (trim_eq_iff.mpr trims).symm.trans (trim_eq_iff.mpr trims')
  obtain rfl := (unmarked_eq_iff.mpr marked).symm.trans
    (unmarked_eq_iff.mpr marked')
  obtain rfl := (trim_eq_iff.mpr trimsInner).symm.trans
    (trim_eq_iff.mpr trimsInner')
  rw [(numeral_iff.mp numeral).2.2, (numeral_iff.mp numeral').2.2]

theorem formatAddress_inj {other : Nat} :
    width.formatAddress address = width.formatAddress other ↔
      width.shown address = width.shown other := by
  constructor
  · intro same
    have written := addressText_formatAddress width other
    rw [← same] at written
    exact (addressText_formatAddress width address).unique written
  · intro same
    rw [formatAddress, formatAddress, isIo, isIo, same]

/-- An address past the end is out of range, and the end of the address space is
kept for it. -/
theorem AddressText.readAddress_eq {text : String}
    (written : AddressText text address)
    (representable : address ≤ operandLimit) :
    width.readAddress text =
      if address ≤ width.maxAddress then
        .ok address
      else
        .error (.outOfRange text width.maxAddress) := by
  rw [readAddress, readOctal_unmarked_eq_ok.mpr ⟨written, representable⟩]

theorem readAddress_formatAddress (width : AddressWidth) (address : Nat) :
    width.readAddress (width.formatAddress address) =
      if width.shown address ≤ width.maxAddress then
        .ok (width.shown address)
      else
        .error (.outOfRange (width.formatAddress address)
          width.maxAddress) := by
  refine (addressText_formatAddress width address).readAddress_eq ?_
  have small : 8 ^ width.shownDigits ≤ operandLimit := by cases width <;> decide
  exact Nat.le_trans (Nat.le_of_lt shown_lt_digits) small

/-- Writing an address and reading it back.  What is written is the shown part
in a fixed number of octal digits, marked in the io page; two addresses are
written alike just when this part agrees; and it is read back, except on a bus
of 16 lines when it lies past the end.  Every address that can be read at all
survives the round trip. -/
theorem address_round_trip (width : AddressWidth) (address other : Nat) :
    width.shown address =
      address % 2 ^ (if width.bits = 16 then 17 else width.bits) ∧
    (∃ digits : List Char,
      (width.formatAddress address).toList =
        (if width.ioPageStart ≤ width.shown address then ['i', 'o'] else []) ++
          digits ∧
      digits.length = (if width.bits = 22 then 8 else 6) ∧
      (∀ c ∈ digits, IsDigit 8 c) ∧
      Nat.ofDigitChars 8 digits 0 = width.shown address) ∧
    (width.formatAddress address = width.formatAddress other ↔
      width.shown address = width.shown other) ∧
    (width.readAddress (width.formatAddress address) =
      if width.shown address ≤ width.maxAddress then
        .ok (width.shown address)
      else
        .error (.outOfRange (width.formatAddress address) width.maxAddress)) ∧
    (width.maxAddress < width.shown address → width.bits = 16) ∧
    (∀ text value, width.readAddress text = .ok value →
      width.readAddress (width.formatAddress value) = .ok value) := by
  refine ⟨shown_eq_mod width address,
    ⟨_, toList_formatAddress width address, ?_, isDigit_octalDigits _ _, ?_⟩,
    formatAddress_inj, readAddress_formatAddress width address,
    ?_, ?_⟩
  · rw [length_octalDigits]
    cases width <;> rfl
  · rw [ofDigitChars_octalDigits, Nat.mod_eq_of_lt shown_lt_digits]
  · intro past
    by_cases narrow : width.bits = 16
    · exact narrow
    · exact absurd (shown_le_maxAddress narrow) (Nat.not_le.mpr past)
  · intro text value read
    have within := (readAddress_eq_ok.mp read).2
    rw [readAddress_formatAddress, shown_eq_self within, if_pos within]

/-- An address past the end of 16 lines, and a marked address between blanks. -/
theorem address_round_trip_bits16 :
    bits16.maxAddress < bits16.shown 0x3fffe ∧
    bits16.bits = 16 ∧
    bits16.readAddress " io 177560" = .ok 0xff70 ∧
    bits16.readAddress (bits16.formatAddress 0xff70) = .ok 0xff70 := by
  have past : bits16.maxAddress < bits16.shown 0x3fffe := by decide
  have read : bits16.readAddress " io 177560" = .ok 0xff70 := by rfl
  have facts := address_round_trip bits16 0x3fffe 0
  exact ⟨past, facts.2.2.2.2.1 past, read, facts.2.2.2.2.2 _ _ read⟩

end Backplane.AddressWidth
