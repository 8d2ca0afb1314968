import Backplane.Proofs.Text.Faults

/-!
# Quoted operands

The error of a reader quotes the text that was read, so that a console can show
what was typed.  An address that is no numeral is the exception: what is quoted
is the inner text, without the blanks around it and the mark of the io page.
-/

namespace Backplane

/-- The text that an error quotes. -/
def ParseError.quoted? : ParseError → Option String
  | .empty => none
  | .malformed text | .outOfRange text _ => some text

namespace Text

/-- Whatever text an error quotes is the text that was given. -/
def Quotes (text : String) (result : Except ParseError Nat) : Prop :=
  ∀ fault quoted, result = .error fault → fault.quoted? = some quoted →
    quoted = text

theorem Reading.quotes {rule : OperandRule} {core : List Char} {text : String}
    {result : Except ParseError Nat}
    (reading : Reading rule core text text result) : Quotes text result := by
  intro fault quoted failed quotation
  subst failed
  cases reading with
  | empty => cases quotation
  | refused | exceeding | malformed =>
      cases quotation
      rfl

theorem Reading.quoted_of_malformed {rule : OperandRule} {core : List Char}
    {text inner quoted : String}
    (reading : Reading rule core text inner (.error (.malformed quoted))) :
    quoted = inner := by
  cases reading
  rfl

theorem Reading.quoted_of_outOfRange {rule : OperandRule} {core : List Char}
    {text inner quoted : String} {shown : Nat}
    (reading : Reading rule core text inner
      (.error (.outOfRange quoted shown))) :
    quoted = text := by
  generalize failed : Except.error (ParseError.outOfRange quoted shown) =
    result at reading
  cases reading with
  | refused | exceeding =>
      cases failed
      rfl
  | _ => cases failed

/-- A text that begins with an apostrophe is quoted like any other. -/
theorem quotes_readWord (text : String) : Quotes text (readWord text) := by
  intro fault quoted failed quotation
  unfold readWord at failed
  split at failed
  · cases failed
    cases quotation
  · split at failed
    · cases failed
    · cases failed
      cases quotation
      rfl
  · cases failed
    cases quotation
    rfl
  · exact (readOctal_word_reading text).quotes fault quoted failed quotation

theorem TrimsTo.length_le {chars core : List Char}
    (trims : TrimsTo chars core) : core.length ≤ chars.length := by
  obtain ⟨before, after, rfl, _⟩ := trims.around
  simp only [List.length_append]
  omega

end Text

namespace AddressWidth

open Text

/-- The inner text of an address is the whole text only if it has neither blanks
around it nor a mark. -/
theorem Unmarked.eq_iff {chars trimmed digits : List Char}
    (trims : TrimsTo chars trimmed) (split : Unmarked trimmed digits) :
    digits = chars ↔ trimmed = chars ∧ digits = trimmed := by
  constructor
  · rintro rfl
    have shorter := trims.length_le
    cases split with
    | marked =>
        simp only [List.length_cons] at shorter
        omega
    | bare => exact ⟨rfl, rfl⟩
  · rintro ⟨rfl, rfl⟩
    rfl

end AddressWidth

namespace Text

/-- The errors of the readers quote what was typed.  Only an address that is no
numeral is quoted without what was taken off before its digits were read, so
that its blanks and its mark are missing. -/
theorem readers_quote (text : String) :
    Quotes text (readWord text) ∧ Quotes text (readInterruptLevel text) ∧
    (∀ limit, Quotes text (readInterruptVector text limit)) ∧
    Quotes text (readPrioritySlot text) ∧
    ∀ width : AddressWidth, ∃ trimmed digits, TrimsTo text.toList trimmed ∧
      AddressWidth.Unmarked trimmed digits ∧
      (∀ quoted shown,
        width.readAddress text = .error (.outOfRange quoted shown) →
        quoted = text) ∧
      ∀ quoted, width.readAddress text = .error (.malformed quoted) →
        quoted.toList = digits ∧
          (quoted = text ↔ trimmed = text.toList ∧ digits = trimmed) := by
  refine ⟨quotes_readWord text, (readInterruptLevel_reading text).quotes,
    fun limit => (readInterruptVector_reading text limit).quotes,
    (readPrioritySlot_reading text).quotes, fun width => ?_⟩
  have trims : TrimsTo text.toList (trim text.toList) := trim_eq_iff.mp rfl
  have split : AddressWidth.Unmarked (trim text.toList) _ :=
    AddressWidth.unmarked_eq_iff.mp rfl
  have reading := readAddress_reading text width rfl
  refine ⟨_, _, trims, split, fun quoted shown failed => ?_,
    fun quoted failed => ?_⟩
  · rw [failed] at reading
    exact reading.quoted_of_outOfRange
  · rw [failed] at reading
    have inner := reading.quoted_of_malformed
    have chars : quoted.toList = AddressWidth.unmarked (trim text.toList) := by
      rw [inner, String.toList_ofList]
    refine ⟨chars, ?_⟩
    rw [← split.eq_iff trims, ← chars, String.toList_inj]

/-- Of a marked address between blanks the readers of numbers quote all, the
reader of addresses the digits behind the mark. -/
theorem readers_quote_of_marked :
    (∃ quoted, readWord " io8" = .error (.malformed quoted) ∧ quoted = " io8") ∧
    ∃ trimmed digits quoted, TrimsTo " io8".toList trimmed ∧
      AddressWidth.Unmarked trimmed digits ∧
      AddressWidth.bits18.readAddress " io8" = .error (.malformed quoted) ∧
      quoted.toList = digits := by
  obtain ⟨word, _, _, _, address⟩ := readers_quote " io8"
  obtain ⟨trimmed, digits, trims, split, _, malformed⟩ := address .bits18
  have typed : readWord " io8" = .error (.malformed " io8") := rfl
  have inner : AddressWidth.bits18.readAddress " io8" =
      .error (.malformed "8") := rfl
  exact ⟨⟨_, typed, word _ _ typed rfl⟩, trimmed, digits, _,
    trims, split, inner, (malformed _ inner).1⟩

/-- A marked address that is no octal number is quoted without its mark. -/
theorem readAddress_drops_mark :
    AddressWidth.bits18.readAddress "io8" = .error (.malformed "8") ∧
      ¬ Quotes "io8" (AddressWidth.bits18.readAddress "io8") := by
  have failed : AddressWidth.bits18.readAddress "io8" =
      .error (.malformed "8") := rfl
  exact ⟨failed, fun quotes => absurd (quotes _ "8" failed rfl) (by decide)⟩

end Text

end Backplane
