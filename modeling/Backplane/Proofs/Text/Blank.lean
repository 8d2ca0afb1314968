import Backplane.Text.Blank

/-!
# The text between blanks

`TrimsTo` says what a text is without the blanks around it: blanks may surround
that core, but it neither begins nor ends with one.  Trimming finds this core.
-/

namespace Backplane.Text

/-- A text is its core with blanks around it. -/
structure TrimsTo (chars core : List Char) : Prop where
  around : ∃ before after, chars = before ++ core ++ after ∧
    (∀ c ∈ before, isBlank c = true) ∧ ∀ c ∈ after, isBlank c = true
  firstSolid : ∀ c ∈ core.head?, isBlank c = false
  lastSolid : ∀ c ∈ core.getLast?, isBlank c = false

/-- What is left after dropping is a suffix that starts where the dropping
stops. -/
theorem dropWhile_eq_iff {α : Type} {dropped : α → Bool} {items rest : List α} :
    items.dropWhile dropped = rest ↔
      ∃ before, items = before ++ rest ∧
      (∀ item ∈ before, dropped item = true) ∧
        ∀ item ∈ rest.head?, dropped item = false := by
  constructor
  · rintro rfl
    refine ⟨items.takeWhile dropped,
      List.takeWhile_append_dropWhile.symm, ?_, ?_⟩
    · exact List.all_eq_true.mp List.all_takeWhile
    · intro item head
      have stops := List.head?_dropWhile_not dropped items
      rw [Option.mem_def.mp head] at stops
      exact stops
  · rintro ⟨before, rfl, inside, stops⟩
    rw [List.dropWhile_append_of_pos inside]
    cases rest with
    | nil => rfl
    | cons item rest =>
        rw [List.dropWhile_cons_of_neg (by simp [stops item rfl])]

theorem trimEnd_eq_iff {chars core : List Char} :
    trimEnd chars = core ↔
      ∃ after, chars = core ++ after ∧ (∀ c ∈ after, isBlank c = true) ∧
        ∀ c ∈ core.getLast?, isBlank c = false := by
  rw [trimEnd, List.reverse_eq_iff, dropWhile_eq_iff, List.head?_reverse]
  constructor
  · rintro ⟨after, split, blank, last⟩
    refine ⟨after.reverse, ?_, ?_, last⟩
    · rw [List.reverse_eq_iff.mp split, List.reverse_append,
        List.reverse_reverse]
    · exact fun c member => blank c (List.mem_reverse.mp member)
  · rintro ⟨after, rfl, blank, last⟩
    refine ⟨after.reverse, List.reverse_append, ?_, last⟩
    exact fun c member => blank c (List.mem_reverse.mp member)

/-- Trimming finds the core of a text, and a text has only one. -/
theorem trim_eq_iff {chars core : List Char} :
    trim chars = core ↔ TrimsTo chars core := by
  constructor
  · intro trimmed
    obtain ⟨after, split, afterBlank, lastSolid⟩ := trimEnd_eq_iff.mp trimmed
    obtain ⟨before, whole, beforeBlank, firstSolid⟩ := dropWhile_eq_iff.mp split
    refine ⟨⟨before, after, ?_, beforeBlank, afterBlank⟩, ?_, lastSolid⟩
    · rw [whole, List.append_assoc]
    · intro c head
      refine firstSolid c ?_
      rw [List.head?_append, Option.mem_def.mp head]
      rfl
  · rintro ⟨⟨before, after, rfl, beforeBlank, afterBlank⟩,
      firstSolid, lastSolid⟩
    cases core with
    | nil =>
        have nothing : (before ++ [] ++ after).dropWhile isBlank = [] := by
          rw [List.append_nil]
          refine dropWhile_eq_iff.mpr
            ⟨before ++ after, (List.append_nil _).symm, ?_, nofun⟩
          intro c member
          exact (List.mem_append.mp member).elim (beforeBlank c) (afterBlank c)
        rw [trim, nothing]
        rfl
    | cons first core =>
        rw [trim, dropWhile_eq_iff.mpr
          ⟨before, List.append_assoc _ _ _, beforeBlank, firstSolid⟩]
        exact trimEnd_eq_iff.mpr ⟨after, rfl, afterBlank, lastSolid⟩

end Backplane.Text
