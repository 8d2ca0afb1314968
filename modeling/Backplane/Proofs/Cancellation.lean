import Backplane.Cancellation
import Backplane.Exerciser.Run

/-!
# What a token tells

Tokens come in families: a token that is issued founds a family, and a copy
belongs to the family of the token that it was made of.  A token tells a
cancellation just when a token of its family was cancelled, whichever that was
and however long ago.  A run polls a token of which a copy is cancelled with the
request of a given number.
-/

namespace Backplane

namespace Cancellation

/-- What is done with tokens. -/
inductive Use where
  | issue
  | copy (token : Nat)
  | cancel (token : Nat)

/-- The tokens after uses of tokens that were given out before.  The latest use
stands first. -/
inductive After : List Use → Cancellation → Prop where
  | start : After [] {}
  | issue {uses : List Use} {tokens : Cancellation}
      (earlier : After uses tokens) : After (.issue :: uses) tokens.issue
  | copy {uses : List Use} {tokens : Cancellation} {token : Nat}
      (earlier : After uses tokens) (present : token < tokens.flagOf.size) :
      After (.copy token :: uses) (tokens.copy token)
  | cancel {uses : List Use} {tokens : Cancellation} {token : Nat}
      (earlier : After uses tokens) (present : token < tokens.flagOf.size) :
      After (.cancel token :: uses) (tokens.cancel token)

/-- The number of tokens that were given out. -/
def given : List Use → Nat
  | [] => 0
  | .cancel _ :: uses => given uses
  | .issue :: uses | .copy _ :: uses => given uses + 1

/-- The number of families. -/
def families : List Use → Nat
  | [] => 0
  | .issue :: uses => families uses + 1
  | .copy _ :: uses | .cancel _ :: uses => families uses

/-- Tokens and families are numbered as they come up. -/
inductive Belongs : List Use → Nat → Nat → Prop where
  | issued {uses : List Use} :
      Belongs (.issue :: uses) (given uses) (families uses)
  | copied {uses : List Use} {token family : Nat}
      (original : Belongs uses token family) :
      Belongs (.copy token :: uses) (given uses) family
  | kept {uses : List Use} {use : Use} {token family : Nat}
      (earlier : Belongs uses token family) : Belongs (use :: uses) token family

/-- A token of the family was cancelled. -/
inductive Stopped : List Use → Nat → Prop where
  | now {uses : List Use} {token family : Nat}
      (member : Belongs uses token family) :
      Stopped (.cancel token :: uses) family
  | before {uses : List Use} {use : Use} {family : Nat}
      (earlier : Stopped uses family) : Stopped (use :: uses) family

theorem Belongs.lt_given {uses : List Use} {token family : Nat}
    (member : Belongs uses token family) : token < given uses := by
  induction member with
  | issued | copied => exact Nat.lt_succ_self _
  | @kept _ use _ _ _ induction =>
      cases use with
      | issue | copy => exact Nat.lt_succ_of_lt induction
      | cancel => exact induction

theorem Belongs.lt_families {uses : List Use} {token family : Nat}
    (member : Belongs uses token family) : family < families uses := by
  induction member with
  | issued => exact Nat.lt_succ_self _
  | copied _ induction => exact induction
  | @kept _ use _ _ _ induction =>
      cases use with
      | issue => exact Nat.lt_succ_of_lt induction
      | copy | cancel => exact induction

theorem Stopped.lt_families {uses : List Use} {family : Nat}
    (stopped : Stopped uses family) : family < families uses := by
  induction stopped with
  | now member => exact member.lt_families
  | @before _ use _ _ induction =>
      cases use with
      | issue => exact Nat.lt_succ_of_lt induction
      | copy | cancel => exact induction

/-- The flag of a token is the number of its family, and it is raised just when
the family was stopped. -/
structure Tracks (uses : List Use) (tokens : Cancellation) : Prop where
  given : tokens.flagOf.size = given uses
  families : tokens.raised.size = families uses
  belongs : ∀ token family,
    tokens.flagOf[token]? = some family ↔ Belongs uses token family
  stopped : ∀ family, tokens.raised[family]? = some true ↔ Stopped uses family

namespace Tracks

variable {uses : List Use} {tokens : Cancellation}

theorem start : Tracks [] {} where
  given := rfl
  families := rfl
  belongs _ _ := ⟨nofun, nofun⟩
  stopped _ := ⟨nofun, nofun⟩

theorem issue (tracks : Tracks uses tokens) :
    Tracks (.issue :: uses) tokens.issue where
  given := by
    rw [Cancellation.issue, Array.size_push, tracks.given, Cancellation.given]
  families := by
    rw [Cancellation.issue, Array.size_push, tracks.families,
      Cancellation.families]
  belongs token family := by
    rw [Cancellation.issue, Array.getElem?_push, tracks.given, tracks.families]
    constructor
    · intro found
      split at found
      · rename_i same
        cases same
        cases found
        exact .issued
      · exact .kept ((tracks.belongs token family).mp found)
    · intro member
      cases member with
      | issued => rw [if_pos rfl]
      | kept earlier =>
          rw [if_neg (Nat.ne_of_lt earlier.lt_given)]
          exact (tracks.belongs token family).mpr earlier
  stopped family := by
    rw [Cancellation.issue, Array.getElem?_push, tracks.families]
    constructor
    · intro found
      split at found
      · cases found
      · exact .before ((tracks.stopped family).mp found)
    · intro stopped
      cases stopped with
      | before earlier =>
          rw [if_neg (Nat.ne_of_lt earlier.lt_families)]
          exact (tracks.stopped family).mpr earlier

theorem copy {token : Nat} (tracks : Tracks uses tokens)
    (present : token < tokens.flagOf.size) :
    Tracks (.copy token :: uses) (tokens.copy token) := by
  obtain ⟨flag, found⟩ : ∃ flag, tokens.flagOf[token]? = some flag :=
    ⟨_, Array.getElem?_eq_getElem present⟩
  have copied : tokens.copy token =
      { tokens with flagOf := tokens.flagOf.push flag } := by
    rw [Cancellation.copy, found]
  have original := (tracks.belongs token flag).mp found
  rw [copied]
  refine ⟨?_, tracks.families, fun other family => ?_, fun family => ?_⟩
  · rw [Array.size_push, tracks.given, Cancellation.given]
  · rw [Array.getElem?_push, tracks.given]
    constructor
    · intro pushed
      split at pushed
      · rename_i same
        cases same
        cases pushed
        exact .copied original
      · exact .kept ((tracks.belongs other family).mp pushed)
    · intro member
      cases member with
      | copied original =>
          rw [if_pos rfl, ← found]
          exact (tracks.belongs token family).mpr original
      | kept earlier =>
          rw [if_neg (Nat.ne_of_lt earlier.lt_given)]
          exact (tracks.belongs other family).mpr earlier
  · refine (tracks.stopped family).trans ⟨.before, fun stopped => ?_⟩
    cases stopped with
    | before earlier => exact earlier

theorem cancel {token : Nat} (tracks : Tracks uses tokens)
    (present : token < tokens.flagOf.size) :
    Tracks (.cancel token :: uses) (tokens.cancel token) := by
  obtain ⟨flag, found⟩ : ∃ flag, tokens.flagOf[token]? = some flag :=
    ⟨_, Array.getElem?_eq_getElem present⟩
  have cancelled : tokens.cancel token =
      { tokens with raised := tokens.raised.setIfInBounds flag true } := by
    rw [Cancellation.cancel, found]
  have member := (tracks.belongs token flag).mp found
  rw [cancelled]
  refine ⟨tracks.given, ?_, fun other family => ?_, fun family => ?_⟩
  · rw [Array.size_setIfInBounds, tracks.families, Cancellation.families]
  · refine (tracks.belongs other family).trans ⟨.kept, fun belongs => ?_⟩
    cases belongs with
    | kept earlier => exact earlier
  · rw [Array.getElem?_setIfInBounds, tracks.families]
    constructor
    · intro raised
      split at raised
      · rename_i same
        cases same
        exact .now member
      · exact .before ((tracks.stopped family).mp raised)
    · intro stopped
      cases stopped with
      | now same =>
          have flagSame := (tracks.belongs token family).mpr same
          cases found.symm.trans flagSame
          rw [if_pos rfl, if_pos member.lt_families]
      | before earlier =>
          by_cases same : flag = family
          · rw [if_pos same, if_pos (same ▸ member.lt_families)]
          · rw [if_neg same]
            exact (tracks.stopped family).mpr earlier

end Tracks

theorem After.tracks {uses : List Use} {tokens : Cancellation}
    (after : After uses tokens) : Tracks uses tokens := by
  induction after with
  | start => exact .start
  | issue _ induction => exact induction.issue
  | copy _ present induction => exact induction.copy present
  | cancel _ present induction => exact induction.cancel present

/-- A token tells whether a token of its family was cancelled. -/
theorem After.states_iff {uses : List Use} {tokens : Cancellation}
    (after : After uses tokens) {token : Nat} {raised : Bool} :
    tokens.states[token]? = some raised ↔
      ∃ family, Belongs uses token family ∧
        (raised = true ↔ Stopped uses family) := by
  have tracks := after.tracks
  rw [states, Array.getElem?_map, Option.map_eq_some_iff]
  have tells : ∀ family, Belongs uses token family →
      (tokens.raised.getD family false = raised ↔
        (raised = true ↔ Stopped uses family)) := by
    intro family member
    rw [← tracks.stopped family]
    have bound : family < tokens.raised.size :=
      tracks.families ▸ member.lt_families
    rw [Array.getD_eq_getD_getElem?, Array.getElem?_eq_getElem bound]
    simp only [Option.getD_some, Option.some.injEq]
    cases raised <;> simp
  constructor
  · rintro ⟨family, found, told⟩
    have member := (tracks.belongs token family).mp found
    exact ⟨family, member, (tells family member).mp told⟩
  · rintro ⟨family, member, told⟩
    exact ⟨family, (tracks.belongs token family).mpr member,
      (tells family member).mpr told⟩

/-- No use of tokens takes a cancellation back. -/
theorem After.states_cons {uses : List Use} {use : Use}
    {tokens later : Cancellation} (after : After uses tokens)
    (next : After (use :: uses) later) {token : Nat}
    (raised : tokens.states[token]? = some true) :
    later.states[token]? = some true := by
  obtain ⟨family, member, stopped⟩ := after.states_iff.mp raised
  exact next.states_iff.mpr
    ⟨family, member.kept, iff_of_true rfl (stopped.mp rfl).before⟩

end Cancellation

namespace Exerciser

open Cancellation Dma

variable {σ γ : Type}

/-- The token of a run, and a copy of it that is cancelled with the request of a
number: the uses of both after some requests. -/
def tokenUses (cancelAfter : Nat) : Nat → List Use
  | 0 =>
    if cancelAfter = 0 then [.cancel 1, .copy 0, .issue] else [.copy 0, .issue]
  | requests + 1 =>
    if cancelAfter = requests + 1 then .cancel 1 ::
      tokenUses cancelAfter requests
    else tokenUses cancelAfter requests

theorem belongs_tokenUses (cancelAfter requests : Nat) :
    Belongs (tokenUses cancelAfter requests) 0 0 ∧
      Belongs (tokenUses cancelAfter requests) 1 0 := by
  induction requests with
  | zero =>
      have own : Belongs [.copy 0, .issue] 0 0 := .kept .issued
      have copied : Belongs [.copy 0, .issue] 1 0 := .copied .issued
      rw [tokenUses]
      split
      · exact ⟨own.kept, copied.kept⟩
      · exact ⟨own, copied⟩
  | succ requests induction =>
      rw [tokenUses]
      split
      · exact ⟨induction.1.kept, induction.2.kept⟩
      · exact induction

theorem exists_after_tokenUses (cancelAfter requests : Nat) :
    ∃ tokens, After (tokenUses cancelAfter requests) tokens := by
  have cancelled : ∀ {uses tokens}, After uses tokens → Belongs uses 1 0 →
      ∃ next, After (.cancel 1 :: uses) next := by
    intro uses tokens after member
    exact ⟨_, after.cancel (after.tracks.given ▸ member.lt_given)⟩
  have opened : After [.copy 0, .issue] _ :=
    .copy (.issue .start) Nat.zero_lt_one
  induction requests with
  | zero =>
      rw [tokenUses]
      split
      · exact cancelled opened (.copied .issued)
      · exact ⟨_, opened⟩
  | succ requests induction =>
      obtain ⟨tokens, after⟩ := induction
      rw [tokenUses]
      split
      · exact cancelled after (belongs_tokenUses cancelAfter requests).2
      · exact ⟨tokens, after⟩

theorem stopped_tokenUses_iff (cancelAfter requests : Nat) :
    Stopped (tokenUses cancelAfter requests) 0 ↔ cancelAfter ≤ requests := by
  induction requests with
  | zero =>
      rw [tokenUses, Nat.le_zero]
      split
      · rename_i now
        exact iff_of_true (.now (.copied .issued)) now
      · rename_i later
        refine iff_of_false (fun stopped => ?_) later
        obtain _ | opened := stopped
        obtain _ | first := opened
        cases first
  | succ requests induction =>
      rw [tokenUses]
      split
      · rename_i now
        exact iff_of_true (.now (belongs_tokenUses cancelAfter requests).2)
          (Nat.le_of_eq now)
      · rw [induction]
        omega

/-- Between two passes a run polls its token. -/
theorem isCancelled_polls (engine : Engine σ γ)
    {before cancelAfter requests : Nat}
    (issued : engine.stats.transfers = before + requests) :
    ∃ tokens raised, After (tokenUses cancelAfter requests) tokens ∧
      tokens.states[0]? = some raised ∧
      isCancelled (before + cancelAfter) engine = .ok (raised, engine) := by
  obtain ⟨tokens, after⟩ := exists_after_tokenUses cancelAfter requests
  refine ⟨tokens, decide (cancelAfter ≤ requests), after, ?_, ?_⟩
  · refine after.states_iff.mpr
      ⟨0, (belongs_tokenUses cancelAfter requests).1, ?_⟩
    rw [decide_eq_true_eq, stopped_tokenUses_iff]
  · have polled : isCancelled (before + cancelAfter) engine =
        .ok (decide (before + cancelAfter ≤ engine.stats.transfers), engine) :=
      rfl
    rw [polled, issued]
    simp

end Exerciser

end Backplane
