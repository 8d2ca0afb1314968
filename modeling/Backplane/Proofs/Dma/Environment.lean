import Backplane.Bus
import Backplane.Proofs.Dma.Step
import Backplane.Proofs.Text.Operand

/-!
# Engine parameters of an environment

What the variables of an environment set lies over the standard parameters.  The
parameters are read just when every text that is set writes a number of its size
and the result is in range; otherwise the first offender is named, an unreadable
text before a value out of range.
-/

namespace Backplane.Dma.Config

open Text

/-- What a variable sets: nothing, or the number that its text writes. -/
inductive Sets (environment : String → Option String) (name : String)
    (bound : Nat) : Option Nat → Prop where
  | unset (absent : environment name = none) : Sets environment name bound none
  | set {text : String} {value : Nat} (present : environment name = some text)
      (operand : Operand 10 text value) (fits : value < bound) :
      Sets environment name bound (some value)

/-- A variable whose text writes no number of its size. -/
structure Unreadable (environment : String → Option String) (name : String)
    (bound : Nat) (text : String) : Prop where
  present : environment name = some text
  foreign : ∀ value < bound, ¬ Operand 10 text value

/-- The standard parameters, with what the variables set over them. -/
structure Overlay (environment : String → Option String) (config : Config) :
    Prop where
  slot : ∃ slot?, Sets environment "QBONE_DMA_PRIORITY_SLOT" (2 ^ 8) slot? ∧
    config.slot = slot?.getD 31
  bandwidth : ∃ bandwidth?, Sets environment "QBONE_DMA_BANDWIDTH_PERCENT"
    (2 ^ 32) bandwidth? ∧
    config.bandwidth = bandwidth?.getD 50
  seed : Sets environment "QBONE_DMA_SEED" (2 ^ 64)
    (config.seed?.map UInt64.toNat)

/-- The fault that is named of an environment. -/
inductive FirstOffender (environment : String → Option String) :
    ConfigFault → Prop where
  | slotText {text : String}
      (unread : Unreadable environment "QBONE_DMA_PRIORITY_SLOT" (2 ^ 8) text) :
      FirstOffender environment (.unreadable "QBONE_DMA_PRIORITY_SLOT" text)
  | bandwidthText {slot? : Option Nat} {text : String}
      (slot : Sets environment "QBONE_DMA_PRIORITY_SLOT" (2 ^ 8) slot?)
      (unread : Unreadable environment "QBONE_DMA_BANDWIDTH_PERCENT"
        (2 ^ 32) text) :
      FirstOffender environment (.unreadable "QBONE_DMA_BANDWIDTH_PERCENT" text)
  | seedText {slot? bandwidth? : Option Nat} {text : String}
      (slot : Sets environment "QBONE_DMA_PRIORITY_SLOT" (2 ^ 8) slot?)
      (bandwidth : Sets environment "QBONE_DMA_BANDWIDTH_PERCENT"
        (2 ^ 32) bandwidth?)
      (unread : Unreadable environment "QBONE_DMA_SEED" (2 ^ 64) text) :
      FirstOffender environment (.unreadable "QBONE_DMA_SEED" text)
  | slotRange {config : Config} (overlay : Overlay environment config)
      (outside : ¬ (1 ≤ config.slot ∧ config.slot ≤ 31)) :
      FirstOffender environment (.slotOutOfRange config.slot)
  | bandwidthRange {config : Config} (overlay : Overlay environment config)
      (inside : 1 ≤ config.slot ∧ config.slot ≤ 31)
      (outside : ¬ (1 ≤ config.bandwidth ∧ config.bandwidth ≤ 100)) :
      FirstOffender environment (.bandwidthOutOfRange config.bandwidth)

section Variables

variable {environment : String → Option String} {name : String} {limit : Nat}

/-- The numbers that a text of a variable may write. -/
theorem readNumeral_trim_eq_ok {text : String} {value : Nat} :
    readNumeral 10 limit (trim text.toList) = .ok value ↔
      Operand 10 text value ∧ value < limit + 1 := by
  rw [readNumeral_eq_ok (by decide), operand_iff, Nat.lt_succ_iff]

theorem readVariable_eq_ok {value? : Option Nat} :
    readVariable environment name limit = .ok value? ↔
      Sets environment name (limit + 1) value? := by
  unfold readVariable
  split
  · rename_i absent
    constructor
    · intro read
      cases read
      exact .unset absent
    · intro sets
      cases sets with
      | unset => rfl
      | set present => cases absent.symm.trans present
  · rename_i text present
    constructor
    · intro read
      split at read
      · rename_i value numeral
        cases read
        obtain ⟨operand, fits⟩ := readNumeral_trim_eq_ok.mp numeral
        exact .set present operand fits
      · cases read
    · intro sets
      cases sets with
      | unset absent => cases present.symm.trans absent
      | set same operand fits =>
          cases present.symm.trans same
          rw [readNumeral_trim_eq_ok.mpr ⟨operand, fits⟩]

theorem readVariable_eq_error {fault : BusError} :
    readVariable environment name limit = .error fault ↔
      ∃ text, Unreadable environment name (limit + 1) text ∧
        fault = .invalidConfig (.unreadable name text) := by
  unfold readVariable
  split
  · rename_i absent
    constructor
    · intro impossible
      cases impossible
    · rintro ⟨text, ⟨present, _⟩, _⟩
      cases absent.symm.trans present
  · rename_i text present
    constructor
    · intro failed
      split at failed
      · cases failed
      · rename_i unread
        cases failed
        refine ⟨text, ⟨present, fun value fits operand => ?_⟩, rfl⟩
        cases unread.symm.trans (readNumeral_trim_eq_ok.mpr ⟨operand, fits⟩)
    · rintro ⟨other, ⟨same, foreign⟩, rfl⟩
      cases present.symm.trans same
      split
      · rename_i value numeral
        obtain ⟨operand, fits⟩ := readNumeral_trim_eq_ok.mp numeral
        exact absurd operand (foreign value fits)
      · rfl

end Variables

variable {environment : String → Option String} {config : Config}

/-- What the variables were read as, put over the standard parameters. -/
def overlaid (slot? bandwidth? seed? : Option Nat) : Config :=
  ⟨slot?.getD 31, bandwidth?.getD 50, seed?.map UInt64.ofNat⟩

/-- The variables are read in order, and the result is checked. -/
theorem ofEnvironment_eq (environment : String → Option String) :
    ofEnvironment environment = (do
      let slot? ← readVariable environment "QBONE_DMA_PRIORITY_SLOT" 0xff
      let bandwidth? ← readVariable environment
        "QBONE_DMA_BANDWIDTH_PERCENT" 0xffffffff
      let seed? ← readVariable environment "QBONE_DMA_SEED" 0xffffffffffffffff
      (overlaid slot? bandwidth? seed?).validate
      return overlaid slot? bandwidth? seed?) := rfl

theorem map_toNat_ofNat {seed? : Option Nat}
    (fits : ∀ seed ∈ seed?, seed < 2 ^ 64) :
    (seed?.map UInt64.ofNat).map UInt64.toNat = seed? := by
  cases seed? with
  | none => rfl
  | some seed =>
      have small : seed < 2 ^ 64 := fits seed rfl
      exact congrArg some (UInt64.toNat_ofNat_of_lt small)

theorem overlay_iff :
    Overlay environment config ↔ ∃ slot? bandwidth? seed?,
      readVariable environment "QBONE_DMA_PRIORITY_SLOT" 0xff = .ok slot? ∧
      readVariable environment "QBONE_DMA_BANDWIDTH_PERCENT" 0xffffffff =
        .ok bandwidth? ∧
      readVariable environment "QBONE_DMA_SEED" 0xffffffffffffffff = .ok seed? ∧
      config = overlaid slot? bandwidth? seed? := by
  simp only [readVariable_eq_ok]
  constructor
  · intro overlay
    obtain ⟨slot, bandwidth, seed?⟩ := config
    obtain ⟨⟨slot?, slotSets, rfl⟩, ⟨bandwidth?, bandwidthSets, rfl⟩,
        seedSets⟩ := overlay
    refine ⟨slot?, bandwidth?, _, slotSets, bandwidthSets, seedSets, ?_⟩
    rw [overlaid, Option.map_map]
    cases seed? with
    | none => rfl
    | some seed => simp
  · rintro ⟨slot?, bandwidth?, seed?, slotSets, bandwidthSets, seedSets, rfl⟩
    refine ⟨⟨slot?, slotSets, rfl⟩, ⟨bandwidth?, bandwidthSets, rfl⟩, ?_⟩
    have fits : ∀ seed ∈ seed?, seed < 2 ^ 64 := by
      intro seed present
      cases seedSets with
      | unset => cases present
      | set _ _ small =>
          cases present
          exact small
    rw [overlaid, map_toNat_ofNat fits]
    exact seedSets

theorem validate_eq_error {fault : BusError} :
    config.validate = .error fault ↔
      (¬ (1 ≤ config.slot ∧ config.slot ≤ 31) ∧
        fault = .invalidConfig (.slotOutOfRange config.slot)) ∨
      ((1 ≤ config.slot ∧ config.slot ≤ 31) ∧
        ¬ (1 ≤ config.bandwidth ∧ config.bandwidth ≤ 100) ∧
        fault = .invalidConfig (.bandwidthOutOfRange config.bandwidth)) := by
  unfold validate
  by_cases slot : 1 ≤ config.slot ∧ config.slot ≤ 31
  · by_cases bandwidth : 1 ≤ config.bandwidth ∧ config.bandwidth ≤ 100
    · simp [slot, bandwidth]
    · simp [slot, bandwidth, eq_comm]
  · simp [slot, eq_comm]

theorem ofEnvironment_eq_ok :
    ofEnvironment environment = .ok config ↔
      Overlay environment config ∧ config.validate = .ok () := by
  rw [ofEnvironment_eq, overlay_iff]
  simp only [except_bind_eq_ok]
  constructor
  · rintro ⟨slot?, slot, bandwidth?, bandwidth, seed?, seed, _, valid, built⟩
    cases built
    exact ⟨⟨slot?, bandwidth?, seed?, slot, bandwidth, seed, rfl⟩, valid⟩
  · rintro ⟨⟨slot?, bandwidth?, seed?, slot, bandwidth, seed, rfl⟩, valid⟩
    exact ⟨slot?, slot, bandwidth?, bandwidth, seed?, seed, (), valid, rfl⟩

/-- Reading ends at the first offender. -/
theorem ofEnvironment_eq_error {fault : BusError} :
    ofEnvironment environment = .error fault ↔
      ∃ offender, FirstOffender environment offender ∧
        fault = .invalidConfig offender := by
  rw [ofEnvironment_eq]
  simp only [except_bind_eq_error, readVariable_eq_error]
  constructor
  · rintro (⟨text, unread, rfl⟩
      | ⟨slot?, slot, ⟨text, unread, rfl⟩
        | ⟨bandwidth?, bandwidth, ⟨text, unread, rfl⟩
          | ⟨seed?, seed, invalid | ⟨_, _, impossible⟩⟩⟩⟩)
    · exact ⟨_, .slotText unread, rfl⟩
    · exact ⟨_, .bandwidthText (readVariable_eq_ok.mp slot) unread, rfl⟩
    · exact ⟨_, .seedText (readVariable_eq_ok.mp slot)
        (readVariable_eq_ok.mp bandwidth) unread, rfl⟩
    · have overlay : Overlay environment (overlaid slot? bandwidth? seed?) :=
        overlay_iff.mpr ⟨slot?, bandwidth?, seed?, slot, bandwidth, seed, rfl⟩
      rcases validate_eq_error.mp invalid with ⟨outside, rfl⟩
        | ⟨inside, outside, rfl⟩
      · exact ⟨_, .slotRange overlay outside, rfl⟩
      · exact ⟨_, .bandwidthRange overlay inside outside, rfl⟩
    · cases impossible
  · rintro ⟨_, offender, rfl⟩
    cases offender with
    | slotText unread => exact .inl ⟨_, unread, rfl⟩
    | bandwidthText slot unread =>
        exact .inr ⟨_, readVariable_eq_ok.mpr slot, .inl ⟨_, unread, rfl⟩⟩
    | seedText slot bandwidth unread =>
        exact .inr ⟨_, readVariable_eq_ok.mpr slot,
          .inr ⟨_, readVariable_eq_ok.mpr bandwidth, .inl ⟨_, unread, rfl⟩⟩⟩
    | slotRange overlay outside =>
        obtain ⟨slot?, bandwidth?, seed?, slot, bandwidth, seed, rfl⟩ :=
          overlay_iff.mp overlay
        exact .inr ⟨_, slot, .inr ⟨_, bandwidth, .inr ⟨_, seed,
          .inl (validate_eq_error.mpr (.inl ⟨outside, rfl⟩))⟩⟩⟩
    | bandwidthRange overlay inside outside =>
        obtain ⟨slot?, bandwidth?, seed?, slot, bandwidth, seed, rfl⟩ :=
          overlay_iff.mp overlay
        exact .inr ⟨_, slot, .inr ⟨_, bandwidth, .inr ⟨_, seed,
          .inl (validate_eq_error.mpr (.inr ⟨inside, outside, rfl⟩))⟩⟩⟩

/-- Parameters that every engine and every bus takes over as they are. -/
structure Welcome (config : Config) : Prop where
  engine : ∀ (σ : Type) [Transport σ] (transport : σ) (width : AddressWidth)
    (entropy : UInt64), ∃ engine : Engine σ ChaCha,
      Engine.new transport width config entropy = .ok engine ∧
      engine.config = config
  bus : ∀ (σ : Type) (bus : Bus σ), bus.withConfig config =
    .ok { bus with config := config }

theorem welcome_of_valid (valid : config.validate = .ok ()) :
    Welcome config where
  engine _ _ _ _ _ := ⟨_, Engine.new_eq_ok.mpr ⟨valid, rfl⟩, rfl⟩
  bus _ bus := by
    rw [Bus.withConfig, valid]
    rfl

/-- The parameters of an environment are the standard ones under what its
variables set.  They are read just when every text writes a number of its size
and the result is in range, and then every engine takes them; otherwise the
first offender is named. -/
theorem ofEnvironment_overlays (environment : String → Option String) :
    (∀ config, ofEnvironment environment = .ok config ↔
      Overlay environment config ∧ (1 ≤ config.slot ∧ config.slot ≤ 31) ∧
        1 ≤ config.bandwidth ∧ config.bandwidth ≤ 100) ∧
    (∀ config, ofEnvironment environment = .ok config → Welcome config) ∧
    ∀ fault, ofEnvironment environment = .error fault ↔
      ∃ offender, FirstOffender environment offender ∧
      fault = .invalidConfig offender := by
  refine ⟨fun config => ?_, fun config read => ?_,
    fun fault => ofEnvironment_eq_error⟩
  · rw [ofEnvironment_eq_ok, validate_eq_ok]
  · exact welcome_of_valid (ofEnvironment_eq_ok.mp read).2

/-- A slot beside blanks, no bandwidth and the largest seed. -/
def paddedVariables (name : String) : Option String :=
  if name = "QBONE_DMA_PRIORITY_SLOT" then some " +7 "
  else if name = "QBONE_DMA_SEED" then some "18446744073709551615"
  else none

/-- A slot of nine bits writes no number of its size; one of six bits is out of
range. -/
theorem ofEnvironment_overlays_of_paddedVariables :
    (Overlay paddedVariables ⟨7, 50, some 18446744073709551615⟩ ∧
      Welcome ⟨7, 50, some 18446744073709551615⟩) ∧
    FirstOffender (fun _ => some "256")
      (.unreadable "QBONE_DMA_PRIORITY_SLOT" "256") ∧
    FirstOffender (fun _ => some "32") (.slotOutOfRange 32) := by
  have read : ofEnvironment paddedVariables =
      .ok ⟨7, 50, some 18446744073709551615⟩ := rfl
  have wide : ofEnvironment (fun _ => some "256") =
      .error (.invalidConfig (.unreadable "QBONE_DMA_PRIORITY_SLOT" "256")) :=
      rfl
  have high : ofEnvironment (fun _ => some "32") =
      .error (.invalidConfig (.slotOutOfRange 32)) := rfl
  obtain ⟨reads, welcomed, _⟩ := ofEnvironment_overlays paddedVariables
  obtain ⟨_, wideOffender, wideSame⟩ :=
    ((ofEnvironment_overlays fun _ => some "256").2.2 _).mp wide
  obtain ⟨_, highOffender, highSame⟩ :=
    ((ofEnvironment_overlays fun _ => some "32").2.2 _).mp high
  cases wideSame
  cases highSame
  exact ⟨⟨((reads _).mp read).1, welcomed _ read⟩, wideOffender, highOffender⟩

end Backplane.Dma.Config
