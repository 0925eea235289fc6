import ClusterPool.Proofs.Counts
import ClusterPool.Proofs.Grace

/-! What an environment gives. Each variable is a length of time, a preset or a fault by itself.
They are looked at in one order, and the first fault is the one reported. -/
namespace ClusterPool

theorem fromUTF8?_eq_some_iff {bytes : ByteArray} {text : String} :
    String.fromUTF8? bytes = some text ↔ bytes = text.toUTF8 := by
  constructor
  · intro reads
    obtain ⟨valid, same⟩ := Option.dite_none_right_eq_some.mp reads
    exact congrArg String.toByteArray (Option.some.inj same)
  · rintro rfl
    exact dif_pos text.isValidUTF8

namespace Duration

theorem toNanos_ofMillis (ms : UInt64) : (ofMillis ms).toNanos = ms.toNat * 1000000 := by
  simp only [toNanos, ofMillis, UInt64.toNat_div, UInt64.reduceToNat]
  omega

theorem toMillis_eq (span : Duration) : span.toMillis = span.toNanos / 1000000 := by
  simp only [toMillis, toNanos]
  omega

theorem toNanos_injective {one other : Duration} (same : one.toNanos = other.toNanos) :
    one = other := by
  obtain ⟨seconds, nanos⟩ := one
  obtain ⟨others, more⟩ := other
  simp only [toNanos] at same
  have below := nanos.isLt
  have belowAgain := more.isLt
  rw [mk.injEq, ← UInt64.toNat_inj, ← Fin.val_inj]
  omega

end Duration

namespace Settings

/-- The variable is set to this text. -/
def Holds (environment : Environment) (name raw : String) : Prop :=
  environment name = some raw.toUTF8

/-- Between white space, the text of a variable writes a count of milliseconds. A variable that
holds no text counts the preset. -/
def Gives (environment : Environment) (name : String) (preset millis : Nat) : Prop :=
  (∀ raw, ¬Holds environment name raw) ∧ millis = preset ∨
    ∃ raw middle, Holds environment name raw ∧ Text.Trims raw.toList middle ∧
      Text.Counts middle millis

/-- A variable that holds a text holds a count between white space. -/
def Legal (environment : Environment) (name : String) : Prop :=
  ∀ raw, Holds environment name raw →
    ∃ middle millis, Text.Trims raw.toList middle ∧ Text.Counts middle millis

/-- A variable holds a text that is no count, and this is what is reported of it: its name, the
whole text, and what comes first in it that is wrong. -/
def Offends (environment : Environment) (name : String) (fault : Fault) : Prop :=
  ∃ raw middle cause, Holds environment name raw ∧ Text.Trims raw.toList middle ∧
    Text.FirstFault middle cause ∧
    fault = .misconfigured (name ++ "=" ++ Text.quote raw ++ ": " ++ cause.message)

section
variable {environment : Environment} {name : String} {preset : Duration}

theorem bind_fromUTF8?_eq_some_iff {raw : String} :
    (environment name).bind String.fromUTF8? = some raw ↔ Holds environment name raw := by
  rw [Option.bind_eq_some_iff, Holds]
  constructor
  · rintro ⟨bytes, given, reads⟩
    rw [given, fromUTF8?_eq_some_iff.mp reads]
  · exact fun holds => ⟨_, holds, fromUTF8?_eq_some_iff.mpr rfl⟩

theorem Holds.unique {raw other : String} (holds : Holds environment name raw)
    (holdsAgain : Holds environment name other) : raw = other :=
  Option.some.inj ((bind_fromUTF8?_eq_some_iff.mpr holds).symm.trans
    (bind_fromUTF8?_eq_some_iff.mpr holdsAgain))

/-- A variable that holds no text leaves the preset, and a count is a length of time. -/
theorem lengthFrom_of_gives {presetMillis millis : Nat}
    (given : preset.toNanos = presetMillis * 1000000)
    (gives : Gives environment name presetMillis millis) :
    ∃ length, lengthFrom environment name preset = .ok length ∧
      length.toNanos = millis * 1000000 := by
  obtain ⟨noText, rfl⟩ | ⟨raw, middle, holds, trims, counts⟩ := gives
  · have nothing : (environment name).bind String.fromUTF8? = none :=
      Option.eq_none_iff_forall_ne_some.mpr fun raw => mt bind_fromUTF8?_eq_some_iff.mp (noText raw)
    exact ⟨preset, by simp only [lengthFrom, nothing], given⟩
  · refine ⟨.ofMillis millis.toUInt64, ?_, ?_⟩
    · simp only [lengthFrom, bind_fromUTF8?_eq_some_iff.mpr holds, Text.trims_iff.mp trims,
        Text.readCount_ok_iff.mpr counts]
    · obtain ⟨_, _, _, _, _, _, _, small⟩ := counts
      rw [Duration.toNanos_ofMillis, Nat.toUInt64_eq, UInt64.toNat_ofNat_of_lt' small]

theorem lengthFrom_of_offends {fault : Fault} (offends : Offends environment name fault) :
    lengthFrom environment name preset = .error fault := by
  obtain ⟨raw, middle, cause, holds, trims, first, rfl⟩ := offends
  simp only [lengthFrom, bind_fromUTF8?_eq_some_iff.mpr holds, Text.trims_iff.mp trims,
    Text.readCount_error_iff.mpr first]

/-- There is no third case. -/
theorem gives_or_offends (environment : Environment) (name : String) (presetMillis : Nat) :
    (∃ millis, Gives environment name presetMillis millis) ∨
      ∃ fault, Offends environment name fault := by
  by_cases isText : ∃ raw, Holds environment name raw
  · obtain ⟨raw, holds⟩ := isText
    have trims : Text.Trims raw.toList (Text.trim raw.toList) := Text.trims_iff.mpr rfl
    cases reads : Text.readCount (Text.trim raw.toList) with
    | ok millis => exact .inl ⟨millis, .inr ⟨raw, _, holds, trims, Text.readCount_ok_iff.mp reads⟩⟩
    | error cause =>
      exact .inr ⟨_, raw, _, cause, holds, trims, Text.readCount_error_iff.mp reads, rfl⟩
  · exact .inl ⟨presetMillis, .inl ⟨not_exists.mp isText, rfl⟩⟩

theorem lengthFrom_ok_iff {presetMillis : Nat} (given : preset.toNanos = presetMillis * 1000000)
    {length : Duration} : lengthFrom environment name preset = .ok length ↔
      ∃ millis, Gives environment name presetMillis millis ∧
        length.toNanos = millis * 1000000 := by
  constructor
  · intro read
    obtain ⟨millis, gives⟩ | ⟨fault, offends⟩ := gives_or_offends environment name presetMillis
    · obtain ⟨other, readAgain, whole⟩ := lengthFrom_of_gives given gives
      obtain rfl := Except.ok.inj (read.symm.trans readAgain)
      exact ⟨millis, gives, whole⟩
    · exact absurd (read.symm.trans (lengthFrom_of_offends offends)) nofun
  · rintro ⟨millis, gives, whole⟩
    obtain ⟨other, read, wholeAgain⟩ := lengthFrom_of_gives given gives
    rw [read, Duration.toNanos_injective (whole.trans wholeAgain.symm)]

theorem lengthFrom_error_iff {presetMillis : Nat}
    (given : preset.toNanos = presetMillis * 1000000) {fault : Fault} :
    lengthFrom environment name preset = .error fault ↔ Offends environment name fault := by
  refine ⟨fun fails => ?_, lengthFrom_of_offends⟩
  obtain ⟨millis, gives⟩ | ⟨other, offends⟩ := gives_or_offends environment name presetMillis
  · obtain ⟨length, read, _⟩ := lengthFrom_of_gives given gives
    exact absurd (read.symm.trans fails) nofun
  · obtain rfl := Except.error.inj (fails.symm.trans (lengthFrom_of_offends offends))
    exact offends

theorem legal_iff {presetMillis : Nat} (given : preset.toNanos = presetMillis * 1000000) :
    Legal environment name ↔ ∃ length, lengthFrom environment name preset = .ok length := by
  constructor
  · intro legal
    obtain ⟨millis, gives⟩ | ⟨fault, offends⟩ := gives_or_offends environment name presetMillis
    · obtain ⟨length, read, _⟩ := lengthFrom_of_gives given gives
      exact ⟨length, read⟩
    · obtain ⟨raw, middle, cause, holds, trims, first, _⟩ := offends
      obtain ⟨other, millis, trimsAgain, counts⟩ := legal raw holds
      obtain rfl := (Text.trims_iff.mp trims).symm.trans (Text.trims_iff.mp trimsAgain)
      have read := Text.readCount_ok_iff.mpr counts
      exact absurd (read.symm.trans (Text.readCount_error_iff.mpr first)) nofun
  · rintro ⟨length, read⟩ raw holds
    obtain ⟨millis, gives, _⟩ := (lengthFrom_ok_iff given).mp read
    obtain ⟨noText, _⟩ | ⟨other, middle, holdsAgain, trims, counts⟩ := gives
    · exact absurd holds (noText raw)
    · obtain rfl := holds.unique holdsAgain
      exact ⟨middle, millis, trims, counts⟩

end

theorem ofEnvironment_ok_iff {environment : Environment} {settings : Settings} :
    ofEnvironment environment = .ok settings ↔
      lengthFrom environment graceVariable (.ofSeconds 60) = .ok settings.grace ∧
      lengthFrom environment reloadVariable (.ofSeconds 60) = .ok settings.reloadEvery ∧
      lengthFrom environment reclaimVariable (.ofSeconds 10) = .ok settings.reclaimEvery := by
  obtain ⟨grace, reload, reclaim⟩ := settings
  cases one : lengthFrom environment graceVariable (.ofSeconds 60) <;>
    cases two : lengthFrom environment reloadVariable (.ofSeconds 60) <;>
    cases three : lengthFrom environment reclaimVariable (.ofSeconds 10) <;>
    simp [ofEnvironment, one, two, three, bind, Except.bind, pure, Except.pure]

theorem ofEnvironment_error_iff {environment : Environment} {fault : Fault} :
    ofEnvironment environment = .error fault ↔
      lengthFrom environment graceVariable (.ofSeconds 60) = .error fault ∨
      (∃ grace, lengthFrom environment graceVariable (.ofSeconds 60) = .ok grace) ∧
        (lengthFrom environment reloadVariable (.ofSeconds 60) = .error fault ∨
        (∃ reload, lengthFrom environment reloadVariable (.ofSeconds 60) = .ok reload) ∧
          lengthFrom environment reclaimVariable (.ofSeconds 10) = .error fault) := by
  cases one : lengthFrom environment graceVariable (.ofSeconds 60) <;>
    cases two : lengthFrom environment reloadVariable (.ofSeconds 60) <;>
    cases three : lengthFrom environment reclaimVariable (.ofSeconds 10) <;>
    simp [ofEnvironment, one, two, three, bind, Except.bind, pure, Except.pure]

/-- In the unit of stamps, the grace period is cut at the greatest stamp. -/
theorem toInt_graceMillis {settings : Settings} {millis : Nat}
    (whole : settings.grace.toNanos = millis * 1000000) :
    settings.graceMillis.toInt = min (millis : Int) Int64.maxValue.toInt := by
  rw [graceMillis, Duration.toInt_clampedMillis, Duration.toMillis_eq, whole,
    Nat.mul_div_cancel _ (by decide)]

/-- An environment gives settings if and only if every variable that holds a text holds a count. The
settings are then the lengths of time that were counted, and the presets where there is no text; in
stamps, the grace period is cut at the greatest stamp. Otherwise the first offending variable is
reported, in the order of the grace period, the reloading and the reclaiming. -/
theorem ofEnvironment_reads (environment : Environment) :
    ((∃ settings, ofEnvironment environment = .ok settings) ↔
      Legal environment graceVariable ∧ Legal environment reloadVariable ∧
        Legal environment reclaimVariable) ∧
    (∀ settings, ofEnvironment environment = .ok settings ↔
      ∃ grace reload reclaim, Gives environment graceVariable 60000 grace ∧
        Gives environment reloadVariable 60000 reload ∧
        Gives environment reclaimVariable 10000 reclaim ∧
        settings.grace.toNanos = grace * 1000000 ∧
        settings.reloadEvery.toNanos = reload * 1000000 ∧
        settings.reclaimEvery.toNanos = reclaim * 1000000 ∧
        settings.graceMillis.toInt = min (grace : Int) Int64.maxValue.toInt) ∧
    ∀ fault, ofEnvironment environment = .error fault ↔
      Offends environment graceVariable fault ∨ Legal environment graceVariable ∧
        (Offends environment reloadVariable fault ∨ Legal environment reloadVariable ∧
          Offends environment reclaimVariable fault) := by
  have minute : (Duration.ofSeconds 60).toNanos = 60000 * 1000000 := by decide
  have moment : (Duration.ofSeconds 10).toNanos = 10000 * 1000000 := by decide
  refine ⟨?_, fun settings => ?_, fun fault => ?_⟩
  · rw [legal_iff minute, legal_iff minute, legal_iff moment]
    constructor
    · rintro ⟨settings, read⟩
      obtain ⟨grace, reload, reclaim⟩ := ofEnvironment_ok_iff.mp read
      exact ⟨⟨_, grace⟩, ⟨_, reload⟩, ⟨_, reclaim⟩⟩
    · rintro ⟨⟨grace, one⟩, ⟨reload, two⟩, reclaim, three⟩
      exact ⟨⟨grace, reload, reclaim⟩, ofEnvironment_ok_iff.mpr ⟨one, two, three⟩⟩
  · rw [ofEnvironment_ok_iff, lengthFrom_ok_iff minute, lengthFrom_ok_iff minute,
      lengthFrom_ok_iff moment]
    constructor
    · rintro ⟨⟨grace, one, graceWhole⟩, ⟨reload, two, reloadWhole⟩, reclaim, three, reclaimWhole⟩
      refine ⟨grace, reload, reclaim, one, two, three, graceWhole, reloadWhole, reclaimWhole, ?_⟩
      exact toInt_graceMillis graceWhole
    · rintro ⟨grace, reload, reclaim, one, two, three, graceWhole, reloadWhole, reclaimWhole, _⟩
      exact ⟨⟨grace, one, graceWhole⟩, ⟨reload, two, reloadWhole⟩, reclaim, three, reclaimWhole⟩
  · rw [ofEnvironment_error_iff, lengthFrom_error_iff minute, lengthFrom_error_iff minute,
      lengthFrom_error_iff moment, ← legal_iff minute, ← legal_iff minute]

example : ofEnvironment (fun name => if name = graceVariable then some " +007\n".toUTF8 else none) =
    .ok { grace := .ofMillis 7 } := by decide

end Settings
end ClusterPool
