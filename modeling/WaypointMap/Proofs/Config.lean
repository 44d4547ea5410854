import WaypointMap.Config
import WaypointMap.Proofs.Checked
import WaypointMap.Proofs.Json.Key

/-!
# Settings that are refused

Settings are a configuration, with a threshold that is positive and finite, or there is a complaint
about them. Only a threshold that is an integer too large for a double is not complained about, but
fails with an overflow; unknown keys are found before it is looked at.
-/

namespace WaypointMap

open Checked

namespace Config

/-! ## Keys -/

theorem checkKeys_of_known {keys : List Json} (known : ∀ key ∈ keys, isKnown key = true) :
    checkKeys keys = .ok () := by
  have clean : keys.filter (!isKnown ·) = [] := by
    rw [List.filter_eq_nil_iff]
    intro key hkey
    simp [known key hkey]
  unfold checkKeys
  rw [clean]
  rfl

/-- Unknown keys are complained about. -/
theorem checkKeys_of_unknown {keys : List Json} (texts : ∀ key ∈ keys, ∃ t, key = .text t)
    (unknown : ∃ key ∈ keys, isKnown key = false) :
    checkKeys keys =
      .error (.unknownSettings
        (Json.sortedKeys (Json.distinctKeys (keys.filter (!isKnown ·))))) := by
  obtain ⟨key, hkey, unknown⟩ := unknown
  have any : keys.filter (!isKnown ·) ≠ [] :=
    List.ne_nil_of_mem (List.mem_filter.2 ⟨hkey, by rw [unknown]; rfl⟩)
  have ordered : Json.unorderable? (Json.distinctKeys (keys.filter (!isKnown ·))) = none :=
    Json.unorderable?_of_texts fun key hkey =>
      texts key (List.mem_filter.1 (Json.mem_of_mem_distinctKeys hkey)).1
  unfold checkKeys
  rw [if_neg (by simpa using Json.distinctKeys_ne_nil any), ordered]

/-! ## The threshold -/

theorem threshold?_of_not_isOversized {v : Json} (small : ¬ v.IsOversized) :
    threshold? v = none ∨ ∃ x, threshold? v = some (.ok x) := by
  unfold threshold?
  split
  · exact .inl rfl
  · exact Json.number?_of_not_isOversized small

theorem make_of_none {threshold smoothing : Json} (absent : threshold? threshold = none) :
    make threshold smoothing = .error (.thresholdNotNumber threshold) := by
  rw [make, absent]
  rfl

theorem make_of_some {threshold : Json} (smoothing : Json) {x : Float}
    (present : threshold? threshold = some (.ok x)) :
    make threshold smoothing =
      if x.isFinite && 0 < x then .ok ⟨x, smoothing.truth⟩
      else .error (.thresholdOutOfRange threshold) := by
  rw [make, present]
  rfl

/-- What comes of a threshold. -/
theorem make_cases (threshold smoothing : Json) :
    threshold.IsOversized ∧ make threshold smoothing = .error .integerTooLarge ∨
      ¬ threshold.IsOversized ∧
        (make threshold smoothing = .error (.thresholdNotNumber threshold) ∨
          make threshold smoothing = .error (.thresholdOutOfRange threshold) ∨
          ∃ x : Float, x.isFinite = true ∧ 0 < x ∧
            make threshold smoothing = .ok ⟨x, smoothing.truth⟩) := by
  by_cases large : threshold.IsOversized
  · refine .inl ⟨large, ?_⟩
    have number := Json.number?_of_isOversized large
    obtain ⟨n, rfl, -⟩ := large
    have tooLarge : threshold? (.int n) = some (.error .integerTooLarge) := number
    rw [make, tooLarge]
    rfl
  · refine .inr ⟨large, ?_⟩
    obtain absent | ⟨x, present⟩ := threshold?_of_not_isOversized large
    · exact .inl (make_of_none absent)
    · have made := make_of_some smoothing present
      by_cases inRange : (x.isFinite && decide (0 < x)) = true
      · rw [if_pos inRange] at made
        rw [Bool.and_eq_true, decide_eq_true_eq] at inRange
        exact .inr (.inr ⟨x, inRange.1, inRange.2, made⟩)
      · rw [if_neg inRange] at made
        exact .inr (.inl made)

theorem reads_make (threshold smoothing : Json) :
    (make threshold smoothing).Reads threshold.IsOversized := by
  obtain ⟨large, made⟩ | ⟨small, made | made | ⟨x, -, -, made⟩⟩ := make_cases threshold smoothing
  · exact .overflow made rfl large
  · exact .complaint made rfl small
  · exact .complaint made rfl small
  · exact .value made small

theorem threshold_of_make {threshold smoothing : Json} {config : Config Float}
    (read : make threshold smoothing = .ok config) :
    config.threshold.isFinite = true ∧ 0 < config.threshold := by
  obtain ⟨-, made⟩ | ⟨-, made | made | ⟨x, finite, positive, made⟩⟩ :=
    make_cases threshold smoothing
  · cases made.symm.trans read
  · cases made.symm.trans read
  · cases made.symm.trans read
  · cases made.symm.trans read
    exact ⟨finite, positive⟩

/-! ## Settings -/

section Entries

variable (entries : List (Text × Json))

/-- Whether settings have no keys but those of settings. -/
def AllKnown : Prop := ∀ entry ∈ entries, isKnown (.text entry.1) = true

/-- Whether the reading of settings stops at a threshold out of range. -/
def Overflows : Prop :=
  AllKnown entries ∧ ∃ v, Json.find? thresholdKey entries = some v ∧ v.IsOversized

/-- The keys of settings are looked at before their values. -/
theorem ofEntries_cases :
    (AllKnown entries ∧ ofEntries entries =
        make ((Json.find? thresholdKey entries).getD (.decimal (default : Config Float).threshold))
          ((Json.find? smoothingKey entries).getD (.bool (default : Config Float).smoothing))) ∨
      ¬ AllKnown entries ∧ ∃ keys, ofEntries entries = .error (.unknownSettings keys) := by
  by_cases known : AllKnown entries
  · refine .inl ⟨known, ?_⟩
    have checked : checkKeys (entries.map fun entry => .text entry.1) = .ok () :=
      checkKeys_of_known (List.forall_mem_map.2 known)
    rw [ofEntries, checked]
    rfl
  · refine .inr ⟨known, ?_⟩
    obtain ⟨entry, hentry, unknown⟩ : ∃ entry ∈ entries, isKnown (.text entry.1) = false := by
      simpa [AllKnown] using known
    have texts : ∀ key ∈ entries.map fun entry => Json.text entry.1, ∃ t, key = .text t :=
      List.forall_mem_map.2 fun entry _ => ⟨entry.1, rfl⟩
    obtain ⟨keys, checked⟩ : ∃ keys, checkKeys (entries.map fun entry => .text entry.1) =
        .error (.unknownSettings keys) :=
      ⟨_, checkKeys_of_unknown texts ⟨_, List.mem_map_of_mem hentry, unknown⟩⟩
    refine ⟨keys, ?_⟩
    rw [ofEntries, checked]
    rfl

theorem failsIn_ofEntries : (ofEntries entries).FailsIn [.value, .overflow] := by
  obtain ⟨-, read⟩ | ⟨-, keys, refused⟩ := ofEntries_cases entries
  · exact read ▸ (reads_make _ _).failsIn
  · exact refused ▸ failsIn_error (.head _)

theorem isOversized_getD_iff {v : Option Json} {x : Float} :
    (v.getD (.decimal x)).IsOversized ↔ ∃ w, v = some w ∧ w.IsOversized := by
  cases v with
  | none => exact iff_of_false (by rintro ⟨_, ⟨⟩, _⟩) (by rintro ⟨_, ⟨⟩, _⟩)
  | some w => simp

theorem overflows_ofEntries_iff : (ofEntries entries).Overflows ↔ Overflows entries := by
  obtain ⟨known, read⟩ | ⟨unknown, keys, refused⟩ := ofEntries_cases entries
  · rw [read, (reads_make _ _).overflows_iff, isOversized_getD_iff]
    exact (and_iff_right known).symm
  · rw [refused, overflows_error_iff]
    exact iff_of_false (by rintro ⟨⟩) fun overflow => unknown overflow.1

theorem threshold_of_ofEntries {config : Config Float} (read : ofEntries entries = .ok config) :
    config.threshold.isFinite = true ∧ 0 < config.threshold := by
  obtain ⟨-, made⟩ | ⟨-, keys, refused⟩ := ofEntries_cases entries
  · exact threshold_of_make (made.symm.trans read)
  · cases refused.symm.trans read

end Entries

end Config

end WaypointMap
