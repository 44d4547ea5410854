import WaypointMap.Proofs.Config

/-!
# Settings that are accepted

A threshold and a smoothing flag that are given take the place of those of a file. What counts is
then accepted if no key is unknown and the threshold is a positive and finite number. So a threshold
of the file may be anything if it does not count.
-/

namespace WaypointMap

open Checked

namespace Json

variable {key key' : Text} {value : Json} {entries : List (Text × Json)}

theorem find?_put_self : find? key (put key value entries) = some value := by
  induction entries with
  | nil => exact if_pos rfl
  | cons entry rest ih =>
    rw [put]
    split
    · next same => exact if_pos same
    · next other => exact (if_neg other).trans ih

theorem find?_put_of_ne (other : key ≠ key') :
    find? key' (put key value entries) = find? key' entries := by
  induction entries with
  | nil => exact if_neg other
  | cons entry rest ih =>
    rw [put]
    split
    · next same =>
      rw [find?, find?, if_neg (same ▸ other), if_neg (same ▸ other)]
    · rw [find?, find?, ih]

theorem find?_filter (keep : Text → Bool) :
    find? key (entries.filter (keep ·.1)) = if keep key then find? key entries else none := by
  induction entries with
  | nil => exact (ite_self none).symm
  | cons entry rest ih =>
    rw [List.filter_cons]
    by_cases same : entry.1 = key
    · subst same
      split
      · rw [find?, find?, if_pos rfl, if_pos rfl]
      · next dropped => rw [ih, if_neg dropped]
    · have skipped : find? key (entry :: rest) = find? key rest := if_neg same
      split
      · rw [find?, if_neg same, ih, skipped]
      · rw [ih, skipped]

/-- The keys of some entries. -/
def keys (entries : List (Text × Json)) : List Json := entries.map fun entry => .text entry.1

theorem text_mem_keys_iff : text key ∈ keys entries ↔ ∃ v, (key, v) ∈ entries := by
  unfold keys
  rw [List.mem_map]
  constructor
  · rintro ⟨entry, hentry, same⟩
    cases same
    exact ⟨entry.2, hentry⟩
  · rintro ⟨v, hentry⟩
    exact ⟨_, hentry, rfl⟩

/-- A value that is set does not matter for other keys. -/
theorem filter_keys_put {keep : Json → Bool} (dropped : keep (.text key) = false) :
    (keys (put key value entries)).filter keep = (keys entries).filter keep := by
  induction entries with
  | nil =>
    rw [put, keys, List.map_singleton, List.filter_singleton, dropped]
    rfl
  | cons entry rest ih =>
    rw [put]
    split
    · rfl
    · simp only [keys, List.map_cons, List.filter_cons] at ih ⊢
      rw [ih]

theorem filter_keys_filter {keep : Json → Bool} (keep' : Text → Bool)
    (kept : ∀ key, keep (.text key) = true → keep' key = true) :
    (keys (entries.filter (keep' ·.1))).filter keep = (keys entries).filter keep := by
  induction entries with
  | nil => rfl
  | cons entry rest ih =>
    rw [List.filter_cons]
    split
    · simp only [keys, List.map_cons, List.filter_cons] at ih ⊢
      rw [ih]
    · next dropped =>
      rw [ih]
      exact (List.filter_cons_of_neg (mt (kept entry.1) dropped)).symm

end Json

namespace Config

/-! ## Thresholds -/

/-- A positive and finite number, and the double that it is. -/
inductive IsThreshold : Json → Float → Prop
  | int {n : Int} (positive : 0 < n) : IsThreshold (.int n) (Float.ofInt n)
  | decimal {x : Float} (finite : x.isFinite = true) (positive : 0 < x) :
      IsThreshold (.decimal x) x

/-- A value is a threshold if it is read as a number that is positive and finite. -/
theorem isThreshold_iff {v : Json} {x : Float} (small : ¬ v.IsOversized) :
    IsThreshold v x ↔ threshold? v = some (.ok x) ∧ x.isFinite = true ∧ 0 < x := by
  constructor
  · rintro (⟨positive⟩ | ⟨finite, positive⟩)
    next n =>
      have fits := Json.lt_of_not_isOversized small
      exact ⟨congrArg some (ofInt_of_lt fits), (Double.isFinite_ofInt_iff n).2 fits,
        (Double.zero_lt_ofInt_iff n).2 positive⟩
    next => exact ⟨rfl, finite, positive⟩
  · rintro ⟨read, finite, positive⟩
    cases v with
    | int n =>
      have same : threshold? (.int n) = some (.ok (Float.ofInt n)) :=
        congrArg some (ofInt_of_lt (Json.lt_of_not_isOversized small))
      cases same.symm.trans read
      exact .int ((Double.zero_lt_ofInt_iff n).1 positive)
    | decimal y =>
      cases read
      exact .decimal finite positive
    | null => cases read
    | bool b => cases read
    | text t => cases read
    | list items => cases read
    | object entries => cases read

theorem make_eq_ok_iff {threshold smoothing : Json} {config : Config Float}
    (small : ¬ threshold.IsOversized) :
    make threshold smoothing = .ok config ↔
      IsThreshold threshold config.threshold ∧ config.smoothing = smoothing.truth := by
  rw [isThreshold_iff small]
  obtain absent | ⟨x, present⟩ := threshold?_of_not_isOversized small
  · rw [make_of_none absent, absent]
    exact iff_of_false nofun (by rintro ⟨⟨⟨⟩, -⟩, -⟩)
  · rw [make_of_some smoothing present, present]
    obtain ⟨y, smooth⟩ := config
    split
    · next inRange =>
      rw [Bool.and_eq_true, decide_eq_true_eq] at inRange
      constructor
      · rintro ⟨⟩
        exact ⟨⟨rfl, inRange⟩, rfl⟩
      · rintro ⟨⟨⟨⟩, -⟩, ⟨⟩⟩
        rfl
    · next outside =>
      refine iff_of_false nofun ?_
      rintro ⟨⟨⟨⟩, inRange⟩, -⟩
      exact outside (by rw [Bool.and_eq_true, decide_eq_true_eq]; exact inRange)

/-! ## What counts -/

section Load

variable (entries : List (Text × Json)) (threshold : Option Float) (smoothing : Bool)

/-- The threshold that counts: the one that is given, else that of the entries. -/
def effectiveThreshold : Json :=
  match threshold with
  | some x => .decimal x
  | none => (Json.find? thresholdKey entries).getD (.decimal (default : Config Float).threshold)

/-- Whether positions are smoothed: if the flag is given, else as the entries have it. -/
def effectiveSmoothing : Bool :=
  smoothing || ((Json.find? smoothingKey entries).map Json.truth).getD false

/-- The entries with what is given in its place. -/
def replaced : List (Text × Json) :=
  let entries := match threshold with
    | some x => Json.put thresholdKey (.decimal x) entries
    | none => entries
  if smoothing then Json.put smoothingKey (.bool true) entries else entries

theorem unknown_replaced :
    (Json.keys (replaced entries threshold smoothing)).filter (!isKnown ·) =
      (Json.keys entries).filter (!isKnown ·) := by
  have known : (!isKnown (.text thresholdKey)) = false := by decide
  have known' : (!isKnown (.text smoothingKey)) = false := by decide
  unfold replaced
  cases threshold <;> cases smoothing
  · rfl
  · exact Json.filter_keys_put known'
  · exact Json.filter_keys_put known
  · exact (Json.filter_keys_put known').trans (Json.filter_keys_put known)

theorem threshold_replaced :
    (Json.find? thresholdKey (replaced entries threshold smoothing)).getD
        (.decimal (default : Config Float).threshold) = effectiveThreshold entries threshold := by
  have other : smoothingKey ≠ thresholdKey := by decide
  have same : Json.find? thresholdKey (replaced entries threshold smoothing) =
      Json.find? thresholdKey (replaced entries threshold false) := by
    cases smoothing
    · rfl
    · exact Json.find?_put_of_ne other
  rw [same]
  cases threshold with
  | none => rfl
  | some x =>
    have set : Json.find? thresholdKey (replaced entries (some x) false) = some (.decimal x) :=
      Json.find?_put_self
    rw [set]
    rfl

theorem truth_smoothing_replaced :
    ((Json.find? smoothingKey (replaced entries threshold smoothing)).getD
        (.bool (default : Config Float).smoothing)).truth =
      effectiveSmoothing entries smoothing := by
  have other : thresholdKey ≠ smoothingKey := by decide
  cases smoothing with
  | true =>
    have set : Json.find? smoothingKey (replaced entries threshold true) = some (.bool true) :=
      Json.find?_put_self
    rw [set]
    rfl
  | false =>
    have same : Json.find? smoothingKey (replaced entries threshold false) =
        Json.find? smoothingKey entries := by
      cases threshold
      · rfl
      · exact Json.find?_put_of_ne other
    rw [same]
    unfold effectiveSmoothing
    cases Json.find? smoothingKey entries <;> rfl

theorem checkKeys_congr {keys keys' : List Json}
    (same : keys.filter (!isKnown ·) = keys'.filter (!isKnown ·)) :
    checkKeys keys = checkKeys keys' := by
  rw [checkKeys, same]
  rfl

/-- The keys are checked, and then what counts. -/
theorem load_eq : load entries threshold smoothing =
    checkKeys (Json.keys entries) >>= fun _ =>
      make (effectiveThreshold entries threshold)
        (.bool (effectiveSmoothing entries smoothing)) := by
  rw [← checkKeys_congr (unknown_replaced entries threshold smoothing), ← threshold_replaced,
    ← truth_smoothing_replaced entries threshold]
  rfl

variable {entries threshold smoothing}

theorem load_of_known (known : AllKnown entries) :
    load entries threshold smoothing =
      make (effectiveThreshold entries threshold)
        (.bool (effectiveSmoothing entries smoothing)) := by
  have checked : checkKeys (Json.keys entries) = .ok () :=
    checkKeys_of_known (List.forall_mem_map.2 known)
  rw [load_eq, checked]
  rfl

theorem load_of_refused {e : Error} (refused : checkKeys (Json.keys entries) = .error e) :
    load entries threshold smoothing = .error e := by
  rw [load_eq, refused]
  rfl

/-- Unknown keys are refused in sorted order. -/
theorem exists_checkKeys_of_unknown (unknown : ¬ AllKnown entries) :
    ∃ keys : List Text,
      checkKeys (Json.keys entries) = .error (.unknownSettings (keys.map .text)) ∧
      keys.Pairwise (fun s t => s.before t = true) ∧
      ∀ key, key ∈ keys ↔ (∃ v, (key, v) ∈ entries) ∧ isKnown (.text key) = false := by
  obtain ⟨entry, hentry, unknown⟩ : ∃ entry ∈ entries, isKnown (.text entry.1) = false := by
    simpa [AllKnown] using unknown
  have texts : ∀ key ∈ Json.keys entries, ∃ t, key = .text t :=
    List.forall_mem_map.2 fun entry _ => ⟨entry.1, rfl⟩
  have texts' : ∀ key ∈ (Json.keys entries).filter (!isKnown ·), ∃ t, key = .text t :=
    fun key hkey => texts key (List.mem_filter.1 hkey).1
  obtain ⟨keys, parts, sorted, mem⟩ := Json.exists_sortedKeys_of_texts texts'
  refine ⟨keys, ?_, sorted, fun key => ?_⟩
  · rw [← parts]
    exact checkKeys_of_unknown texts ⟨_, List.mem_map_of_mem hentry, unknown⟩
  · rw [mem, List.mem_filter, Bool.not_eq_true', Json.text_mem_keys_iff]

/-- Only a threshold of the entries can be too large. -/
theorem not_isOversized_effectiveThreshold
    (fits : ∀ v, Json.find? thresholdKey entries = some v → ¬ v.IsOversized) :
    ¬ (effectiveThreshold entries threshold).IsOversized := by
  cases threshold with
  | some x => nofun
  | none =>
    unfold effectiveThreshold
    rw [isOversized_getD_iff]
    rintro ⟨v, found, large⟩
    exact fits v found large

/-! ## A threshold that does not count -/

/-- The entries without a threshold. -/
def withoutThreshold (entries : List (Text × Json)) : List (Text × Json) :=
  entries.filter fun entry => entry.1 != thresholdKey

theorem find?_withoutThreshold {key : Text} :
    Json.find? key (withoutThreshold entries) =
      if key != thresholdKey then Json.find? key entries else none :=
  Json.find?_filter (· != thresholdKey)

theorem checkKeys_withoutThreshold :
    checkKeys (Json.keys (withoutThreshold entries)) = checkKeys (Json.keys entries) := by
  apply checkKeys_congr
  apply Json.filter_keys_filter (· != thresholdKey)
  intro key unknown
  rw [bne_iff_ne]
  rintro rfl
  exact absurd unknown (by decide)

theorem effectiveSmoothing_withoutThreshold :
    effectiveSmoothing (withoutThreshold entries) smoothing =
      effectiveSmoothing entries smoothing := by
  have other : (smoothingKey != thresholdKey) = true := by decide
  rw [effectiveSmoothing, find?_withoutThreshold, if_pos other]
  rfl

/-- The default is a threshold. -/
theorem isThreshold_default :
    IsThreshold (.decimal (default : Config Float).threshold) (default : Config Float).threshold :=
  .decimal (by decide +kernel) (by decide +kernel)

theorem load_of_isThreshold {x : Float} (known : AllKnown entries)
    (small : ¬ (effectiveThreshold entries threshold).IsOversized)
    (good : IsThreshold (effectiveThreshold entries threshold) x) :
    load entries threshold smoothing = .ok ⟨x, effectiveSmoothing entries smoothing⟩ := by
  rw [load_of_known known]
  exact (make_eq_ok_iff small).2 ⟨good, rfl⟩

theorem load_eq_ok_iff {config : Config Float}
    (small : ¬ (effectiveThreshold entries threshold).IsOversized) :
    load entries threshold smoothing = .ok config ↔
      AllKnown entries ∧ IsThreshold (effectiveThreshold entries threshold) config.threshold ∧
        config.smoothing = effectiveSmoothing entries smoothing := by
  by_cases known : AllKnown entries
  · rw [load_of_known known, make_eq_ok_iff small]
    exact (and_iff_right known).symm
  · obtain ⟨keys, refused, -⟩ := exists_checkKeys_of_unknown known
    rw [load_of_refused refused]
    exact iff_of_false nofun fun accepted => known accepted.1

theorem exists_load_iff (small : ¬ (effectiveThreshold entries threshold).IsOversized) :
    (∃ config, load entries threshold smoothing = .ok config) ↔
      AllKnown entries ∧ ∃ x, IsThreshold (effectiveThreshold entries threshold) x := by
  constructor
  · rintro ⟨config, accepted⟩
    obtain ⟨known, good, -⟩ := (load_eq_ok_iff small).1 accepted
    exact ⟨known, _, good⟩
  · rintro ⟨known, x, good⟩
    exact ⟨_, load_of_isThreshold known small good⟩

theorem failsIn_load (small : ¬ (effectiveThreshold entries threshold).IsOversized) :
    (load entries threshold smoothing).FailsIn [.value] := by
  by_cases known : AllKnown entries
  · rw [load_of_known known]
    obtain ⟨large, -⟩ | ⟨-, made | made | ⟨x, -, -, made⟩⟩ :=
      make_cases (effectiveThreshold entries threshold)
        (.bool (effectiveSmoothing entries smoothing))
    · exact absurd large small
    · exact made ▸ failsIn_error (.head _)
    · exact made ▸ failsIn_error (.head _)
    · exact made ▸ failsIn_ok _
  · obtain ⟨keys, refused, -⟩ := exists_checkKeys_of_unknown known
    rw [load_of_refused refused]
    exact failsIn_error (.head _)

/-- A bad threshold of the entries does no harm if another one is given. Otherwise it does, unless
the entries are refused for their keys. -/
theorem load_withoutThreshold_eq_iff {v : Json}
    (found : Json.find? thresholdKey entries = some v) (small : ¬ v.IsOversized)
    (bad : ∀ x, ¬ IsThreshold v x) :
    load (withoutThreshold entries) threshold smoothing = load entries threshold smoothing ↔
      threshold.isSome = true ∨ ¬ AllKnown entries := by
  cases threshold with
  | some x =>
    refine iff_of_true ?_ (.inl rfl)
    rw [load_eq, load_eq, checkKeys_withoutThreshold, effectiveSmoothing_withoutThreshold]
    rfl
  | none =>
    rw [Option.isSome_none, or_iff_right Bool.false_ne_true]
    have counts : effectiveThreshold entries none = v := by
      rw [effectiveThreshold, found]
      rfl
    have counts' : effectiveThreshold (withoutThreshold entries) none =
        .decimal (default : Config Float).threshold := by
      rw [effectiveThreshold, find?_withoutThreshold, if_neg (by simp)]
      rfl
    constructor
    · intro same known
      have known' : AllKnown (withoutThreshold entries) := fun entry hentry =>
        known entry (List.mem_filter.1 hentry).1
      have accepted : load (withoutThreshold entries) none smoothing = .ok _ :=
        load_of_isThreshold known' (by rw [counts']; nofun)
          (by rw [counts']; exact isThreshold_default)
      rw [same, load_eq_ok_iff (by rwa [counts]), counts] at accepted
      exact bad _ accepted.2.1
    · intro unknown
      obtain ⟨keys, refused, -⟩ := exists_checkKeys_of_unknown unknown
      rw [load_of_refused refused, load_of_refused (checkKeys_withoutThreshold.trans refused)]

/-! ## All settings -/

/-- Settings are accepted if all keys are known and the threshold that counts is a positive and
finite number; they are then what counts. Otherwise there is a complaint: about the unknown keys in
their order, if there are any. A bad threshold of the entries does no harm if it does not count. -/
theorem settings_accepted (entries : List (Text × Json)) (threshold : Option Float)
    (smoothing : Bool)
    (fits : ∀ v, Json.find? thresholdKey entries = some v → ¬ v.IsOversized) :
    (∀ config, load entries threshold smoothing = .ok config ↔
      AllKnown entries ∧ IsThreshold (effectiveThreshold entries threshold) config.threshold ∧
        config.smoothing = effectiveSmoothing entries smoothing) ∧
    ((∃ config, load entries threshold smoothing = .ok config) ↔
      AllKnown entries ∧ ∃ x, IsThreshold (effectiveThreshold entries threshold) x) ∧
    (load entries threshold smoothing).FailsIn [.value] ∧
    (¬ AllKnown entries → ∃ keys : List Text,
      load entries threshold smoothing = .error (.unknownSettings (keys.map .text)) ∧
        keys.Pairwise (fun s t => s.before t = true) ∧
          ∀ key, key ∈ keys ↔ (∃ v, (key, v) ∈ entries) ∧ isKnown (.text key) = false) ∧
    ∀ v, Json.find? thresholdKey entries = some v → (∀ x, ¬ IsThreshold v x) →
      (load (withoutThreshold entries) threshold smoothing = load entries threshold smoothing ↔
        threshold.isSome = true ∨ ¬ AllKnown entries) := by
  have small : ¬ (effectiveThreshold entries threshold).IsOversized :=
    not_isOversized_effectiveThreshold fits
  refine ⟨fun config => load_eq_ok_iff small, exists_load_iff small, failsIn_load small, ?_,
    fun v found bad => load_withoutThreshold_eq_iff found (fits v found) bad⟩
  intro unknown
  obtain ⟨keys, refused, listed⟩ := exists_checkKeys_of_unknown unknown
  exact ⟨keys, load_of_refused refused, listed⟩

end Load

/-- A flag in the place of the threshold, which is given apart. -/
theorem settings_accepted_override :
    (∀ v, Json.find? thresholdKey [(smoothingKey, .int 2), (thresholdKey, .bool true)] = some v →
      ¬ v.IsOversized) ∧
    load [(smoothingKey, .int 2), (thresholdKey, .bool true)] (some 0.5) false =
      .ok ⟨0.5, true⟩ := by
  have fits : ∀ v, Json.find? thresholdKey
      [(smoothingKey, .int 2), (thresholdKey, .bool true)] = some v → ¬ v.IsOversized := by
    intro v found
    have flag : Json.find? thresholdKey [(smoothingKey, .int 2), (thresholdKey, .bool true)] =
        some (.bool true) := rfl
    cases flag.symm.trans found
    nofun
  refine ⟨fits, ((settings_accepted _ _ _ fits).1 _).2 ⟨?_, ?_, rfl⟩⟩
  · unfold AllKnown
    decide
  · exact .decimal (by decide +kernel) (by decide +kernel)

end Config

end WaypointMap
