import WaypointMap.CommandLine.Replay
import WaypointMap.Proofs.Config
import WaypointMap.Proofs.Report

/-!
# Malformed input

A replay reports what is wrong with its settings or with an entry of its report file, and ends. It
does not report numbers out of range, at which the reading overflows: these end the program.
-/

namespace WaypointMap

namespace ReplayOptions

/-! ## The messages -/

theorem errorLines_ne_nil (e : Error) : errorLines e ≠ [] := by
  have split (t : Text) : t.lines ≠ [] := List.splitOnP_ne_nil _ _
  exact mt List.map_eq_nil_iff.1 (split _)

theorem stop_of_overflow {o : ReplayOptions} {e : Error} (h : e.category = .overflow) :
    o.stop [] e = .failed e := by
  rw [stop, h]
  rfl

theorem stop_of_refusal {o : ReplayOptions} {e : Error} (h : e.category.isRefusal = true) :
    o.stop [] e = .finished { errors := errorLines e } := by
  rw [stop, if_pos h]
  rfl

/-! ## Where a replay meets malformed input -/

/-- The settings that a replay reads from a file. -/
def entries (o : ReplayOptions) : Checked (List (Text × Json)) :=
  match o.config with
  | some file => Config.entriesOfContents file.name file.contents
  | none => .ok []

/-- What the first malformed thing is that a replay comes to: its settings, or an entry of its
report file. -/
inductive Meets (o : ReplayOptions) (reports : InputFile) : Error → Prop
  | settings {entries : List (Text × Json)} {e : Error} (read : o.entries = .ok entries)
      (refused : Config.load entries o.threshold o.smoothing = .error e) : Meets o reports e
  | entry {entries : List (Text × Json)} {config : Config Float} {before after : List Json}
      {v : Json} {e : Error} (read : o.entries = .ok entries)
      (configured : Config.load entries o.threshold o.smoothing = .ok config)
      (parsed : Json.ofContents reports.contents = .ok (.list (before ++ v :: after)))
      (earlier : ∀ u ∈ before, ∃ report, Report.ofJson u = .ok report)
      (refused : Report.ofJson v = .error e) : Meets o reports e

variable {o : ReplayOptions} {files : FileView} {reports : InputFile} {e : Error}

theorem prepare_eq (o : ReplayOptions) (reports : InputFile) :
    o.prepare reports = do
      let config ← Config.load (← o.entries) o.threshold o.smoothing
      return (config, ← Report.ofContents reports.name reports.contents) := by
  unfold prepare entries
  cases o.config with
  | none => rfl
  | some file => rfl

theorem Meets.prepare (met : o.Meets reports e) : o.prepare reports = .error e := by
  rw [prepare_eq]
  cases met with
  | settings read refused =>
    rw [read]
    dsimp only [bind, Except.bind]
    rw [refused]
  | entry read configured parsed earlier refused =>
    have contents : Report.ofContents reports.name reports.contents = .error e := by
      rw [Report.ofContents, parsed]
      exact Report.ofList_of_refused earlier refused
    rw [read]
    dsimp only [bind, Except.bind]
    rw [configured, contents]

theorem Meets.category (met : o.Meets reports e) : e.category ∈ [.value, .heading, .overflow] := by
  cases met with
  | settings _ refused =>
    exact (Config.failsIn_ofEntries _).mono (by simp) refused
  | entry _ _ _ _ refused => exact Report.failsIn_ofJson _ refused

theorem isRefusal_of_mem {category : Error.Category} (h : category ∈ [.value, .heading, .overflow])
    (other : category ≠ .overflow) : category.isRefusal = true := by
  cases h with
  | head => rfl
  | tail _ h =>
    cases h with
    | head => rfl
    | tail _ h => exact absurd (List.mem_singleton.1 h) other

theorem Meets.run (met : o.Meets reports e) (files : FileView) :
    o.run files reports =
      if e.category = .overflow then .failed e else .finished { errors := errorLines e } := by
  have stopped : o.run files reports = o.stop [] e := by
    rw [ReplayOptions.run, met.prepare]
  rw [stopped]
  split
  next overflow => exact stop_of_overflow overflow
  next other => exact stop_of_refusal (isRefusal_of_mem met.category other)

end ReplayOptions

/-- Reading a report gives one, or a complaint about it or about a heading in it, unless it stops at
an integer too large for a coordinate or at an infinite origin, and overflows. Reading settings
gives a threshold that is positive and finite, or a complaint, unless it overflows at a threshold
that is too large an integer. A replay reports the first complaint and ends with exit code 1; it
does not handle an overflow. -/
theorem malformed_refused (v : Json) (entries : List (Text × Json)) (o : ReplayOptions)
    (files : FileView) (reports : InputFile) :
    ((Report.ofJson v).FailsIn [.value, .heading, .overflow] ∧
      ((Report.ofJson v).Overflows ↔ Report.Overflows v)) ∧
    ((Config.ofJson (.object entries)).FailsIn [.value, .overflow] ∧
      ((Config.ofJson (.object entries)).Overflows ↔ Config.Overflows entries) ∧
      ∀ config, Config.ofJson (.object entries) = .ok config →
        config.threshold.isFinite = true ∧ 0 < config.threshold) ∧
    ∀ e : Error, o.Meets reports e →
      (e.category = .overflow → o.run files reports = .failed e) ∧
      (e.category ≠ .overflow → ReplayOptions.errorLines e ≠ [] ∧
        o.run files reports = .finished { errors := ReplayOptions.errorLines e } ∧
        (o.run files reports).exitCode = 1) := by
  refine ⟨?_, ?_, ?_⟩
  · exact ⟨Report.failsIn_ofJson v, Report.overflows_ofJson_iff v⟩
  · exact ⟨Config.failsIn_ofEntries entries, Config.overflows_ofEntries_iff entries,
      fun config read => Config.threshold_of_ofEntries entries read⟩
  · intro e met
    have ended := met.run files
    constructor
    · intro overflow
      rw [ended, if_pos overflow]
    · intro other
      have reported := ReplayOptions.errorLines_ne_nil e
      rw [ended, if_neg other]
      exact ⟨reported, rfl, if_neg (mt List.isEmpty_iff.1 reported)⟩

/-- A threshold below zero is reported, as is a report that is nothing. -/
theorem malformed_refused_below_zero :
    let o : ReplayOptions := { threshold := some (-1.0) }
    let e : Error := .thresholdOutOfRange (.decimal (-1.0))
    let files : FileView := ⟨fun _ => none, fun _ => none⟩
    let reports : InputFile := ⟨.ofString "reports.json", .ofString "[]"⟩
    (o.Meets reports e ∧ ReplayOptions.errorLines e ≠ [] ∧
        o.run files reports = .finished { errors := ReplayOptions.errorLines e }) ∧
      (Report.ofJson .null = .error (.reportNotObject .null) ∧
        Error.category (.reportNotObject .null) ∈ [.value, .heading, .overflow]) ∧
      Config.ofJson (.object []) = .ok .default ∧
      (Config.default : Config Float).threshold.isFinite = true := by
  intro o e files reports
  have met : o.Meets reports e := .settings rfl rfl
  have nothing : Report.ofJson .null = .error (.reportNotObject .null) := rfl
  have usual : Config.ofJson (.object []) = .ok .default := rfl
  obtain ⟨⟨fails, -⟩, ⟨-, -, settings⟩, replay⟩ := malformed_refused .null [] o files reports
  obtain ⟨reported, ended, -⟩ := (replay e met).2 (by decide)
  obtain ⟨finite, -⟩ := settings _ usual
  exact ⟨⟨met, reported, ended⟩, ⟨nothing, fails nothing⟩, usual, finite⟩

/-- A report of a spot with an integer beyond the doubles for a coordinate. -/
def distantSpot : List (Text × Json) :=
  [(.ofString "x", .int (10 ^ 400)), (.ofString "y", .int 0)]

/-- A report of an object that was seen from an infinite origin. -/
def endlessObject : List (Text × Json) :=
  [(.ofString "type", .text (.ofString "object")), (.ofString "origin", .decimal (1.0 / 0.0)),
    (.ofString "x", .int 0), (.ofString "y", .int 0),
    (.ofString "direction", .text (.ofString "north"))]

/-- Settings with an integer beyond the doubles for the threshold. -/
def hugeThreshold : List (Text × Json) := [(Config.thresholdKey, .int (10 ^ 400))]

/-- Numbers out of range end a reading with errors that are no complaints. -/
theorem overflows_escape :
    ¬ (Report.ofJson (.object distantSpot)).FailsIn [.value, .heading] ∧
      ¬ (Report.ofJson (.object endlessObject)).FailsIn [.value, .heading] ∧
      ¬ (Config.ofJson (.object hugeThreshold)).FailsIn [.value] := by
  have large : (Json.int (10 ^ 400)).IsOversized := by
    refine ⟨10 ^ 400, rfl, ?_⟩
    unfold Double.integerBound
    decide +kernel
  have endless : (Json.decimal (1.0 / 0.0)).IsEndless := ⟨_, false, rfl, by decide +kernel⟩
  have spot : (Report.ofJson (.object distantSpot)).Overflows :=
    (Report.overflows_ofJson_iff _).2 ⟨_, rfl, .inl ⟨rfl, .inl ⟨_, rfl, large⟩⟩⟩
  have object : (Report.ofJson (.object endlessObject)).Overflows :=
    (Report.overflows_ofJson_iff _).2 ⟨_, rfl, .inr ⟨rfl, .inl ⟨_, rfl, endless⟩⟩⟩
  have known : Config.AllKnown hugeThreshold := by
    intro entry hentry
    rw [List.mem_singleton.1 hentry]
    decide
  have settings : (Config.ofJson (.object hugeThreshold)).Overflows :=
    (Config.overflows_ofEntries_iff _).2 ⟨known, _, rfl, large⟩
  exact ⟨fun h => h.not_overflows (by decide) spot, fun h => h.not_overflows (by decide) object,
    fun h => h.not_overflows (by decide) settings⟩

end WaypointMap
