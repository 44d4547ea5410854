import WaypointMap.Graph.Replay
import WaypointMap.Proofs.Graph.Growth

/-!
# Refused calls

A request that fails leaves the graph as it was and logs nothing, whatever its arguments are and
whether or not positions are smoothed. A replay ends at the first report that is refused, with
the graph that the reports before it make.
-/

namespace WaypointMap

namespace Call

variable {ω σ τ α β : Type} {c : Call ω σ α} {s : σ}

/-- Whether a call, if it fails, leaves the state as it was and nothing in the log. -/
def AtomicAt (c : Call ω σ α) (s : σ) : Prop :=
  ∀ ⦃e : Error⦄, (c.run s).result = .error e → c.run s = ⟨.error e, s, []⟩

theorem atomicAt_of_ok {a : α} (h : (c.run s).result = .ok a) : c.AtomicAt s := by
  intro e failed
  cases h.symm.trans failed

theorem atomicAt_of_error {e : Error} (h : c.run s = ⟨.error e, s, []⟩) : c.AtomicAt s := by
  intro e' failed
  rw [h] at failed ⊢
  cases failed
  rfl

theorem AtomicAt.congr {d : Call ω σ α} (h : c.AtomicAt s) (same : d.run s = c.run s) :
    d.AtomicAt s := by
  intro e failed
  rw [same] at failed ⊢
  exact h failed

theorem atomicAt_ask (f : σ → Checked α) (s : σ) : (ask f : Call ω σ α).AtomicAt s := by
  intro e failed
  have refused : f s = .error e := failed
  rw [run_ask, refused]

theorem AtomicAt.map (h : c.AtomicAt s) (f : α → β) : (f <$> c).AtomicAt s := by
  intro e failed
  rw [run_map] at failed ⊢
  cases result : (c.run s).result with
  | ok a =>
    rw [result] at failed
    cases failed
  | error e' =>
    rw [result] at failed
    cases failed
    rw [h result]
    rfl

theorem AtomicAt.onPart {part : σ → τ} {put : σ → τ → σ} {c : Call ω τ α}
    (h : c.AtomicAt (part s)) (same : put s (part s) = s) : (onPart part put c).AtomicAt s := by
  intro e failed
  rw [run_onPart] at failed ⊢
  rw [h failed, same]

end Call

variable {K : Type}

namespace Store

variable {s : Store K}

theorem atomicAt_create (x y : Checked K) (blocked : Checked (Compass Bool)) (hasObject : Bool)
    (s : Store K) : (create x y blocked hasObject).AtomicAt s := by
  obtain ⟨x', y', b, -, -, -, hr⟩ | ⟨e, hr⟩ := run_create x y blocked hasObject s
  · exact Call.atomicAt_of_ok (by rw [hr])
  · exact Call.atomicAt_of_error hr

theorem atomicAt_connect (hs : s.InRange) (a : Json) (heading : Checked Heading) (b : Json) :
    (connect a heading b).AtomicAt s := by
  obtain ⟨i, j, h, -, -, -, -, -, hr⟩ | ⟨e, hr⟩ := run_connect hs a heading b
  · exact Call.atomicAt_of_ok (by rw [hr])
  · exact Call.atomicAt_of_error hr

variable [Scalar K]

theorem atomicAt_placeWaypoint (hs : s.WellFormed) (config : Config K) (x y : Checked K)
    (blocked : Checked (Compass Bool)) (origin : Json) (heading : Checked Heading) :
    (placeWaypoint config x y blocked origin heading).AtomicAt s := by
  intro e failed
  have placed := waypointPlaced hs config x y blocked origin heading
  generalize (placeWaypoint config x y blocked origin heading).run s = outcome at placed failed ⊢
  cases placed with
  | visited _ _ _ => cases failed
  | first _ _ _ _ => cases failed
  | linked _ _ _ _ _ _ _ => cases failed
  | refused _ =>
    cases failed
    rfl

theorem atomicAt_placeObject (hs : s.WellFormed) (config : Config K) (origin : Json)
    (x y : Checked K) (heading : Checked Heading) :
    (placeObject config origin x y heading).AtomicAt s := by
  intro e failed
  have placed := objectPlaced hs config origin x y heading
  generalize (placeObject config origin x y heading).run s = outcome at placed failed ⊢
  cases placed with
  | sighted _ _ _ _ _ _ _ => cases failed
  | created _ _ _ _ _ _ => cases failed
  | refused _ =>
    cases failed
    rfl

end Store

namespace Graph

variable {g : Graph K}

theorem atomicAt_onStore {α : Type} {c : StoreCall K α} (h : c.AtomicAt g.store) :
    (onStore c).AtomicAt g :=
  Call.AtomicAt.onPart h rfl

variable [Scalar K]

theorem atomicAt_placeWaypoint (hg : g.store.WellFormed) (x y : Checked K)
    (blocked : Checked (Compass Bool)) (origin : Json) (heading : Checked Heading) :
    (placeWaypoint x y blocked origin heading).AtomicAt g :=
  (atomicAt_onStore (Store.atomicAt_placeWaypoint hg g.config x y blocked origin heading)).congr
    (Call.run_read_bind _ g)

theorem atomicAt_placeObject (hg : g.store.WellFormed) (origin : Json) (x y : Checked K)
    (heading : Checked Heading) : (placeObject origin x y heading).AtomicAt g :=
  (atomicAt_onStore (Store.atomicAt_placeObject hg g.config origin x y heading)).congr
    (Call.run_read_bind _ g)

/-! ## Replays -/

theorem atomicAt_place (hg : g.store.WellFormed) (report : Report K) :
    (place report).AtomicAt g := by
  cases report with
  | waypoint x y blocked origin heading =>
    exact atomicAt_placeWaypoint hg (.ok x) (.ok y) (.ok blocked) (.int origin) (.ok heading)
  | object origin x y heading =>
    exact atomicAt_placeObject hg (.int origin) (.ok x) (.ok y) (.ok heading)

theorem changes_place (hg : g.store.WellFormed) (report : Report K) :
    g.store.Changes ((place report).run g).state.store := by
  cases report with
  | waypoint x y blocked origin heading =>
    exact Store.changes_placeWaypoint hg g.config (.ok x) (.ok y) (.ok blocked) (.int origin)
      (.ok heading)
  | object origin x y heading =>
    exact Store.changes_placeObject hg g.config (.int origin) (.ok x) (.ok y) (.ok heading)

theorem run_replay_of_refused {report : Report K} {e : Error}
    (refused : ((place report).run g).result = .error e) (rest : List (Report K)) :
    (replay (report :: rest)).run g =
      ⟨.error e, ((place report).run g).state, ((place report).run g).log⟩ :=
  Call.run_bind_error _ refused

theorem run_replay_of_placed {report : Report K} {i : Nat} {g₁ : Graph K} {log : List (Event K)}
    (placed : (place report).run g = ⟨.ok i, g₁, log⟩) (rest : List (Report K)) :
    (replay (report :: rest)).run g =
      ⟨((replay rest).run g₁).result.map (i :: ·), ((replay rest).run g₁).state,
        log ++ ((replay rest).run g₁).log⟩ := by
  have later : (do return i :: (← replay rest) : GraphCall K (List Nat)) =
      (i :: ·) <$> replay rest := (map_eq_pure_bind ..).symm
  rw [replay, Call.run_bind_ok _ (by rw [placed]), later, Call.run_map, placed]

/-- A replay that fails ends at a report that is refused after all reports before it were
placed, and leaves what they alone leave. -/
theorem exists_refused (hg : g.store.WellFormed) {reports : List (Report K)} {e : Error}
    (failed : ((replay reports).run g).result = .error e) :
    ∃ (before : List (Report K)) (report : Report K) (after : List (Report K)) (ids : List Nat),
      reports = before ++ report :: after ∧ ids.length = before.length ∧
      ((replay before).run g).result = .ok ids ∧
      ((place report).run ((replay before).run g).state).result = .error e ∧
      (replay reports).run g =
        ⟨.error e, ((replay before).run g).state, ((replay before).run g).log⟩ := by
  induction reports generalizing g with
  | nil => cases failed
  | cons first rest ih =>
    cases result : ((place first).run g).result with
    | error e' =>
      have stopped := run_replay_of_refused result rest
      rw [stopped] at failed
      cases failed
      rw [atomicAt_place hg first result] at stopped
      exact ⟨[], first, rest, [], rfl, rfl, rfl, result, stopped⟩
    | ok i =>
      obtain ⟨g₁, log, placed⟩ : ∃ g₁ log, (place first).run g = ⟨.ok i, g₁, log⟩ :=
        ⟨_, _, by rw [← result]⟩
      have wellFormed : g₁.store.WellFormed := by
        have changes := changes_place hg first
        rw [placed] at changes
        exact hg.changes changes
      have continued := run_replay_of_placed placed rest
      rw [continued] at failed
      cases later : ((replay rest).run g₁).result with
      | ok ids =>
        rw [later] at failed
        cases failed
      | error e' =>
        rw [later] at failed
        cases failed
        obtain ⟨before, report, after, ids, rfl, length, replayed, refused, stopped⟩ :=
          ih wellFormed later
        have started := run_replay_of_placed placed before
        refine ⟨first :: before, report, after, i :: ids, rfl, ?_, ?_, ?_, ?_⟩
        · rw [List.length_cons, List.length_cons, length]
        · rw [started, replayed]
          rfl
        · rw [started]
          exact refused
        · rw [continued, started, stopped]
          rfl

end Graph

namespace Request

variable [Scalar K] {g : Graph K}

theorem atomicAt_perform (hg : g.store.WellFormed) (r : Request K) : r.perform.AtomicAt g := by
  cases r with
  | create x y blocked hasObject =>
    exact (Graph.atomicAt_onStore (Store.atomicAt_create x y blocked hasObject g.store)).map _
  | connect a heading b =>
    exact (Graph.atomicAt_onStore (Store.atomicAt_connect hg.inRange a heading b)).map _
  | placeWaypoint x y blocked origin heading =>
    exact (Graph.atomicAt_placeWaypoint hg x y blocked origin heading).map _
  | placeObject origin x y heading =>
    exact (Graph.atomicAt_placeObject hg origin x y heading).map _
  | configure config =>
    cases config with
    | error e => exact Call.atomicAt_of_error rfl
    | ok config => exact Call.atomicAt_of_ok rfl
  | get id => exact Call.atomicAt_ask _ g
  | nearby x y => exact Call.atomicAt_ask _ g
  | isFrontier id => exact Call.atomicAt_ask _ g
  | pathToFrontier id => exact Call.atomicAt_ask _ g
  | pathToObject id => exact Call.atomicAt_ask _ g

/-- A request that fails changes nothing, neither a waypoint nor the configuration, and logs
nothing. A replay that fails does so at one of its reports, and the graph is then the one that
the reports before it make. -/
theorem refused_unchanged (hg : g.store.Reachable) :
    (∀ (r : Request K) (e : Error), (r.perform.run g).result = .error e →
      (r.perform.run g).state = g ∧ (r.perform.run g).log = []) ∧
    ∀ (reports : List (Report K)) (e : Error), ((Graph.replay reports).run g).result = .error e →
      ∃ (before : List (Report K)) (report : Report K) (after : List (Report K)) (ids : List Nat),
        reports = before ++ report :: after ∧ ids.length = before.length ∧
        ((Graph.replay before).run g).result = .ok ids ∧
        ((Graph.place report).run ((Graph.replay before).run g).state).result = .error e ∧
        ((Graph.replay reports).run g).state = ((Graph.replay before).run g).state := by
  constructor
  · intro r e failed
    rw [atomicAt_perform hg.wellFormed r failed]
    exact ⟨rfl, rfl⟩
  · intro reports e failed
    obtain ⟨before, report, after, ids, split, length, replayed, refused, stopped⟩ :=
      Graph.exists_refused hg.wellFormed failed
    exact ⟨before, report, after, ids, split, length, replayed, refused, by rw [stopped]⟩

omit [Scalar K] in
theorem exists_error {α : Type} {r : Checked α} (h : r.isOk = false) : ∃ e, r = .error e := by
  cases r with
  | error e => exact ⟨e, rfl⟩
  | ok a => cases h

/-- Two spots, and an object that is seen from the first. -/
def outing : List (Request Float) := [spot 0.0 .null, spot 1.0 (.int 0), sighting 0.5 .north]

/-- A spot, the known object seen from a waypoint that does not exist, and another spot. -/
def reported : List (Report Float) :=
  [.waypoint 2.0 0.0 (.replicate false) 1 .east, .object 9 0.52 0.0 .south,
    .waypoint 3.0 0.0 (.replicate false) 3 .east]

theorem refused_unchanged_outing :
    let g := run (.empty ⟨0.1, true⟩) outing
    let r := placeObject (.int 9) (.ok 0.52) (.ok 0.0) (.ok .south)
    (∃ e, (r.perform.run g).result = .error e) ∧ (r.perform.run g).state = g ∧
      ∃ e before report after ids, ((Graph.replay reported).run g).result = .error e ∧
        reported = before ++ report :: after ∧ ids.length = before.length ∧
        ((Graph.replay before).run g).result = .ok ids ∧
        ((Graph.replay reported).run g).state = ((Graph.replay before).run g).state := by
  intro g r
  obtain ⟨single, several⟩ := refused_unchanged (g := g) ⟨_, _, rfl⟩
  obtain ⟨e, failed⟩ := exists_error (r := (r.perform.run g).result) (by decide +kernel)
  obtain ⟨e', stopped⟩ :=
    exists_error (r := ((Graph.replay reported).run g).result) (by decide +kernel)
  obtain ⟨before, report, after, ids, split, length, replayed, -, state⟩ :=
    several reported e' stopped
  exact ⟨⟨e, failed⟩, (single r e failed).1, e', before, report, after, ids, stopped, split, length,
    replayed, state⟩

end Request

end WaypointMap
