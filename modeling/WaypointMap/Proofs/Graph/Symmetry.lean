import WaypointMap.Proofs.Graph.Refusal
import WaypointMap.Proofs.Store.Symmetry

/-!
# Placement treats the headings alike

Each part of a placement, with its headings turned, does to the turned store what it does to the
store. So does a whole replay. None of this needs links to go both ways.
-/

namespace WaypointMap

/-! ## Calls that correspond -/

namespace Call

variable {ω ρ α β : Type} {view : ρ → ρ} {rename : ω → ω}

/-- Whether one call does to the view of a state what another does to the state: it gives the same
answer, leaves the view of what the other leaves, and logs the same but for names. -/
def Corresponds (view : ρ → ρ) (rename : ω → ω) (c c' : Call ω ρ α) : Prop :=
  ∀ s, c'.run (view s) =
    ⟨(c.run s).result, view (c.run s).state, (c.run s).log.map rename⟩

theorem check_ok_bind (a : α) (next : α → Call ω ρ β) : (check (.ok a) >>= next) = next a :=
  pure_bind a next

theorem corresponds_pure (a : α) :
    Corresponds view rename (pure a : Call ω ρ α) (pure a) := fun _ => rfl

theorem corresponds_check (a : Checked α) :
    Corresponds view rename (check a : Call ω ρ α) (check a) := fun _ => rfl

theorem corresponds_log {event event' : ω} (h : event' = rename event) :
    Corresponds view rename (log event : Call ω ρ Unit) (log event') := by
  intro s
  rw [h]
  rfl

theorem corresponds_update {f f' : ρ → ρ} (h : ∀ s, f' (view s) = view (f s)) :
    Corresponds view rename (update f : Call ω ρ Unit) (update f') := by
  intro s
  rw [run_update, run_update, h]
  rfl

theorem corresponds_ask {f f' : ρ → Checked α} (h : ∀ s, f' (view s) = f s) :
    Corresponds view rename (ask f : Call ω ρ α) (ask f') := by
  intro s
  rw [run_ask, run_ask, h]
  rfl

theorem Corresponds.bind {c c' : Call ω ρ α} {next next' : α → Call ω ρ β}
    (first : Corresponds view rename c c')
    (rest : ∀ a, Corresponds view rename (next a) (next' a)) :
    Corresponds view rename (c >>= next) (c' >>= next') := by
  intro s
  rw [run_bind, run_bind, first s]
  cases (c.run s).result with
  | error e => rfl
  | ok a => simp only [rest a _, List.map_append]

/-- A call that reads the state may go on differently with its view. -/
theorem corresponds_read_bind {next next' : ρ → Call ω ρ β}
    (rest : ∀ s, Corresponds view rename (next s) (next' (view s))) :
    Corresponds view rename (read >>= next) (read >>= next') := by
  intro s
  rw [run_read_bind, run_read_bind]
  exact rest s s

end Call

namespace Store

open Call

variable {K : Type} (σ : Symmetry)

/-- Whether a call does to a turned store what another does to the store. -/
abbrev Turns {α : Type} (c c' : StoreCall K α) : Prop :=
  Corresponds (turned σ) (Event.turned σ) c c'

/-! ## Calls on a store -/

theorem fetch_turned (s : Store K) (i : Nat) :
    (s.turned σ).fetch i = (s.fetch i).map (·.turned σ) := by
  rw [fetch, fetch, getElem?_turned]
  cases s.waypoints[i]? with
  | none => rfl
  | some w => rfl

theorem turns_detach (i : Nat) (h : Heading) (partner : Nat) :
    Turns σ (detach i h partner : StoreCall K Unit) (detach i (σ h) partner) := by
  unfold detach
  refine corresponds_read_bind fun s => ?_
  rw [link_turned, σ.apply_opposite]
  split
  next former _ =>
    split
    · exact corresponds_pure ()
    rw [fetch_turned]
    -- The waypoints that are read differ, but not in the link that is looked at.
    cases s.fetch former with
    | error e => exact fun _ => rfl
    | ok w =>
      simp only [Except.map, check_ok_bind, Waypoint.turned, Compass.get_turned]
      split
      · refine (corresponds_log rfl).bind fun _ => ?_
        exact corresponds_update fun s => setLink_turned σ s former h.opposite .blocked
      · exact corresponds_pure ()
  · exact corresponds_pure ()

theorem turns_join (i : Nat) (h : Heading) (j : Nat) :
    Turns σ (join i h j : StoreCall K Unit) (join i (σ h) j) := by
  unfold join
  refine (turns_detach σ i h j).bind fun _ => ?_
  rw [σ.apply_opposite]
  refine (turns_detach σ j h.opposite i).bind fun _ => ?_
  refine corresponds_update fun s => ?_
  rw [setLink_turned, setLink_turned]

theorem turns_create (x y : Checked K) (blocked : Compass Bool) (hasObject : Bool) :
    Turns σ (create x y (.ok blocked) hasObject)
      (create x y (.ok (blocked.turned σ)) hasObject) := by
  unfold create
  simp only [check_ok_bind]
  refine (corresponds_check x).bind fun x => ?_
  refine (corresponds_check y).bind fun y => ?_
  refine corresponds_read_bind fun s => ?_
  rw [size_turned]
  refine (corresponds_update fun s => push_turned σ s x y blocked hasObject).bind fun _ => ?_
  exact corresponds_pure s.size

variable [Scalar K] (config : Config K)

theorem turns_placeWaypoint (x y : Checked K) (blocked : Compass Bool) (origin : Json)
    (h : Heading) :
    Turns σ (placeWaypoint config x y (.ok blocked) origin (.ok h))
      (placeWaypoint config x y (.ok (blocked.turned σ)) origin (.ok (σ h))) := by
  unfold placeWaypoint
  refine (corresponds_ask fun s => nearby_turned σ s x y config.threshold).bind fun found => ?_
  cases found with
  | some i =>
    refine (corresponds_check x).bind fun x => ?_
    refine (corresponds_check y).bind fun y => ?_
    refine (corresponds_log rfl).bind fun _ => ?_
    refine (corresponds_update fun s => mergePosition_turned σ s config i x y).bind fun _ => ?_
    exact corresponds_pure i
  | none =>
    refine corresponds_read_bind fun s => ?_
    rw [size_turned]
    split
    · refine (turns_create σ x y blocked false).bind fun i => ?_
      refine (corresponds_check x).bind fun x => ?_
      refine (corresponds_check y).bind fun y => ?_
      refine (corresponds_log rfl).bind fun _ => ?_
      exact corresponds_pure i
    · simp only [check_ok_bind]
      refine (corresponds_ask fun s => resolve_turned σ s origin).bind fun o => ?_
      refine (turns_create σ x y blocked false).bind fun i => ?_
      refine (turns_join σ o h i).bind fun _ => ?_
      refine (corresponds_check x).bind fun x => ?_
      refine (corresponds_check y).bind fun y => ?_
      refine (corresponds_log rfl).bind fun _ => ?_
      exact corresponds_pure i

theorem turns_placeObject (origin : Json) (x y : Checked K) (h : Heading) :
    Turns σ (placeObject config origin x y (.ok h))
      (placeObject config origin x y (.ok (σ h))) := by
  unfold placeObject
  simp only [check_ok_bind]
  refine (corresponds_ask fun s => resolve_turned σ s origin).bind fun o => ?_
  refine (corresponds_ask fun s => nearbyObject_turned σ s x y config.threshold).bind
    fun found => ?_
  cases found with
  | some i =>
    refine (corresponds_check x).bind fun x => ?_
    refine (corresponds_check y).bind fun y => ?_
    refine (corresponds_log rfl).bind fun _ => ?_
    refine (corresponds_update fun s => mergePosition_turned σ s config i x y).bind fun _ => ?_
    refine (turns_join σ o h i).bind fun _ => ?_
    exact corresponds_pure i
  | none =>
    have closed := turns_create σ x y (.replicate true) true
    rw [Compass.turned_replicate] at closed
    refine closed.bind fun i => ?_
    refine (corresponds_check x).bind fun x => ?_
    refine (corresponds_check y).bind fun y => ?_
    refine (corresponds_log rfl).bind fun _ => ?_
    refine (turns_join σ o h i).bind fun _ => ?_
    exact corresponds_pure i

end Store

/-! ## Replays -/

namespace Graph

open Call

variable {K : Type} (σ : Symmetry)

theorem turned_empty (config : Config K) : (empty config).turned σ = empty config := by
  rw [turned, empty, Store.turned_empty]

/-- Whether a call does to a turned graph what another does to the graph. -/
abbrev Turns {α : Type} (c c' : GraphCall K α) : Prop :=
  Corresponds (turned σ) (Event.turned σ) c c'

theorem turns_onStore {α : Type} {c c' : StoreCall K α} (h : Store.Turns σ c c') :
    Turns σ (onStore c) (onStore c') := by
  intro g
  rw [onStore, onStore, run_onPart, run_onPart]
  simp only [turned, h g.store]

variable [Scalar K]

theorem turns_place (report : Report K) : Turns σ (place report) (place (report.turned σ)) := by
  cases report with
  | waypoint x y blocked origin h =>
    refine corresponds_read_bind fun g => ?_
    exact turns_onStore σ (Store.turns_placeWaypoint σ g.config _ _ blocked _ h)
  | object origin x y h =>
    refine corresponds_read_bind fun g => ?_
    exact turns_onStore σ (Store.turns_placeObject σ g.config _ _ _ h)

theorem turns_replay (reports : List (Report K)) :
    Turns σ (replay reports) (replay (reports.map (·.turned σ))) := by
  induction reports with
  | nil => exact corresponds_pure []
  | cons report rest ih =>
    refine (turns_place σ report).bind fun i => ?_
    refine ih.bind fun ids => ?_
    exact corresponds_pure (i :: ids)

/-- A replay of reports whose headings are turned by a symmetry gives the same ids, or is refused
at the same report for the same reason. It leaves as many waypoints, at the same spots and of the
same kinds, and each link is found in the heading that its own is turned into. -/
theorem replay_turned (config : Config K) (reports : List (Report K)) :
    let outcome := (replay reports).run (empty config)
    let outcome' := (replay (reports.map (·.turned σ))).run (empty config)
    outcome'.result = outcome.result ∧
    (∀ e, outcome.result = .error e →
      ∃ (before : List (Report K)) (report : Report K) (after : List (Report K)) (ids : List Nat),
        reports = before ++ report :: after ∧
        ((replay before).run (empty config)).result = .ok ids ∧
        ((replay (before.map (·.turned σ))).run (empty config)).result = .ok ids ∧
        ((place report).run ((replay before).run (empty config)).state).result = .error e ∧
        ((place (report.turned σ)).run
          ((replay (before.map (·.turned σ))).run (empty config)).state).result = .error e) ∧
    outcome'.state.store.size = outcome.state.store.size ∧
    (∀ (i : Nat) (w : Waypoint K), outcome.state.store.waypoints[i]? = some w →
      ∃ v, outcome'.state.store.waypoints[i]? = some v ∧ v.id = w.id ∧ v.x = w.x ∧ v.y = w.y ∧
        v.hasObject = w.hasObject ∧ ∀ h, v.links.get (σ h) = w.links.get h) ∧
    outcome'.log = outcome.log.map (·.turned σ) := by
  intro outcome outcome'
  have replays : ∀ reports : List (Report K),
      (replay (reports.map (·.turned σ))).run (empty config) =
        ⟨((replay reports).run (empty config)).result,
          ((replay reports).run (empty config)).state.turned σ,
          ((replay reports).run (empty config)).log.map (·.turned σ)⟩ := by
    intro reports
    have turns := turns_replay σ reports (empty config)
    rwa [turned_empty] at turns
  have whole : outcome' = ⟨outcome.result, outcome.state.turned σ, outcome.log.map (·.turned σ)⟩ :=
    replays reports
  refine ⟨by rw [whole], fun e failed => ?_, ?_, fun i w hw => ?_, by rw [whole]⟩
  · obtain ⟨before, report, after, ids, split, -, replayed, refused, -⟩ :=
      exists_refused (g := empty config) Store.wellFormed_empty failed
    refine ⟨before, report, after, ids, split, replayed, ?_, refused, ?_⟩
    · rw [replays, replayed]
    · rw [replays, turns_place σ report]
      exact refused
  · rw [whole]
    exact Store.size_turned σ _
  · refine ⟨w.turned σ, ?_, rfl, rfl, rfl, rfl, Compass.get_turned σ w.links⟩
    have found := Store.getElem?_turned σ outcome.state.store i
    rw [hw] at found
    rw [whole]
    exact found

end Graph

end WaypointMap
