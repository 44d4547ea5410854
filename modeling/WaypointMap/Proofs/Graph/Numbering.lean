import WaypointMap.Proofs.Checked
import WaypointMap.Proofs.Graph.Effect
import WaypointMap.Proofs.Graph.Progress
import WaypointMap.Proofs.Graph.Refusal
import WaypointMap.Proofs.Search.Discovery

/-!
# The ids of a replay

A report that is placed answers an older id, or the next one, which is the id of the waypoint that
it adds. So the ids of a replay on an empty map, without repetitions, count the waypoints in the
order of their creation, and a waypoint is an object if the first report that came to it was one of
an object. To replay reports in two parts is to replay them at once.
-/

namespace WaypointMap

variable {K : Type}

namespace Store

variable {s t : Store K}

/-- A waypoint stays an object, or none. -/
theorem Onward.isObject_eq (step : s.Onward t) {i : Nat} (hi : i < s.size) :
    t.isObject i = s.isObject i := by
  obtain ⟨w, hw⟩ := exists_waypoint hi
  obtain ⟨v, hv, -, same⟩ := step.kept (bare_of_getElem? hw)
  rw [isObject_of_bare hv, same, isObject_of_bare (bare_of_getElem? hw)]

end Store

/-- Whether a report is one of an object. -/
def Report.isSighting : Report K → Bool
  | waypoint .. => false
  | object .. => true

namespace Graph

variable [Scalar K] {g : Graph K}

/-! ## The id of one report -/

/-- A report that is placed comes to an older waypoint, or adds the one whose id it answers. -/
theorem size_place [LawfulScalar K] (hg : g.store.WellFormed) {report : Report K} {i : Nat}
    (placed : ((place report).run g).result = .ok i) :
    let t := ((place report).run g).state.store
    i < g.store.size ∧ t.size = g.store.size ∨
      i = g.store.size ∧ t.size = g.store.size + 1 ∧ t.isObject i = report.isSighting := by
  cases report with
  | waypoint x y blocked origin heading =>
    rw [place, run_placeWaypoint] at placed ⊢
    have outcome := Store.waypointPlaced hg g.config (.ok x) (.ok y) (.ok blocked) (.int origin)
      (.ok heading)
    generalize (Store.placeWaypoint g.config _ _ _ _ _).run g.store = o at placed outcome ⊢
    cases outcome with
    | visited _ _ near =>
      cases placed
      exact .inl ⟨Store.lt_size_of_nearestWithin near, Store.size_mergePosition ..⟩
    | @first a b flags _ _ _ _ =>
      cases placed
      have added := Store.bare_push g.store a b flags false g.store.size
      rw [if_pos rfl] at added
      exact .inr ⟨rfl, Store.size_push .., Store.isObject_of_bare added⟩
    | @linked a b flags h o _ _ _ _ _ _ _ =>
      cases placed
      have added := Store.bare_push_joined g.store a b flags false o h g.store.size
      rw [if_pos rfl] at added
      exact .inr ⟨rfl, (Store.size_joined ..).trans (Store.size_push ..),
        Store.isObject_of_bare added⟩
    | refused _ => cases placed
  | object origin x y heading =>
    rw [place, run_placeObject] at placed ⊢
    have outcome := Store.objectPlaced hg g.config (.int origin) (.ok x) (.ok y) (.ok heading)
    generalize (Store.placeObject g.config _ _ _ _).run g.store = o at placed outcome ⊢
    cases outcome with
    | sighted _ _ _ _ _ _ object =>
      cases placed
      exact .inl ⟨Store.lt_size_of_isObject object,
        (Store.size_joined ..).trans (Store.size_mergePosition ..)⟩
    | @created a b h o _ _ _ _ _ _ =>
      cases placed
      have added := Store.bare_withObject g.store a b o h g.store.size
      rw [if_pos rfl] at added
      exact .inr ⟨rfl, Store.size_withObject .., Store.isObject_of_bare added⟩
    | refused _ => cases placed

/-! ## Replays in parts -/

theorem replay_append (before after : List (Report K)) :
    replay (before ++ after) = do
      let ids ← replay before
      return ids ++ (← replay after) := by
  induction before with
  | nil => simp [replay]
  | cons report rest ih => simp [replay, ih]

/-- To replay reports in two parts is to replay them at once. -/
theorem run_replay_append (g : Graph K) (before after : List (Report K)) :
    (replay (before ++ after)).run g =
      match ((replay before).run g).result with
      | .error e => ⟨.error e, ((replay before).run g).state, ((replay before).run g).log⟩
      | .ok ids =>
        let rest := (replay after).run ((replay before).run g).state
        ⟨rest.result.map (ids ++ ·), rest.state, ((replay before).run g).log ++ rest.log⟩ := by
  have later : ∀ ids : List Nat, (do return ids ++ (← replay after) : GraphCall K (List Nat)) =
      (ids ++ ·) <$> replay after := fun ids => (map_eq_pure_bind ..).symm
  rw [replay_append, Call.run_bind]
  cases ((replay before).run g).result with
  | error e => rfl
  | ok ids =>
    dsimp only
    rw [later, Call.run_map]

theorem run_replay_singleton (g : Graph K) (report : Report K) :
    (replay [report]).run g =
      ⟨((place report).run g).result.map ([·]), ((place report).run g).state,
        ((place report).run g).log⟩ := by
  have single : replay [report] = ([·]) <$> place report := by simp [replay]
  rw [single, Call.run_map]

/-- A replay that succeeds does so in both its parts. -/
theorem exists_parts {before after : List (Report K)} {ids : List Nat}
    (placed : ((replay (before ++ after)).run g).result = .ok ids) :
    ∃ earlier later, ids = earlier ++ later ∧
      ((replay before).run g).result = .ok earlier ∧
      ((replay after).run ((replay before).run g).state).result = .ok later ∧
      ((replay (before ++ after)).run g).state =
        ((replay after).run ((replay before).run g).state).state := by
  rw [run_replay_append] at placed ⊢
  cases first : ((replay before).run g).result with
  | error e =>
    rw [first] at placed
    cases placed
  | ok earlier =>
    rw [first] at placed
    dsimp only at placed ⊢
    cases rest : ((replay after).run ((replay before).run g).state).result with
    | error e =>
      rw [rest] at placed
      cases placed
    | ok later =>
      rw [rest] at placed
      cases placed
      exact ⟨earlier, later, rfl, rfl, rfl, rfl⟩

/-- The last report of a replay that succeeds was placed after all reports before it. -/
theorem exists_last {before : List (Report K)} {report : Report K} {ids : List Nat}
    (placed : ((replay (before ++ [report])).run g).result = .ok ids) :
    ∃ earlier i, ids = earlier ++ [i] ∧
      ((replay before).run g).result = .ok earlier ∧
      ((place report).run ((replay before).run g).state).result = .ok i ∧
      ((replay (before ++ [report])).run g).state =
        ((place report).run ((replay before).run g).state).state := by
  obtain ⟨earlier, later, rfl, first, last, state⟩ := exists_parts placed
  rw [run_replay_singleton] at last state
  dsimp only at last
  cases result : ((place report).run ((replay before).run g).state).result with
  | error e =>
    rw [result] at last
    cases last
  | ok i =>
    rw [result] at last
    cases last
    exact ⟨earlier, i, rfl, first, rfl, state⟩

theorem changes_replay (hg : g.store.WellFormed) (reports : List (Report K)) :
    g.store.Changes ((replay reports).run g).state.store := by
  induction reports generalizing g with
  | nil => exact .refl
  | cons report rest ih =>
    have first := changes_place hg report
    cases result : ((place report).run g).result with
    | error e =>
      rw [run_replay_of_refused result]
      exact first
    | ok i =>
      have placed : (place report).run g =
          ⟨.ok i, ((place report).run g).state, ((place report).run g).log⟩ := by
        rw [← result]
      rw [run_replay_of_placed placed]
      exact first.trans (ih (hg.changes first))

/-! ## The ids of all reports -/

theorem mem_of_eraseDups_eq_range {ids : List Nat} {n i : Nat}
    (firsts : ids.eraseDups = List.range n) : i ∈ ids ↔ i < n := by
  rw [← List.mem_eraseDups, firsts, List.mem_range]

theorem wellFormed_replay (config : Config K) (reports : List (Report K)) :
    ((replay reports).run (empty config)).state.store.WellFormed :=
  Store.wellFormed_empty.changes (changes_replay (g := empty config) Store.wellFormed_empty reports)

variable [LawfulScalar K]

/-- The ids of a replay on an empty map, each told once, count its waypoints. -/
theorem eraseDups_replay (config : Config K) {reports : List (Report K)} {ids : List Nat}
    (placed : ((replay reports).run (empty config)).result = .ok ids) :
    ids.length = reports.length ∧
      ids.eraseDups = List.range ((replay reports).run (empty config)).state.store.size := by
  induction reports using List.reverseRecOn generalizing ids with
  | nil =>
    cases placed
    exact ⟨rfl, rfl⟩
  | append_singleton before report ih =>
    obtain ⟨earlier, i, rfl, first, last, state⟩ := exists_last placed
    obtain ⟨length, firsts⟩ := ih first
    rw [state]
    refine ⟨by rw [List.length_append, List.length_append, length]; rfl, ?_⟩
    obtain ⟨hi, size⟩ | ⟨rfl, size, -⟩ := size_place (wellFormed_replay config before) last
    · rw [eraseDups_concat_of_mem ((mem_of_eraseDups_eq_range firsts).2 hi), firsts, size]
    · have new := mt (mem_of_eraseDups_eq_range firsts).1 (Nat.lt_irrefl _)
      rw [eraseDups_concat_of_not_mem new, firsts, size, List.range_succ]

/-- What the id of a report tells: an id from before adds no waypoint. A new one adds one, and the
kind of the report is the kind of the waypoint ever after. -/
theorem exists_numbered (config : Config K) {before after : List (Report K)} {report : Report K}
    {ids : List Nat}
    (placed : ((replay (before ++ report :: after)).run (empty config)).result = .ok ids) :
    let map (part : List (Report K)) := ((replay part).run (empty config)).state.store
    ∃ earlier i later, ids = earlier ++ i :: later ∧ earlier.length = before.length ∧
      (i ∈ earlier → (map (before ++ [report])).size = (map before).size) ∧
      (i ∉ earlier → (map (before ++ [report])).size = (map before).size + 1 ∧
        (map (before ++ report :: after)).isObject i = report.isSighting) := by
  intro map
  have split : before ++ report :: after = before ++ [report] ++ after := List.append_cons ..
  rw [split] at placed ⊢
  obtain ⟨upTo, later, rfl, first, -, state⟩ := exists_parts placed
  obtain ⟨earlier, i, rfl, start, last, state'⟩ := exists_last first
  obtain ⟨length, firsts⟩ := eraseDups_replay config start
  have kept : (map (before ++ [report])).Onward (map (before ++ [report] ++ after)) := by
    dsimp only [map]
    rw [state]
    exact .changes (changes_replay (wellFormed_replay config (before ++ [report])) after)
  dsimp only [map] at kept ⊢
  rw [state'] at kept ⊢
  refine ⟨earlier, i, later, (List.append_cons ..).symm, length, ?_⟩
  rw [mem_of_eraseDups_eq_range firsts]
  obtain ⟨hi, size⟩ | ⟨rfl, size, kind⟩ := size_place (wellFormed_replay config before) last
  · exact ⟨fun _ => size, fun new => absurd hi new⟩
  · refine ⟨fun old => absurd old (Nat.lt_irrefl _), fun _ => ⟨size, ?_⟩⟩
    rw [kept.isObject_eq (by rw [size]; exact Nat.lt_succ_self _), kind]

/-- The ids of a replay on an empty map that succeeds are one for each report and, each told once,
count the waypoints from zero in the order in which they come. A report adds one waypoint if its id
is new, and none otherwise, and a waypoint is an object if the first report of its id was one of an
object. On any graph, two replays one after the other are one replay of all reports: the ids, the
graph and the log are the same. -/
theorem replay_numbers (config : Config K) (reports : List (Report K)) :
    let map (part : List (Report K)) := ((replay part).run (empty config)).state.store
    (∀ ids, ((replay reports).run (empty config)).result = .ok ids →
      ids.length = reports.length ∧ ids.eraseDups = List.range (map reports).size ∧
      ∀ before report after, reports = before ++ report :: after →
        ∃ earlier i later, ids = earlier ++ i :: later ∧ earlier.length = before.length ∧
          (i ∈ earlier → (map (before ++ [report])).size = (map before).size) ∧
          (i ∉ earlier → (map (before ++ [report])).size = (map before).size + 1 ∧
            (map reports).isObject i = report.isSighting)) ∧
    ∀ (g : Graph K) (first second : List (Report K)),
      let once := (replay (first ++ second)).run g
      let one := (replay first).run g
      let two := (replay second).run one.state
      (∀ e, one.result = .error e → once = one) ∧
      ∀ ids, one.result = .ok ids → once.result = two.result.map (ids ++ ·) ∧
        once.state = two.state ∧ once.log = one.log ++ two.log := by
  intro map
  refine ⟨?_, ?_⟩
  · intro ids placed
    obtain ⟨length, firsts⟩ := eraseDups_replay config placed
    refine ⟨length, firsts, ?_⟩
    rintro before report after rfl
    exact exists_numbered config placed
  · intro g first second once one two
    have parts : once = _ := run_replay_append g first second
    rw [parts]
    refine ⟨?_, ?_⟩
    · intro e failed
      rw [failed]
      exact (congrArg (fun r => (⟨r, one.state, one.log⟩ : Outcome _ _ _)) failed).symm
    · intro ids placed
      rw [placed]
      exact ⟨rfl, rfl, rfl⟩

/-- Two spots and an object between them that is seen twice, and near which the second spot is. -/
def rounds : List (Report Float) :=
  [.waypoint 0.0 0.0 (.replicate false) 0 .north, .object 0 0.5 0.0 .east,
    .waypoint 0.52 0.0 (.replicate false) 0 .east, .object 0 0.5 0.02 .south,
    .waypoint 1.0 0.0 (.replicate false) 1 .east]

theorem replay_numbers_rounds :
    let map (part : List (Report Float)) := ((replay part).run (empty ⟨0.1, false⟩)).state.store
    ((replay rounds).run (empty ⟨0.1, false⟩)).result = .ok [0, 1, 1, 1, 2] ∧
      [0, 1, 1, 1, 2].eraseDups = List.range (map rounds).size ∧
      (map (rounds.take 2)).size = (map (rounds.take 1)).size + 1 ∧
      (map (rounds.take 3)).size = (map (rounds.take 2)).size ∧ (map rounds).isObject 1 = true ∧
      ((replay (rounds ++ rounds)).run (empty ⟨0.1, false⟩)).state =
        ((replay rounds).run ((replay rounds).run (empty ⟨0.1, false⟩)).state).state := by
  obtain ⟨counted, parts⟩ := replay_numbers ⟨0.1, false⟩ rounds
  have placed : ((replay rounds).run (empty ⟨0.1, false⟩)).result = .ok [0, 1, 1, 1, 2] :=
    Checked.eq_ok_of_toOption (by decide +kernel)
  obtain ⟨-, firsts, single⟩ := counted _ placed
  obtain ⟨earlier, i, later, ids, length, -, added⟩ := single (rounds.take 1) _ _ rfl
  obtain ⟨earlier', i', later', ids', length', met, -⟩ := single (rounds.take 2) _ _ rfl
  have ids : [0] ++ [1, 1, 1, 2] = earlier ++ i :: later := ids
  have ids' : [0, 1] ++ [1, 1, 2] = earlier' ++ i' :: later' := ids'
  obtain ⟨rfl, ids⟩ := List.append_inj ids length.symm
  obtain ⟨rfl, ids'⟩ := List.append_inj ids' length'.symm
  cases ids
  cases ids'
  obtain ⟨bigger, object⟩ := added (by decide)
  have same := met (by decide)
  refine ⟨placed, firsts, bigger, same, object, ?_⟩
  exact ((parts _ rounds rounds).2 _ placed).2.1

end Graph

end WaypointMap
