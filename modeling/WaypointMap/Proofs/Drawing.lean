import WaypointMap.Drawing
import WaypointMap.Proofs.Checked
import WaypointMap.Proofs.Graph.Passage
import WaypointMap.Proofs.Store.Lead

/-!
# What a drawing shows

Each link has two ends, and each end is a slot that leads to the other. Of the two slots a drawing
shows the one whose waypoint has the lower id, so links between two waypoints are drawn once. A
waypoint that is linked with itself holds both slots of the link, and both are drawn.
-/

namespace WaypointMap

/-! ## The two ends of a link -/

namespace Lead

/-- The link as it is seen from its other end. -/
def reversed (l : Lead) : Lead := ⟨l.target, l.heading.opposite, l.source⟩

theorem reversed_reversed (l : Lead) : l.reversed.reversed = l := by
  simp [reversed]

theorem reversed_injective : Function.Injective reversed := fun a b same => by
  rw [← a.reversed_reversed, same, b.reversed_reversed]

def isLoop (l : Lead) : Bool := l.source == l.target

/-- Whether a link is drawn from this end. -/
def isDrawn (l : Lead) : Bool := l.source ≤ l.target

theorem length_add_countP_isLoop (leads : List Lead) :
    leads.length + leads.countP isLoop =
      leads.countP isDrawn + leads.countP (isDrawn ∘ reversed) := by
  induction leads with
  | nil => rfl
  | cons l rest ih =>
    -- A link is drawn from one of its ends, and a loop from both.
    have ends : 1 + (if l.isLoop then 1 else 0) =
        (if l.isDrawn then 1 else 0) + if l.reversed.isDrawn then 1 else 0 := by
      rcases Nat.lt_trichotomy l.source l.target with lt | eq | gt
      · simp [isLoop, isDrawn, reversed, lt.ne, lt.le, lt.not_ge]
      · simp [isLoop, isDrawn, reversed, eq]
      · simp [isLoop, isDrawn, reversed, gt.ne', gt.le, gt.not_ge]
    simp only [List.length_cons, List.countP_cons, Function.comp_apply]
    omega

end Lead

variable {K : Type}

namespace Store

variable {s : Store K}

theorem reversed_mem_leads (hs : s.WellFormed) {l : Lead} : l.reversed ∈ s.leads ↔ l ∈ s.leads := by
  rw [mem_leads_iff hs, mem_leads_iff hs]
  exact (hs.reciprocal l.source l.heading l.target).symm

theorem perm_reversed (hs : s.WellFormed) : (s.leads.map Lead.reversed).Perm s.leads := by
  refine (List.perm_ext_iff_of_nodup ?_ (nodup_leads hs)).2 fun l => ?_
  · exact (nodup_leads hs).map Lead.reversed_injective
  · rw [← reversed_mem_leads hs, List.mem_map]
    constructor
    · rintro ⟨l, hl, rfl⟩
      rwa [l.reversed_reversed]
    · exact fun hl => ⟨_, hl, l.reversed_reversed⟩

/-- The links that are drawn, each from the end that it is drawn from. -/
def drawn (s : Store K) : List Lead := s.leads.filter Lead.isDrawn

theorem two_mul_length_drawn (hs : s.WellFormed) :
    2 * s.drawn.length = s.leads.length + s.leads.countP Lead.isLoop := by
  have turned := (perm_reversed hs).countP_eq Lead.isDrawn
  rw [List.countP_map] at turned
  rw [Lead.length_add_countP_isLoop, turned, drawn, ← List.countP_eq_length_filter, Nat.two_mul]

/-- Of the two ends of a link between two waypoints exactly one is drawn. -/
theorem mem_drawn_iff_reversed (hs : s.WellFormed) {l : Lead} (hl : l ∈ s.leads)
    (apart : l.source ≠ l.target) : l ∈ s.drawn ↔ l.reversed ∉ s.drawn := by
  have near : l.isDrawn = true ↔ l.source ≤ l.target := decide_eq_true_iff
  have far : l.reversed.isDrawn = true ↔ l.target ≤ l.source := decide_eq_true_iff
  rw [drawn, List.mem_filter, List.mem_filter, reversed_mem_leads hs, near, far]
  simp only [hl, true_and]
  omega

/-- Both ends of a link of a waypoint with itself are drawn. -/
theorem mem_drawn_of_isLoop {l : Lead} (hl : l ∈ s.leads) (loop : l.source = l.target) :
    l ∈ s.drawn :=
  List.mem_filter.2 ⟨hl, by simp [Lead.isDrawn, loop]⟩

/-! ## The strokes -/

/-- Whether a stroke is the segment of a link: between its ends as they are stored. -/
def Draws (s : Store K) (l : Lead) (stroke : Stroke K) : Prop :=
  ∃ w v, s.waypoints[l.source]? = some w ∧ s.waypoints[l.target]? = some v ∧
    stroke = .line [w.point, v.point] .link

theorem neighbors_eq_map_leads (w : Waypoint K) :
    w.neighbors.filter (w.id ≤ ·) = (w.leads.filter Lead.isDrawn).map Lead.target := by
  rw [Waypoint.neighbors, Waypoint.leads, List.filter_map, List.filter_map, List.map_map]
  rfl

theorem exists_linkStrokes (hs : s.WellFormed) {w : Waypoint K} (hw : w ∈ s.waypoints) :
    ∃ segments, s.linkStrokes w = .ok segments ∧
      List.Forall₂ s.Draws (w.leads.filter Lead.isDrawn) segments := by
  obtain ⟨i, hi⟩ := Array.getElem?_of_mem hw
  rw [linkStrokes, neighbors_eq_map_leads, List.mapM_map]
  refine Checked.exists_mapM fun l hl => ?_
  obtain ⟨source, link⟩ := Waypoint.mem_leads_iff.1 (List.mem_filter.1 hl).1
  have near : s.waypoints[l.source]? = some w := by rw [source, hs.ids hi, hi]
  have slot : s.link l.source l.heading = some (.leadsTo l.target) := by
    rw [Store.link, near, Option.map_some, link]
  obtain ⟨v, hv⟩ := exists_waypoint (hs.inRange slot)
  refine ⟨.line [w.point, v.point] .link, ?_, w, v, near, hv, rfl⟩
  rw [Function.comp_apply, fetch_eq_ok hv]
  rfl

/-- The segments of a drawing are those of the drawn links. -/
theorem exists_segments (hs : s.WellFormed) :
    ∃ links, s.waypoints.toList.mapM s.linkStrokes = .ok links ∧
      List.Forall₂ s.Draws s.drawn links.flatten := by
  have each : ∀ w ∈ s.waypoints.toList, ∃ segments, s.linkStrokes w = .ok segments ∧
      List.Forall₂ s.Draws (w.leads.filter Lead.isDrawn) segments := fun w hw =>
    exists_linkStrokes hs (Array.mem_toList_iff.1 hw)
  obtain ⟨links, run, segments⟩ := Checked.exists_mapM each
  refine ⟨links, run, ?_⟩
  rw [drawn, leads, List.filter_flatMap, List.flatMap_def]
  exact List.rel_flatten (List.forall₂_map_left_iff.2 segments)

theorem fetchAt_eq_ok {i : Nat} {w : Waypoint K} (hw : s.waypoints[i]? = some w) :
    s.fetchAt (.int i) = .ok w :=
  fetch_eq_ok hw

theorem pathStrokes_cons (s : Store K) (member : Json) (rest : List Json) :
    s.pathStrokes (.list (member :: rest)) = do
      let waypoints ← (member :: rest).mapM s.fetchAt
      return [.line (waypoints.map (·.point)) .path] := rfl

/-- The path of a drawing goes through its waypoints in order. -/
theorem exists_pathStrokes {path : List Nat} (hp : ∀ i ∈ path, i < s.size) :
    ∃ points, List.Forall₂ (fun i p => ∃ w, s.waypoints[i]? = some w ∧ p = w.point) path points ∧
      s.pathStrokes (.list (path.map fun i : Nat => .int i)) =
        .ok (if path = [] then [] else [.line points .path]) := by
  have each : ∀ i ∈ path, ∃ w, (s.fetchAt ∘ fun i : Nat => .int i) i = .ok w ∧
      s.waypoints[i]? = some w := by
    intro i hi
    obtain ⟨w, hw⟩ := exists_waypoint (hp i hi)
    exact ⟨w, fetchAt_eq_ok hw, hw⟩
  obtain ⟨waypoints, run, stored⟩ := Checked.exists_mapM each
  refine ⟨waypoints.map (·.point), ?_, ?_⟩
  · exact List.forall₂_map_right_iff.2 (stored.imp fun _ w hw => ⟨w, hw, rfl⟩)
  · rw [← List.mapM_map] at run
    cases path with
    | nil => rfl
    | cons i rest =>
      rw [List.map_cons] at run
      rw [List.map_cons, pathStrokes_cons, run, if_neg (List.cons_ne_nil i rest)]
      rfl

end Store

/-! ## The drawing -/

namespace Stroke

def isLine : Stroke K → Bool
  | line .. => true
  | _ => false

def isMarker : Stroke K → Bool
  | marker .. => true
  | _ => false

end Stroke

/-- A waypoint is drawn without lines. -/
theorem Waypoint.filter_isLine_strokes (waypoints : List (Waypoint K)) (showIds : Bool) :
    (waypoints.flatMap (·.strokes showIds)).filter Stroke.isLine = [] := by
  rw [List.filter_flatMap, List.flatMap_eq_nil_iff]
  intro w _
  cases showIds <;> rfl

/-- A waypoint is drawn with one marker. -/
theorem Waypoint.filter_isMarker_strokes (waypoints : List (Waypoint K)) (showIds : Bool) :
    (waypoints.flatMap (·.strokes showIds)).filter Stroke.isMarker =
      waypoints.map fun w => .marker w.point w.ink := by
  rw [List.filter_flatMap, List.map_eq_flatMap]
  congr 1
  funext w
  cases showIds <;> rfl

namespace Store

variable {s : Store K}

theorem isLine_of_draws {leads : List Lead} {segments : List (Stroke K)}
    (drawn : List.Forall₂ s.Draws leads segments) :
    segments.filter Stroke.isLine = segments ∧ segments.filter Stroke.isMarker = [] := by
  induction drawn with
  | nil => exact ⟨rfl, rfl⟩
  | cons draws _ ih =>
    obtain ⟨w, v, -, -, rfl⟩ := draws
    exact ⟨congrArg _ ih.1, ih.2⟩

/-- A drawing of a well-formed store with a path of its waypoints. -/
theorem exists_drawing (hs : s.WellFormed) {path : List Nat} (hp : ∀ i ∈ path, i < s.size)
    (showIds : Bool) :
    ∃ strokes segments points,
      s.drawing (.list (path.map fun i : Nat => .int i)) showIds = .ok strokes ∧
      strokes.filter Stroke.isLine =
        segments ++ (if path = [] then [] else [.line points .path]) ∧
      strokes.filter Stroke.isMarker = s.waypoints.toList.map (fun w => .marker w.point w.ink) ∧
      List.Forall₂ s.Draws s.drawn segments ∧
      List.Forall₂ (fun i p => ∃ w, s.waypoints[i]? = some w ∧ p = w.point) path points := by
  obtain ⟨links, run, segments⟩ := exists_segments hs
  obtain ⟨points, through, path'⟩ := exists_pathStrokes hp
  obtain ⟨lines, markers⟩ := isLine_of_draws segments
  refine ⟨_, links.flatten, points, by rw [drawing, run, path']; rfl, ?_, ?_, segments, through⟩
  · rw [List.filter_append, List.filter_append, List.filter_append, lines,
      Waypoint.filter_isLine_strokes, List.append_nil]
    cases path <;> simp [Stroke.isLine]
  · rw [List.filter_append, List.filter_append, List.filter_append, markers,
      Waypoint.filter_isMarker_strokes, List.nil_append]
    cases path <;> simp [Stroke.isMarker]

variable [Scalar K] [LawfulScalar K]

theorem lt_size_of_mem_pathToNearest {id : Json} {isMatch : Nat → Bool} {path : List Nat}
    (answer : s.pathToNearest id isMatch = .ok path) : ∀ i ∈ path, i < s.size := by
  intro i hi
  obtain ⟨source, st, target, c, -, rooted, closest, way, -⟩ :=
    exists_closest_of_path answer (List.ne_nil_of_mem hi)
  obtain ⟨d, hd, -⟩ := rooted.label_of_precedes (Search.precedes_of_mem_way way i hi) closest.label
  exact rooted.labels_size ▸ Search.lt_size_of_label hd

/-- Whatever was asked of a graph and whichever path one of its searches answered, it can be drawn
with that path. The segments are those of the drawn links, one for each, between the waypoints as
they are stored. A link between two waypoints is drawn from exactly one of its ends, and a link of a
waypoint with itself from both of them; so twice the number of the segments is the number of slots
that lead somewhere and of those among them that lead back to their own waypoint. The only other
line is that of the path, unless it is empty, and each waypoint has one marker. -/
theorem drawing_of_path {g : Graph K} (hg : g.store.Reachable) {id : Json} {isMatch : Nat → Bool}
    {path : List Nat} (answer : g.store.pathToNearest id isMatch = .ok path) (showIds : Bool) :
    let s := g.store
    (∀ l, l ∈ s.leads ↔ s.link l.source l.heading = some (.leadsTo l.target)) ∧
      s.leads.Nodup ∧ s.drawn.Sublist s.leads ∧
      (∀ l ∈ s.leads, l.source ≠ l.target → (l ∈ s.drawn ↔ l.reversed ∉ s.drawn)) ∧
      (∀ l ∈ s.leads, l.source = l.target → l ∈ s.drawn ∧ l.reversed ∈ s.drawn) ∧
      ∃ strokes segments points,
        s.drawing (.list (path.map fun i : Nat => .int i)) showIds = .ok strokes ∧
        strokes.filter Stroke.isLine =
          segments ++ (if path = [] then [] else [.line points .path]) ∧
        List.Forall₂ s.Draws s.drawn segments ∧
        2 * segments.length = s.leads.length + s.leads.countP Lead.isLoop ∧
        List.Forall₂ (fun i p => ∃ w, s.waypoints[i]? = some w ∧ p = w.point) path points ∧
        strokes.filter Stroke.isMarker =
          s.waypoints.toList.map (fun w => .marker w.point w.ink) := by
  intro s
  have hs : s.WellFormed := hg.wellFormed
  refine ⟨fun l => mem_leads_iff hs, nodup_leads hs, List.filter_sublist,
    fun l hl apart => mem_drawn_iff_reversed hs hl apart, ?_, ?_⟩
  · intro l hl loop
    have back := (reversed_mem_leads hs).2 hl
    exact ⟨mem_drawn_of_isLoop hl loop, mem_drawn_of_isLoop back loop.symm⟩
  · obtain ⟨strokes, segments, points, run, lines, markers, drawn, through⟩ :=
      exists_drawing hs (lt_size_of_mem_pathToNearest answer) showIds
    refine ⟨strokes, segments, points, run, lines, drawn, ?_, through, markers⟩
    rw [← drawn.length_eq, two_mul_length_drawn hs]

end Store

namespace Request

open Store

theorem drawing_of_path_circuit :
    let s := (run (.empty .default) circuit).store
    s.Reachable ∧ s.pathToFrontier (.int 0) = .ok [0, 1, 4] ∧
      ∃ strokes segments points, s.drawing (.list [.int 0, .int 1, .int 4]) true = .ok strokes ∧
        strokes.filter Stroke.isLine = segments ++ [.line points .path] ∧
        (strokes.filter Stroke.isMarker).length = 5 ∧ segments.length = 5 ∧ points.length = 3 := by
  intro s
  have hg : s.Reachable := ⟨_, _, rfl⟩
  have answer : s.pathToFrontier (.int 0) = .ok [0, 1, 4] := pathToFrontier_circuit
  obtain ⟨-, -, -, -, -, strokes, segments, points, run, lines, -, count, through, markers⟩ :=
    drawing_of_path (g := run (.empty .default) circuit) hg answer true
  have slots : s.leads.length = 10 ∧ s.leads.countP Lead.isLoop = 0 := by decide +kernel
  have size : s.waypoints.toList.length = 5 := by decide +kernel
  refine ⟨hg, answer, strokes, segments, points, run, lines, ?_, ?_, through.length_eq.symm⟩
  · rw [markers, List.length_map, size]
  · rw [slots.1, slots.2] at count
    omega

/-- An object that is seen from a spot, and then from itself. -/
def selfSighting : List (Request Float) :=
  [spot 0.0 .null, sighting 1.0 .east,
    .placeObject (.int 1) (.ok 1.0) (.ok 0.0) (.ok .north)]

/-- A link of a waypoint with itself is drawn twice: three segments for the four connected slots,
which are two links. -/
theorem loop_drawn_twice :
    let s := (run (.empty .default) selfSighting).store
    (∀ r ∈ selfSighting, r.isFinitePlacement = true) ∧
      s.pathToObject (.int 0) = .ok [0, 1] ∧ s.leads =
        [⟨0, .east, 1⟩, ⟨1, .north, 1⟩, ⟨1, .south, 1⟩, ⟨1, .west, 0⟩] ∧
      (s.drawing (.list [.int 0, .int 1]) true).toOption.map (·.filter Stroke.isLine) =
        some [.line [(0.0, 0.0), (1.0, 0.0)] .link, .line [(1.0, 0.0), (1.0, 0.0)] .link,
          .line [(1.0, 0.0), (1.0, 0.0)] .link, .line [(0.0, 0.0), (1.0, 0.0)] .path] := by
  refine ⟨by decide +kernel, ?_, by decide +kernel, by decide +kernel⟩
  exact pathToNearest_of_rounds (n := 9) (by decide +kernel) (by decide +kernel)

end Request

end WaypointMap
