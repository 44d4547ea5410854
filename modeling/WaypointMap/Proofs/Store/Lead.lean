import Mathlib.Data.List.Nodup
import WaypointMap.Proofs.Store.WellFormed

/-!
# Links as they are seen from their ends

A link between two waypoints is there twice, in a slot of the one and in a slot of the other. A lead
is one of these slots with the waypoint that it leads to.
-/

namespace WaypointMap

/-- A link as it is seen from one of its ends. -/
structure Lead where
  source : Nat
  heading : Heading
  target : Nat
  deriving DecidableEq

variable {K : Type}

/-- The links of a waypoint, clockwise from north. -/
def Waypoint.leads (w : Waypoint K) : List Lead := w.exits.map fun e => ⟨w.id, e.1, e.2⟩

theorem Link.target?_eq_some_iff {l : Link} {j : Nat} : l.target? = some j ↔ l = .leadsTo j := by
  cases l <;> simp [target?]

theorem Waypoint.mem_leads_iff {w : Waypoint K} {l : Lead} :
    l ∈ w.leads ↔ l.source = w.id ∧ w.links.get l.heading = .leadsTo l.target := by
  obtain ⟨i, h, j⟩ := l
  have every : h ∈ Heading.all := by cases h <;> decide
  simp only [leads, exits, List.mem_map, List.mem_filterMap, Option.map_eq_some_iff,
    Link.target?_eq_some_iff, Lead.mk.injEq, Prod.exists, Prod.mk.injEq]
  constructor
  · rintro ⟨_, _, ⟨_, -, _, link, rfl, rfl⟩, rfl, rfl, rfl⟩
    exact ⟨rfl, link⟩
  · rintro ⟨rfl, link⟩
    exact ⟨h, j, ⟨h, every, j, link, rfl, rfl⟩, rfl, rfl, rfl⟩

theorem Waypoint.nodup_leads (w : Waypoint K) : w.leads.Nodup := by
  have headings : Heading.all.Nodup := by decide
  refine List.Nodup.map ?_ (headings.filterMap ?_)
  · rintro ⟨h, j⟩ ⟨h', j'⟩ same
    cases same
    rfl
  · intro h h' e he he'
    obtain ⟨_, -, rfl⟩ := Option.map_eq_some_iff.1 he
    obtain ⟨_, -, same⟩ := Option.map_eq_some_iff.1 he'
    exact (congrArg Prod.fst same).symm

theorem Waypoint.length_leads_le (w : Waypoint K) : w.leads.length ≤ 4 := by
  rw [leads, List.length_map]
  exact List.length_filterMap_le _ Heading.all

namespace Store

variable {s : Store K}

/-- The links of all waypoints. Both ends of a link are there. -/
def leads (s : Store K) : List Lead := s.waypoints.toList.flatMap Waypoint.leads

theorem mem_leads_iff (hs : s.WellFormed) {l : Lead} :
    l ∈ s.leads ↔ s.link l.source l.heading = some (.leadsTo l.target) := by
  simp only [leads, List.mem_flatMap, Array.mem_toList_iff, Waypoint.mem_leads_iff, link,
    Option.map_eq_some_iff]
  constructor
  · rintro ⟨w, hw, source, link⟩
    obtain ⟨i, hi⟩ := Array.getElem?_of_mem hw
    exact ⟨w, by rw [source, hs.ids hi, hi], link⟩
  · rintro ⟨w, hw, link⟩
    exact ⟨w, Array.mem_of_getElem? hw, (hs.ids hw).symm, link⟩

theorem nodup_leads (hs : s.WellFormed) : s.leads.Nodup := by
  rw [leads, List.nodup_flatMap]
  refine ⟨fun w _ => w.nodup_leads, List.pairwise_iff_getElem.2 fun i j hi hj lt => ?_⟩
  intro l hl hl'
  have source := (Waypoint.mem_leads_iff.1 hl).1
  have source' := (Waypoint.mem_leads_iff.1 hl').1
  rw [hs.ids (Array.getElem?_toList .. ▸ List.getElem?_eq_getElem hi)] at source
  rw [hs.ids (Array.getElem?_toList .. ▸ List.getElem?_eq_getElem hj)] at source'
  omega

/-- No more than four links for each waypoint. -/
theorem length_leads_le (s : Store K) : s.leads.length ≤ 4 * s.size := by
  have each : ∀ ws : List (Waypoint K), (ws.flatMap (·.leads)).length ≤ 4 * ws.length := by
    intro ws
    induction ws with
    | nil => exact Nat.le_refl 0
    | cons w rest ih =>
      have first := w.length_leads_le
      rw [List.flatMap_cons, List.length_append, List.length_cons]
      omega
  exact each s.waypoints.toList

end Store

end WaypointMap
