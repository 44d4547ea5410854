import WaypointMap.Store

/-!
# Connecting waypoints

Links go both ways: a link in a heading answers a link back in the opposite heading. When a
new link takes the place of an old one, the former partner loses its link back; it becomes
blocked and not unexplored, because the way there has been walked.
-/

namespace WaypointMap

namespace Store

variable {K : Type}

/-- Makes room for a link from `i` in heading `h` to `partner`: a former partner that still
answers the link is blocked. -/
def detach (i : Nat) (h : Heading) (partner : Nat) : StoreCall K Unit := do
  let s ← Call.read
  match s.link i h with
  | some (.leadsTo former) =>
    if former = partner then return ()
    else
      let stale ← Call.check (s.fetch former)
      if stale.links.get h.opposite = .leadsTo i then
        Call.log (.replaced i h former)
        Call.update (·.setLink former h.opposite .blocked)
  | _ => return ()

/-- Links two positions in heading `h` and back. -/
def join (i : Nat) (h : Heading) (j : Nat) : StoreCall K Unit := do
  detach i h j
  detach j h.opposite i
  Call.update fun s => (s.setLink i h (.leadsTo j)).setLink j h.opposite (.leadsTo i)

/-- Links two waypoints. The heading is looked at before the ids. -/
def connect (a : Json) (heading : Checked Heading) (b : Json) : StoreCall K Unit := do
  let h ← Call.check heading
  let i ← Call.ask (·.resolve a)
  let j ← Call.ask (·.resolve b)
  join i h j

end Store

end WaypointMap
