import WaypointMap.Console.Width

/-!
# Clusters

The code points of a text that a console does not part: a sign with its marks, and signs that
are joined.
-/

namespace WaypointMap

/-- Some code points that show as one sign, and the cells it takes. -/
structure Cluster where
  points : Text
  cells : Nat

namespace Cluster

/-- The clusters of a text, after others that are given last first; `last` is the last code
point before it that takes any cells, as long as it was not asked to be in colour. -/
def gather (done : List Cluster) (last : Option CodePoint) (t : Text) : List Cluster :=
  match t with
  | [] => done.reverse
  | c :: rest =>
    let measured := if c.cells = 0 then last else some c
    match done with
    | [] => gather [⟨[c], c.cells⟩] measured rest
    | top :: below =>
      if c = .joiner then
        gather (⟨top.points ++ c :: rest.take 1, top.cells⟩ :: below) last (rest.drop 1)
      else if c = .emojiSelector then
        let more := if (last.map (·.isWidened)).getD false then 1 else 0
        gather (⟨top.points ++ [c], top.cells + more⟩ :: below) none rest
      else if c.cells = 0 then gather (⟨top.points ++ [c], top.cells⟩ :: below) last rest
      else gather (⟨[c], c.cells⟩ :: done) measured rest
termination_by t.length
decreasing_by all_goals simp only [List.length_drop, List.length_cons]; omega

def ofText (t : Text) : List Cluster := gather [] none t

end Cluster

end WaypointMap
