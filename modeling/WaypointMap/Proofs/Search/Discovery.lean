import Mathlib.Data.List.Nodup
import WaypointMap.Proofs.Search.Step

/-!
# The order of discovery

Breadth-first discovery by links alone: the waypoints that are known, in the order in which
they were first seen, show their neighbors one after the other. Coordinates take no part in
it.
-/

namespace WaypointMap

/-- The known waypoints after some more were seen; what is new comes last. -/
def discover (known : List Nat) : List Nat → List Nat
  | [] => known
  | j :: js => discover (if j ∈ known then known else known ++ [j]) js

/-- The known waypoints after the first `k` of them have shown their neighbors. -/
def discovered (next : Nat → List Nat) (start : Nat) : Nat → List Nat
  | 0 => [start]
  | k + 1 =>
    let known := discovered next start k
    match known[k]? with
    | some i => discover known (next i)
    | none => known

/-- The waypoints that are discovered from a start, in order. -/
def Store.discovery {K : Type} (s : Store K) (start : Nat) : List Nat :=
  discovered (Search.neighborsAt s) start s.size

theorem prefix_discover (known js : List Nat) : known <+: discover known js := by
  induction js generalizing known with
  | nil => exact List.prefix_rfl
  | cons j js ih =>
    rw [discover]
    split
    · exact ih known
    · exact (List.prefix_append known [j]).trans (ih _)

/-- Once all known waypoints have shown their neighbors, there is nothing to discover. -/
theorem discovered_of_le {next : Nat → List Nat} {start k m : Nat}
    (all : (discovered next start k).length ≤ k) (hm : k ≤ m) :
    discovered next start m = discovered next start k := by
  induction m, hm using Nat.le_induction with
  | base => rfl
  | succ m hm ih =>
    have shown : (discovered next start k)[m]? = none := by
      rw [List.getElem?_eq_none_iff]
      omega
    rw [discovered]
    simp only [ih, shown]

theorem discovered_succ {next : Nat → List Nat} {start k i : Nat}
    (h : (discovered next start k)[k]? = some i) :
    discovered next start (k + 1) = discover (discovered next start k) (next i) := by
  rw [discovered]
  simp only [h]

/-! ## First parts of a list -/

theorem getElem?_eq_of_isPrefix {l l' : List Nat} (h : l <+: l') {k : Nat} (hk : k < l.length) :
    l'[k]? = l[k]? := by
  rw [List.prefix_iff_getElem?.1 h k hk, List.getElem?_eq_getElem hk]

theorem getElem?_of_isPrefix {l l' : List Nat} (h : l <+: l') {k v : Nat} (hv : l[k]? = some v) :
    l'[k]? = some v :=
  (getElem?_eq_of_isPrefix h (List.getElem?_eq_some_iff.1 hv).1).trans hv

theorem mem_of_isPrefix {l l' : List Nat} (h : l <+: l') {k v : Nat} (hk : k < l.length)
    (hv : l'[k]? = some v) : v ∈ l :=
  List.mem_of_getElem? ((getElem?_eq_of_isPrefix h hk).symm.trans hv)

/-! ## Turns -/

section Discovered

variable {next : Nat → List Nat} {start bound k m i j v : Nat} {known js : List Nat}

theorem mem_seen_iff : v ∈ (if j ∈ known then known else known ++ [j]) ↔ v ∈ known ∨ v = j := by
  split
  next old =>
    constructor
    · exact .inl
    · rintro (hv | rfl)
      · exact hv
      · exact old
  next => rw [List.mem_append, List.mem_singleton]

theorem nodup_seen (nodup : known.Nodup) (j : Nat) :
    (if j ∈ known then known else known ++ [j]).Nodup := by
  split
  · exact nodup
  next new =>
    rw [← List.concat_eq_append]
    exact nodup.concat new

theorem mem_discover : v ∈ discover known js ↔ v ∈ known ∨ v ∈ js := by
  induction js generalizing known with
  | nil => simp [discover]
  | cons j js ih => rw [discover, ih, mem_seen_iff, List.mem_cons, or_assoc]

theorem nodup_discover (nodup : known.Nodup) : (discover known js).Nodup := by
  induction js generalizing known with
  | nil => exact nodup
  | cons j js ih => exact ih (nodup_seen nodup j)

theorem nodup_discovered (next : Nat → List Nat) (start k : Nat) :
    (discovered next start k).Nodup := by
  induction k with
  | zero => simp [discovered]
  | succ k ih =>
    rw [discovered]
    split
    · exact nodup_discover ih
    · exact ih

theorem prefix_discovered (hk : k ≤ m) : discovered next start k <+: discovered next start m := by
  induction m, hk using Nat.le_induction with
  | base => exact List.prefix_rfl
  | succ m hm ih =>
    refine ih.trans ?_
    rw [discovered]
    split
    · exact prefix_discover ..
    · exact List.prefix_rfl

/-- A waypoint is known in its turn to show its neighbors. -/
theorem getElem?_discovered (hk : k ≤ m) :
    (discovered next start k)[k]? = (discovered next start m)[k]? := by
  by_cases long : k < (discovered next start k).length
  · exact (getElem?_eq_of_isPrefix (prefix_discovered hk) long).symm
  · rw [discovered_of_le (Nat.le_of_not_lt long) hk]

/-- What is discovered was shown by a waypoint that had its turn. -/
theorem mem_discovered_iff (hk : k ≤ bound) :
    v ∈ discovered next start k ↔
      v = start ∨ ∃ m i, m < k ∧ (discovered next start bound)[m]? = some i ∧ v ∈ next i := by
  induction k with
  | zero => simp [discovered]
  | succ k ih =>
    have turn : (discovered next start k)[k]? = (discovered next start bound)[k]? :=
      getElem?_discovered (Nat.le_of_succ_le hk)
    have split : (∃ m i, m < k + 1 ∧ (discovered next start bound)[m]? = some i ∧ v ∈ next i) ↔
        (∃ m i, m < k ∧ (discovered next start bound)[m]? = some i ∧ v ∈ next i) ∨
          ∃ i, (discovered next start k)[k]? = some i ∧ v ∈ next i := by
      rw [turn]
      constructor
      · rintro ⟨m, i, hm, hi, hv⟩
        obtain lt | rfl := Nat.lt_succ_iff_lt_or_eq.1 hm
        · exact .inl ⟨m, i, lt, hi, hv⟩
        · exact .inr ⟨i, hi, hv⟩
      · rintro (⟨m, i, hm, hi, hv⟩ | ⟨i, hi, hv⟩)
        · exact ⟨m, i, Nat.lt_succ_of_lt hm, hi, hv⟩
        · exact ⟨k, i, Nat.lt_succ_self k, hi, hv⟩
    rw [split, ← or_assoc, ← ih (Nat.le_of_succ_le hk), discovered]
    cases (discovered next start k)[k]? with
    | none => simp
    | some i => simp [mem_discover]

end Discovered

/-! ## First occurrences -/

theorem eraseDups_concat_of_mem {l : List Nat} {j : Nat} (hj : j ∈ l) :
    (l ++ [j]).eraseDups = l.eraseDups := by
  rw [List.eraseDups_append]
  simp [List.removeAll, hj]

theorem eraseDups_concat_of_not_mem {l : List Nat} {j : Nat} (hj : j ∉ l) :
    (l ++ [j]).eraseDups = l.eraseDups ++ [j] := by
  rw [List.eraseDups_append]
  simp [List.removeAll, hj, List.eraseDups_cons]

end WaypointMap
