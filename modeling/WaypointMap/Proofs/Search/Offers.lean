import WaypointMap.Proofs.Search.Step

/-!
# The first least offer

Several waypoints, in some order, offer a cost to one. The best offer is the least, and of
equal ones the first. When the last in the order makes its offer, it is the best if it is less
than the best so far; otherwise the best offer stays what it was.
-/

namespace WaypointMap

variable {K : Type} [Scalar K]

/-- Whether `p` is the first of those that made an offer of least cost, in some order. -/
def IsFirstLeast (order : List Nat) (made : Nat → Prop) (cost : Nat → K) (p : Nat) : Prop :=
  ∃ before after, order = before ++ p :: after ∧ made p ∧
    (∀ q ∈ before, made q → cost p < cost q) ∧ ∀ q ∈ after, made q → ¬ cost q < cost p

/-- Whether of all waypoints in an order that are linked to `o`, `p` is the first that offers
the least cost; `e` is what each of them adds the cost of its step to. -/
def Store.IsBestOffer (s : Store K) (e : Nat → K) (order : List Nat) (o p : Nat) : Prop :=
  IsFirstLeast order (s.Linked · o) (fun q => e q + s.stepCost q o) p

namespace IsFirstLeast

variable {order front : List Nat} {made made' : Nat → Prop} {cost cost' : Nat → K} {i p : Nat}

theorem mem (h : IsFirstLeast order made cost p) : p ∈ order := by
  obtain ⟨before, after, rfl, -⟩ := h
  exact List.mem_append_right _ (List.mem_cons_self ..)

theorem congr (h : IsFirstLeast order made cost p)
    (same : ∀ q ∈ order, (made' q ↔ made q) ∧ cost' q = cost q) :
    IsFirstLeast order made' cost' p := by
  have here := same p h.mem
  obtain ⟨before, after, rfl, hp, more, least⟩ := h
  refine ⟨before, after, rfl, here.1.2 hp, fun q hq hm => ?_, fun q hq hm => ?_⟩
  · have there := same q (List.mem_append_left _ hq)
    rw [here.2, there.2]
    exact more q hq (there.1.1 hm)
  · have there := same q (List.mem_append_right _ (List.mem_cons_of_mem _ hq))
    rw [here.2, there.2]
    exact least q hq (there.1.1 hm)

theorem concat (h : IsFirstLeast order made cost p) (silent : ¬ made i) :
    IsFirstLeast (order ++ [i]) made cost p := by
  obtain ⟨before, after, rfl, hp, more, least⟩ := h
  refine ⟨before, after ++ [i], by simp, hp, more, fun q hq hm => ?_⟩
  rcases List.mem_append.1 hq with hq | hq
  · exact least q hq hm
  · obtain rfl := List.mem_singleton.1 hq
    exact absurd hm silent

theorem keep (h : IsFirstLeast (front ++ [i]) made cost p) (fresh : i ∉ front)
    (same : ∀ q, made' q ↔ made q ∨ q = i) (no_better : ¬ cost i < cost p) :
    IsFirstLeast (front ++ [i]) made' cost p := by
  have earlier : ∀ q ∈ front, made' q → made q := by
    intro q hq hm
    refine ((same q).1 hm).resolve_right ?_
    rintro rfl
    exact fresh hq
  obtain ⟨before, after, split, hp, more, least⟩ := h
  rcases List.eq_nil_or_concat after with rfl | ⟨after, x, rfl⟩
  · obtain ⟨rfl, last⟩ := List.append_inj' split rfl
    refine ⟨front, [], split, (same p).2 (.inl hp), fun q hq hm => more q hq (earlier q hq hm), ?_⟩
    intro q hq
    cases hq
  · rw [List.concat_eq_append, ← List.cons_append, ← List.append_assoc] at split
    obtain ⟨rfl, last⟩ := List.append_inj' split rfl
    cases last
    refine ⟨before, after ++ [i], by simp, (same p).2 (.inl hp), fun q hq hm => ?_, ?_⟩
    · exact more q hq (earlier q (List.mem_append_left _ hq) hm)
    · intro q hq hm
      rcases List.mem_append.1 hq with hq' | hq'
      · refine least q ?_ (earlier q (by simp [hq']) hm)
        rw [List.concat_eq_append]
        exact hq
      · obtain rfl := List.mem_singleton.1 hq'
        exact no_better

theorem last (first : made' i) (more : ∀ q ∈ front, made' q → cost i < cost q) :
    IsFirstLeast (front ++ [i]) made' cost i := by
  refine ⟨front, [], rfl, first, more, ?_⟩
  intro q hq
  cases hq

variable [LawfulScalar K]

theorem not_lt (h : IsFirstLeast order made cost p) {q : Nat} (hq : q ∈ order) (hm : made q) :
    ¬ cost q < cost p := by
  obtain ⟨before, after, rfl, hp, more, least⟩ := h
  rcases List.mem_append.1 hq with hq | hq
  · exact LawfulScalar.lt_asymm (more q hq hm)
  rcases List.mem_cons.1 hq with rfl | hq
  · exact fun lt => LawfulScalar.lt_asymm lt lt
  · exact least q hq hm

theorem improve (h : IsFirstLeast (front ++ [i]) made cost p) (fresh : i ∉ front)
    (same : ∀ q, made' q ↔ made q ∨ q = i)
    (numbers : ∀ q, made q → Scalar.isNaN (cost q) = false) (better : cost i < cost p) :
    IsFirstLeast (front ++ [i]) made' cost i := by
  refine last ((same i).2 (.inr rfl)) fun q hq hm => ?_
  have hm : made q := by
    refine ((same q).1 hm).resolve_right ?_
    rintro rfl
    exact fresh hq
  rcases LawfulScalar.lt_or_lt better (numbers q hm) with above | below
  · exact above
  · exact absurd below (h.not_lt (List.mem_append_left _ hq) hm)

end IsFirstLeast

end WaypointMap
