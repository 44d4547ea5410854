import WaypointMap.Proofs.Distance
import WaypointMap.Proofs.Search.Passage

/-!
# Walks and what they cost

A walk follows links and may come back to where it was; a path is a walk that does not. What a
walk costs is the sum of its steps from the first one on, rounded after each addition where the
numbers are. Costs are numbers that are not below zero, and adding a cost keeps the order.
-/

namespace WaypointMap

variable {K : Type}

/-! ## Costs in order -/

namespace Scalar

variable [Scalar K] {a b c : K}

/-- Whether two numbers are in order, or equal. -/
def AtMost (a b : K) : Prop := isNaN a = false ∧ isNaN b = false ∧ ¬ b < a

instance (a b : K) : Decidable (AtMost a b) :=
  inferInstanceAs (Decidable (_ ∧ _ ∧ _))

/-- Whether something is a number that is not below zero. -/
def IsCost (a : K) : Prop := isNaN a = false ∧ ¬ a < 0.0

section Lawful

variable [LawfulScalar K]

theorem AtMost.refl (number : isNaN a = false) : AtMost a a :=
  ⟨number, number, fun lt => LawfulScalar.lt_asymm lt lt⟩

theorem AtMost.of_lt (h : a < b) : AtMost a b :=
  ⟨(LawfulScalar.isNaN_of_lt h).1, (LawfulScalar.isNaN_of_lt h).2, LawfulScalar.lt_asymm h⟩

theorem AtMost.trans (h : AtMost a b) (h' : AtMost b c) : AtMost a c :=
  ⟨h.1, h'.2.1, LawfulScalar.not_lt_trans h.2.1 h.2.2 h'.2.2⟩

theorem IsCost.of_atMost (ha : IsCost a) (h : AtMost a b) : IsCost b :=
  ⟨h.2.1, LawfulScalar.not_lt_trans h.1 ha.2 h.2.2⟩

theorem isCost_zero : IsCost (0.0 : K) :=
  ⟨LawfulScalar.isNaN_of_isFinite LawfulScalar.isFinite_zero, fun lt => LawfulScalar.lt_asymm lt lt⟩

end Lawful

variable [LawfulDistance K]

theorem IsCost.atMost_add (ha : IsCost a) (hb : IsCost b) : AtMost a (a + b) :=
  ⟨ha.1, LawfulDistance.isNaN_add ha.1 hb.1 ha.2 hb.2, LawfulScalar.not_add_lt hb.2⟩

theorem IsCost.add (ha : IsCost a) (hb : IsCost b) : IsCost (a + b) :=
  ha.of_atMost (ha.atMost_add hb)

theorem AtMost.add_right (h : AtMost a b) (ha : IsCost a) (hc : IsCost c) :
    AtMost (a + c) (b + c) :=
  ⟨(ha.add hc).1, ((ha.of_atMost h).add hc).1, LawfulScalar.not_add_lt_add c h.2.2⟩

end Scalar

/-! ## Ways -/

/-- Whether a list leads from one number to another, each related to the next. -/
structure Leads (r : Nat → Nat → Prop) (source target : Nat) (way : List Nat) : Prop where
  head : way.head? = some source
  last : way.getLast? = some target
  chain : way.IsChain r

namespace Leads

variable {r : Nat → Nat → Prop} {source target i j : Nat} {way : List Nat}

theorem single (r : Nat → Nat → Prop) (source : Nat) : Leads r source source [source] :=
  ⟨rfl, rfl, .singleton source⟩

theorem concat (h : Leads r source i way) (step : r i j) : Leads r source j (way ++ [j]) where
  head := by
    rw [List.head?_append, h.head]
    rfl
  last := List.getLast?_concat ..
  chain := by
    rw [List.isChain_append]
    refine ⟨h.chain, .singleton j, ?_⟩
    intro k hk k' hk'
    cases h.last.symm.trans hk
    cases hk'
    exact step

/-- A way is its source alone, or a way with one more step. -/
theorem cases_last (h : Leads r source target way) :
    target = source ∧ way = [source] ∨
      ∃ i before, Leads r source i before ∧ r i target ∧ way = before ++ [target] := by
  rcases List.eq_nil_or_concat way with rfl | ⟨before, j, rfl⟩
  · cases h.head
  rw [List.concat_eq_append] at h ⊢
  obtain rfl : j = target := by
    have last := h.last
    rw [List.getLast?_concat] at last
    exact Option.some.inj last
  cases hi : before.getLast? with
  | none =>
    obtain rfl := List.getLast?_eq_none_iff.1 hi
    cases h.head
    exact .inl ⟨rfl, rfl⟩
  | some i =>
    have head : before.head? = some source := by
      have head := h.head
      cases before with
      | nil => cases hi
      | cons a l => exact head
    have chain := List.isChain_append.1 h.chain
    exact .inr ⟨i, before, ⟨head, hi, chain.1⟩, chain.2.2 i hi j rfl, rfl⟩

/-- Induction along a way, from its source. -/
theorem induction {P : Nat → List Nat → Prop} (h : Leads r source target way)
    (first : P source [source])
    (next : ∀ i j way, Leads r source i way → r i j → P i way → P j (way ++ [j])) :
    P target way := by
  induction hn : way.length generalizing target way with
  | zero =>
    rw [List.length_eq_zero_iff.1 hn] at h
    cases h.head
  | succ n ih =>
    rcases h.cases_last with ⟨rfl, rfl⟩ | ⟨i, before, hb, step, rfl⟩
    · exact first
    · rw [List.length_append, List.length_singleton] at hn
      exact next i target before hb step (ih hb (by omega))

/-- The ends of a way are related as its neighbors are. -/
theorem reaches (h : Leads r source target way) : Relation.ReflTransGen r source target := by
  refine h.induction (P := fun i _ => Relation.ReflTransGen r source i) .refl ?_
  intro i j way _ step reached
  exact reached.tail step

end Leads

namespace Store

variable {s : Store K} {source target i j : Nat} {walk : List Nat}

/-- Whether waypoints follow one another along links, from one to another. -/
abbrev IsWalk (s : Store K) : Nat → Nat → List Nat → Prop := Leads s.Linked

theorem IsPath.isWalk (h : s.IsPath source target walk) : s.IsWalk source target walk :=
  ⟨h.head, h.last, h.linked⟩

theorem IsWalk.reaches (h : s.IsWalk source target walk) : s.Reaches source target :=
  Leads.reaches h

/-- The path that is read back leads along predecessors. -/
theorem IsPath.leads {st : Search K} {bound : Nat} (h : s.IsPath source target walk)
    (way : st.wayTo? source bound target [] = some walk) :
    Leads st.Precedes source target walk :=
  ⟨h.head, h.last, Search.isChain_of_wayTo? way⟩

theorem exists_isWalk (h : s.Reaches source target) : ∃ walk, s.IsWalk source target walk := by
  induction h with
  | refl => exact ⟨[source], .single _ source⟩
  | tail _ linked ih =>
    obtain ⟨walk, isWalk⟩ := ih
    exact ⟨_, isWalk.concat linked⟩

variable [Scalar K]

/-- The cost so far, and then that of each step in turn. -/
def costFrom (s : Store K) (cost : K) : List Nat → K
  | i :: j :: rest => costFrom s (cost + s.stepCost i j) (j :: rest)
  | _ => cost

/-- What a walk costs: its steps are added from the first one on. -/
def walkCost (s : Store K) (walk : List Nat) : K := s.costFrom 0.0 walk

theorem costFrom_concat (s : Store K) (hi : walk.getLast? = some i) (j : Nat) (cost : K) :
    s.costFrom cost (walk ++ [j]) = s.costFrom cost walk + s.stepCost i j := by
  induction walk generalizing cost with
  | nil => cases hi
  | cons a rest ih =>
    cases rest with
    | nil =>
      cases hi
      rfl
    | cons b rest => exact ih (by rwa [List.getLast?_cons_cons] at hi) _

theorem walkCost_concat {r : Nat → Nat → Prop} (s : Store K) (h : Leads r source i walk) (j : Nat) :
    s.walkCost (walk ++ [j]) = s.walkCost walk + s.stepCost i j :=
  s.costFrom_concat h.last j 0.0

end Store

end WaypointMap
