import WaypointMap.Store

/-!
# Search

Labels spread from a start over the links, first in first out. Every waypoint hands its
label on once, when it first leaves the queue; its own label may still improve afterwards.
A step costs the squared distance of its ends. The search ends because every round takes an
entry off the queue, and the queue grows only in the rounds that expand a waypoint for the
first time.
-/

namespace WaypointMap

/-- The state of a search. Everything is indexed by waypoint. -/
structure Search (K : Type) where
  /-- The cost of the best way found so far; none where no way was found. -/
  labels : Array (Option K)
  /-- The waypoint before the last on that way. -/
  predecessors : Array (Option Nat)
  /-- Whether a waypoint has handed its label on. -/
  expanded : Array Bool
  queue : List Nat

namespace Search

variable {K : Type} [Scalar K]

/-- Before the first round: the start has cost zero and waits. -/
def start (count i : Nat) : Search K :=
  { labels := (Array.replicate count none).setIfInBounds i (some 0.0)
    predecessors := Array.replicate count none
    expanded := Array.replicate count false
    queue := [i] }

def label (st : Search K) (i : Nat) : Option K := st.labels.getD i none

def predecessor (st : Search K) (i : Nat) : Option Nat := st.predecessors.getD i none

/-- Whether a cost is an improvement of a label. An infinite cost improves nothing. -/
def improves (cost : K) : Option K → Bool
  | none => Scalar.isFinite cost
  | some old => cost < old

/-- Sets the label of `j` from its predecessor `i`, and queues `j`. -/
def improve (st : Search K) (i j : Nat) (cost : K) : Search K :=
  { st with
    labels := st.labels.setIfInBounds j (some cost)
    predecessors := st.predecessors.setIfInBounds j (some i)
    queue := st.queue ++ [j] }

/-- Offers the label of `i` to its neighbor `j`. -/
def offer (s : Store K) (i : Nat) (st : Search K) (j : Nat) : Checked (Search K) := do
  let w ← s.fetch i
  let v ← s.fetch j
  let step ← w.squaredStep v
  match st.label i with
  | none => return st
  | some cost =>
    if improves (cost + step) (st.label j) then return st.improve i j (cost + step)
    else return st

/-- Offers the label of `i` to some neighbors, one after the other. -/
def offerAll (s : Store K) (i : Nat) (st : Search K) : List Nat → Checked (Search K)
  | [] => .ok st
  | j :: rest =>
    match offer s i st j with
    | .error e => .error e
    | .ok st => offerAll s i st rest

def neighborsAt (s : Store K) (i : Nat) : List Nat :=
  (s.waypoints[i]?.map (·.neighbors)).getD []

def expand (s : Store K) (i : Nat) (st : Search K) : Checked (Search K) :=
  offerAll s i { st with expanded := st.expanded.setIfInBounds i true } (neighborsAt s i)

/-- Whether a waypoint still has to hand its label on. -/
def isFresh (st : Search K) (i : Nat) : Bool := st.expanded[i]? == some false

/-- One round: the head of the queue leaves, and is expanded if it is fresh. -/
def round (s : Store K) (i : Nat) (rest : List Nat) (st : Search K) : Checked (Search K) :=
  let st := { st with queue := rest }
  if st.isFresh i then expand s i st else .ok st

def freshCount (st : Search K) : Nat := st.expanded.count false

omit [Scalar K] in
theorem freshCount_setExpanded_lt (st : Search K) {i : Nat} (h : st.isFresh i = true) :
    (st.expanded.setIfInBounds i true).count false < st.freshCount := by
  obtain ⟨hi, hv⟩ : ∃ hi : i < st.expanded.size, st.expanded[i] = false := by
    simpa [isFresh, Array.getElem?_eq_some_iff] using h
  have hmem : false ∈ st.expanded := hv ▸ Array.getElem_mem hi
  have hpos : 0 < st.expanded.count false := Array.count_pos_iff.2 hmem
  simp only [Array.setIfInBounds, hi, dite_true, freshCount, Array.count_set, hv]
  simp only [beq_self_eq_true, if_true]
  simp
  omega

theorem expanded_offer {s : Store K} {i j : Nat} {st st' : Search K}
    (h : offer s i st j = .ok st') : st'.expanded = st.expanded := by
  simp only [offer, bind, Except.bind] at h
  split at h
  · cases h
  · split at h
    · cases h
    · split at h
      · cases h
      · split at h
        · cases h; rfl
        · split at h <;> cases h <;> rfl

theorem expanded_offerAll {s : Store K} {i : Nat} {js : List Nat} {st st' : Search K}
    (h : offerAll s i st js = .ok st') : st'.expanded = st.expanded := by
  induction js generalizing st with
  | nil => cases h; rfl
  | cons j js ih =>
    simp only [offerAll] at h
    split at h
    · cases h
    · next st₁ h₁ => rw [ih h, expanded_offer h₁]

/-- A round leaves fewer fresh waypoints, or as many and a shorter queue. -/
theorem round_decreases {s : Store K} {i : Nat} {rest : List Nat} {st st' : Search K}
    (h : round s i rest st = .ok st') :
    st'.freshCount < st.freshCount ∨ st'.freshCount = st.freshCount ∧ st'.queue = rest := by
  simp only [round] at h
  split at h
  · next fresh =>
    left
    rw [freshCount, expanded_offerAll h]
    exact freshCount_setExpanded_lt { st with queue := rest } fresh
  · cases h; exact .inr ⟨rfl, rfl⟩

/-- The order in which rounds decrease a search: by fresh waypoints, then by the queue. -/
theorem round_smaller {s : Store K} {i : Nat} {rest : List Nat} {st st' : Search K}
    (waiting : st.queue = i :: rest) (h : round s i rest st = .ok st') :
    Prod.Lex (· < ·) (· < ·) (st'.freshCount, st'.queue.length)
      (st.freshCount, st.queue.length) := by
  rcases round_decreases h with lt | ⟨eq, queue⟩
  · exact Prod.Lex.left _ _ lt
  · rw [eq, queue, waiting]; exact Prod.Lex.right _ (by simp)

/-- Rounds until the queue is empty. -/
def run (s : Store K) (st : Search K) : Checked (Search K) :=
  match waiting : st.queue with
  | [] => .ok st
  | i :: rest =>
    match h : round s i rest st with
    | .error e => .error e
    | .ok st' =>
      have := round_smaller waiting h
      run s st'
termination_by (st.freshCount, st.queue.length)
decreasing_by exact this

end Search

namespace Store

variable {K : Type} [Scalar K]

/-- The labels and predecessors of a search from a waypoint. -/
def spread (s : Store K) (source : Json) : Checked (Search K) := do
  let i ← s.resolve source
  Search.run s (.start s.size i)

end Store

end WaypointMap
