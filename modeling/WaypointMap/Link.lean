import WaypointMap.Json.Display

/-!
# Links

What a waypoint knows about one heading. On the wire a link is an integer: an id, or a
negative number for a state.
-/

namespace WaypointMap

/-- What lies in one heading of a waypoint. -/
inductive Link where
  /-- Not explored. -/
  | unknown
  /-- Explored, and there is no way. -/
  | blocked
  /-- A way to the waypoint with an id. -/
  | leadsTo (id : Nat)
  /-- A state without meaning: one of the integers below -2, counted down from -3. -/
  | unassigned (n : Nat)
  deriving DecidableEq

namespace Link

def unknownCode : Int := -1

def blockedCode : Int := -2

def code : Link → Int
  | unknown => unknownCode
  | blocked => blockedCode
  | leadsTo id => id
  | unassigned n => -3 - n

def ofCode : Int → Link
  | .ofNat id => leadsTo id
  | .negSucc 0 => unknown
  | .negSucc 1 => blocked
  | .negSucc (n + 2) => unassigned n

theorem ofCode_code (l : Link) : ofCode l.code = l := by
  cases l with
  | unknown => rfl
  | blocked => rfl
  | leadsTo id => rfl
  | unassigned n =>
    have : (-3 - (n : Int)) = .negSucc (n + 2) := by omega
    simp only [code, this, ofCode]

/-- The link of a new waypoint in a heading that is reported as blocked, or not. -/
def ofFlag : Bool → Link
  | true => blocked
  | false => unknown

def target? : Link → Option Nat
  | leadsTo id => some id
  | _ => none

/-- What people read for the integer of a link: a word for the two states, else the value. -/
def labelOf (v : Json) : Text :=
  if v.equalsInt unknownCode then .ofString "unknown"
  else if v.equalsInt blockedCode then .ofString "blocked"
  else v.plainText

def label (l : Link) : Text := labelOf (.int l.code)

end Link

end WaypointMap
