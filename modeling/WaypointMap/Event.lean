import WaypointMap.Waypoint

/-!
# Events

What a map reports about its own work: events are data, with a level and a wording.
-/

namespace WaypointMap

/-- How much an event matters, from least to most. -/
inductive Level where
  | debug | info | warning | error
  deriving DecidableEq

namespace Level

def all : List Level := [debug, info, warning, error]

def rank : Level → Nat
  | debug => 0
  | info => 1
  | warning => 2
  | error => 3

def name : Level → String
  | debug => "DEBUG"
  | info => "INFO"
  | warning => "WARNING"
  | error => "ERROR"

end Level

/-- Something that happened to a map. -/
inductive Event (K : Type) where
  /-- A report of a known waypoint. -/
  | visited (id : Nat)
  /-- A report of a known object. -/
  | sighted (id : Nat)
  | createdFirst (id : Nat) (x y : K)
  | created (id : Nat) (x y : K) (heading : Heading) (origin : Nat)
  | createdObject (id : Nat) (x y : K)
  /-- A waypoint gives up its link in a heading, and the former partner's link back is
  blocked. -/
  | replaced (id : Nat) (heading : Heading) (former : Nat)
  deriving DecidableEq

namespace Event

def level {K : Type} : Event K → Level
  | visited .. | sighted .. => .info
  | createdFirst .. | created .. | createdObject .. => .debug
  | replaced .. => .warning

/-- A point with three places for each coordinate. -/
def pointText (x y : Float) : String := s!"({fixedText 3 x}, {fixedText 3 y})"

def message : Event Float → String
  | visited id => s!"On waypoint {id}"
  | sighted id => s!"On object waypoint {id}"
  | createdFirst id x y => s!"Created first waypoint {id} at {pointText x y}"
  | created id x y heading origin =>
    s!"Created waypoint {id} at {pointText x y}, {heading.word} of {origin}"
  | createdObject id x y => s!"Created object waypoint {id} at {pointText x y}"
  | replaced id heading former =>
    s!"Waypoint {id}: replacing {heading.word} link to {former}, " ++
      s!"marking {former} {heading.opposite.word} blocked"

def line (e : Event Float) : String := e.level.name ++ " " ++ e.message

end Event

end WaypointMap
