import WaypointMap.Drawing

/-!
# Axes

The axes of a picture and their ticks. An axis reaches a little beyond the points of the drawing,
the ratio of the sides is that of the lengths of the axes, and a side has as many ticks as there
is room for. Numbers near the end of the doubles have no such axes: a length, a middle or a tick
may be no double any more.
-/

namespace WaypointMap

/-- The ends of an axis. -/
structure Axis where
  low : Float
  high : Float

namespace Axis

/-- The axis from the least to the greatest of some numbers, or without ends if there are none. -/
def ofNumbers : List Float → Axis
  | [] => ⟨-1.0 / 0.0, 1.0 / 0.0⟩
  | x :: rest =>
    let least (a b : Float) : Float := if b < a then b else a
    let greatest (a b : Float) : Float := if a < b then b else a
    ⟨rest.foldl least x, rest.foldl greatest x⟩

def length (a : Axis) : Float := a.high - a.low

/-- The smallest positive double that is not subnormal. -/
def smallestNormal : Float := 2.2250738585072014e-308

/-- Moves ends that are too close to each other apart by a share of their distances from zero.
Ends that are no doubles, or both next to zero, are put around zero. -/
def spread (share precision : Float) (a : Axis) : Axis :=
  let far := if a.low.abs < a.high.abs then a.high.abs else a.low.abs
  if !(a.low.isFinite && a.high.isFinite) || far < 1e6 / precision * smallestNormal then
    ⟨-share, share⟩
  else if a.length ≤ far * precision then
    ⟨a.low - share * a.low.abs, a.high + share * a.high.abs⟩
  else a

/-- The share of its length by which an axis is longer at both ends. -/
def margin : Float := 0.05

/-- An axis with a margin at both ends, unless the margin is no double. -/
def widen (a : Axis) : Axis :=
  let space := a.length * margin
  if space.isFinite then ⟨a.low - space, a.high + space⟩ else a

def around (xs : List Float) : Axis :=
  ((ofNumbers xs).spread 0.05 1e-15).widen.spread 1e-12 1e-13

/-- The greatest power of ten that is not beyond a positive number. -/
def powerOfTen (x : Float) : Float := Float.pow 10.0 x.log10.floor

/-- How far ticks are counted from: zero, unless the axis is short for its distance from zero. -/
def origin (a : Axis) : Float :=
  let middle := (a.high + a.low) / 2.0
  if middle.abs / a.length < 100.0 then 0.0
  else if middle < 0.0 then -powerOfTen middle.abs else powerOfTen middle.abs

/-- The steps between ticks that come into question for a number of intervals: the first that is
long enough, and all shorter ones after it. -/
def steps (a : Axis) (intervals : Nat) : List Float :=
  let least := a.length / intervals.toFloat
  let all := [0.1, 0.2, 0.25, 0.5, 1.0, 2.0, 2.5, 5.0, 10.0, 20.0].map (· * powerOfTen least)
  let short := all.takeWhile (· < least)
  ((all.drop short.length).take 1) ++ short.reverse

/-- How much the place of a tick may miss an end to count as that end, in steps. -/
def tolerance (origin step : Float) : Float :=
  if origin == 0.0 then 1e-10
  else
    let t := Float.pow 10.0 ((origin.abs / step).log10 - 12.0)
    if t < 1e-10 then 1e-10 else if 0.4999 < t then 0.4999 else t

/-- The ticks at a distance of one step that cover an axis. -/
def ticksAt (a : Axis) (step : Float) : Except AxisFault (List Float) :=
  let origin := a.origin
  let low := a.low - origin
  let high := a.high - origin
  let first := (low / step).floor * step
  let before := (low - first) / step
  let after := (high - first) / step
  if !(before.isFinite && after.isFinite) then .error .noCount
  else
    let tolerance := tolerance origin step
    let start := if 1.0 - (before - before.floor) < tolerance then before.floor + 1.0
      else before.floor
    let stop := if after - after.floor < tolerance then after.floor else after.floor + 1.0
    let count := (stop - start).toUInt64.toNat + 1
    .ok ((List.range count).map fun i => (start + i.toFloat) * step + first + origin)

/-- The ticks with the first of some steps that puts two of them on the axis. -/
def firstTicks (a : Axis) : List Float → Except AxisFault (List Float)
  | [] => .ok []
  | step :: rest => do
    let ticks ← a.ticksAt step
    let shown := ticks.filter fun t => a.low ≤ t && t ≤ a.high
    if 2 ≤ shown.length || rest.isEmpty then return ticks
    a.firstTicks rest

/-- Why the ticks of an axis cannot be drawn in some intervals; none if they can. -/
def fault? (a : Axis) (intervals : Nat) : Option AxisFault :=
  if !(a.length.isFinite && (a.high + a.low).isFinite) then some .noCount
  else
    match a.firstTicks (a.steps intervals) with
    | .error fault => some fault
    | .ok ticks => if ticks.all (·.isFinite) then none else some .endless

end Axis

/-- The sides of a picture, in points. -/
structure Frame where
  width : Float
  height : Float

namespace Frame

/-- The room for the axes of a picture, of which a frame takes as much as its ratio allows. -/
def room : Frame := ⟨0.775 * 432.0, 0.77 * 432.0⟩

/-- The length that an axis has at least when sides are compared. -/
def leastLength : Float := 1e-30

/-- The frame for two axes, if its sides have a ratio. -/
def ofAxes (x y : Axis) : Except AxisFault Frame :=
  let length (a : Axis) : Float := if a.length < leastLength then leastLength else a.length
  let ratio := length y / length x
  if ratio ≤ 0.0 then .error .noRatio
  else
    let height := room.width * ratio
    if height ≤ room.height then .ok ⟨room.width, height⟩
    else .ok ⟨room.height / ratio, room.height⟩

/-- How many intervals between ticks a side has room for: one to nine, each of some points. -/
def intervals (side least : Float) : Except AxisFault Nat :=
  let count := (side / least).floor
  if count.isNaN then .error .noRoom else .ok (min 9 (max 1 count.toUInt64.toNat))

end Frame

def Stroke.markerPoint? {K : Type} : Stroke K → Option (K × K)
  | marker p _ => some p
  | _ => none

/-- Checks the frame and the ticks of two axes. -/
def Frame.check (x y : Axis) : Except AxisFault Unit := do
  let frame ← Frame.ofAxes x y
  if let some fault := x.fault? (← intervals frame.width 30.0) then throw fault
  if let some fault := y.fault? (← intervals frame.height 20.0) then throw fault

/-- Why the axes of a drawing cannot be drawn; none if they can. Points without two finite
coordinates do not count. -/
def AxisFault.ofStrokes? (strokes : List (Stroke Float)) : Option AxisFault :=
  let points := (strokes.filterMap (·.markerPoint?)).filter fun p => p.1.isFinite && p.2.isFinite
  match Frame.check (.around (points.map Prod.fst)) (.around (points.map Prod.snd)) with
  | .error fault => some fault
  | .ok _ => none

end WaypointMap
