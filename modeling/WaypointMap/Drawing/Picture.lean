import WaypointMap.Drawing
import WaypointMap.Text.Case

/-!
# Picture files

The name of a picture file decides its format. A name without an extension gets one.
-/

namespace WaypointMap

namespace Picture

/-- The formats that pictures can have. -/
def formats : List String :=
  ["avif", "eps", "gif", "jpeg", "jpg", "pdf", "pgf", "png", "ps", "raw", "rgba", "svg", "svgz",
    "tif", "tiff", "webp"]

/-- The format of a picture whose name does not tell. -/
def defaultFormat : Text := .ofString "png"

/-- The program that would have to measure the texts of a format, if it needs one. None is at
hand. -/
def typesetter? (format : Text) : Option Text :=
  if format = .ofString "pgf" then some (.ofString "xelatex") else none

/-- What follows the last dot in the last part of a path, leading dots apart. -/
def extension (name : Text) : Text :=
  let last := (name.reverse.takeWhile (· != .char '/')).reverse
  let stem := last.dropWhile (· == .char '.')
  if stem.contains (.char '.') then (stem.reverse.takeWhile (· != .char '.')).reverse else []

/-- A name without the dots at its end. -/
def withoutTrailingDots (name : Text) : Text :=
  (name.reverse.dropWhile (· == .char '.')).reverse

def file (name : Text) : Checked Text :=
  match extension name with
  | [] => .ok (withoutTrailingDots name ++ .char '.' :: defaultFormat)
  | given =>
    let format := Text.lower given
    if formats.any (format == Text.ofString ·) then
      match typesetter? format with
      | some program => .error (.noTypesetter program)
      | none => .ok name
    else .error (.unknownFormat format formats)

end Picture

end WaypointMap
