import ImplicitScene.Vector

/-!
# Pictures

A picture has three bytes for every pixel, row by row from the top.  It is made
from what was gathered: the average over the bounces, corrected for the display.
A pixel that gathered nothing is black.
-/

namespace ImplicitScene

/-- A colour. -/
structure Pixel where
  /-- Red. -/
  red : UInt8
  /-- Green. -/
  green : UInt8
  /-- Blue. -/
  blue : UInt8
  deriving Repr, DecidableEq

namespace Pixel

/-- No light. -/
def black : Pixel := ⟨0, 0, 0⟩

/-- A number from 0 to 1 as a byte. -/
def byte (c : Float32) : UInt8 := (clampUnit c * 255.0).round.toUInt8

/-- The colour of what a pixel gathered. -/
def ofGathered (gamma : Float32) (gathered : Float4) : Pixel :=
  if gathered.w ≤ 0.0 then black
  else
    let average := gathered.truncate / gathered.w
    let corrected := average.map fun c => (Scalar.max c 0.0).pow (1.0 / gamma)
    ⟨byte corrected.x, byte corrected.y, byte corrected.z⟩

end Pixel

/-- A picture. -/
structure Image where
  /-- Pixels in a row. -/
  width : Nat
  /-- Rows. -/
  height : Nat
  /-- The pixels, row by row from the top. -/
  pixels : List Pixel
  deriving Repr, DecidableEq

namespace Image

/-- The bytes of all pixels. -/
def bytes (image : Image) : List UInt8 :=
  image.pixels.flatMap fun p => [p.red, p.green, p.blue]

/-- The picture of what was gathered.  Pixels that are missing are black. -/
def present (gathered : Array Float4) (width height : Nat) (gamma : Float32) : Image :=
  { width, height
    pixels := (List.range (width * height)).map fun place =>
      Pixel.ofGathered gamma (gathered.getD place .zero) }

end Image

end ImplicitScene
