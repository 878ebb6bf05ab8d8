/-!
# JSON documents

A document keeps what a reader of it may want to tell apart.  A number remembers
whether it was written as a whole number that fits in 64 bits.  An object keeps
its fields in order, and a name given twice is there twice.
-/

namespace ImplicitScene.Json

/-- A number of a document. -/
inductive Number where
  /-- A whole number from 0 to `2^64 - 1`, without sign, point and exponent. -/
  | natural (n : UInt64)
  /-- The whole number `-n`, from `-2^63` to -1, without point and exponent. -/
  | negative (n : UInt64)
  /-- Any other number. -/
  | float (x : Float)
  deriving Repr

namespace Number

/-- The nearest 64-bit float. -/
def toFloat : Number → Float
  | natural n => n.toFloat
  | negative n => -n.toFloat
  | float x => x

/-- The nearest 32-bit float.  Whole numbers are rounded once, others by way of 64 bits. -/
def toFloat32 : Number → Float32
  | natural n => n.toFloat32
  | negative n => -n.toFloat32
  | float x => x.toFloat32

end Number

end ImplicitScene.Json

namespace ImplicitScene

/-- A JSON document. -/
inductive Json where
  /-- The literal `null`. -/
  | null
  /-- A truth value. -/
  | bool (b : Bool)
  /-- A number. -/
  | number (n : Json.Number)
  /-- A string. -/
  | string (s : String)
  /-- An array. -/
  | array (items : List Json)
  /-- An object, fields in order. -/
  | object (fields : List (String × Json))
  deriving Repr, Inhabited

end ImplicitScene
