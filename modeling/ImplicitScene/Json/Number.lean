import ImplicitScene.Json.Basic

/-!
# Reading numbers

A number is read as a whole significand and a power of ten.  The significand
takes digits while it fits in 64 bits.  Whole digits that come after that count
as powers of ten, and digits of the fraction that do not fit are dropped.

A number with a point, with an exponent or with more digits than fit is a 64-bit
float: the significand times or divided by a power of ten, rounded after each
step.  A number too large for that is refused, and one too small is zero.
-/

namespace ImplicitScene.Json

/-- The part of a number read so far, `significand · 10^exponent`. -/
structure Scaled where
  /-- The digits taken. -/
  significand : Nat := 0
  /-- The power of ten of the last digit taken. -/
  exponent : Int := 0

namespace Scaled

/-- Whether one more digit fits in 64 bits. -/
def fits (significand digit : Nat) : Bool := significand * 10 + digit < 0x10000000000000000

/-- Take the digits before the point.  After the first that does not fit, all are powers of ten. -/
def takeWhole (s : Scaled) : List Nat → Scaled
  | [] => s
  | d :: ds =>
      if fits s.significand d then
        takeWhole { s with significand := s.significand * 10 + d } ds
      else { s with exponent := s.exponent + (ds.length + 1) }

/-- Take the digits after the point, up to the first that does not fit. -/
def takeFraction (s : Scaled) : List Nat → Scaled
  | [] => s
  | d :: ds =>
      if fits s.significand d then
        takeFraction ⟨s.significand * 10 + d, s.exponent - 1⟩ ds
      else s

/-- The 64-bit float nearest to `10^e`. -/
def powerOfTen (e : Nat) : Float := Float.ofScientific 1 false e

/-- A float divided by `10^e`, by at most `10^308` at a time.  No number of 64 bits is left after
three rounds. -/
def divide : (rounds : Nat) → Float → (e : Nat) → Float
  | 0, f, _ => f
  | rounds + 1, f, e =>
      if e ≤ 308 then f / powerOfTen e else divide rounds (f / powerOfTen 308) (e - 308)

/-- The number as a 64-bit float, unless it is too large. -/
def toFloat? (s : Scaled) : Option Float :=
  let f := s.significand.toUInt64.toFloat
  if s.significand = 0 then some f
  else if s.exponent < 0 then some (divide 3 f (-s.exponent).toNat)
  else if 308 < s.exponent then none
  else
    let product := f * powerOfTen s.exponent.toNat
    if product.isInf then none else some product

end Scaled

/-! ## Text of numbers -/

/-- The digits at the start of a text, and what follows. -/
def digits (cs : List Char) : List Nat × List Char :=
  ((cs.takeWhile Char.isDigit).map fun c => c.toNat - '0'.toNat, cs.dropWhile Char.isDigit)

/-- The natural number written by digits. -/
def ofDigits (ds : List Nat) : Nat := ds.foldl (fun n d => n * 10 + d) 0

/-- An exponent after its letter, and what follows. -/
def exponent? (cs : List Char) : Option (Int × List Char) :=
  let (minus, cs) :=
    match cs with
    | '-' :: cs => (true, cs)
    | '+' :: cs => (false, cs)
    | cs => (false, cs)
  match digits cs with
  | ([], _) => none
  | (ds, cs) =>
      let n : Int := ofDigits ds
      some (if minus then -n else n, cs)

/-- The exponent of a number, when there is one. -/
def optionalExponent? (cs : List Char) : Option (Option Int × List Char) :=
  match cs with
  | 'e' :: cs | 'E' :: cs =>
      match exponent? cs with
      | some (e, cs) => some (some e, cs)
      | none => none
  | cs => some (none, cs)

/-- The fraction of a number, when there is one. -/
def optionalFraction? (cs : List Char) : Option (Option (List Nat) × List Char) :=
  match cs with
  | '.' :: cs =>
      match digits cs with
      | ([], _) => none
      | (ds, cs) => some (some ds, cs)
  | cs => some (none, cs)

/-- The number with the given parts, unless it is too large. -/
def numberOfParts? (minus : Bool) (whole : List Nat) (fraction : Option (List Nat))
    (exponent : Option Int) : Option Number :=
  let read := Scaled.takeWhole {} whole
  let signed (x : Float) : Number := .float (if minus then -x else x)
  if fraction.isNone && exponent.isNone && read.exponent = 0 then
    if !minus then some (.natural read.significand.toUInt64)
    else if read.significand = 0 || 0x8000000000000000 < read.significand then
      some (signed read.significand.toUInt64.toFloat)
    else some (.negative read.significand.toUInt64)
  else
    let read := read.takeFraction (fraction.getD [])
    let power := exponent.getD 0
    (Scaled.toFloat? { read with exponent := read.exponent + power }).map signed

/-- A number at the start of a text, and what follows.  A leading zero stands alone. -/
def number? (cs : List Char) : Option (Number × List Char) := do
  let (minus, cs) :=
    match cs with
    | '-' :: cs => (true, cs)
    | cs => (false, cs)
  let (whole, cs) := digits cs
  if whole = [] || (1 < whole.length && whole.head? = some 0) then none
  else
    let (fraction, cs) ← optionalFraction? cs
    let (exponent, cs) ← optionalExponent? cs
    let n ← numberOfParts? minus whole fraction exponent
    some (n, cs)

end ImplicitScene.Json
