/-!
# Decimal text of 32-bit floats

A finite float is `m · 2^q` with a whole significand `m`.  The reals that round
to it form an interval around it.  The interval reaches half a unit of the last
place to either side, and only a quarter below a power of two, where the floats
lie closer together.  Its ends belong to it exactly when `m` is even.

The *shortest decimal* of a float is a multiple of the greatest power of ten that
has a multiple in the interval.  Of two such multiples the nearer is taken, and
of two equally near the upper.  All comparisons are between natural numbers, so
nothing is rounded on the way.

`decimalText` writes the shortest decimal in positional notation, without an
exponent and without a trailing point.
-/

namespace ImplicitScene

/-- The decimal number `digits · 10^exponent`. -/
structure Decimal where
  /-- The digits, read as one natural number. -/
  digits : Nat
  /-- The power of ten they are multiplied by. -/
  exponent : Int
  deriving Repr, DecidableEq

namespace Decimal

/-! ## Choosing the digits -/

/-- Positive floats as `significand · 2^exponent`. -/
structure Binary where
  /-- The whole significand, below `2^24`. -/
  significand : Nat
  /-- The power of two it is multiplied by. -/
  exponent : Int
  deriving Repr, DecidableEq

/-- The least significand of a number with all 24 bits. -/
def leastNormal : Nat := 0x800000

/-- A number and the interval of reals that round to it, over a common denominator.
All four are counts of one quarter of a unit of the last place, scaled so that one
step of the decimal grid is `step`. -/
structure Grid where
  /-- The lower end of the interval. -/
  low : Nat
  /-- The number itself. -/
  value : Nat
  /-- The upper end of the interval. -/
  high : Nat
  /-- The distance between two points of the grid. -/
  step : Nat
  /-- Whether the ends belong to the interval. -/
  closed : Bool

/-- The interval around `b` laid on the multiples of `10^k`. -/
def Binary.grid (b : Binary) (k : Int) : Grid :=
  let narrow := b.significand = leastNormal ∧ -149 < b.exponent
  let below := if narrow then 1 else 2
  let quarter := b.exponent - 2
  let scale := Nat.pow 2 quarter.toNat * Nat.pow 10 (-k).toNat
  { low := (4 * b.significand - below) * scale
    value := 4 * b.significand * scale
    high := (4 * b.significand + 2) * scale
    step := Nat.pow 2 (-quarter).toNat * Nat.pow 10 k.toNat
    closed := b.significand % 2 = 0 }

/-- Whether the grid point `d` rounds to the number. -/
def Grid.holds (g : Grid) (d : Nat) : Bool :=
  if g.closed then g.low ≤ d * g.step && d * g.step ≤ g.high
  else g.low < d * g.step && d * g.step < g.high

/-- The grid point that rounds to the number and lies nearest to it.  Only the
neighbours of the number on the grid need to be tried. -/
def Grid.nearest? (g : Grid) : Option Nat :=
  let lower := g.value / g.step
  match g.holds lower, g.holds (lower + 1) with
  | false, false => none
  | true, false => some lower
  | false, true => some (lower + 1)
  | true, true =>
      if (2 * lower + 1) * g.step ≤ 2 * g.value then some (lower + 1) else some lower

/-- The first grid of `10^k, 10^(k-1), …` that has a point in the interval, among `tries` grids. -/
def shortestFrom (b : Binary) : (tries : Nat) → (k : Int) → Decimal
  | 0, k => ⟨0, k⟩
  | tries + 1, k =>
      match (b.grid k).nearest? with
      | some d => ⟨d, k⟩
      | none => shortestFrom b tries (k - 1)

/-- The shortest decimal that reads back as `b`.  Every 32-bit float is below `10^39`, and every
interval holds a multiple of `10^(-46)`. -/
def shortest (b : Binary) : Decimal := shortestFrom b 86 39

/-! ## Writing the digits -/

/-- The digits with the point where the exponent puts it. -/
def text (d : Decimal) : String :=
  let digits := Nat.toDigits 10 d.digits
  let fraction := (-d.exponent).toNat
  if fraction = 0 then String.ofList (digits ++ List.replicate d.exponent.toNat '0')
  else
    let padded := List.replicate (fraction + 1 - digits.length) '0' ++ digits
    let whole := padded.length - fraction
    String.ofList (padded.take whole ++ '.' :: padded.drop whole)

end Decimal

/-! ## Floats -/

/-- The magnitude of a finite float.  The exponent bits `0` mark the numbers below `2^(-126)`. -/
def binaryOfBits (bits : UInt32) : Decimal.Binary :=
  let fraction := bits.toNat % Decimal.leastNormal
  let exponent := bits.toNat / Decimal.leastNormal % 256
  if exponent = 0 then ⟨fraction, -149⟩
  else ⟨Decimal.leastNormal + fraction, (exponent : Int) - 150⟩

/-- Whether the sign bit is set.  It is for `-0.0`. -/
def signBit (x : Float32) : Bool := 0x80000000 ≤ x.toBits

/-- The shortest decimal of a float in positional notation: the fewest digits that read back as
the same float. -/
def decimalText (x : Float32) : String :=
  if x.isNaN then "NaN"
  else
    let sign := if signBit x then "-" else ""
    let magnitude :=
      if x.isInf then "inf"
      else
        let b := binaryOfBits x.toBits
        if b.significand = 0 then "0" else (Decimal.shortest b).text
    sign ++ magnitude

end ImplicitScene
