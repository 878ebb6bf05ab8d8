import ImplicitScene.Decimal

/-!
# Reading decimal text

A decimal number is read as the nearest 32-bit float.  Of two equally near the
one with an even significand is taken.  The quotient is computed exactly and
rounded once.
-/

namespace ImplicitScene

namespace Decimal

/-- The bits of positive infinity. -/
def infinityBits : Nat := 0x7F800000

/-- A quotient rounded to the nearest whole number, a half to the even one. -/
def roundedQuotient (numerator denominator : Nat) : Nat :=
  let q := numerator / denominator
  let twice := 2 * (numerator % denominator)
  if denominator < twice || (twice = denominator && q % 2 = 1) then q + 1 else q

/-- The bits of the float nearest to a positive quotient.  The significand has 24 bits, or fewer
when the exponent is the least.  A significand that is rounded up to `2^24` carries into the
exponent by itself. -/
def quotientBits (numerator denominator : Nat) : Nat :=
  let scaled (x : Int) : Nat × Nat :=
    (numerator * Nat.pow 2 (-x).toNat, denominator * Nat.pow 2 x.toNat)
  let guess : Int := (numerator.log2 : Int) - denominator.log2 - 23
  let (n, d) := scaled guess
  let exact := if n / d < leastNormal then guess - 1 else guess
  let x := if exact < -149 then -149 else exact
  let (n, d) := scaled x
  Nat.min infinityBits ((x + 149).toNat * leastNormal + roundedQuotient n d)

/-- The bits of the float nearest to a decimal number.  Numbers from `10^39` on are infinite, and
numbers below `10^(-46)` are zero. -/
def nearestBits (d : Decimal) : Nat :=
  let magnitude : Int := (Nat.toDigits 10 d.digits).length + d.exponent
  if d.digits = 0 || magnitude < -46 then 0
  else if 39 < magnitude then infinityBits
  else quotientBits (d.digits * Nat.pow 10 d.exponent.toNat) (Nat.pow 10 (-d.exponent).toNat)

/-- The float nearest to a decimal number. -/
def nearest (d : Decimal) : Float32 := Float32.ofBits d.nearestBits.toUInt32

/-! ## Syntax -/

/-- A sign at the start of a text, and what follows.  The sign is true for a minus. -/
def sign (cs : List Char) : Bool × List Char :=
  match cs with
  | '-' :: cs => (true, cs)
  | '+' :: cs => (false, cs)
  | cs => (false, cs)

/-- The digits at the start of a text, and what follows. -/
def digitRun (cs : List Char) : List Char × List Char :=
  (cs.takeWhile Char.isDigit, cs.dropWhile Char.isDigit)

/-- The number that digits denote. -/
def ofDigits (ds : List Char) : Nat := ds.foldl (fun n c => n * 10 + (c.toNat - '0'.toNat)) 0

/-- An exponent that ends the text, zero if there is none. -/
def exponent? (cs : List Char) : Option Int :=
  match cs with
  | [] => some 0
  | c :: cs =>
      if c = 'e' || c = 'E' then
        let (minus, cs) := sign cs
        match digitRun cs with
        | ([], _) => none
        | (ds, []) => some (if minus then -(ofDigits ds : Int) else ofDigits ds)
        | _ => none
      else none

/-- A decimal number without sign.  There are digits before or after the point. -/
def ofChars? (cs : List Char) : Option Decimal :=
  let (whole, rest) := digitRun cs
  let (fraction, rest) :=
    match rest with
    | '.' :: rest => digitRun rest
    | rest => ([], rest)
  if whole.isEmpty && fraction.isEmpty then none
  else (exponent? rest).map fun e => ⟨ofDigits (whole ++ fraction), e - fraction.length⟩

end Decimal

/-- The float a text denotes.  Infinity and NaN have names, in any letter case. -/
def readFloat32? (text : String) : Option Float32 :=
  let (minus, cs) := Decimal.sign text.toList
  let signed (x : Float32) := if minus then -x else x
  match Decimal.ofChars? cs with
  | some d => some (signed d.nearest)
  | none =>
      match String.ofList (cs.map Char.toLower) with
      | "inf" | "infinity" => some (signed (Float32.ofBits 0x7F800000))
      | "nan" => some (signed (Float32.ofBits 0x7FC00000))
      | _ => none

/-- The whole number below `2^32` that a text denotes.  A sign is allowed. -/
def readWord? (text : String) : Option UInt32 :=
  let (minus, cs) := Decimal.sign text.toList
  if cs.isEmpty || !cs.all Char.isDigit then none
  else
    let n := Decimal.ofDigits cs
    if n ≤ 0xFFFFFFFF && (!minus || n = 0) then some n.toUInt32 else none

end ImplicitScene
