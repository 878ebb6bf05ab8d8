import ImplicitScene.Json.Number

/-!
# Reading JSON

The reader is strict.  Nothing but blank characters may follow the document,
strings hold no control characters, surrogate escapes come in pairs, and at most
127 arrays and objects lie inside each other.

Reading a value recurses on the nesting that is left.  Reading the items of an
array recurses on a bound for their number, for which the length of the text is
enough.
-/

namespace ImplicitScene.Json

/-- A text without the blank characters at its start. -/
def skipBlank (cs : List Char) : List Char :=
  cs.dropWhile fun c => c = ' ' || c = '\n' || c = '\t' || c = '\r'

/-! ## Strings -/

/-- The value of a hexadecimal digit. -/
def hexDigit? (c : Char) : Option Nat :=
  if c.isDigit then some (c.toNat - '0'.toNat)
  else if 'a' ≤ c ∧ c ≤ 'f' then some (c.toNat - 'a'.toNat + 10)
  else if 'A' ≤ c ∧ c ≤ 'F' then some (c.toNat - 'A'.toNat + 10)
  else none

/-- The number written by four hexadecimal digits. -/
def hex4? (a b c d : Char) : Option Nat := do
  let a ← hexDigit? a
  let b ← hexDigit? b
  let c ← hexDigit? c
  let d ← hexDigit? d
  some (((a * 16 + b) * 16 + c) * 16 + d)

/-- Whether a code unit is the first of a surrogate pair. -/
def isHighSurrogate (n : Nat) : Bool := 0xD800 ≤ n && n ≤ 0xDBFF

/-- Whether a code unit is the second of a surrogate pair. -/
def isLowSurrogate (n : Nat) : Bool := 0xDC00 ≤ n && n ≤ 0xDFFF

/-- The character a one-letter escape stands for. -/
def escape? (c : Char) : Option Char :=
  match c with
  | '"' => some '"'
  | '\\' => some '\\'
  | '/' => some '/'
  | 'b' => some '\x08'
  | 'f' => some '\x0c'
  | 'n' => some '\n'
  | 'r' => some '\r'
  | 't' => some '\t'
  | _ => none

/-- The rest of a string after its opening quote, and what follows.  `seen` holds the characters
read so far, in reverse. -/
def stringRest? : (seen : List Char) → List Char → Option (String × List Char)
  | _, [] => none
  | seen, '"' :: cs => some (String.ofList seen.reverse, cs)
  | seen, '\\' :: 'u' :: a :: b :: c :: d :: cs =>
      match hex4? a b c d with
      | none => none
      | some unit =>
          if isLowSurrogate unit then none
          else if isHighSurrogate unit then
            match cs with
            | '\\' :: 'u' :: a :: b :: c :: d :: cs =>
                match hex4? a b c d with
                | none => none
                | some low =>
                    if isLowSurrogate low then
                      let code := 0x10000 + (unit - 0xD800) * 0x400 + (low - 0xDC00)
                      stringRest? (Char.ofNat code :: seen) cs
                    else none
            | _ => none
          else stringRest? (Char.ofNat unit :: seen) cs
  | seen, '\\' :: e :: cs =>
      match escape? e with
      | some c => stringRest? (c :: seen) cs
      | none => none
  | seen, c :: cs => if c = '\\' || c < ' ' then none else stringRest? (c :: seen) cs

/-! ## Values -/

/-- A value that holds no other value, and what follows. -/
def atom? (cs : List Char) : Option (Json × List Char) :=
  match cs with
  | 'n' :: 'u' :: 'l' :: 'l' :: cs => some (.null, cs)
  | 't' :: 'r' :: 'u' :: 'e' :: cs => some (.bool true, cs)
  | 'f' :: 'a' :: 'l' :: 's' :: 'e' :: cs => some (.bool false, cs)
  | '"' :: cs => (stringRest? [] cs).map fun (s, cs) => (.string s, cs)
  | cs => (number? cs).map fun (n, cs) => (.number n, cs)

/-- The items of an array or object after the first, and what follows `close`.  `seen` holds the
items read so far, in reverse. -/
def itemsRest? {α : Type} (item : List Char → Option (α × List Char)) (close : Char) :
    (bound : Nat) → (seen : List α) → List Char → Option (List α × List Char)
  | 0, _, _ => none
  | bound + 1, seen, cs =>
      match skipBlank cs with
      | [] => none
      | c :: cs =>
          if c = close then some (seen.reverse, cs)
          else if c = ',' then
            match item cs with
            | some (x, cs) => itemsRest? item close bound (x :: seen) cs
            | none => none
          else none

/-- The items of an array or object after its opening bracket, and what follows `close`. -/
def items? {α : Type} (item : List Char → Option (α × List Char)) (close : Char)
    (cs : List Char) : Option (List α × List Char) :=
  match skipBlank cs with
  | [] => none
  | c :: rest =>
      if c = close then some ([], rest)
      else
        match item cs with
        | some (x, cs) => itemsRest? item close cs.length [x] cs
        | none => none

/-- A field of an object, whose value is read by `value`. -/
def field? (value : List Char → Option (Json × List Char)) (cs : List Char) :
    Option ((String × Json) × List Char) :=
  match skipBlank cs with
  | '"' :: cs =>
      match stringRest? [] cs with
      | none => none
      | some (name, cs) =>
          match skipBlank cs with
          | ':' :: cs => (value cs).map fun (v, cs) => ((name, v), cs)
          | _ => none
  | _ => none

/-- A value at the start of a text, and what follows.  At most `nesting` arrays and objects may lie
inside each other. -/
def value? : (nesting : Nat) → List Char → Option (Json × List Char)
  | 0, cs => atom? (skipBlank cs)
  | nesting + 1, cs =>
      match skipBlank cs with
      | '[' :: cs => (items? (value? nesting) ']' cs).map fun (items, cs) => (.array items, cs)
      | '\x7b' :: cs =>
          (items? (field? (value? nesting)) '\x7d' cs).map fun (fields, cs) => (.object fields, cs)
      | cs => atom? cs

/-- How deep arrays and objects may lie inside each other. -/
def maxNesting : Nat := 127

/-- The document a text holds. -/
def parse? (text : String) : Option Json :=
  match value? maxNesting text.toList with
  | some (document, rest) => if (skipBlank rest).isEmpty then some document else none
  | none => none

end ImplicitScene.Json
