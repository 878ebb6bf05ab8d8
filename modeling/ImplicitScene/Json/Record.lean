import ImplicitScene.Json.Basic

/-!
# Records and variants in documents

A record is written as an object with named fields, or as an array of its fields
in order.  A field may be absent.  In an object a field may not come twice.  An
array may be too short, when the last fields are absent, but not too long.

A variant is a record with a tag.  An object holds it in a field of a fixed name,
an array as its first item.
-/

namespace ImplicitScene.Json

mutual

/-- How deep arrays and objects lie inside each other. -/
def depth : Json → Nat
  | null | bool _ | number _ | string _ => 0
  | array items => depthOfItems items + 1
  | object fields => depthOfFields fields + 1
termination_by structural j => j

/-- The greatest depth of several documents. -/
def depthOfItems : List Json → Nat
  | [] => 0
  | item :: items => Nat.max (depth item) (depthOfItems items)
termination_by structural items => items

/-- The greatest depth of several fields. -/
def depthOfFields : List (String × Json) → Nat
  | [] => 0
  | (_, value) :: fields => Nat.max (depth value) (depthOfFields fields)
termination_by structural fields => fields

end

/-! ## Records -/

/-- The field of a name: `none` if it comes twice, and `some none` if it is absent. -/
def unique? (fields : List (String × Json)) (name : String) : Option (Option Json) :=
  match fields.filter fun f => f.1 == name with
  | [] => some none
  | [f] => some (some f.2)
  | _ => none

/-- Whether unknown fields are refused. -/
inductive Strictness where
  | strict | lax
  deriving Repr, DecidableEq

/-- Whether a field is known, or need not be. -/
def Strictness.allows (s : Strictness) (names : List String) (name : String) : Bool :=
  s == .lax || names.contains name

/-- The fields of a record, in the order of `names`. -/
def record? (s : Strictness) (names : List String) : Json → Option (List (Option Json))
  | object fields =>
      if fields.all fun f => s.allows names f.1 then names.mapM (unique? fields) else none
  | array items =>
      if items.length ≤ names.length then
        some (items.map some ++ List.replicate (names.length - items.length) none)
      else none
  | _ => none

/-- A field that may be absent or `null`. -/
def optional? {α : Type} (read : Json → Option α) : Option Json → Option (Option α)
  | none | some null => some none
  | some j => (read j).map some

/-- A field that may be absent, but not `null`. -/
def withDefault? {α : Type} (read : Json → Option α) (default : α) : Option Json → Option α
  | none => some default
  | some j => read j

/-! ## Variants -/

/-- How tags are written. -/
inductive TagForm where
  /-- By name only. -/
  | name
  /-- By name or by position. -/
  | nameOrPosition
  deriving Repr, DecidableEq

/-- The variant a tag denotes. -/
def TagForm.variant? (form : TagForm) (variants : List String) : Json → Option String
  | string s => if variants.contains s then some s else none
  | number (.natural n) => if form = .nameOrPosition then variants[n.toNat]? else none
  | _ => none

/-- The variant of a tagged record, and the record without its tag. -/
def tagged? (form : TagForm) (variants : List String) (tag : String) : Json → Option (String × Json)
  | object fields => do
      let found ← unique? fields tag
      let variant ← form.variant? variants (← found)
      return (variant, object (fields.filter fun f => f.1 != tag))
  | array (tag :: items) => do
      let variant ← form.variant? variants tag
      return (variant, array items)
  | _ => none

/-! ## Simple values -/

/-- A string. -/
def text? : Json → Option String
  | string s => some s
  | _ => none

/-- A number, as a 32-bit float. -/
def float32? : Json → Option Float32
  | number n => some n.toFloat32
  | _ => none

/-- A whole number below `2^32`, without sign, point and exponent. -/
def word? : Json → Option UInt32
  | number (.natural n) => if n ≤ 0xFFFFFFFF then some n.toUInt32 else none
  | _ => none

/-- An array whose items all can be read. -/
def list? {α : Type} (read : Json → Option α) : Json → Option (List α)
  | array items => items.mapM read
  | _ => none

end ImplicitScene.Json
