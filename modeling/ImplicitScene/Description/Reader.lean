import ImplicitScene.Description.Basic
import ImplicitScene.Json.Reader
import ImplicitScene.Json.Record

/-!
# Reading scene descriptions

A description is a JSON document.  A formula is a number, an array of numbers or
an object, and the first form that fits is taken.  Shapes, materials and cameras
are variants with the tag `type`.  Fields of other names are passed over there,
and refused in the description itself and in its models.
-/

namespace ImplicitScene

open Json (record? tagged? unique? optional? withDefault? text? float32? list?)

/-! ## Formulas -/

/-- Bind a name in a list sorted by name.  A later binding replaces an earlier one. -/
def bindSorted {α : Type} (name : String) (a : α) : List (String × α) → List (String × α)
  | [] => [(name, a)]
  | (other, b) :: rest =>
      if name < other then (name, a) :: (other, b) :: rest
      else if other < name then (other, b) :: bindSorted name a rest
      else (name, a) :: rest

namespace Formula

/-- The bindings of a snippet, sorted by name. -/
def bindings? (read : Json → Option Formula) : Json → Option (List (String × Formula))
  | .object fields => do
      let bound ← fields.mapM fun f => (read f.2).map fun formula => (f.1, formula)
      return bound.foldl (fun sorted b => bindSorted b.1 b.2 sorted) []
  | _ => none

/-- The field of a name in an object, where it must be. -/
def part? (fields : List (String × Json)) (name : String) : Option Json :=
  (unique? fields name).join

/-- A formula given as an object, by the first form that fits. -/
def ofFields? (read : Json → Option Formula) (fields : List (String × Json)) : Option Formula :=
  let asNamed := do
    let name ← text? (← part? fields "var")
    return named name
  let asRandom := do
    let seed ← read (← part? fields "random")
    return random seed
  let asSwizzle := do
    let components ← text? (← part? fields "swizzle")
    let base ← read (← part? fields "of")
    return swizzle components base
  let asApply := do
    let op ← text? (← part? fields "op")
    let args ← list? read (← part? fields "args")
    return apply op args
  let asSnippet := do
    let template ← text? (← part? fields "raw")
    let bindings ← withDefault? (bindings? read) [] (← unique? fields "bindings")
    let ty ← optional? text? (← unique? fields "ty")
    return snippet template bindings ty
  asNamed <|> asRandom <|> asSwizzle <|> asApply <|> asSnippet

/-- A formula in a document at most `depth` deep. -/
def ofJsonWithin? : (depth : Nat) → Json → Option Formula
  | _, .number n => some (number n.toFloat32)
  | _, .array items => (items.mapM float32?).map vector
  | depth + 1, .object fields => ofFields? (ofJsonWithin? depth) fields
  | _, _ => none

/-- A formula. -/
def ofJson? (j : Json) : Option Formula := ofJsonWithin? j.depth j

end Formula

/-! ## Shapes -/

namespace ShapeTerm

/-- The variants of a shape. -/
def variants : List String :=
  ["sphere", "cube", "skull", "plane", "smooth_box", "cylinder", "torus", "truchet", "translate",
    "scale", "rotate_x", "rotate_y", "rotate_z", "union", "intersection", "difference",
    "smooth_union", "smooth_intersection", "smooth_difference", "modulate", "repeat"]

/-- A shape given by its variant and its fields. -/
def kind? (read : Json → Option ShapeTerm) (variant : String) (body : Json) :
    Option (Kind Formula ShapeTerm) :=
  let fields names := record? .lax names body
  let formulas (make : Formula → Formula → Kind Formula ShapeTerm) (a b : String) := do
    match ← fields [a, b] with
    | [some a, some b] => return make (← Formula.ofJson? a) (← Formula.ofJson? b)
    | _ => none
  let around (make : Formula → ShapeTerm → Kind Formula ShapeTerm) (name : String) := do
    match ← fields [name, "shape"] with
    | [some f, some child] => return make (← Formula.ofJson? f) (← read child)
    | _ => none
  let both (op : Combination) := do
    match ← fields ["a", "b"] with
    | [some a, some b] => return .combine op (← read a) (← read b)
    | _ => none
  let blended (op : Combination) := do
    match ← fields ["a", "b", "radius"] with
    | [some a, some b, some radius] =>
        return .blend op (← read a) (← read b) (← Formula.ofJson? radius)
    | _ => none
  match variant with
  | "sphere" => (fields []).map fun _ => .sphere
  | "cube" => (fields []).map fun _ => .cube
  | "skull" => (fields []).map fun _ => .skull
  | "plane" => do
      match ← fields ["normal", "offset"] with
      | [some normal, offset] =>
          let offset ← optional? Formula.ofJson? offset
          return .plane (← Formula.ofJson? normal) (offset.getD (.number 0.0))
      | _ => none
  | "smooth_box" => formulas .smoothBox "size" "radius"
  | "cylinder" => formulas .cylinder "radius" "height"
  | "torus" => formulas .torus "major" "minor"
  | "truchet" => do
      match ← fields ["thickness"] with
      | [some thickness] => return .truchet (← Formula.ofJson? thickness)
      | _ => none
  | "translate" => around .translate "offset"
  | "scale" => around .scale "factor"
  | "rotate_x" => around (.rotate .x) "angle"
  | "rotate_y" => around (.rotate .y) "angle"
  | "rotate_z" => around (.rotate .z) "angle"
  | "union" => both .union
  | "intersection" => both .intersection
  | "difference" => both .difference
  | "smooth_union" => blended .union
  | "smooth_intersection" => blended .intersection
  | "smooth_difference" => blended .difference
  | "modulate" => around (.tile .perCell) "period"
  | "repeat" => around (.tile .shared) "period"
  | _ => none

/-- A shape by name or in place, in a document at most `depth` deep. -/
def ofJsonWithin? : (depth : Nat) → Json → Option ShapeTerm
  | _, .string name => some (named name)
  | depth + 1, j => do
      let (variant, body) ← tagged? .nameOrPosition variants "type" j
      let kind ← kind? (ofJsonWithin? depth) variant body
      return inline kind
  | 0, _ => none

/-- A shape by name or in place. -/
def ofJson? (j : Json) : Option ShapeTerm := ofJsonWithin? j.depth j

end ShapeTerm

/-! ## Materials and cameras -/

namespace MaterialTerm

/-- The variants of a material. -/
def variants : List String := ["material", "spotlight"]

/-- A material. -/
def ofJson? (j : Json) : Option MaterialTerm := do
  let (variant, body) ← tagged? .nameOrPosition variants "type" j
  let fields names := do (← record? .lax names body).mapM (optional? Formula.ofJson?)
  match variant with
  | "material" => do
      match ← fields
          ["color", "transmittance", "smoothness", "refraction", "scatter", "emissivity"] with
      | [color, transmittance, smoothness, refraction, scatter, emissivity] =>
          return plain color transmittance smoothness refraction scatter emissivity
      | _ => none
  | _ => do
      match ← fields ["color", "direction", "spread", "ambient"] with
      | [color, direction, spread, ambient] => return spotlight color direction spread ambient
      | _ => none

end MaterialTerm

/-- A material by name or in place. -/
def MaterialRef.ofJson? : Json → Option MaterialRef
  | .string name => some (.named name)
  | j => (MaterialTerm.ofJson? j).map .inline

namespace CameraTerm

/-- The variants of a camera. -/
def variants : List String := ["look_at", "orbit"]

/-- A camera. -/
def ofJson? (j : Json) : Option CameraTerm := do
  let (variant, body) ← tagged? .name variants "type" j
  let fields names := do (← record? .lax names body).mapM (optional? Formula.ofJson?)
  match variant with
  | "look_at" => do
      match ← fields ["eye", "target", "up", "field_of_view", "aperture"] with
      | [eye, target, up, fieldOfView, aperture] =>
          return lookAt eye target up fieldOfView aperture
      | _ => none
  | _ => do
      match ← fields ["field_of_view", "radius", "aperture", "target", "offset"] with
      | [fieldOfView, radius, aperture, target, offset] =>
          return orbit fieldOfView radius aperture target offset
      | _ => none

end CameraTerm

/-! ## Scenes -/

/-- An entry with a name, which stands in an object beside the fields of what it names. -/
def labelled? {α : Type} (read : Json → Option α) : Json → Option (String × α)
  | .object fields => do
      let name ← text? (← Formula.part? fields "name")
      let a ← read (.object (fields.filter fun f => f.1 != "name"))
      return (name, a)
  | _ => none

/-- A shape described in place. -/
def ShapeTerm.definition? (j : Json) : Option (Kind Formula ShapeTerm) :=
  match ofJson? j with
  | some (.inline kind) => some kind
  | _ => none

/-- A model. -/
def ModelTerm.ofJson? (j : Json) : Option ModelTerm := do
  match ← record? .strict ["shape", "material"] j with
  | [some shape, material] =>
      let shape ← ShapeTerm.ofJson? shape
      let material ← optional? MaterialRef.ofJson? material
      return { shape, material }
  | _ => none

namespace Description

/-- A scene description. -/
def ofJson? (j : Json) : Option Description := do
  match ← record? .strict ["shapes", "materials", "models", "camera", "air"] j with
  | [shapes, materials, some models, camera, air] =>
      let shapes ← withDefault? (list? (labelled? ShapeTerm.definition?)) [] shapes
      let materials ← withDefault? (list? (labelled? MaterialTerm.ofJson?)) [] materials
      let models ← list? ModelTerm.ofJson? models
      let camera ← optional? CameraTerm.ofJson? camera
      let air ← optional? MaterialRef.ofJson? air
      return { shapes, materials, models, camera, air }
  | _ => none

/-- The description a text holds. -/
def parse (text : String) : Except SceneError Description :=
  match (Json.parse? text).bind ofJson? with
  | some d => .ok d
  | none => .error .malformed

end Description

/-- The scene a text describes, with handles of the given tag. -/
def Scene.parse (text : String) (tag : Nat) : Except SceneError Scene := do
  let d ← Description.parse text
  d.scene tag

end ImplicitScene
