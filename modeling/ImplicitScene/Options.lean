import ImplicitScene.Json.Reader
import ImplicitScene.Json.Record

/-!
# Options

The options fix the constants of a program and of the tracer: the size of the
picture, how closely surfaces are met, and how many steps, bounces and samples
are taken.  They do not change the scene.
-/

namespace ImplicitScene

/-- Why options cannot be used. -/
inductive OptionsError where
  /-- A count that must be positive. -/
  | notPositive (option : String)
  /-- A number that must be positive and finite. -/
  | notPositiveFinite (option : String)
  /-- A text that does not hold options. -/
  | malformed
  /-- A file that cannot be read. -/
  | unreadable (reason : String)
  deriving Repr, DecidableEq

/-- The wording of an error. -/
def OptionsError.message : OptionsError → String
  | notPositive option => s!"invalid option `{option}`: must be positive"
  | notPositiveFinite option => s!"invalid option `{option}`: must be a positive finite number"
  | malformed => "invalid options file: not a record of options"
  | unreadable reason => s!"IO error: {reason}"

/-- The constants of a program. -/
structure Options where
  /-- Width of the picture in pixels. -/
  width : UInt32 := 512
  /-- Height of the picture in pixels. -/
  height : UInt32 := 512
  /-- How close to a surface a ray meets it, and half the step of surface normals. -/
  epsilon : Float32 := 1e-4
  /-- How many steps a ray may take. -/
  steps : UInt32 := 256
  /-- How often a path may bounce. -/
  bounces : UInt32 := 4
  /-- How many samples are taken beyond the first, for a pixel and frame. -/
  iterations : UInt32 := 0
  /-- The exponent of the display. -/
  gamma : Float32 := 2.2
  deriving Repr

namespace Options

/-- How many samples are taken for a pixel and frame. -/
def samples (o : Options) : UInt32 := o.iterations + 1

/-- Whether a number is positive and finite. -/
def positiveFinite (x : Float32) : Bool := x.isFinite && 0.0 < x

/-- Check the ranges.  The first option out of range is reported. -/
def validate (o : Options) : Except OptionsError Unit :=
  if o.width = 0 then .error (.notPositive "width")
  else if o.height = 0 then .error (.notPositive "height")
  else if !positiveFinite o.epsilon then .error (.notPositiveFinite "epsilon")
  else if o.steps = 0 then .error (.notPositive "steps")
  else if o.bounces = 0 then .error (.notPositive "bounces")
  else if !positiveFinite o.gamma then .error (.notPositiveFinite "gamma")
  else .ok ()

open Json (record? withDefault? float32? word?)

/-- Options in a document.  Those that are absent have their default. -/
def ofJson? (j : Json) : Option Options := do
  let default : Options := {}
  match ← record? .strict
      ["width", "height", "epsilon", "steps", "bounces", "iterations", "gamma"] j with
  | [width, height, epsilon, steps, bounces, iterations, gamma] =>
      let width ← withDefault? word? default.width width
      let height ← withDefault? word? default.height height
      let epsilon ← withDefault? float32? default.epsilon epsilon
      let steps ← withDefault? word? default.steps steps
      let bounces ← withDefault? word? default.bounces bounces
      let iterations ← withDefault? word? default.iterations iterations
      let gamma ← withDefault? float32? default.gamma gamma
      return { width, height, epsilon, steps, bounces, iterations, gamma }
  | _ => none

/-- The options a text holds. -/
def parse (text : String) : Except OptionsError Options :=
  match (Json.parse? text).bind ofJson? with
  | some o => .ok o
  | none => .error .malformed

end Options

end ImplicitScene
