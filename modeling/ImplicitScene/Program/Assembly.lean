import ImplicitScene.Options
import ImplicitScene.Program.Helper
import ImplicitScene.Program.PathTracing
import ImplicitScene.Program.Printer
import ImplicitScene.Scene.Basic
import ImplicitScene.Shape.Glsl
import ImplicitScene.Shape.Order

/-!
# The program of a scene

A program begins with its interface and its constants.  Then come the helpers and
the main function, and for each model the functions of its shapes, its distance,
its normal and its material.  At the end stand the medium between the models and
three functions that choose among the models.  These four are announced before
the main function, which calls them.
-/

namespace ImplicitScene

/-! ## Declarations -/

/-- What is set from outside. -/
def interfaceItems : List Item :=
  [.uniform ⟨"sampler2D", "texture"⟩, .uniform ⟨"vec2", "resolution"⟩, .uniform ⟨"vec2", "mouse"⟩,
    .uniform ⟨"bool", "clicked"⟩, .uniform ⟨"float", "time"⟩, .varying ⟨"vec2", "uv"⟩]

/-- The constants. -/
def constantItems (o : Options) : List Item :=
  [.constant ⟨"float", "PI"⟩ "3.14159",
    .constant ⟨"float", "MAX_VALUE"⟩ (floatLiteral farAway),
    .constant ⟨"float", "epsilon"⟩ (floatLiteral o.epsilon),
    .constant ⟨"int", "steps"⟩ (toString o.steps.toNat),
    .constant ⟨"int", "bounces"⟩ (toString o.bounces.toNat),
    .constant ⟨"int", "iterations"⟩ (toString o.iterations.toNat)]

/-- The structures. -/
def structItems : List Item :=
  [.struct "Closest" [⟨"int", "object"⟩, ⟨"float", "distance"⟩],
    .struct "Material"
      [⟨"float", "transmittance"⟩, ⟨"float", "smoothness"⟩, ⟨"float", "refraction"⟩,
        ⟨"float", "scatter"⟩, ⟨"vec3", "color"⟩, ⟨"vec3", "emissivity"⟩]]

/-- The head of the function that finds the closest model. -/
def closestSignature : Signature := ⟨"Closest", "calculateClosest", [⟨"vec3", "position"⟩]⟩

/-- The head of the function that finds the normal of a model. -/
def normalSignature : Signature :=
  ⟨"vec3", "calculateNormal", [⟨"int", "object"⟩, ⟨"vec3", "position"⟩]⟩

/-- The head of the function that finds the material of a model. -/
def materialSignature : Signature :=
  ⟨"Material", "calculateMaterial",
    [⟨"int", "object"⟩, ⟨"vec3", "position"⟩, ⟨"vec3", "normal"⟩, ⟨"vec3", "direction"⟩]⟩

/-- The head of the function of a material. -/
def materialFunctionSignature (name : String) : Signature :=
  ⟨"Material", name, [⟨"vec3", "p"⟩, ⟨"vec3", "n"⟩, ⟨"vec3", "d"⟩]⟩

/-- The head of the function of the medium between the models. -/
def airSignature : Signature := materialFunctionSignature "materialAir"

/-- What the main function calls and what is defined after it. -/
def prototypeItems : List Item :=
  [closestSignature, normalSignature, materialSignature, airSignature].map .prototype

/-! ## Functions -/

/-- The main function of a scene. -/
def mainFunction (c : Camera) : FunctionDef :=
  PathTracing.function
    [("eye", c.eye.glsl), ("target", c.target.glsl), ("up", c.up.glsl),
      ("field_of_view", c.fieldOfView.glslScalar), ("aperture", c.aperture.glslScalar)]

/-- The function of a shape in a model. -/
def shapeDefinition (model : Nat) (node : Node) : FunctionDef :=
  ⟨⟨"float", shapeFunction model node.id, [⟨"vec3", "p"⟩, ⟨"vec3", "cell"⟩]⟩,
    (node.kind.body model).map .line⟩

/-- The distance of a model. -/
def distanceDefinition (m : Model) : FunctionDef :=
  ⟨⟨"float", s!"distance{m.id}", [⟨"vec3", "p"⟩]⟩,
    [.line ("return " ++ shapeCall m.id m.shape "p" "vec3(0.0)" ++ ";")]⟩

/-- The change of the distance of a model across a point. -/
def slopeText (model : Nat) (step : String) : String :=
  s!"distance{model}(p + e.{step}) - distance{model}(p - e.{step})"

/-- The normal of a model. -/
def normalDefinition (m : Model) : FunctionDef :=
  ⟨⟨"vec3", s!"normal{m.id}", [⟨"vec3", "p"⟩]⟩,
    [.line "vec2 e = vec2(epsilon, 0.0);",
      .line "return normalize(vec3(",
      .line ("    " ++ slopeText m.id "xyy" ++ ","),
      .line ("    " ++ slopeText m.id "yxy" ++ ","),
      .line ("    " ++ slopeText m.id "yyx" ++ "));")]⟩

/-- The text of a field of a material.  All but the two colours are numbers. -/
def materialFieldText (name : String) (e : Expression) : String :=
  if name == "color" || name == "emissivity" then e.glsl else e.glslScalar

/-- The function of a material.  A material lies outside any cell, so one that reads the cell sees
zero. -/
def materialDefinition (name : String) (m : Material) : FunctionDef :=
  let cell : List Statement :=
    if m.fields.any fun f => f.2.reads .cell then [.line "vec3 cell = vec3(0.0);"] else []
  let set (f : String × Expression) : Statement :=
    .line ("m." ++ f.1 ++ " = " ++ materialFieldText f.1 f.2 ++ ";")
  ⟨materialFunctionSignature name,
    cell ++ [.line "Material m;"] ++ m.fields.map set ++ [.line "return m;"]⟩

/-- All functions of a model. -/
def modelDefinitions (shapes : Arena) (m : Model) : List FunctionDef :=
  ((shapes.order m.shape).filterMap shapes.get?).map (shapeDefinition m.id) ++
    [distanceDefinition m, normalDefinition m, materialDefinition s!"material{m.id}" m.material]

/-! ## The choice among the models -/

/-- One model in the search for the closest. -/
def closestCase (m : Model) : List Statement :=
  [.blank, .line s!"candidate = abs(distance{m.id}(position));",
    .block "if (candidate < closest.distance)" [.line s!"closest = Closest({m.id}, candidate);"]]

/-- The function that finds the closest model. -/
def closestDefinition (models : List Model) : FunctionDef :=
  ⟨closestSignature,
    [.line "Closest closest = Closest(0, MAX_VALUE);", .line "float candidate;"] ++
      models.flatMap closestCase ++ [.blank, .line "return closest;"]⟩

/-- A statement for one model only. -/
def objectCase (m : Model) (statement : String) : Statement :=
  .guard s!"if (object == {m.id})" (.line statement)

/-- The function that finds the normal of a model. -/
def normalChoice (models : List Model) : FunctionDef :=
  ⟨normalSignature,
    models.map (fun m => objectCase m s!"return normal{m.id}(position);") ++
      [.line "return vec3(0.0);"]⟩

/-- The function that finds the material of a model. -/
def materialChoice (models : List Model) : FunctionDef :=
  ⟨materialSignature,
    models.map (fun m => objectCase m s!"return material{m.id}(position, normal, direction);") ++
      [.line "return Material(0.0, 0.0, 0.0, 0.0, vec3(0.0), vec3(0.0));"]⟩

/-! ## Programs -/

namespace Scene

/-- The shapes that the models are made from, model by model. -/
def usedKinds (scene : Scene) : List ShapeKind :=
  scene.models.flatMap fun m =>
    ((scene.shapes.order m.shape).filterMap scene.shapes.get?).map Node.kind

/-- The functions of a scene's program, in order. -/
def definitions (scene : Scene) : List FunctionDef :=
  (Helper.needed scene.usedKinds).map Helper.function ++ [mainFunction scene.camera] ++
    scene.models.flatMap (modelDefinitions scene.shapes) ++
    [materialDefinition "materialAir" scene.air, closestDefinition scene.models,
      normalChoice scene.models, materialChoice scene.models]

/-- The program of a scene. -/
def program (scene : Scene) (o : Options) : Program :=
  ⟨[.precision "highp float"] ++ interfaceItems ++ constantItems o ++ structItems ++
    prototypeItems ++ scene.definitions.map .function⟩

/-- The program text of a scene, with the options as they are. -/
def compile (scene : Scene) (o : Options) : String := (scene.program o).text

/-- The program text of a scene, if the options are valid. -/
def tryCompile (scene : Scene) (o : Options) : Except OptionsError String := do
  o.validate
  .ok (scene.compile o)

end Scene

/-- What a program consists of. -/
structure CompileStats where
  /-- The number of models. -/
  models : Nat
  /-- The number of functions of shapes. -/
  shapeFunctions : Nat
  /-- The number of all functions. -/
  functions : Nat
  /-- The length of the text in bytes. -/
  bytes : Nat
  deriving Repr, DecidableEq

/-- What the program of a scene consists of. -/
def Scene.compileStats (scene : Scene) (o : Options) : CompileStats :=
  let functions := (scene.program o).functions
  { models := scene.models.length
    shapeFunctions := (functions.filter fun f => "shape".toList.isPrefixOf f.name.toList).length
    functions := functions.length
    bytes := (scene.compile o).utf8ByteSize }

end ImplicitScene
