import ImplicitScene.Expression.Glsl
import ImplicitScene.Shape.Arena

/-!
# The distance functions in program text

Every shape of a model becomes a function of a point `p` and a `cell`.  Its body
calls the functions of its children, so it stands after them.  The names that a
body declares begin with an underscore, so none of them hides a variable that an
expression reads.
-/

namespace ImplicitScene

/-- The name of the function of a shape in a model. -/
def shapeFunction (model : Nat) (id : ShapeId) : String := s!"shape{model}_{id.number}"

/-- A call of the function of a shape. -/
def shapeCall (model : Nat) (id : ShapeId) (point cell : String) : String :=
  s!"{shapeFunction model id}({point}, {cell})"

/-- How far `_q` reaches past a corner. -/
def cornerText : String :=
  "length(max(_q, vec3(0.0))) + min(max(_q.x, max(_q.y, _q.z)), 0.0)"

/-- The point turned back about an axis, where `_c` and `_s` are the cosine and the sine. -/
def Axis.turnedText : Axis → String
  | x => "vec3(p.x, _c * p.y + _s * p.z, -_s * p.y + _c * p.z)"
  | y => "vec3(_c * p.x - _s * p.z, p.y, _s * p.x + _c * p.z)"
  | z => "vec3(_c * p.x + _s * p.y, -_s * p.x + _c * p.y, p.z)"

/-- The variable that holds the cell a repeated child sees. -/
def Tiling.cellText : Tiling → String
  | perCell => "_index"
  | shared => "cell"

/-- The lines of the function of a shape in a model. -/
def Kind.body (model : Nat) : ShapeKind → List String
  | sphere => ["return length(p) - 0.5;"]
  | cube => ["vec3 _q = abs(p) - vec3(0.5);", s!"return {cornerText};"]
  | skull =>
      ["vec3 _m = vec3(abs(p.x), p.y, p.z);",
        "float _d = smin(ellipsoid(p - vec3(0.0, 0.12, -0.05), vec3(0.36, 0.34, 0.42)),",
        "    ellipsoid(p - vec3(0.0, -0.12, 0.12), vec3(0.26, 0.24, 0.28)), 0.12);",
        "_d = smin(_d, ellipsoid(p - vec3(0.0, -0.32, 0.1), vec3(0.18, 0.1, 0.2)), 0.08);",
        "_d = smax(_d, -(length(_m - vec3(0.11, -0.06, 0.32)) - 0.08), 0.03);",
        "return smax(_d, -ellipsoid(_m - vec3(0.025, -0.17, 0.38), vec3(0.03, 0.05, 0.06)), 0.02);"]
  | plane normal offset => [s!"return dot(p, {normal.glsl}) + {offset.glslScalar};"]
  | smoothBox size radius =>
      [s!"float _r = {radius.glslScalar};",
        s!"vec3 _q = abs(p) - {size.glsl} * 0.5 + vec3(_r);",
        s!"return {cornerText} - _r;"]
  | cylinder radius height =>
      [s!"vec2 _d = vec2(length(p.xz) - {radius.glslScalar}, abs(p.y) - {height.glslScalar} * 0.5);",
        "return min(max(_d.x, _d.y), 0.0) + length(max(_d, vec2(0.0)));"]
  | torus major minor =>
      [s!"vec2 _q = vec2(length(p.xz) - {major.glslScalar}, p.y);",
        s!"return length(_q) - {minor.glslScalar};"]
  | truchet thickness =>
      ["vec3 _c = floor(p);",
        "vec3 _q = p - _c - vec3(0.5);",
        "if (fract(sin(dot(_c, vec3(7.0, 157.0, 113.0))) * 43758.5453) > 0.5)",
        "    _q.x = -_q.x;",
        "float _a = length(vec2(length(_q.xy - vec2(0.5, 0.5)) - 0.5, _q.z));",
        "float _b = length(vec2(length(_q.yz - vec2(-0.5, -0.5)) - 0.5, _q.x));",
        "float _e = length(vec2(length(_q.xz - vec2(-0.5, 0.5)) - 0.5, _q.y));",
        s!"return min(_a, min(_b, _e)) - {thickness.glslScalar};"]
  | translate offset child =>
      let call := shapeCall model child s!"p - {offset.glsl}" "cell"
      [s!"return {call};"]
  | scale factor child =>
      let call := shapeCall model child "p / _s" "cell"
      [s!"float _s = {factor.glslScalar};", s!"return {call} * _s;"]
  | rotate axis angle child =>
      let call := shapeCall model child axis.turnedText "cell"
      [s!"float _a = {angle.glslScalar};", "float _c = cos(_a);", "float _s = sin(_a);",
        s!"return {call};"]
  | combine op a b =>
      let a := shapeCall model a "p" "cell"
      let b := shapeCall model b "p" "cell"
      match op with
      | .union => [s!"return min({a}, {b});"]
      | .intersection => [s!"return max({a}, {b});"]
      | .difference => [s!"return max({a}, -{b});"]
  | blend op a b radius =>
      let a := shapeCall model a "p" "cell"
      let b := shapeCall model b "p" "cell"
      match op with
      | .union => [s!"return smin({a}, {b}, {radius.glslScalar});"]
      | .intersection => [s!"return smax({a}, {b}, {radius.glslScalar});"]
      | .difference => [s!"return smax({a}, -{b}, {radius.glslScalar});"]
  | tile mode period child =>
      let call := shapeCall model child "p - _span * _index" mode.cellText
      [s!"vec3 _span = abs({period.glsl});",
        "vec3 _index = floor(p / max(_span, vec3(1e-6)) + 0.5) * step(vec3(1e-6), _span);",
        s!"return {call};"]

end ImplicitScene
