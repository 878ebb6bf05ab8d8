import ImplicitScene.Program.Basic
import ImplicitScene.Shape.Arena

/-!
# Helper functions of a program

Four helpers are part of every program.  The others are there when a shape calls
them.
-/

namespace ImplicitScene

/-- A function that other functions call. -/
inductive Helper where
  /-- Two random numbers. -/
  | random
  /-- A vector perpendicular to another. -/
  | ortho
  /-- A direction around a normal. -/
  | aroundNormal
  /-- A direction from the whole sphere. -/
  | onSphere
  /-- The smooth minimum. -/
  | smoothMin
  /-- The smooth maximum. -/
  | smoothMax
  /-- The distance to an ellipsoid. -/
  | ellipsoid
  deriving Repr, DecidableEq

namespace Helper

/-- The helpers of every program. -/
def always : List Helper := [random, ortho, aroundNormal, onSphere]

/-- The helpers that are there when they are called. -/
def onDemand : List Helper := [smoothMin, smoothMax, ellipsoid]

/-- Every helper. -/
def all : List Helper := always ++ onDemand

/-- The head of a helper. -/
def signature : Helper → Signature
  | random => ⟨"vec2", "random", [⟨"float", "seed"⟩]⟩
  | ortho => ⟨"vec3", "ortho", [⟨"vec3", "v"⟩]⟩
  | aroundNormal =>
      ⟨"vec3", "calculateSample", [⟨"vec3", "normal"⟩, ⟨"float", "smoothness"⟩, ⟨"vec2", "noise"⟩]⟩
  | onSphere => ⟨"vec3", "sampleSphere", [⟨"vec2", "noise"⟩]⟩
  | smoothMin => ⟨"float", "smin", [⟨"float", "a"⟩, ⟨"float", "b"⟩, ⟨"float", "k"⟩]⟩
  | smoothMax => ⟨"float", "smax", [⟨"float", "a"⟩, ⟨"float", "b"⟩, ⟨"float", "k"⟩]⟩
  | ellipsoid => ⟨"float", "ellipsoid", [⟨"vec3", "p"⟩, ⟨"vec3", "r"⟩]⟩

/-- The lines of a helper. -/
def lines : Helper → List String
  | random =>
      ["vec2 s = uv * (1.0 + time + seed);",
        "return vec2(",
        "    fract(sin(dot(s, vec2(12.9898, 78.233))) * 43758.5453),",
        "    fract(cos(dot(s, vec2(4.898, 7.23))) * 23421.631));"]
  | ortho => ["return abs(v.x) > abs(v.z) ? vec3(-v.y, v.x, 0.0) : vec3(0.0, -v.z, v.y);"]
  | aroundNormal =>
      ["vec3 o1 = normalize(ortho(normal));",
        "vec3 o2 = normalize(cross(normal, o1));",
        "noise.x *= 2.0 * PI;",
        "noise.y = sqrt(smoothness + (1.0 - smoothness) * noise.y);",
        "float q = sqrt(1.0 - noise.y * noise.y);",
        "return q * (cos(noise.x) * o1 + sin(noise.x) * o2) + noise.y * normal;"]
  | onSphere =>
      ["noise.x *= 2.0 * PI;",
        "noise.y = noise.y * 2.0 - 1.0;",
        "float q = sqrt(1.0 - noise.y * noise.y);",
        "return vec3(q * cos(noise.x), q * sin(noise.x), noise.y);"]
  | smoothMin =>
      ["k = max(k, 1e-6);",
        "float h = max(k - abs(a - b), 0.0) / k;",
        "return min(a, b) - h * h * k * 0.25;"]
  | smoothMax =>
      ["k = max(k, 1e-6);",
        "float h = max(k - abs(a - b), 0.0) / k;",
        "return max(a, b) + h * h * k * 0.25;"]
  | ellipsoid =>
      ["float k0 = length(p / r);",
        "float k1 = max(length(p / (r * r)), 1e-9);",
        "return k0 * (k0 - 1.0) / k1;"]

/-- A helper as a function. -/
def function (h : Helper) : FunctionDef := ⟨h.signature, h.lines.map .line⟩

end Helper

/-- The helpers that the function of a shape calls, beyond those of every program. -/
def Kind.helpers : ShapeKind → List Helper
  | blend .union _ _ _ => [.smoothMin]
  | blend _ _ _ _ => [.smoothMax]
  | skull => [.smoothMin, .smoothMax, .ellipsoid]
  | _ => []

/-- The helpers of a program with the given shapes. -/
def Helper.needed (kinds : List ShapeKind) : List Helper :=
  always ++ onDemand.filter fun h => kinds.any fun kind => kind.helpers.contains h

end ImplicitScene
