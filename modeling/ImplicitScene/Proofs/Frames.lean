import ImplicitScene.Proofs.FunctionText

/-!
# The lines of shapes

A line of program text is woven from literals and the texts between them.  The
literals of a shape depend on its form only, that is on the shape without its
parameters and children.  They are its *frame*.  What stands between them are the
texts of the parameters, and calls of the functions of the children.

So what is asked of all literals can be decided form by form, and what is asked
of the rest is asked of parameters and calls.
-/

namespace ImplicitScene

open Text

/-! ## Weaving -/

/-- A text woven from literals and the texts between them. -/
def weave : (literals holes : List String) → String
  | [], _ => ""
  | l :: _, [] => l
  | l :: ls, h :: hs => l ++ h ++ weave ls hs

/-- Lists of texts with their characters. -/
structure Text.Spelling.Table (lines : List (List String)) where
  /-- The characters of the texts. -/
  chars : List (List (List Char))
  /-- The characters spell the texts. -/
  spells : chars.map (List.map String.ofList) = lines

namespace Text.Spelling.Table

/-- No lists. -/
def nil : Table [] := ⟨[], rfl⟩

/-- One list more. -/
def cons {texts : List String} (s : Spelling texts) {lines : List (List String)} (t : Table lines) :
    Table (texts :: lines) :=
  ⟨s.chars :: t.chars, by rw [List.map_cons, s.spells, t.spells]⟩

theorem exists_of_mem {lines : List (List String)} (t : Table lines) {texts : List String}
    (h : texts ∈ lines) : ∃ chars ∈ t.chars, texts = chars.map String.ofList := by
  rw [← t.spells] at h
  obtain ⟨chars, hchars, rfl⟩ := List.mem_map.mp h
  exact ⟨chars, hchars, rfl⟩

end Text.Spelling.Table

/-! ## Frames -/

namespace Kind

/-- The form of a kind, without its parameters and children. -/
def form {ε σ : Type} : Kind ε σ → Kind Unit Unit
  | sphere => sphere
  | cube => cube
  | skull => skull
  | plane _ _ => plane () ()
  | smoothBox _ _ => smoothBox () ()
  | cylinder _ _ => cylinder () ()
  | torus _ _ => torus () ()
  | truchet _ => truchet ()
  | translate _ _ => translate () ()
  | scale _ _ => scale () ()
  | rotate axis _ _ => rotate axis () ()
  | combine op _ _ => combine op () ()
  | blend op _ _ _ => blend op () () ()
  | tile mode _ _ => tile mode () ()

/-- Every form. -/
def forms : List (Kind Unit Unit) :=
  [sphere, cube, skull, plane () (), smoothBox () (), cylinder () (), torus () (), truchet (),
    translate () (), scale () (), rotate .x () (), rotate .y () (), rotate .z () (),
    combine .union () (), combine .intersection () (), combine .difference () (),
    blend .union () () (), blend .intersection () () (), blend .difference () () (),
    tile .perCell () (), tile .shared () ()]

theorem form_mem_forms {ε σ : Type} (kind : Kind ε σ) : kind.form ∈ forms := by
  cases kind with
  | rotate axis => cases axis <;> simp [form, forms]
  | combine op | blend op => cases op <;> simp [form, forms]
  | tile mode => cases mode <;> simp [form, forms]
  | _ => simp [form, forms]

/-- The literals of the lines of a shape. -/
def frame : Kind Unit Unit → List (List String)
  | sphere => [["return length(p) - 0.5;"]]
  | cube =>
      [["vec3 _q = abs(p) - vec3(0.5);"],
        ["return length(max(_q, vec3(0.0))) + min(max(_q.x, max(_q.y, _q.z)), 0.0);"]]
  | skull =>
      [["vec3 _m = vec3(abs(p.x), p.y, p.z);"],
        ["float _d = smin(ellipsoid(p - vec3(0.0, 0.12, -0.05), vec3(0.36, 0.34, 0.42)),"],
        ["    ellipsoid(p - vec3(0.0, -0.12, 0.12), vec3(0.26, 0.24, 0.28)), 0.12);"],
        ["_d = smin(_d, ellipsoid(p - vec3(0.0, -0.32, 0.1), vec3(0.18, 0.1, 0.2)), 0.08);"],
        ["_d = smax(_d, -(length(_m - vec3(0.11, -0.06, 0.32)) - 0.08), 0.03);"],
        ["return smax(_d, -ellipsoid(_m - vec3(0.025, -0.17, 0.38), vec3(0.03, 0.05, 0.06)), 0.02);"]]
  | plane _ _ => [["return dot(p, ", ") + ", ";"]]
  | smoothBox _ _ =>
      [["float _r = ", ";"], ["vec3 _q = abs(p) - ", " * 0.5 + vec3(_r);"],
        ["return length(max(_q, vec3(0.0))) + min(max(_q.x, max(_q.y, _q.z)), 0.0) - _r;"]]
  | cylinder _ _ =>
      [["vec2 _d = vec2(length(p.xz) - ", ", abs(p.y) - ", " * 0.5);"],
        ["return min(max(_d.x, _d.y), 0.0) + length(max(_d, vec2(0.0)));"]]
  | torus _ _ =>
      [["vec2 _q = vec2(length(p.xz) - ", ", p.y);"], ["return length(_q) - ", ";"]]
  | truchet _ =>
      [["vec3 _c = floor(p);"], ["vec3 _q = p - _c - vec3(0.5);"],
        ["if (fract(sin(dot(_c, vec3(7.0, 157.0, 113.0))) * 43758.5453) > 0.5)"],
        ["    _q.x = -_q.x;"],
        ["float _a = length(vec2(length(_q.xy - vec2(0.5, 0.5)) - 0.5, _q.z));"],
        ["float _b = length(vec2(length(_q.yz - vec2(-0.5, -0.5)) - 0.5, _q.x));"],
        ["float _e = length(vec2(length(_q.xz - vec2(-0.5, 0.5)) - 0.5, _q.y));"],
        ["return min(_a, min(_b, _e)) - ", ";"]]
  | translate _ _ => [["return ", ";"]]
  | scale _ _ => [["float _s = ", ";"], ["return ", " * _s;"]]
  | rotate _ _ _ =>
      [["float _a = ", ";"], ["float _c = cos(_a);"], ["float _s = sin(_a);"], ["return ", ";"]]
  | combine .union _ _ => [["return min(", ", ", ");"]]
  | combine .intersection _ _ => [["return max(", ", ", ");"]]
  | combine .difference _ _ => [["return max(", ", -", ");"]]
  | blend .union _ _ _ => [["return smin(", ", ", ", ", ");"]]
  | blend .intersection _ _ _ => [["return smax(", ", ", ", ", ");"]]
  | blend .difference _ _ _ => [["return smax(", ", -", ", ", ");"]]
  | tile _ _ _ =>
      [["vec3 _span = abs(", ");"],
        ["vec3 _index = floor(p / max(_span, vec3(1e-6)) + 0.5) * step(vec3(1e-6), _span);"],
        ["return ", ";"]]

/-- What stands between the literals of the lines of a shape. -/
def holes (model : Nat) : ShapeKind → List (List String)
  | sphere => [[]]
  | cube => [[], []]
  | skull => [[], [], [], [], [], []]
  | plane normal offset => [[normal.glsl, offset.glslScalar]]
  | smoothBox size radius => [[radius.glslScalar], [size.glsl], []]
  | cylinder radius height => [[radius.glslScalar, height.glslScalar], []]
  | torus major minor => [[major.glslScalar], [minor.glslScalar]]
  | truchet thickness => [[], [], [], [], [], [], [], [thickness.glslScalar]]
  | translate offset child => [[shapeCall model child ("p - " ++ offset.glsl) "cell"]]
  | scale factor child => [[factor.glslScalar], [shapeCall model child "p / _s" "cell"]]
  | rotate axis angle child =>
      [[angle.glslScalar], [], [], [shapeCall model child axis.turnedText "cell"]]
  | combine _ a b => [[shapeCall model a "p" "cell", shapeCall model b "p" "cell"]]
  | blend _ a b radius =>
      [[shapeCall model a "p" "cell", shapeCall model b "p" "cell", radius.glslScalar]]
  | tile mode period child =>
      [[period.glsl], [], [shapeCall model child "p - _span * _index" mode.cellText]]

/-- The lines of a shape are its frame with its holes filled. -/
theorem body_eq (model : Nat) (kind : ShapeKind) :
    kind.body model = List.zipWith weave kind.form.frame (kind.holes model) := by
  have hstring : ∀ s : String, toString s = s := fun _ => rfl
  cases kind with
  | sphere | skull | plane | cylinder | torus | truchet | translate | scale | rotate | tile =>
      simp [body, form, frame, holes, weave, hstring, String.append_assoc]
  | cube | smoothBox =>
      -- two literals meet where the text of the corner is put in
      simp only [body, form, frame, holes, weave, List.zipWith, String.append_assoc]
      rfl
  | combine op | blend op =>
      cases op <;> simp [body, form, frame, holes, weave, hstring, String.append_assoc]

/-- The characters of the frame of a form. -/
def frameSpelling (form : Kind Unit Unit) : Spelling.Table form.frame := by
  cases form with
  | combine op | blend op =>
      cases op <;>
        (repeat first | exact .nil | refine .cons (by repeat first | exact .nil | refine .cons _ ?_) ?_)
  | _ => repeat first | exact .nil | refine .cons (by repeat first | exact .nil | refine .cons _ ?_) ?_

end Kind
end ImplicitScene
