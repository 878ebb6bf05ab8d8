import ImplicitScene.Proofs.Execution
import ImplicitScene.Proofs.Scope

/-!
# The choice among the models

A program has three functions that choose among the models, and a probe has three
questions that do the same.  The functions are statements: a running minimum for
the closest model, and a chain of guards for the normal and the material.  A probe
goes through the list of models, and looks a model up by its number.

Here the functions are run with the functions of each model taken from the probe.
They give what the probe gives, for every point and every number of a model, also
for numbers that no model has.  Where a model has no distance, both fail with the
same error.
-/

namespace ImplicitScene

open Shading
open Text (lex)

/-! ## The functions of the models -/

/-- The result of a question as the result of a function. -/
def Shading.answer {α : Type} (datum : α → Datum) : Except EvalError α → Except Fault Datum
  | .ok a => .ok (datum a)
  | .error e => .error (.failed e)

/-- The functions of the language, and those that build structures. -/
def Shading.builtin? : String → List Datum → Option Datum
  | "abs", [.float x] => some (.float x.abs)
  | "vec3", [.float x] => some (.vec3 (.splat x))
  | "Closest", [.int object, .float distance] => some (.closest ⟨object, distance⟩)
  | "Material", [.float transmittance, .float smoothness, .float refraction, .float scatter,
      .vec3 color, .vec3 emissivity] =>
      some (.material ⟨transmittance, smoothness, refraction, scatter, color, emissivity⟩)
  | _, _ => none

/-- The model that a function is named for. -/
def Scene.owner? (scene : Scene) (letters name : String) : Option Model :=
  scene.models.find? fun m => name == letters ++ toString m.id

namespace Probe

/-- The functions of the models, by what the probe says about them. -/
def modelFunction (v : Probe) (name : String) (args : List Datum) : Except Fault Datum :=
  match v.scene.owner? "distance" name, v.scene.owner? "normal" name,
    v.scene.owner? "material" name, args with
  | some m, _, _, [.vec3 p] => answer .float (v.distance m p)
  | _, some m, _, [.vec3 p] => answer .vec3 (v.normal m.id p)
  | _, _, some m, [.vec3 p, .vec3 n, .vec3 d] => answer .material (v.material m.id p n d)
  | _, _, _, _ => .error .stuck

/-- What the names mean in the three functions that choose. -/
def library (v : Probe) : Library where
  constant name := if name = "MAX_VALUE" then some (.float farAway) else none
  apply name args :=
    match builtin? name args with
    | some d => .ok d
    | none => v.modelFunction name args

end Probe

theorem Scene.owner?_numbered (scene : Scene) (letters : String) (k : Nat) :
    scene.owner? letters (letters ++ toString k) = scene.model? k := by
  unfold owner? model?
  congr 1
  funext m
  rw [Bool.eq_iff_iff, beq_iff_eq, decide_eq_true_iff, String.append_right_inj]
  constructor
  · intro h
    exact (toString_toList_inj (congrArg String.toList h)).symm
  · rintro rfl
    rfl

theorem Scene.id_of_model? {scene : Scene} {k : Nat} {m : Model} (h : scene.model? k = some m) :
    m.id = k := by
  simpa using List.find?_some h

/-- A function is named for one property of a model only. -/
theorem Scene.owner?_of_ne (scene : Scene) {letters other : String} (k : Nat)
    (hletters : letters.toList.all Char.isAlpha = true)
    (hother : other.toList.all Char.isAlpha = true) (hne : letters ≠ other) :
    scene.owner? letters (other ++ toString k) = none := by
  refine List.find?_eq_none.mpr fun m _ hname => hne (String.toList_inj.mp ?_)
  rw [← stem_letters hletters m.id, ← eq_of_beq hname, stem_letters hother]

theorem Shading.builtin?_point (name : String) (p : Float3) : builtin? name [.vec3 p] = none := by
  unfold builtin?
  split <;> simp_all

theorem Shading.builtin?_surface (name : String) (p n d : Float3) :
    builtin? name [.vec3 p, .vec3 n, .vec3 d] = none := by
  unfold builtin?
  split <;> simp_all

namespace Probe

variable {v : Probe} {k : Nat} {m : Model}

theorem apply_distance (h : v.scene.model? k = some m) (p : Float3) :
    v.library.apply ("distance" ++ toString k) [.vec3 p] = answer .float (v.distance m p) := by
  simp only [library, builtin?_point, modelFunction, Scene.owner?_numbered, h]

theorem apply_normal (h : v.scene.model? k = some m) (p : Float3) :
    v.library.apply ("normal" ++ toString k) [.vec3 p] = answer .vec3 (v.normal m.id p) := by
  have hdistance := @Scene.owner?_of_ne v.scene "distance" "normal" k (by decide) (by decide)
    (by decide)
  simp only [library, builtin?_point, modelFunction, Scene.owner?_numbered, h, hdistance]

theorem apply_material (h : v.scene.model? k = some m) (p n d : Float3) :
    v.library.apply ("material" ++ toString k) [.vec3 p, .vec3 n, .vec3 d] =
      answer .material (v.material m.id p n d) := by
  simp only [library, builtin?_surface, modelFunction, Scene.owner?_numbered, h]

end Probe

/-! ## The closest model -/

theorem read_candidate (n : Nat) :
    Command.read (lex s!"candidate = abs(distance{n}(position));".toList) =
      some (.assign "candidate"
        (.call "abs" [.call ("distance" ++ toString n) [.name "position"]])) := by
  rw [← ofList_numbered "distance"]
  exact (congrArg Command.read
    (lex_numbered "candidate = abs(" "distance" "(position));" n (by decide) (by decide))).trans rfl

theorem read_replace (n : Nat) :
    Command.read (lex s!"closest = Closest({n}, candidate);".toList) =
      some (.assign "closest" (.call "Closest" [.int n, .name "candidate"])) := by
  rw [← Term.ofWord_toString]
  exact (congrArg Command.read
    (lex_numbered "closest = Closest(" "" ", candidate);" n (by decide) (by decide))).trans rfl

theorem read_closer :
    Comparison.read (lex "if (candidate < closest.distance)".toList) =
      some (.less (.name "candidate") (.part "closest" "distance")) := rfl

theorem read_object (n : Nat) :
    Comparison.read (lex s!"if (object == {n})".toList) =
      some (.equal (.name "object") (.int n)) := by
  rw [← Term.ofWord_toString]
  exact (congrArg Comparison.read
    (lex_numbered "if (object == " "" ")" n (by decide) (by decide))).trans rfl

theorem read_start :
    Command.read (lex "Closest closest = Closest(0, MAX_VALUE);".toList) =
      some (.declare "closest" (some (.call "Closest" [.int 0, .name "MAX_VALUE"]))) := rfl

theorem read_unset :
    Command.read (lex "float candidate;".toList) = some (.declare "candidate" none) := rfl

theorem read_found :
    Command.read (lex "return closest;".toList) = some (.result (.name "closest")) := rfl

/-- The variables of the search: the point, the closest model so far and the last distance. -/
def searchVariables (position : Float3) (best : Closest) (candidate : Option Datum) : Variables :=
  [("candidate", candidate), ("closest", some (.closest best)), ("position", some (.vec3 position))]

section Search

variable {v : Probe} {m : Model} (h : v.scene.model? m.id = some m) (position : Float3)
  (best : Closest)

include h

theorem eval_candidate (candidate : Option Datum) :
    (Term.call "abs" [.call ("distance" ++ toString m.id) [.name "position"]]).eval v.library
        (searchVariables position best candidate) =
      answer (fun d => .float d.abs) (v.distance m position) := by
  have hdistance :
      (Term.call ("distance" ++ toString m.id) [.name "position"]).eval v.library
        (searchVariables position best candidate) = answer .float (v.distance m position) :=
    (Term.eval_call rfl).trans (Probe.apply_distance h position)
  cases hd : v.distance m position with
  | error e =>
      rw [hd] at hdistance
      rw [Term.eval, Term.evalAll, hdistance]
      rfl
  | ok d =>
      rw [hd] at hdistance
      have hargs : Term.evalAll v.library (searchVariables position best candidate)
          [.call ("distance" ++ toString m.id) [.name "position"]] = .ok [.float d] := by
        rw [Term.evalAll, hdistance]
        rfl
      exact Term.eval_call hargs

omit h in
/-- The block replaces the closest model so far exactly if the new one is closer. -/
theorem run_closer (m : Model) (d : Float32) :
    run v.library (searchVariables position best (some (.float d.abs)))
        (.block "if (candidate < closest.distance)"
          [.line s!"closest = Closest({m.id}, candidate);"]) =
      .ok (.next (searchVariables position (Probe.keepCloser best m d) (some (.float d.abs)))) := by
  have hholds : (Comparison.less (.name "candidate") (.part "closest" "distance")).holds v.library
      (searchVariables position best (some (.float d.abs))) =
        .ok (decide (d.abs < best.distance)) := rfl
  rw [run]
  by_cases hcloser : d.abs < best.distance
  · rw [decide_eq_true hcloser] at hholds
    have hline : run v.library (searchVariables position best (some (.float d.abs)))
        (.line s!"closest = Closest({m.id}, candidate);") =
          .ok (.next (searchVariables position ⟨m.id, d.abs⟩ (some (.float d.abs)))) := by
      rw [run_line (read_replace m.id)]
      rfl
    rw [within_of_holds read_closer hholds, runAll_of_next hline, Probe.keepCloser, if_pos hcloser]
    rfl
  · rw [decide_eq_false hcloser] at hholds
    rw [within_of_not_holds read_closer hholds, Probe.keepCloser, if_neg hcloser]

/-- One model in the search. -/
theorem runAll_closestCase (candidate : Option Datum) (rest : List Statement) :
    runAll v.library (searchVariables position best candidate) (closestCase m ++ rest) =
      match v.distance m position with
      | .error e => .error (.failed e)
      | .ok d => runAll v.library
          (searchVariables position (Probe.keepCloser best m d) (some (.float d.abs))) rest := by
  have hblank : run v.library (searchVariables position best candidate) .blank =
      .ok (.next (searchVariables position best candidate)) := rfl
  have hline := @run_line v.library (searchVariables position best candidate) _ _
    (read_candidate m.id)
  rw [Command.run, eval_candidate h] at hline
  rw [closestCase, List.cons_append, runAll_of_next hblank, List.cons_append]
  cases hd : v.distance m position with
  | error e =>
      rw [hd] at hline
      exact @runAll_of_result _ _ _ _ (.error (.failed e)) hline
  | ok d =>
      rw [hd] at hline
      rw [runAll_of_next hline]
      exact runAll_of_next (run_closer position best m d)

end Search

/-- The search over several models. -/
theorem runAll_closestCases {v : Probe} (position : Float3) {models : List Model}
    (h : ∀ m ∈ models, v.scene.model? m.id = some m) (best : Closest) (candidate : Option Datum) :
    runAll v.library (searchVariables position best candidate)
        (models.flatMap closestCase ++ [.blank, .line "return closest;"]) =
      (answer .closest (v.closestOf position best models)).map .returned := by
  induction models generalizing best candidate with
  | nil =>
      have hblank : run v.library (searchVariables position best candidate) .blank =
          .ok (.next (searchVariables position best candidate)) := rfl
      have hfound : run v.library (searchVariables position best candidate)
          (.line "return closest;") = (Except.ok (.closest best)).map .returned :=
        run_result read_found rfl
      rw [List.flatMap_nil, List.nil_append, runAll_of_next hblank]
      exact runAll_of_result hfound
  | cons m models ih =>
      rw [List.forall_mem_cons] at h
      rw [List.flatMap_cons, List.append_assoc, runAll_closestCase h.1, Probe.closestOf]
      cases v.distance m position with
      | error e => rfl
      | ok d => exact ih h.2 _ _

theorem call_closestDefinition {v : Probe} (h : ∀ m ∈ v.scene.models, v.scene.model? m.id = some m)
    (position : Float3) :
    (closestDefinition v.scene.models).call v.library [.vec3 position] =
      answer .closest (v.closest position) := by
  have hfirst : run v.library [("position", some (.vec3 position))]
      (.line "Closest closest = Closest(0, MAX_VALUE);") =
        .ok (.next
          [("closest", some (.closest ⟨0, farAway⟩)), ("position", some (.vec3 position))]) :=
    (run_line read_start).trans rfl
  have hsecond : run v.library
      [("closest", some (.closest ⟨0, farAway⟩)), ("position", some (.vec3 position))]
      (.line "float candidate;") = .ok (.next (searchVariables position ⟨0, farAway⟩ none)) :=
    (run_line read_unset).trans rfl
  have hsearch := runAll_closestCases position h ⟨0, farAway⟩ none
  rw [← Probe.closest] at hsearch
  refine FunctionDef.call_eq rfl ?_
  rw [← hsearch, ← runAll_of_next hsecond, ← runAll_of_next hfirst]
  rfl

/-! ## The normal and the material -/

/-- A chain of guards does what the model of the number asks for, or else goes on. -/
theorem runAll_objectCases {lib : Library} {vars : Variables} {object : Nat}
    (hobject : vars.get lib "object" = .ok (.int object)) {models : List Model}
    {statement : Model → String} {result : Model → Except Fault Datum}
    (h : ∀ m ∈ models, run lib vars (.line (statement m)) = (result m).map .returned)
    (rest : List Statement) :
    runAll lib vars (models.map (fun m => objectCase m (statement m)) ++ rest) =
      match models.find? fun m => m.id = object with
      | some m => (result m).map .returned
      | none => runAll lib vars rest := by
  induction models with
  | nil => rfl
  | cons m models ih =>
      rw [List.forall_mem_cons] at h
      have hholds : (Comparison.equal (.name "object") (.int m.id)).holds lib vars =
          .ok (object == m.id) := by
        rw [Comparison.holds, Term.eval, Term.eval, hobject]
        rfl
      rw [List.map_cons, List.cons_append, List.find?_cons]
      by_cases hid : m.id = object
      · rw [beq_iff_eq.mpr hid.symm] at hholds
        have hguard : run lib vars (objectCase m (statement m)) = (result m).map .returned := by
          rw [objectCase, run, within_of_holds (read_object m.id) hholds, h.1]
          cases result m <;> rfl
        rw [decide_eq_true hid]
        exact runAll_of_result hguard
      · rw [beq_false_of_ne (Ne.symm hid)] at hholds
        have hguard : run lib vars (objectCase m (statement m)) = .ok (.next vars) := by
          rw [objectCase, run, within_of_not_holds (read_object m.id) hholds]
        rw [decide_eq_false hid, runAll_of_next hguard]
        exact ih h.2

theorem read_normal (n : Nat) :
    Command.read (lex s!"return normal{n}(position);".toList) =
      some (.result (.call ("normal" ++ toString n) [.name "position"])) := by
  rw [← ofList_numbered "normal"]
  exact (congrArg Command.read
    (lex_numbered "return " "normal" "(position);" n (by decide) (by decide))).trans rfl

theorem read_material (n : Nat) :
    Command.read (lex s!"return material{n}(position, normal, direction);".toList) =
      some (.result (.call ("material" ++ toString n)
        [.name "position", .name "normal", .name "direction"])) := by
  rw [← ofList_numbered "material"]
  exact (congrArg Command.read
    (lex_numbered "return " "material" "(position, normal, direction);" n (by decide)
      (by decide))).trans rfl

theorem read_noNormal :
    Command.read (lex "return vec3(0.0);".toList) =
      some (.result (.call "vec3" [.decimal 0 1])) := rfl

theorem read_noMaterial :
    Command.read
        (lex "return Material(0.0, 0.0, 0.0, 0.0, vec3(0.0), vec3(0.0));".toList) =
      some (.result (.call "Material" [.decimal 0 1, .decimal 0 1, .decimal 0 1, .decimal 0 1,
        .call "vec3" [.decimal 0 1], .call "vec3" [.decimal 0 1]])) := rfl

section Lookup

variable {v : Probe} (h : ∀ m ∈ v.scene.models, v.scene.model? m.id = some m) (object : Nat)
  (position : Float3)

include h

theorem call_normalChoice :
    (normalChoice v.scene.models).call v.library [.int object, .vec3 position] =
      answer .vec3 (v.normal object position) := by
  have hcase : ∀ m ∈ v.scene.models,
      run v.library [("object", some (.int object)), ("position", some (.vec3 position))]
        (.line s!"return normal{m.id}(position);") =
          (answer .vec3 (v.normal m.id position)).map .returned := by
    intro m hm
    refine run_result (read_normal m.id) ?_
    exact (Term.eval_call rfl).trans (Probe.apply_normal (h m hm) position)
  refine FunctionDef.call_eq rfl ((runAll_objectCases rfl hcase _).trans ?_)
  rw [← Scene.model?]
  cases hmodel : v.scene.model? object with
  | some m =>
      obtain rfl := Scene.id_of_model? hmodel
      rfl
  | none =>
      rw [Probe.normal, hmodel]
      exact runAll_of_result (run_result read_noNormal rfl)

theorem call_materialChoice (normal direction : Float3) :
    (materialChoice v.scene.models).call v.library
        [.int object, .vec3 position, .vec3 normal, .vec3 direction] =
      answer .material (v.material object position normal direction) := by
  have hcase : ∀ m ∈ v.scene.models,
      run v.library [("object", some (.int object)), ("position", some (.vec3 position)),
          ("normal", some (.vec3 normal)), ("direction", some (.vec3 direction))]
        (.line s!"return material{m.id}(position, normal, direction);") =
          (answer .material (v.material m.id position normal direction)).map .returned := by
    intro m hm
    refine run_result (read_material m.id) ?_
    exact (Term.eval_call rfl).trans (Probe.apply_material (h m hm) position normal direction)
  refine FunctionDef.call_eq rfl ((runAll_objectCases rfl hcase _).trans ?_)
  rw [← Scene.model?]
  cases hmodel : v.scene.model? object with
  | some m =>
      obtain rfl := Scene.id_of_model? hmodel
      rfl
  | none =>
      rw [Probe.material, hmodel]
      exact runAll_of_result (run_result read_noMaterial rfl)

end Lookup

/-! ## Programs -/

/-- A function is called by its name. -/
theorem Builder.WellFormed.call_eq {b : Builder} (hw : b.WellFormed) (o : Options) (lib : Library)
    {f : FunctionDef} (hf : f ∈ b.scene.definitions) (args : List Datum) :
    (b.scene.program o).call lib f.name args = f.call lib args := by
  have hfind : (b.scene.program o).function? f.name = some f := by
    rw [Program.function?, Scene.program_functions, ← List.head?_filter,
      filter_name_eq hw.definitions_nodup hf]
    rfl
  rw [Program.call, hfind]

/-- The functions that choose among the models, run statement by statement, give what a probe gives:
the closest model, the normal and the material, or the error of a model. -/
theorem Builder.Reachable.choice_eq_probe {b : Builder} (h : b.Reachable) (o : Options)
    (epsilon : Float32) (frame : Context) :
    let v : Probe := { scene := b.scene, epsilon, frame }
    let call := (b.scene.program o).call v.library
    (∀ position, call "calculateClosest" [.vec3 position] = answer .closest (v.closest position)) ∧
    (∀ object position, call "calculateNormal" [.int object, .vec3 position] =
      answer .vec3 (v.normal object position)) ∧
    ∀ object position normal direction,
      call "calculateMaterial" [.int object, .vec3 position, .vec3 normal, .vec3 direction] =
        answer .material (v.material object position normal direction) := by
  intro v call
  have hw := h.wellFormed
  have hmodels : ∀ m ∈ v.scene.models, v.scene.model? m.id = some m := fun m hm => hw.model?_eq hm
  have hcall : ∀ f ∈ [closestDefinition b.models, normalChoice b.models, materialChoice b.models],
      ∀ args, call f.name args = f.call v.library args := by
    intro f hf args
    exact hw.call_eq o v.library (List.mem_append_right _ (List.mem_cons_of_mem _ hf)) args
  simp only [List.forall_mem_cons] at hcall
  obtain ⟨hclosest, hnormal, hmaterial, -⟩ := hcall
  refine ⟨fun position => ?_, fun object position => ?_, fun object position normal direction => ?_⟩
  · exact (hclosest _).trans (call_closestDefinition hmodels position)
  · exact (hnormal _).trans (call_normalChoice hmodels object position)
  · exact (hmaterial _).trans (call_materialChoice hmodels object position normal direction)

/-- One ball shown twice, so that every point is equally far from both models. -/
def Builder.twins : Builder :=
  let b := ((Build.push .sphere).runOn (.empty 1)).2
  let b := ((Build.model ⟨1, 1⟩ {}).runOn b).2
  ((Build.model ⟨1, 1⟩ {}).runOn b).2

/-- The program and the probe choose the same of two models that tie, and no model has number 0. -/
theorem choice_eq_probe_twins :
    let v : Probe := { scene := Builder.twins.scene, epsilon := 0.5 }
    let call := (Builder.twins.scene.program {}).call v.library
    Builder.twins.Reachable ∧ Builder.twins.models.length = 2 ∧
      (∀ position, call "calculateClosest" [.vec3 position] =
        answer .closest (v.closest position)) ∧
      ∀ position, call "calculateNormal" [.int 0, .vec3 position] = .ok (.vec3 .zero) := by
  intro v call
  have hreachable : Builder.twins.Reachable := .model _ _ (.model _ _ (.push _ (.empty 1)))
  obtain ⟨hclosest, hnormal, -⟩ := hreachable.choice_eq_probe {} v.epsilon v.frame
  exact ⟨hreachable, rfl, hclosest, fun position => (hnormal 0 position).trans rfl⟩

end ImplicitScene
