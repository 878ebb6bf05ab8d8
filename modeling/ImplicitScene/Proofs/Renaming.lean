import ImplicitScene.Program.Assembly
import ImplicitScene.Proofs.Agreement
import ImplicitScene.Proofs.Histories

/-!
# Other tags

A tag tells the handles of one arena from those of another, and that is all it
does.  To see this, let every tag `t` become `ρ t`.  If different tags stay
different, then every operation on the renamed builder does what it does on the
builder, only with renamed handles.

The order below a shape, the program text and the distances mention handles by
their numbers alone, so they do not change at all.
-/

namespace ImplicitScene

/-! ## Renaming -/

/-- The handle under another tag. -/
def ShapeId.rename (ρ : Nat → Nat) (id : ShapeId) : ShapeId := ⟨ρ id.arena, id.number⟩

/-- The stored shape under another tag. -/
def Node.rename (ρ : Nat → Nat) (node : Node) : Node :=
  ⟨node.id.rename ρ, node.kind.map (ShapeId.rename ρ)⟩

/-- The arena under another tag. -/
def Arena.rename (ρ : Nat → Nat) (arena : Arena) : Arena :=
  ⟨ρ arena.tag, arena.nodes.map (Node.rename ρ)⟩

/-- The model under another tag. -/
def Model.rename (ρ : Nat → Nat) (m : Model) : Model := { m with shape := m.shape.rename ρ }

/-- The scene under another tag. -/
def Scene.rename (ρ : Nat → Nat) (scene : Scene) : Scene :=
  ⟨scene.shapes.rename ρ, scene.models.map (Model.rename ρ), scene.camera, scene.air⟩

/-- The builder under another tag. -/
def Builder.rename (ρ : Nat → Nat) (b : Builder) : Builder :=
  ⟨b.shapes.rename ρ, b.models.map (Model.rename ρ), b.camera, b.air⟩

/-- The error under another tag. -/
def SceneError.rename (ρ : Nat → Nat) : SceneError → SceneError
  | unknownShape id => unknownShape (id.rename ρ)
  | e => e

/-- The reply under another tag. -/
def Reply.rename (ρ : Nat → Nat) : Reply → Reply
  | shape id => shape (id.rename ρ)
  | reply => reply

/-- No message tells the tag. -/
theorem SceneError.message_rename (ρ : Nat → Nat) (e : SceneError) :
    (e.rename ρ).message = e.message := by
  cases e <;> rfl

variable {ρ : Nat → Nat}

namespace Arena

theorem size_rename (arena : Arena) : (arena.rename ρ).size = arena.size := by
  simp [size, rename]

theorem contains_rename (hρ : Function.Injective ρ) (arena : Arena) (id : ShapeId) :
    (arena.rename ρ).contains (id.rename ρ) = arena.contains id := by
  have htag : ρ id.arena = ρ arena.tag ↔ id.arena = arena.tag := hρ.eq_iff
  rw [Bool.eq_iff_iff, contains_iff, contains_iff, size_rename]
  exact and_congr_left' htag

theorem get?_rename (hρ : Function.Injective ρ) (arena : Arena) (id : ShapeId) :
    (arena.rename ρ).get? (id.rename ρ) = (arena.get? id).map (Node.rename ρ) := by
  rw [get?, get?, contains_rename hρ]
  cases arena.contains id with
  | false => rfl
  | true =>
      rw [if_pos rfl, if_pos rfl]
      exact Array.getElem?_map

theorem dependencies_rename (hρ : Function.Injective ρ) (arena : Arena) (id : ShapeId) :
    (arena.rename ρ).dependencies (id.rename ρ) =
      (arena.dependencies id).map (ShapeId.rename ρ) := by
  rw [dependencies, dependencies, get?_rename hρ]
  cases arena.get? id with
  | none => rfl
  | some node => exact Kind.children_map _ _

theorem insert_rename (arena : Arena) (kind : ShapeKind) :
    (arena.rename ρ).insert (kind.map (ShapeId.rename ρ)) =
      ((arena.insert kind).1.rename ρ, (arena.insert kind).2.rename ρ) := by
  rw [insert, insert, size_rename]
  simp only [rename, Array.map_push]
  rfl

end Arena

/-! ## The order below a shape -/

namespace Walk

/-- The walk under another tag. -/
def rename (ρ : Nat → Nat) (w : Walk) : Walk :=
  ⟨w.stack.map fun v => ⟨v.id.rename ρ, v.next⟩, w.listed, w.order.map (ShapeId.rename ρ)⟩

theorem start_rename (hρ : Function.Injective ρ) (arena : Arena) (root : ShapeId) :
    start (arena.rename ρ) (root.rename ρ) = (start arena root).rename ρ := by
  rw [start, start, Arena.contains_rename hρ, Arena.size_rename]
  cases arena.contains root <;> simp [rename]

theorem hasListed_rename (w : Walk) (id : ShapeId) :
    (w.rename ρ).hasListed (id.rename ρ) = w.hasListed id := rfl

/-- A turn sees the tags only through what the arena contains. -/
theorem turn_rename (hρ : Function.Injective ρ) (arena : Arena) (w : Walk) :
    (w.rename ρ).turn (arena.rename ρ) = (w.turn arena).rename ρ := by
  have hstack : (w.rename ρ).stack = w.stack.map fun v => ⟨v.id.rename ρ, v.next⟩ := rfl
  rw [turn, turn, hstack]
  cases w.stack with
  | nil => rfl
  | cons top rest =>
      rw [List.map_cons]
      dsimp only
      rw [Arena.dependencies_rename hρ, List.getElem?_map]
      cases (arena.dependencies top.id)[top.next]? with
      | some child =>
          rw [Option.map_some]
          dsimp only
          rw [Arena.contains_rename hρ, hasListed_rename]
          cases arena.contains child && !w.hasListed child <;> rfl
      | none =>
          rw [Option.map_none]
          dsimp only
          rw [hasListed_rename]
          cases w.hasListed top.id with
          | true => rfl
          | false => exact congrArg (Walk.mk _ _) Array.map_push.symm

theorem run_rename (hρ : Function.Injective ρ) (arena : Arena) (turns : Nat) (w : Walk) :
    run (arena.rename ρ) turns (w.rename ρ) = (run arena turns w).rename ρ := by
  induction turns generalizing w with
  | zero => rfl
  | succ turns ih =>
      obtain ⟨stack, listed, order⟩ := w
      cases stack with
      | nil => rfl
      | cons top rest =>
          rw [run, run]
          exact (congrArg _ (turn_rename hρ arena _)).trans (ih _)

end Walk

namespace Arena

theorem turns_rename (arena : Arena) : (arena.rename ρ).turns = arena.turns := by
  have hlength : ∀ node : Node, (node.rename ρ).dependencies.length = node.dependencies.length := by
    intro node
    rw [Node.dependencies, Node.rename, Kind.children_map, List.length_map, Node.dependencies]
  simp only [turns, rename, Array.foldl_map, hlength]

theorem order_rename (hρ : Function.Injective ρ) (arena : Arena) (root : ShapeId) :
    (arena.rename ρ).order (root.rename ρ) = (arena.order root).map (ShapeId.rename ρ) := by
  rw [order, order, turns_rename, Walk.start_rename hρ, Walk.run_rename hρ]
  exact Array.toList_map

end Arena
/-! ## Program text -/

theorem Kind.body_map (model : Nat) (kind : ShapeKind) :
    (kind.map (ShapeId.rename ρ)).body model = kind.body model := by
  cases kind <;> rfl

theorem Kind.helpers_map (kind : ShapeKind) :
    (kind.map (ShapeId.rename ρ)).helpers = kind.helpers := by
  cases kind with
  | blend op => cases op <;> rfl
  | _ => rfl

theorem Helper.needed_map (kinds : List ShapeKind) :
    needed (kinds.map (Kind.map (ShapeId.rename ρ))) = needed kinds := by
  simp only [needed, List.any_map, Function.comp_def, Kind.helpers_map]

/-- The shapes below a shape, renamed. -/
theorem Arena.filterMap_order_rename (hρ : Function.Injective ρ) (arena : Arena) (root : ShapeId) :
    ((arena.rename ρ).order (root.rename ρ)).filterMap (arena.rename ρ).get? =
      ((arena.order root).filterMap arena.get?).map (Node.rename ρ) := by
  rw [order_rename hρ, List.filterMap_map, List.map_filterMap]
  exact List.filterMap_congr fun id _ => get?_rename hρ arena id

theorem shapeDefinition_rename (model : Nat) (node : Node) :
    shapeDefinition model (node.rename ρ) = shapeDefinition model node := by
  rw [shapeDefinition, shapeDefinition, Node.rename, Kind.body_map]
  rfl

theorem modelDefinitions_rename (hρ : Function.Injective ρ) (shapes : Arena) (m : Model) :
    modelDefinitions (shapes.rename ρ) (m.rename ρ) = modelDefinitions shapes m := by
  have hshapes : shapeDefinition m.id ∘ Node.rename ρ = shapeDefinition m.id :=
    funext (shapeDefinition_rename m.id)
  have horder : ((shapes.rename ρ).order (m.rename ρ).shape).filterMap (shapes.rename ρ).get? =
      ((shapes.order m.shape).filterMap shapes.get?).map (Node.rename ρ) :=
    Arena.filterMap_order_rename hρ shapes m.shape
  rw [modelDefinitions, modelDefinitions, horder, List.map_map]
  exact congrArg (List.map · _ ++ _) hshapes

namespace Scene

theorem usedKinds_rename (hρ : Function.Injective ρ) (scene : Scene) :
    (scene.rename ρ).usedKinds = scene.usedKinds.map (Kind.map (ShapeId.rename ρ)) := by
  rw [usedKinds, usedKinds, rename, List.flatMap_map, List.map_flatMap]
  refine List.flatMap_congr fun m _ => ?_
  have horder := Arena.filterMap_order_rename hρ scene.shapes m.shape
  rw [Model.rename, horder, List.map_map, List.map_map]
  rfl

/-- No function mentions a tag. -/
theorem definitions_rename (hρ : Function.Injective ρ) (scene : Scene) :
    (scene.rename ρ).definitions = scene.definitions := by
  have hmodels : (scene.rename ρ).models.flatMap (modelDefinitions (scene.rename ρ).shapes) =
      scene.models.flatMap (modelDefinitions scene.shapes) := by
    rw [rename, List.flatMap_map]
    exact List.flatMap_congr fun m _ => modelDefinitions_rename hρ scene.shapes m
  have hclosest : closestDefinition (scene.rename ρ).models = closestDefinition scene.models := by
    rw [closestDefinition, closestDefinition, rename, List.flatMap_map]
    rfl
  have hnormal : normalChoice (scene.rename ρ).models = normalChoice scene.models := by
    rw [normalChoice, normalChoice, rename, List.map_map]
    rfl
  have hmaterial : materialChoice (scene.rename ρ).models = materialChoice scene.models := by
    rw [materialChoice, materialChoice, rename, List.map_map]
    rfl
  rw [definitions, definitions, usedKinds_rename hρ, Helper.needed_map, hmodels, hclosest, hnormal,
    hmaterial]
  rfl

theorem program_rename (hρ : Function.Injective ρ) (scene : Scene) (o : Options) :
    (scene.rename ρ).program o = scene.program o := by
  rw [program, program, definitions_rename hρ]

end Scene

/-! ## Distances -/

theorem Arena.WellFormed.distance_rename (hρ : Function.Injective ρ) {arena : Arena}
    (hw : arena.WellFormed) (hrenamed : (arena.rename ρ).WellFormed) (ctx : Context) {id : ShapeId}
    (hid : arena.contains id = true) (point cell : Float3) :
    (arena.rename ρ).distance ctx (id.rename ρ) point cell = arena.distance ctx id point cell := by
  refine hw.distance_of_copy hrenamed (fun {id node} hget => ⟨node.rename ρ, ?_, rfl⟩) ctx id hid
    point cell
  rw [get?_rename hρ, hget]
  rfl

/-- The scenes of a builder and of the renamed builder agree. -/
theorem Builder.WellFormed.agree_rename (hρ : Function.Injective ρ) {b : Builder}
    (hw : b.WellFormed) (hrenamed : (b.rename ρ).WellFormed) :
    b.scene.Agree (b.rename ρ).scene where
  models := by
    change List.Forall₂ _ b.models (b.models.map (Model.rename ρ))
    rw [List.forall₂_map_right_iff, List.forall₂_same]
    intro m hm
    exact ⟨rfl, fun ctx point cell => (hw.shapes.distance_rename hρ hrenamed.shapes ctx
      (hw.model_shape m hm) point cell).symm, fun _ => rfl⟩
  camera := ⟨fun _ => rfl, fun _ => rfl, fun _ => rfl, fun _ => rfl, fun _ => rfl⟩
  air _ := rfl

/-! ## Operations -/

/-- The operation on other shapes. -/
def Operation.map {σ τ : Type} (f : σ → τ) : Operation σ → Operation τ
  | push kind => .push (kind.map f)
  | modulate period child => .modulate period (f child)
  | model shape material => .model (f shape) material
  | camera c => .camera c
  | air m => .air m

/-- What an operation ends in. -/
abbrev Outcome := Except SceneError Reply

/-- The outcome under another tag. -/
def Outcome.rename (ρ : Nat → Nat) : Outcome → Outcome
  | .ok reply => .ok (reply.rename ρ)
  | .error e => .error (e.rename ρ)

/-- An error about anything but a shape has no tag. -/
theorem SceneError.rename_of_ne {e : SceneError} (h : ∀ id, e ≠ .unknownShape id) :
    e.rename ρ = e := by
  cases e with
  | unknownShape id => exact absurd rfl (h id)
  | _ => rfl

theorem Slot.rename_of_checkAll {unbound : List Variable} {slots : List Slot} {e : SceneError}
    (h : checkAll unbound slots = .error e) : e.rename ρ = e :=
  SceneError.rename_of_ne fun id heq => checkAll_ne_unknownShape id unbound slots (heq ▸ h)

theorem Material.rename_of_validate {m : Material} {e : SceneError} (h : m.validate = .error e) :
    e.rename ρ = e :=
  SceneError.rename_of_ne fun id heq =>
    Slot.all_checkType_ne_unknownShape id m.slots (heq ▸ h)

theorem Arena.admits_rename (hρ : Function.Injective ρ) (arena : Arena) (kind : ShapeKind) :
    (arena.rename ρ).admits (kind.map (ShapeId.rename ρ)) =
      (arena.admits kind).mapError (SceneError.rename ρ) := by
  have hcontains : (fun c => !(arena.rename ρ).contains c) ∘ ShapeId.rename ρ =
      fun c => !arena.contains c :=
    funext fun c => congrArg _ (contains_rename hρ arena c)
  rw [admits, admits, Kind.children_map, Kind.parameters_map, List.find?_map, hcontains]
  cases kind.children.find? fun c => !arena.contains c with
  | some missing => rfl
  | none =>
      dsimp only [Option.map_none]
      cases h : Slot.checkAll unboundInShapes kind.parameters with
      | ok u => rfl
      | error e => exact congrArg Except.error (Slot.rename_of_checkAll h).symm

namespace Operation

/-- An operation does the same under another tag. -/
theorem perform_rename (hρ : Function.Injective ρ) (op : Operation ShapeId) (b : Builder) :
    (op.map (ShapeId.rename ρ)).perform.runOn (b.rename ρ) =
      (Outcome.rename ρ (op.perform.runOn b).1, (op.perform.runOn b).2.rename ρ) := by
  have hpush : ∀ kind : ShapeKind,
      (push (kind.map (ShapeId.rename ρ))).perform.runOn (b.rename ρ) =
        (Outcome.rename ρ ((push kind).perform.runOn b).1,
          ((push kind).perform.runOn b).2.rename ρ) := by
    intro kind
    rw [push_perform, push_perform, Builder.rename]
    dsimp only
    rw [Arena.admits_rename hρ, Arena.insert_rename]
    cases b.shapes.admits kind <;> rfl
  cases op with
  | push kind => exact hpush kind
  | modulate period child =>
      rw [map, modulate_perform, modulate_perform]
      exact hpush (.tile .perCell period child)
  | model shape material =>
      rw [map, model_perform, model_perform, Builder.rename]
      dsimp only
      rw [Arena.contains_rename hρ, List.length_map]
      cases b.shapes.contains shape with
      | false => rfl
      | true =>
          rw [if_pos rfl, if_pos rfl]
          cases h : material.validate with
          | ok u =>
              dsimp only
              rw [Builder.rename, List.map_append]
              rfl
          | error e =>
              dsimp only [Outcome.rename]
              rw [Material.rename_of_validate h]
              rfl
  | camera c =>
      rw [map, camera_perform, camera_perform]
      cases h : c.validate with
      | ok u => rfl
      | error e =>
          dsimp only [Outcome.rename]
          rw [Slot.rename_of_checkAll h]
  | air m =>
      rw [map, air_perform, air_perform]
      cases h : m.validate with
      | ok u => rfl
      | error e =>
          dsimp only [Outcome.rename]
          rw [Material.rename_of_validate h]

end Operation

end ImplicitScene
