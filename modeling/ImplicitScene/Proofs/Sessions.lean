import Mathlib.Logic.Equiv.Basic
import ImplicitScene.Proofs.Renaming
import ImplicitScene.Scene.Batch

/-!
# Sessions

In a session the operations on a builder name shapes by the steps that made
them.  A bench is a builder with the outcomes of its steps, from which these names
are resolved.

A session runs many builders side by side, and each of them draws its tag when it
is started.  What becomes of a builder depends on the operations on it alone.
Neither the tag it drew nor what happens to other builders has a part in it: two
builders that are started anywhere, in one session or in two, and then go through
the same operations, give the same outcomes step by step.  Their scenes have the
same program text and give the same answers.

The operations on one builder make a run of its bench, and two runs that begin
with different tags are the same run under a renaming of tags.
-/

namespace ImplicitScene

/-! ## Benches -/

/-- A builder, and what came of the steps on it. -/
structure Bench where
  /-- The builder. -/
  builder : Builder
  /-- The outcomes of the steps so far. -/
  log : List Outcome := []

namespace Bench

/-- The handle that a step gave.  For a step that gave none it is a handle without a shape. -/
def handle (d : Bench) (step : Nat) : ShapeId :=
  match d.log[step]? with
  | some (.ok (.shape id)) => id
  | _ => ⟨d.builder.shapes.tag, 0⟩

/-- Take one more step. -/
def perform (d : Bench) (op : Operation Nat) : Bench :=
  let (outcome, builder) := (op.map d.handle).perform.runOn d.builder
  ⟨builder, d.log ++ [outcome]⟩

/-- Take several steps. -/
def performAll (d : Bench) (ops : List (Operation Nat)) : Bench := ops.foldl perform d

/-- The bench under another tag. -/
def rename (ρ : Nat → Nat) (d : Bench) : Bench :=
  ⟨d.builder.rename ρ, d.log.map (Outcome.rename ρ)⟩

variable {ρ : Nat → Nat}

theorem handle_rename (d : Bench) (step : Nat) :
    (d.rename ρ).handle step = (d.handle step).rename ρ := by
  rw [handle, handle, rename, List.getElem?_map]
  cases d.log[step]? with
  | none => rfl
  | some outcome =>
      cases outcome with
      | error e => rfl
      | ok reply => cases reply <;> rfl

/-- A step does the same under another tag. -/
theorem perform_rename (hρ : Function.Injective ρ) (d : Bench) (op : Operation Nat) :
    (d.rename ρ).perform op = (d.perform op).rename ρ := by
  have hop : op.map (d.rename ρ).handle = (op.map d.handle).map (ShapeId.rename ρ) := by
    rw [funext (d.handle_rename (ρ := ρ))]
    cases op with
    | push kind => cases kind <;> rfl
    | _ => rfl
  have hrun := (op.map d.handle).perform_rename hρ d.builder
  rw [perform, perform, hop, rename]
  dsimp only
  rw [hrun, rename, List.map_append]
  rfl

theorem performAll_rename (hρ : Function.Injective ρ) (d : Bench) (ops : List (Operation Nat)) :
    (d.rename ρ).performAll ops = (d.performAll ops).rename ρ := by
  induction ops generalizing d with
  | nil => rfl
  | cons op ops ih =>
      change ((d.rename ρ).perform op).performAll ops = _
      rw [perform_rename hρ, ih]
      rfl

/-! ## What a bench keeps -/

/-- The builder arose by operations, and it has the shapes that the steps gave. -/
structure Sound (d : Bench) : Prop where
  /-- The builder arose by operations. -/
  reachable : d.builder.Reachable
  /-- The handles of the log denote shapes. -/
  contains : ∀ {id : ShapeId}, .ok (.shape id) ∈ d.log → d.builder.shapes.contains id = true

theorem sound_empty (tag : Nat) : ({ builder := .empty tag } : Bench).Sound where
  reachable := .empty tag
  contains h := by cases h

theorem Sound.perform {d : Bench} (hd : d.Sound) (op : Operation Nat) : (d.perform op).Sound where
  reachable := (op.map d.handle).perform_reachable d.builder hd.reachable
  contains {id} h := by
    rcases List.mem_append.mp h with hold | hnew
    · exact ((op.map d.handle).perform_extends d.builder).contains (hd.contains hold)
    · have hrun : (op.map d.handle).perform.runOn d.builder =
          (.ok (.shape id), (d.perform op).builder) :=
        Prod.ext (List.mem_singleton.mp hnew).symm rfl
      obtain ⟨_, _, hget⟩ := Operation.get?_of_perform hrun
      exact Arena.contains_of_get? hget

theorem Sound.performAll {d : Bench} (hd : d.Sound) (ops : List (Operation Nat)) :
    (d.performAll ops).Sound := by
  induction ops generalizing d with
  | nil => exact hd
  | cons op ops ih => exact ih (hd.perform op)

end Bench

/-! ## Sessions -/

/-- A workshop, and what came of the steps on each of its builders. -/
structure Session where
  /-- The builders. -/
  workshop : Workshop := {}
  /-- The outcomes of the steps, builder by builder. -/
  logs : Nat → List Outcome := fun _ => []

/-- The operation on a builder that an event is. -/
def Event.operation? {σ : Type} (i : Nat) : Event σ → Option (Operation σ)
  | start | copy _ => none
  | perform k op => if k = i then some op else none

namespace Session

/-- A builder of a session with its log. -/
def bench? (s : Session) (i : Nat) : Option Bench :=
  s.workshop.builders[i]?.map fun b => ⟨b, s.logs i⟩

/-- A session after an event.  A started builder has an empty log, and a copy has a copy of the log.
An event on a builder that is not there changes nothing. -/
def next (s : Session) : Event Nat → Session
  | .start =>
      let (i, w) := s.workshop.start
      ⟨w, Function.update s.logs i []⟩
  | .copy i =>
      match s.workshop.copy? i with
      | some (k, w) => ⟨w, Function.update s.logs k (s.logs i)⟩
      | none => s
  | .perform i op =>
      match s.bench? i with
      | some d =>
          match s.workshop.run? i (op.map d.handle).perform with
          | some (outcome, w) => ⟨w, Function.update s.logs i (d.log ++ [outcome])⟩
          | none => s
      | none => s

/-- A session after several events. -/
def after (s : Session) (history : List (Event Nat)) : Session := history.foldl next s

/-- The builder that is started next has a bench with an empty log. -/
theorem bench?_start (s : Session) :
    (s.next .start).bench? s.workshop.start.1 = some ⟨.empty s.workshop.nextTag, []⟩ := by
  simp [bench?, next, Workshop.start]

/-- A builder that is pushed behind the others changes no bench. -/
theorem bench?_push {s : Session} {i : Nat} {d : Bench} (h : s.bench? i = some d) (b : Builder)
    (tag : Nat) (log : List Outcome) :
    bench? ⟨⟨tag, s.workshop.builders.push b⟩,
      Function.update s.logs s.workshop.builders.size log⟩ i = some d := by
  obtain ⟨c, hc, hd⟩ := Option.map_eq_some_iff.mp h
  obtain ⟨hlt, -⟩ := Array.getElem?_eq_some_iff.mp hc
  rw [bench?]
  dsimp only
  rw [Function.update_of_ne (Nat.ne_of_lt hlt), Array.getElem?_push_lt hlt,
    ← Array.getElem?_eq_getElem hlt, hc]
  exact congrArg some hd

/-- An event changes a bench by its own operation, if it is one. -/
theorem bench?_next {s : Session} {i : Nat} {d : Bench} (h : s.bench? i = some d)
    (e : Event Nat) :
    (s.next e).bench? i = some ((e.operation? i).elim d d.perform) := by
  cases e with
  | start => exact bench?_push h _ _ _
  | copy k =>
      rw [next, Workshop.copy?]
      cases s.workshop.builders[k]? with
      | none => exact h
      | some b => exact bench?_push h b _ _
  | perform k op =>
      cases hk : s.bench? k with
      | none =>
          have hne : k ≠ i := by
            rintro rfl
            rw [h] at hk
            cases hk
          rw [next, hk, Event.operation?, if_neg hne]
          exact h
      | some other =>
          obtain ⟨b, hb, rfl⟩ := Option.map_eq_some_iff.mp hk
          have hrun := Workshop.run?_eq hb (op.map (Bench.handle ⟨b, s.logs k⟩)).perform
          have hbuilders := Workshop.getElem?_run? hrun i
          rw [next, hk]
          dsimp only
          rw [hrun, bench?]
          dsimp only
          rw [hbuilders, Event.operation?]
          by_cases hki : k = i
          · subst hki
            obtain rfl := Option.some.inj (hk.symm.trans h)
            rw [if_pos rfl, if_pos rfl, hb, Function.update_self]
            rfl
          · rw [if_neg hki, if_neg hki, Function.update_of_ne (Ne.symm hki)]
            exact h

theorem bench?_after {s : Session} {i : Nat} {d : Bench} (h : s.bench? i = some d)
    (history : List (Event Nat)) :
    (s.after history).bench? i =
      some (d.performAll (history.filterMap (Event.operation? i))) := by
  induction history generalizing s d with
  | nil => exact h
  | cons e history ih =>
      refine (ih (bench?_next h e)).trans (congrArg some ?_)
      rw [List.filterMap_cons]
      cases e.operation? i <;> rfl

end Session

/-! ## Benches alike -/

/-- Outcomes that differ at most in tags: handles with the same number, or errors with the same
message. -/
inductive Outcome.Alike : Outcome → Outcome → Prop where
  | shape {id id' : ShapeId} (h : id.number = id'.number) :
      Alike (.ok (.shape id)) (.ok (.shape id'))
  | model (number : Nat) : Alike (.ok (.model number)) (.ok (.model number))
  | done : Alike (.ok .done) (.ok .done)
  | error {e e' : SceneError} (h : e.message = e'.message) : Alike (.error e) (.error e')

theorem Outcome.alike_rename (ρ : Nat → Nat) (outcome : Outcome) :
    outcome.Alike (outcome.rename ρ) := by
  cases outcome with
  | error e => exact .error (e.message_rename ρ).symm
  | ok reply =>
      cases reply with
      | shape id => exact .shape rfl
      | model number => exact .model number
      | done => exact .done

/-- Benches that cannot be told apart by the outcomes of their steps, by the program text of their
scenes, or by any answer about their scenes. -/
structure Bench.Alike (d d' : Bench) : Prop where
  /-- The outcomes are alike, step by step. -/
  log : List.Forall₂ Outcome.Alike d.log d'.log
  /-- The program texts are the same. -/
  compile : ∀ o, d.builder.scene.compile o = d'.builder.scene.compile o
  /-- The same options are refused. -/
  tryCompile : ∀ o, d.builder.scene.tryCompile o = d'.builder.scene.tryCompile o
  /-- The counts are the same. -/
  compileStats : ∀ o, d.builder.scene.compileStats o = d'.builder.scene.compileStats o
  /-- The distances of shapes are the same.  Shapes are named by the steps that made them. -/
  shapes : ∀ {step : Nat} {id id' : ShapeId}, d.log[step]? = some (.ok (.shape id)) →
    d'.log[step]? = some (.ok (.shape id')) → ∀ ctx point cell,
      d.builder.shapes.distance ctx id point cell = d'.builder.shapes.distance ctx id' point cell
  /-- The distances of models are the same, model by model. -/
  distance : ∀ epsilon frame, List.Forall₂
    (fun m m' => ∀ position, (Probe.mk d.builder.scene epsilon frame).distance m position =
      (Probe.mk d'.builder.scene epsilon frame).distance m' position)
    d.builder.models d'.builder.models
  /-- The same model is closest, and normals, materials and air are the same. -/
  probe : ∀ epsilon frame, (Probe.mk d.builder.scene epsilon frame).Agree
    (Probe.mk d'.builder.scene epsilon frame)
  /-- Many points at once have the same closest models. -/
  closestEach : ∀ epsilon frame points,
    (Probe.mk d.builder.scene epsilon frame).closestEach points =
      (Probe.mk d'.builder.scene epsilon frame).closestEach points
  /-- So have many points in any order. -/
  closestInOrder : ∀ epsilon frame order points,
    (Probe.mk d.builder.scene epsilon frame).closestInOrder order points =
      (Probe.mk d'.builder.scene epsilon frame).closestInOrder order points
  /-- Every pixel is traced alike. -/
  tracePixel : ∀ {o : Options} (ho : o.validate = .ok ()) uv frame previous,
    (Tracer.mk d.builder.scene o ho).tracePixel uv frame previous =
      (Tracer.mk d'.builder.scene o ho).tracePixel uv frame previous

/-- A bench is like its renaming. -/
theorem Bench.alike_rename {ρ : Nat → Nat} (hρ : Function.Injective ρ) {d : Bench} (hd : d.Sound)
    (hrenamed : (d.rename ρ).Sound) : d.Alike (d.rename ρ) := by
  have hprogram : ∀ o, (d.rename ρ).builder.scene.program o = d.builder.scene.program o :=
    d.builder.scene.program_rename hρ
  have hagree : d.builder.scene.Agree (d.rename ρ).builder.scene :=
    hd.reachable.wellFormed.agree_rename hρ hrenamed.reachable.wellFormed
  have hcompile : ∀ o, d.builder.scene.compile o = (d.rename ρ).builder.scene.compile o := by
    intro o
    rw [Scene.compile, Scene.compile, hprogram]
  have hclosest : ∀ epsilon frame, (Probe.mk d.builder.scene epsilon frame).closest =
      (Probe.mk (d.rename ρ).builder.scene epsilon frame).closest :=
    fun epsilon frame => funext (hagree.probe epsilon frame).closest
  refine
    { log := ?_, compile := hcompile, tryCompile := fun o => ?_, compileStats := fun o => ?_,
      shapes := fun {step id id'} hid hid' ctx point cell => ?_,
      distance := fun epsilon frame => ?_, probe := hagree.probe,
      closestEach := fun epsilon frame points => ?_,
      closestInOrder := fun epsilon frame order points => ?_,
      tracePixel := hagree.tracePixel_eq }
  · change List.Forall₂ _ d.log (d.log.map (Outcome.rename ρ))
    rw [List.forall₂_map_right_iff, List.forall₂_same]
    exact fun outcome _ => outcome.alike_rename ρ
  · rw [Scene.tryCompile, Scene.tryCompile, hcompile]
  · have hmodels : (d.rename ρ).builder.scene.models.length = d.builder.scene.models.length :=
      List.length_map _
    rw [Scene.compileStats, Scene.compileStats, hprogram, hmodels, hcompile]
  · -- the handle in the other log is the renamed one
    rw [rename, List.getElem?_map, hid] at hid'
    cases hid'
    exact (hd.reachable.wellFormed.shapes.distance_rename hρ
      hrenamed.reachable.wellFormed.shapes ctx
      (hd.contains (List.mem_of_getElem? hid)) point cell).symm
  · exact hagree.models.imp fun m m' hm position => hm.distance _ _ _
  · rw [Probe.closestEach, Probe.closestEach, hclosest]
  · rw [Probe.closestInOrder, Probe.closestInOrder, hclosest]

/-- Two builders that go through the same operations, each in its session and among whatever other
events, are alike.  The tags they drew make no difference. -/
theorem Session.alike_of_operations (s s' : Session) {history history' : List (Event Nat)}
    (h : history.filterMap (Event.operation? s.workshop.start.1) =
      history'.filterMap (Event.operation? s'.workshop.start.1)) :
    ∃ d d', (s.after (.start :: history)).bench? s.workshop.start.1 = some d ∧
      (s'.after (.start :: history')).bench? s'.workshop.start.1 = some d' ∧ d.Alike d' := by
  have hd := bench?_after s.bench?_start history
  have hd' := bench?_after s'.bench?_start history'
  rw [← h] at hd'
  refine ⟨_, _, hd, hd', ?_⟩
  generalize history.filterMap _ = ops
  -- exchanging the two tags leads from one run to the other
  have hρ := (Equiv.swap s.workshop.nextTag s'.workshop.nextTag).injective
  have hstart : (⟨.empty s'.workshop.nextTag, []⟩ : Bench) =
      Bench.rename (Equiv.swap s.workshop.nextTag s'.workshop.nextTag)
        ⟨.empty s.workshop.nextTag, []⟩ := by
    simp [Bench.rename, Builder.rename, Builder.empty, Arena.rename]
  have hsound' := (Bench.sound_empty s'.workshop.nextTag).performAll ops
  rw [hstart, Bench.performAll_rename hρ] at hsound' ⊢
  exact Bench.alike_rename hρ ((Bench.sound_empty _).performAll ops) hsound'

/-- Two builders of one session, with tags of their own, take the same four steps in turns.  The
third step fails and the fourth names it. -/
theorem Session.alike_of_operations_in_turns :
    let ball : Operation Nat := .push .sphere
    let moved : Operation Nat := .push (.translate (.vector [1.0, 0.0, 0.0]) 0)
    let wrong : Operation Nat := .push (.scale (.var .normal) 1)
    let shown : Operation Nat := .model 2 {}
    let earlier : List (Event Nat) := [.start, .perform 0 ball]
    let later : List (Event Nat) := [.perform 1 ball, .perform 1 moved, .perform 0 moved,
      .perform 0 wrong, .perform 1 wrong, .perform 1 shown, .perform 0 shown]
    let s := Session.after {} (earlier ++ .start :: later)
    ({} : Session).workshop.nextTag ≠ (Session.after {} earlier).workshop.nextTag ∧
      ∃ d d', s.bench? 0 = some d ∧ s.bench? 1 = some d' ∧ d.Alike d' := by
  intro ball moved wrong shown earlier later s
  have htags : (Session.after {} earlier).workshop.nextTag = 2 := rfl
  have hsecond : (Session.after {} earlier).workshop.start.1 = 1 := rfl
  have hops : (.perform 0 ball :: .start :: later : List (Event Nat)).filterMap
      (Event.operation? ({} : Session).workshop.start.1) =
        later.filterMap (Event.operation? (Session.after {} earlier).workshop.start.1) := by
    rw [hsecond]
    rfl
  obtain ⟨d, d', hd, hd', halike⟩ :=
    Session.alike_of_operations {} (Session.after {} earlier) hops
  have hs : s = (Session.after {} earlier).after (.start :: later) := List.foldl_append
  rw [hsecond, ← hs] at hd'
  exact ⟨by rw [htags]; decide, d, d', hd, hd', halike⟩

end ImplicitScene
