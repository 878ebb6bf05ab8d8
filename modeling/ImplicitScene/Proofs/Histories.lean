import ImplicitScene.Proofs.Acceptance
import ImplicitScene.Proofs.Fields
import ImplicitScene.Scene.Workshop

/-!
# Several builders and their handles

A history is a list of events in a workshop: a builder is started or copied, or
an operation is performed on one of the builders.  Events on different builders
may come in any order.

The mapping of a repetition is not an operation of its own.  It runs before the
repetition is added, so in a history its operations come first and the repetition
of what it returned comes after them.

Two facts about one event carry the whole history.  An event never takes a shape
away, so the arena of a builder only grows.  And a started builder has a tag that
no builder had before, so without copies the tags are distinct.  A handle is then
good for the builder that issued it, for ever, and for no other.
-/

namespace ImplicitScene

/-- A mapping runs first, and what it returns is repeated. -/
theorem Build.modulate_eq_bind (period : Expression) (mapping : Expression → Build ShapeId) :
    Build.modulate period mapping =
      mapping (.var .cell) >>= fun child => Build.modulate period fun _ => pure child := rfl

/-! ## Operations -/

/-- An operation on a builder, where shapes are given by `σ`. -/
inductive Operation (σ : Type) where
  /-- Add a shape. -/
  | push (kind : Kind Expression σ)
  /-- Add the repetition of what a mapping returned. -/
  | modulate (period : Expression) (child : σ)
  /-- Add a model. -/
  | model (shape : σ) (material : Material)
  /-- Set the camera. -/
  | camera (camera : Camera)
  /-- Set the medium between the models. -/
  | air (air : Material)

/-- What an operation that succeeds gives back. -/
inductive Reply where
  /-- The handle of a new shape. -/
  | shape (id : ShapeId)
  /-- The number of a new model. -/
  | model (number : Nat)
  /-- Nothing. -/
  | done
  deriving DecidableEq

namespace Operation

/-- Perform an operation. -/
def perform : Operation ShapeId → Build Reply
  | push kind => do
      let id ← Build.push kind
      return .shape id
  | modulate period child => do
      let id ← Build.modulate period fun _ => pure child
      return .shape id
  | model shape material => do
      let number ← Build.model shape material
      return .model number
  | camera c => do
      Build.camera c
      return .done
  | air m => do
      Build.air m
      return .done

/-- The shape that an operation adds. -/
def kind? {σ : Type} : Operation σ → Option (Kind Expression σ)
  | push kind => some kind
  | modulate period child => some (.tile .perCell period child)
  | model _ _ | camera _ | air _ => none

variable (b : Builder)

theorem push_perform (kind : ShapeKind) :
    (push kind).perform.runOn b =
      match b.shapes.admits kind with
      | .ok () =>
          (.ok (.shape (b.shapes.insert kind).1), { b with shapes := (b.shapes.insert kind).2 })
      | .error e => (.error e, b) := by
  unfold perform
  rw [Build.runOn_bind, Build.push_runOn]
  cases b.shapes.admits kind <;> rfl

/-- To repeat a shape per cell is to add that shape. -/
theorem modulate_perform (period : Expression) (child : ShapeId) :
    (modulate period child).perform.runOn b =
      (push (.tile .perCell period child)).perform.runOn b := rfl

theorem model_perform (shape : ShapeId) (material : Material) :
    (model shape material).perform.runOn b =
      if b.shapes.contains shape then
        match material.validate with
        | .ok () =>
            (.ok (.model (b.models.length + 1)),
              { b with models := b.models ++ [⟨b.models.length + 1, shape, material⟩] })
        | .error e => (.error e, b)
      else (.error (.unknownShape shape), b) := by
  unfold perform
  rw [Build.runOn_bind, Build.model_runOn]
  cases b.shapes.contains shape with
  | false => rfl
  | true => cases material.validate <;> rfl

theorem camera_perform (c : Camera) :
    (camera c).perform.runOn b =
      match c.validate with
      | .ok () => (.ok .done, { b with camera := c })
      | .error e => (.error e, b) := by
  unfold perform
  rw [Build.runOn_bind, Build.camera_runOn]
  cases c.validate <;> rfl

theorem air_perform (m : Material) :
    (air m).perform.runOn b =
      match m.validate with
      | .ok () => (.ok .done, { b with air := m })
      | .error e => (.error e, b) := by
  unfold perform
  rw [Build.runOn_bind, Build.air_runOn]
  cases m.validate <;> rfl

/-- No operation takes a shape away. -/
theorem perform_extends (op : Operation ShapeId) :
    b.shapes.Extends (op.perform.runOn b).2.shapes := by
  have hpush : ∀ kind, b.shapes.Extends ((push kind).perform.runOn b).2.shapes := by
    intro kind
    rw [push_perform]
    cases b.shapes.admits kind with
    | error e => exact .refl _
    | ok u => exact .insert b.shapes kind
  cases op with
  | push kind => exact hpush kind
  | modulate period child =>
      rw [modulate_perform]
      exact hpush _
  | model shape material =>
      rw [model_perform]
      cases b.shapes.contains shape with
      | false => exact .refl _
      | true => cases material.validate <;> exact .refl _
  | camera c =>
      rw [camera_perform]
      cases c.validate <;> exact .refl _
  | air m =>
      rw [air_perform]
      cases m.validate <;> exact .refl _

/-- An operation leads from a reachable builder to a reachable one. -/
theorem perform_reachable (hb : b.Reachable) (op : Operation ShapeId) :
    (op.perform.runOn b).2.Reachable := by
  -- to wrap a result changes nothing in the builder
  have hwrap : ∀ {α β : Type} (x : Build α) (g : α → β),
      ((x >>= fun a => pure (g a)).runOn b).2 = (x.runOn b).2 := by
    intro α β x g
    rw [Build.runOn_bind]
    obtain ⟨r, b'⟩ := x.runOn b
    cases r <;> rfl
  cases op with
  | push kind => exact (hwrap _ Reply.shape).symm ▸ .push kind hb
  | modulate period child => exact (hwrap _ Reply.shape).symm ▸ .modulate period _ hb hb
  | model shape material => exact (hwrap _ Reply.model).symm ▸ .model shape material hb
  | camera c => exact (hwrap _ fun _ => Reply.done).symm ▸ .camera c hb
  | air m => exact (hwrap _ fun _ => Reply.done).symm ▸ .air m hb

/-- A handle denotes the shape it was issued for. -/
theorem get?_of_perform {b b' : Builder} {op : Operation ShapeId} {id : ShapeId}
    (h : op.perform.runOn b = (.ok (.shape id), b')) :
    ∃ kind, op.kind? = some kind ∧ b'.shapes.get? id = some ⟨id, kind⟩ := by
  have hpush : ∀ kind, (push kind).perform.runOn b = (.ok (.shape id), b') →
      b'.shapes.get? id = some ⟨id, kind⟩ := by
    intro kind h
    rw [push_perform] at h
    cases hadmits : b.shapes.admits kind with
    | error e =>
        rw [hadmits] at h
        cases h
    | ok u =>
        rw [hadmits] at h
        cases h
        exact Arena.get?_insert b.shapes kind
  cases op with
  | push kind => exact ⟨kind, rfl, hpush kind h⟩
  | modulate period child =>
      rw [modulate_perform] at h
      exact ⟨_, rfl, hpush _ h⟩
  | model shape material =>
      rw [model_perform] at h
      cases hshape : b.shapes.contains shape <;> cases hmaterial : material.validate <;>
        rw [hshape, hmaterial] at h <;> cases h
  | camera c =>
      rw [camera_perform] at h
      cases hc : c.validate <;> rw [hc] at h <;> cases h
  | air m =>
      rw [air_perform] at h
      cases hm : m.validate <;> rw [hm] at h <;> cases h

end Operation

/-! ## Histories -/

/-- Something that happens in a workshop. -/
inductive Event (σ : Type) where
  /-- A builder is started. -/
  | start
  /-- A builder is copied. -/
  | copy (builder : Nat)
  /-- An operation is performed on a builder. -/
  | perform (builder : Nat) (op : Operation σ)

namespace Workshop

/-- A workshop after an event.  An event on a builder that is not there changes nothing. -/
def next (w : Workshop) : Event ShapeId → Workshop
  | .start => w.start.2
  | .copy i =>
      match w.copy? i with
      | some (_, w') => w'
      | none => w
  | .perform i op =>
      match w.run? i op.perform with
      | some (_, w') => w'
      | none => w

/-- A workshop after several events. -/
def after (w : Workshop) (history : List (Event ShapeId)) : Workshop := history.foldl next w

theorem run?_eq {α : Type} {w : Workshop} {i : Nat} {b : Builder} (h : w.builders[i]? = some b)
    (action : Build α) :
    w.run? i action = some ((action.runOn b).1,
      { w with builders := w.builders.setIfInBounds i (action.runOn b).2 }) := by
  rw [run?, h]
  rfl

/-- A run on one builder leaves the others as they are. -/
theorem getElem?_run? {α : Type} {w w' : Workshop} {i : Nat} {action : Build α}
    {r : Except SceneError α} (h : w.run? i action = some (r, w')) (j : Nat) :
    w'.builders[j]? =
      if i = j then w.builders[j]?.map fun b => (action.runOn b).2 else w.builders[j]? := by
  cases hb : w.builders[i]? with
  | none =>
      rw [run?, hb] at h
      cases h
  | some b =>
      rw [run?_eq hb] at h
      cases h
      obtain ⟨hlt, -⟩ := Array.getElem?_eq_some_iff.mp hb
      rw [Array.getElem?_setIfInBounds]
      by_cases hij : i = j
      · subst hij
        rw [if_pos rfl, if_pos hlt, if_pos rfl, hb]
        rfl
      · rw [if_neg hij, if_neg hij]

theorem getElem?_perform (w : Workshop) (i : Nat) (op : Operation ShapeId) (j : Nat) :
    (w.next (.perform i op)).builders[j]? =
      if i = j then w.builders[j]?.map fun b => (op.perform.runOn b).2 else w.builders[j]? := by
  rw [next]
  cases h : w.run? i op.perform with
  | none =>
      have hb : w.builders[i]? = none := Option.map_eq_none_iff.mp h
      by_cases hij : i = j
      · subst hij
        rw [if_pos rfl, hb]
        rfl
      · rw [if_neg hij]
  | some result => exact getElem?_run? h j

/-- No event takes a builder away, and none takes a shape from a builder. -/
theorem extends_next {w : Workshop} {i : Nat} {b : Builder} (hb : w.builders[i]? = some b)
    (e : Event ShapeId) :
    ∃ b', (w.next e).builders[i]? = some b' ∧ b.shapes.Extends b'.shapes := by
  obtain ⟨hlt, -⟩ := Array.getElem?_eq_some_iff.mp hb
  have hpush : ∀ c : Builder, (w.builders.push c)[i]? = some b := by
    intro c
    rw [Array.getElem?_push_lt hlt, ← Array.getElem?_eq_getElem hlt]
    exact hb
  cases e with
  | start => exact ⟨b, hpush _, .refl _⟩
  | copy k =>
      refine ⟨b, ?_, .refl _⟩
      rw [next, copy?]
      cases w.builders[k]? with
      | none => exact hb
      | some c => exact hpush c
  | perform k op =>
      rw [getElem?_perform, hb]
      by_cases hk : k = i
      · exact ⟨_, if_pos hk, op.perform_extends b⟩
      · exact ⟨b, if_neg hk, .refl _⟩

theorem extends_after {w : Workshop} {i : Nat} {b : Builder} (hb : w.builders[i]? = some b)
    (history : List (Event ShapeId)) :
    ∃ b', (w.after history).builders[i]? = some b' ∧ b.shapes.Extends b'.shapes := by
  induction history generalizing w b with
  | nil => exact ⟨b, hb, .refl _⟩
  | cons e history ih =>
      obtain ⟨b', hb', hstep⟩ := extends_next hb e
      obtain ⟨b'', hb'', hrest⟩ := ih hb'
      exact ⟨b'', hb'', hstep.trans hrest⟩

/-! ## Tags -/

/-- Builders with tags of their own, drawn before the next tag. -/
structure Distinct (w : Workshop) : Prop where
  /-- Tags were drawn. -/
  drawn : ∀ {i : Nat} {b : Builder}, w.builders[i]? = some b → b.shapes.tag < w.nextTag
  /-- No two builders have the same tag. -/
  inj : ∀ {i j : Nat} {b c : Builder}, w.builders[i]? = some b → w.builders[j]? = some c →
    b.shapes.tag = c.shapes.tag → i = j

namespace Distinct

theorem empty : ({} : Workshop).Distinct where
  drawn h := by simp at h
  inj h := by simp at h

variable {w : Workshop}

/-- The tag of a started builder is new. -/
theorem start (hw : w.Distinct) : w.start.2.Distinct := by
  -- the builder at a position is an old one or the one just started
  have hcases : ∀ {i : Nat} {b : Builder}, w.start.2.builders[i]? = some b →
      w.builders[i]? = some b ∨ (i = w.builders.size ∧ b.shapes.tag = w.nextTag) := by
    intro i b hb
    rw [Workshop.start, Array.getElem?_push] at hb
    split at hb
    next hlast => exact Or.inr ⟨hlast, by rw [← Option.some.inj hb]; rfl⟩
    next => exact Or.inl hb
  refine ⟨fun hb => ?_, fun hb hc htag => ?_⟩
  · rcases hcases hb with hold | ⟨-, hnew⟩
    · exact Nat.lt_succ_of_lt (hw.drawn hold)
    · rw [hnew]
      exact Nat.lt_succ_self _
  · rcases hcases hb with hold | ⟨hlast, hnew⟩ <;> rcases hcases hc with hold' | ⟨hlast', hnew'⟩
    · exact hw.inj hold hold' htag
    · exact absurd (htag.trans hnew') (Nat.ne_of_lt (hw.drawn hold))
    · exact absurd (htag.symm.trans hnew) (Nat.ne_of_lt (hw.drawn hold'))
    · rw [hlast, hlast']

/-- A run on a builder leaves the tags as they are. -/
theorem run? (hw : w.Distinct) {w' : Workshop} {i : Nat} {op : Operation ShapeId}
    {r : Except SceneError Reply} (h : w.run? i op.perform = some (r, w')) : w'.Distinct := by
  have htag : w'.nextTag = w.nextTag := by
    rw [Workshop.run?, Option.map_eq_some_iff] at h
    obtain ⟨b, -, hb⟩ := h
    rw [← (Prod.mk.inj hb).2]
  have hcases : ∀ {j : Nat} {b : Builder}, w'.builders[j]? = some b →
      ∃ c, w.builders[j]? = some c ∧ b.shapes.tag = c.shapes.tag := by
    intro j b hb
    rw [getElem?_run? h] at hb
    split at hb
    next =>
      obtain ⟨c, hc, rfl⟩ := Option.map_eq_some_iff.mp hb
      exact ⟨c, hc, (op.perform_extends c).tag⟩
    next => exact ⟨b, hb, rfl⟩
  refine ⟨fun hb => ?_, fun hb hc heq => ?_⟩
  · obtain ⟨b', hb', hsame⟩ := hcases hb
    rw [hsame, htag]
    exact hw.drawn hb'
  · obtain ⟨b', hb', hsame⟩ := hcases hb
    obtain ⟨c', hc', hsame'⟩ := hcases hc
    exact hw.inj hb' hc' (hsame.symm.trans (heq.trans hsame'))

theorem next (hw : w.Distinct) {e : Event ShapeId} (he : ∀ i, e ≠ .copy i) :
    (w.next e).Distinct := by
  cases e with
  | start => exact hw.start
  | copy i => exact absurd rfl (he i)
  | perform i op =>
      rw [Workshop.next]
      cases h : w.run? i op.perform with
      | none => exact hw
      | some result => exact hw.run? h

theorem after (hw : w.Distinct) {history : List (Event ShapeId)}
    (hcopy : ∀ e ∈ history, ∀ i, e ≠ .copy i) : (w.after history).Distinct := by
  induction history generalizing w with
  | nil => exact hw
  | cons e history ih =>
      exact ih (hw.next (hcopy e (.head _))) fun e' he' => hcopy e' (.tail _ he')

end Distinct

end Workshop

/-! ## Handles -/

namespace Slot

theorem all_checkType_ne_unknownShape (id : ShapeId) (slots : List Slot) :
    all checkType slots ≠ .error (.unknownShape id) := by
  intro h
  obtain ⟨s, -, hmisfit⟩ := all_checkType_eq_error.mp h
  cases hmisfit

/-- Slots know no shapes. -/
theorem checkAll_ne_unknownShape (id : ShapeId) (unbound : List Variable) (slots : List Slot) :
    checkAll unbound slots ≠ .error (.unknownShape id) := by
  intro h
  rcases checkAll_eq_error.mp h with ⟨s, -, hmisfit⟩ | ⟨-, s, -, hstray⟩
  · cases hmisfit
  · cases hstray

end Slot

namespace Builder

/-- The builder takes the handle for a shape of its own: no error says that it is unknown. -/
structure Accepts (b : Builder) (id : ShapeId) : Prop where
  /-- If a new shape has an unknown child, it is another one. -/
  child : ∀ kind missing, ((Build.push kind).runOn b).1 = .error (.unknownShape missing) →
    missing ∈ kind.children ∧ missing ≠ id
  /-- The handle may be repeated. -/
  repetition : ∀ period missing,
    ((Build.modulate period fun _ => pure id).runOn b).1 ≠ .error (.unknownShape missing)
  /-- The handle may be shown. -/
  model : ∀ material missing,
    ((Build.model id material).runOn b).1 ≠ .error (.unknownShape missing)

/-- The builder takes the handle for unknown, and is left as it was. -/
structure Refuses (b : Builder) (id : ShapeId) : Prop where
  /-- A new shape with this child has an unknown child. -/
  child : ∀ kind : ShapeKind, id ∈ kind.children → ∃ missing ∈ kind.children,
    b.shapes.contains missing = false ∧
      (Build.push kind).runOn b = (.error (.unknownShape missing), b)
  /-- The handle may not be repeated. -/
  repetition : ∀ period,
    (Build.modulate period fun _ => pure id).runOn b = (.error (.unknownShape id), b)
  /-- The handle may not be shown. -/
  model : ∀ material, (Build.model id material).runOn b = (.error (.unknownShape id), b)

variable {b : Builder} {id : ShapeId}

/-- What is missing when a shape is not added for an unknown child. -/
theorem push_eq_unknownShape {kind : ShapeKind} {missing : ShapeId}
    (h : ((Build.push kind).runOn b).1 = .error (.unknownShape missing)) :
    missing ∈ kind.children ∧ b.shapes.contains missing = false := by
  have hrun : (Build.push kind).runOn b =
      (.error (.unknownShape missing), ((Build.push kind).runOn b).2) := Prod.ext h rfl
  obtain ⟨hadmits, -⟩ := (Build.push_guarded kind b).error_iff.mp hrun
  cases Arena.admits_eq_error.mp hadmits with
  | child hfirst hmissing => exact ⟨hfirst.mem, hmissing⟩
  | misfit _ _ hmisfit => cases hmisfit
  | stray _ _ _ hstray => cases hstray

theorem push_of_not_contains (h : b.shapes.contains id = false) (kind : ShapeKind)
    (hid : id ∈ kind.children) : ∃ missing ∈ kind.children,
      b.shapes.contains missing = false ∧
        (Build.push kind).runOn b = (.error (.unknownShape missing), b) := by
  have hsome : (kind.children.find? fun c => !b.shapes.contains c).isSome = true :=
    List.find?_isSome.mpr ⟨id, hid, by rw [h]; rfl⟩
  obtain ⟨missing, hfind⟩ := Option.isSome_iff_exists.mp hsome
  refine ⟨missing, List.mem_of_find?_eq_some hfind, by simpa using List.find?_some hfind, ?_⟩
  rw [Build.push_runOn, Arena.admits, hfind]

theorem accepts_of_contains (h : b.shapes.contains id = true) : b.Accepts id where
  child kind missing heq := by
    obtain ⟨hmem, hmissing⟩ := push_eq_unknownShape heq
    refine ⟨hmem, fun hsame => ?_⟩
    rw [hsame, h] at hmissing
    cases hmissing
  repetition period missing heq := by
    have hpush : ((Build.push (.tile .perCell period id)).runOn b).1 =
        .error (.unknownShape missing) := heq
    obtain ⟨hmem, hmissing⟩ := push_eq_unknownShape hpush
    rw [List.mem_singleton.mp hmem, h] at hmissing
    cases hmissing
  model material missing heq := by
    rw [Build.model_runOn, if_pos h] at heq
    cases hmaterial : material.validate with
    | ok u =>
        rw [hmaterial] at heq
        cases heq
    | error e =>
        rw [hmaterial] at heq
        cases heq
        exact Slot.all_checkType_ne_unknownShape _ _ hmaterial

theorem refuses_of_not_contains (h : b.shapes.contains id = false) : b.Refuses id where
  child kind hid := push_of_not_contains h kind hid
  repetition period := by
    obtain ⟨missing, hmem, -, hrun⟩ :=
      push_of_not_contains h (.tile .perCell period id) (List.mem_singleton.mpr rfl)
    rw [List.mem_singleton.mp hmem] at hrun
    exact hrun
  model material := by
    rw [Build.model_runOn, h]
    rfl

/-- No builder does both. -/
theorem Accepts.not_refuses (ha : b.Accepts id) : ¬b.Refuses id :=
  fun hr => ha.model {} id (congrArg Prod.fst (hr.model {}))

end Builder

/-- A handle is good for the builder that issued it and for no other, in every workshop without
copies and however the operations on its builders are interleaved.  The builder that issued it keeps
the shape it was issued for. -/
theorem Workshop.handle_accepted_iff {earlier later : List (Event ShapeId)} {i j : Nat}
    {op : Operation ShapeId} {id : ShapeId} {w : Workshop} {b : Builder}
    (hearlier : ∀ e ∈ earlier, ∀ k, e ≠ .copy k) (hlater : ∀ e ∈ later, ∀ k, e ≠ .copy k)
    (hissued : (Workshop.after {} earlier).run? i op.perform = some (.ok (.shape id), w))
    (hb : (w.after later).builders[j]? = some b) :
    (b.Accepts id ↔ i = j) ∧ (b.Refuses id ↔ i ≠ j) ∧
      (i = j → ∃ kind, op.kind? = some kind ∧ b.shapes.get? id = some ⟨id, kind⟩) := by
  have hw : (w.after later).Distinct := ((Distinct.empty.after hearlier).run? hissued).after hlater
  -- the builder that issued the handle, at the time and later
  obtain ⟨issuer, kind, hissuer, hkind, hget⟩ : ∃ issuer kind, w.builders[i]? = some issuer ∧
      op.kind? = some kind ∧ issuer.shapes.get? id = some ⟨id, kind⟩ := by
    obtain ⟨old, hold, hrun⟩ := Option.map_eq_some_iff.mp hissued
    have hresult : op.perform.runOn old = (.ok (.shape id), (op.perform.runOn old).2) :=
      Prod.ext (Prod.mk.inj hrun).1 rfl
    obtain ⟨kind, hkind, hget⟩ := Operation.get?_of_perform hresult
    refine ⟨_, kind, ?_, hkind, hget⟩
    rw [getElem?_run? hissued, if_pos rfl, hold]
    rfl
  obtain ⟨owner, howner, hgrown⟩ := extends_after hissuer later
  have hstored := hgrown.get? hget
  by_cases hij : i = j
  · subst hij
    obtain rfl : owner = b := Option.some.inj (howner.symm.trans hb)
    have haccepts := Builder.accepts_of_contains (Arena.contains_of_get? hstored)
    exact ⟨iff_of_true haccepts rfl, iff_of_false haccepts.not_refuses (absurd rfl),
      fun _ => ⟨kind, hkind, hstored⟩⟩
  · have hmissing : b.shapes.contains id = false := by
      rw [Bool.eq_false_iff]
      intro hcontains
      have howned := (Arena.contains_iff.mp (Arena.contains_of_get? hstored)).1
      have hhere := (Arena.contains_iff.mp hcontains).1
      exact hij (hw.inj howner hb (howned.symm.trans hhere))
    have hrefuses := Builder.refuses_of_not_contains hmissing
    exact ⟨iff_of_false (fun ha => ha.not_refuses hrefuses) hij, iff_of_true hrefuses hij,
      fun h => absurd h hij⟩

/-- Two builders with a ball each.  The first handle of one is in range for the other, which refuses
it. -/
theorem Workshop.handle_accepted_iff_balls :
    let w := Workshop.after {} [.start, .start, .perform 1 (.push .sphere)]
    let later : List (Event ShapeId) :=
      [.perform 1 (.push .cube), .perform 0 (.push (.scale (.scalar 2.0) ⟨1, 1⟩))]
    ∃ w' first second, w.run? 0 (Operation.push .sphere).perform = some (.ok (.shape ⟨1, 1⟩), w') ∧
      (w'.after later).builders[0]? = some first ∧ (w'.after later).builders[1]? = some second ∧
      1 ≤ second.shapes.size ∧ first.Accepts ⟨1, 1⟩ ∧
      first.shapes.get? ⟨1, 1⟩ = some ⟨⟨1, 1⟩, .sphere⟩ ∧ second.Refuses ⟨1, 1⟩ := by
  intro w later
  have hearlier : ∀ e ∈ ([.start, .start, .perform 1 (.push .sphere)] : List (Event ShapeId)),
      ∀ k, e ≠ .copy k := by simp
  have hlater : ∀ e ∈ later, ∀ k, e ≠ .copy k := by simp [later]
  have hissued : w.run? 0 (Operation.push .sphere).perform = some (.ok (.shape ⟨1, 1⟩), _) := rfl
  obtain ⟨hfirst, -, hkept⟩ :=
    Workshop.handle_accepted_iff (j := 0) hearlier hlater hissued (b := _) rfl
  obtain ⟨-, hsecond, -⟩ :=
    Workshop.handle_accepted_iff (j := 1) hearlier hlater hissued (b := _) rfl
  obtain ⟨kind, hkind, hget⟩ := hkept rfl
  cases hkind
  exact ⟨_, _, _, hissued, rfl, rfl, by decide, hfirst.mpr rfl, hget, hsecond.mpr (by decide)⟩

end ImplicitScene
