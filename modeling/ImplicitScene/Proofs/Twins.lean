import ImplicitScene.Description.Basic
import ImplicitScene.Proofs.Fields

/-!
# Constructions side by side

Two constructions run on two builders, and one follows the other: where the first
succeeds the second succeeds too, and their results are related.  `Build.Follows`
says so, under an assumption on the builders at the start.

Both constructions only add shapes.  So what was related stays related, and
constructions that follow one another can be chained: `Build.Follows.bind` is the
rule for one step after another, and `Build.Follows.push` is the rule for adding a
shape to both sides.

Two shapes are twins if their distance is the same everywhere.  A new shape on
each side makes a pair of twins if the children are twins in pairs.
-/

namespace ImplicitScene

/-! ## Builders that grow -/

namespace Builder

/-- Nothing but shapes has been added, and they are well-formed. -/
structure Grows (b b' : Builder) : Prop where
  /-- The shapes are there, and more. -/
  shapes : b.shapes.Extends b'.shapes
  /-- The result is well-formed. -/
  wellFormed : b'.WellFormed
  /-- The models are the same. -/
  models : b'.models = b.models
  /-- The camera is the same. -/
  camera : b'.camera = b.camera
  /-- The medium between the models is the same. -/
  air : b'.air = b.air

theorem Grows.refl {b : Builder} (hb : b.WellFormed) : b.Grows b := ⟨.refl _, hb, rfl, rfl, rfl⟩

theorem Grows.trans {a b c : Builder} (hab : a.Grows b) (hbc : b.Grows c) : a.Grows c where
  shapes := hab.shapes.trans hbc.shapes
  wellFormed := hbc.wellFormed
  models := hbc.models.trans hab.models
  camera := hbc.camera.trans hab.camera
  air := hbc.air.trans hab.air

theorem WellFormed.grows_insert {b : Builder} (hb : b.WellFormed) {kind : ShapeKind}
    (h : b.shapes.admits kind = .ok ()) :
    b.Grows { b with shapes := (b.shapes.insert kind).2 } := by
  refine ⟨.insert b.shapes kind, ?_, rfl, rfl, rfl⟩
  have hpush := hb.push kind
  rw [Build.push_runOn, h] at hpush
  exact hpush

end Builder

/-- Shapes of two arenas with the same distance. -/
structure Arena.Twins (arena other : Arena) (x y : ShapeId) : Prop where
  /-- The first is there. -/
  left : arena.contains x = true
  /-- The second is there. -/
  right : other.contains y = true
  /-- The distances are the same. -/
  distance : ∀ ctx point cell,
    arena.distance ctx x point cell = other.distance ctx y point cell

/-- Twins stay twins while the builders grow. -/
theorem Arena.Twins.grow {b b' c c' : Builder} {x y : ShapeId} (h : b.shapes.Twins b'.shapes x y)
    (hb : b.WellFormed) (hb' : b'.WellFormed) (hc : b.Grows c) (hc' : b'.Grows c') :
    c.shapes.Twins c'.shapes x y where
  left := hc.shapes.contains h.left
  right := hc'.shapes.contains h.right
  distance ctx point cell := by
    rw [hc.shapes.distance_eq hb.shapes hc.wellFormed.shapes ctx h.left,
      hc'.shapes.distance_eq hb'.shapes hc'.wellFormed.shapes ctx h.right, h.distance]

/-! ## One construction after another -/

namespace Build

/-- What a construction that succeeds in two steps does. -/
theorem of_bind_ok {α β : Type} {x : Build α} {f : α → Build β} {b c : Builder} {r : β}
    (h : (x >>= f).runOn b = (.ok r, c)) :
    ∃ a b', x.runOn b = (.ok a, b') ∧ (f a).runOn b' = (.ok r, c) := by
  rw [runOn_bind] at h
  cases hx : x.runOn b with
  | mk result b' =>
      rw [hx] at h
      cases result with
      | error e => cases h
      | ok a => exact ⟨a, b', rfl, h⟩

theorem bind_of_ok {α β : Type} {x : Build α} {f : α → Build β} {b b' : Builder} {a : α}
    (h : x.runOn b = (.ok a, b')) : (x >>= f).runOn b = (f a).runOn b' := by
  rw [runOn_bind, h]

theorem of_liftExcept_ok {α β : Type} {result : Except SceneError α} {f : α → Build β}
    {b c : Builder} {r : β} (h : (liftExcept result >>= f).runOn b = (.ok r, c)) :
    ∃ a, result = .ok a ∧ (f a).runOn b = (.ok r, c) := by
  cases result with
  | error e => cases h
  | ok a => exact ⟨a, rfl, h⟩

theorem liftExcept_of_ok {α β : Type} {result : Except SceneError α} {f : α → Build β}
    {b : Builder} {a : α} (h : result = .ok a) :
    (liftExcept result >>= f).runOn b = (f a).runOn b := by
  rw [h]
  rfl

/-- A relation between two builders that lasts while both grow. -/
def Lasting (P : Builder → Builder → Prop) : Prop :=
  ∀ ⦃b b' c c' : Builder⦄, b.WellFormed → b'.WellFormed → b.Grows c → b'.Grows c' → P b b' → P c c'

/-- Twins are lasting. -/
theorem Lasting.and_twins {P : Builder → Builder → Prop} (hP : Lasting P) (x y : ShapeId) :
    Lasting fun b b' => P b b' ∧ b.shapes.Twins b'.shapes x y :=
  fun _ _ _ _ hb hb' hc hc' h => ⟨hP hb hb' hc hc' h.1, h.2.grow hb hb' hc hc'⟩

/-- Where the first construction succeeds on a builder, the second succeeds on the other, and the
results are related.  Both add nothing but shapes. -/
def Follows {α β : Type} (P : Builder → Builder → Prop) (x : Build α) (y : Build β)
    (R : α → β → Builder → Builder → Prop) : Prop :=
  ∀ ⦃b b' c : Builder⦄ ⦃a : α⦄, b.WellFormed → b'.WellFormed → P b b' → x.runOn b = (.ok a, c) →
    ∃ a' c', y.runOn b' = (.ok a', c') ∧ b.Grows c ∧ b'.Grows c' ∧ R a a' c c'

/-- The results are twins. -/
def MakesTwins (P : Builder → Builder → Prop) (x y : Build ShapeId) : Prop :=
  Follows P x y fun a a' b b' => b.shapes.Twins b'.shapes a a'

namespace Follows

variable {α β γ δ : Type} {P : Builder → Builder → Prop} {x : Build α} {y : Build β}
  {f : α → Build γ} {g : β → Build δ} {Q : α → β → Builder → Builder → Prop}
  {R : γ → δ → Builder → Builder → Prop}

theorem bind (hP : Lasting P) (hxy : Follows P x y Q)
    (hfg : ∀ a a', Follows (fun b b' => P b b' ∧ Q a a' b b') (f a) (g a') R) :
    Follows P (x >>= f) (y >>= g) R := by
  intro b b' c r hb hb' hstart hrun
  obtain ⟨a, m, hx, hf⟩ := of_bind_ok hrun
  obtain ⟨a', m', hy, hm, hm', hQ⟩ := hxy hb hb' hstart hx
  obtain ⟨r', c', hg, hc, hc', hR⟩ :=
    hfg a a' hm.wellFormed hm'.wellFormed ⟨hP hb hb' hm hm' hstart, hQ⟩ hf
  exact ⟨r', c', (bind_of_ok hy).trans hg, hm.trans hc, hm'.trans hc', hR⟩

/-- More may be assumed. -/
theorem weaken {P' : Builder → Builder → Prop} (hxy : Follows P x y Q)
    (h : ∀ b b', P' b b' → P b b') : Follows P' x y Q :=
  fun _ _ _ _ hb hb' hstart hrun => hxy hb hb' (h _ _ hstart) hrun

/-- Both sides resolve the same formula. -/
theorem resolve (φ : Formula) {f : Expression → Build γ} {g : Expression → Build δ}
    (hfg : ∀ e, Follows P (f e) (g e) R) : Follows P (φ.resolve >>= f) (φ.resolve >>= g) R := by
  intro b b' c r hb hb' hstart hrun
  obtain ⟨e, he, hf⟩ := of_liftExcept_ok hrun
  obtain ⟨r', c', hg, hrest⟩ := hfg e hb hb' hstart hf
  exact ⟨r', c', (liftExcept_of_ok he).trans hg, hrest⟩

/-- Both sides add a shape of one kind, with children that are twins in pairs. -/
theorem push (kind : Kind Expression (ShapeId × ShapeId))
    (hP : ∀ b b', P b b' → ∀ c ∈ kind.children, b.shapes.Twins b'.shapes c.1 c.2) :
    MakesTwins P (Build.push (kind.map Prod.fst)) (Build.push (kind.map Prod.snd)) := by
  intro b b' c a hb hb' hstart hrun
  have htwins := hP b b' hstart
  rw [push_runOn] at hrun
  cases hadmits : b.shapes.admits (kind.map Prod.fst) with
  | error e =>
      rw [hadmits] at hrun
      cases hrun
  | ok u =>
      rw [hadmits] at hrun
      cases hrun
      have hadmits' : b'.shapes.admits (kind.map Prod.snd) = .ok () := by
        obtain ⟨-, hslots⟩ := Arena.admits_eq_ok.mp hadmits
        rw [Kind.parameters_map] at hslots
        refine Arena.admits_eq_ok.mpr ⟨fun c hc => ?_, (Kind.parameters_map _ kind).symm ▸ hslots⟩
        rw [Kind.children_map] at hc
        obtain ⟨pair, hpair, rfl⟩ := List.mem_map.mp hc
        exact (htwins pair hpair).right
      refine ⟨_, _, ?_, hb.grows_insert hadmits, hb'.grows_insert hadmits',
        Arena.contains_insert _ _, Arena.contains_insert _ _, fun ctx point cell => ?_⟩
      · rw [push_runOn, hadmits']
      · rw [hb.shapes.distance_insert hadmits, hb'.shapes.distance_insert hadmits',
          Kind.distance_map, Kind.distance_map]
        exact Kind.distance_congr (fun pair hpair p q => (htwins pair hpair).distance ctx p q) ctx
          point cell

/-- Both sides add a shape without children. -/
theorem push_primitive (kind : Kind Expression (ShapeId × ShapeId)) (h : kind.children = []) :
    MakesTwins P (Build.push (kind.map Prod.fst)) (Build.push (kind.map Prod.snd)) :=
  push kind fun _ _ _ _ hc => absurd (h ▸ hc) List.not_mem_nil

/-- Both sides add a shape over the last twins. -/
theorem push_over {x y : ShapeId} (kind : Kind Expression (ShapeId × ShapeId))
    (h : kind.children = [(x, y)]) :
    MakesTwins (fun b b' => P b b' ∧ b.shapes.Twins b'.shapes x y)
      (Build.push (kind.map Prod.fst)) (Build.push (kind.map Prod.snd)) :=
  push kind fun _ _ hstart c hc => by
    rw [h] at hc
    cases List.mem_singleton.mp hc
    exact hstart.2

/-- Both sides add a shape over the last two pairs of twins. -/
theorem push_over_both {x y x' y' : ShapeId} (kind : Kind Expression (ShapeId × ShapeId))
    (h : kind.children = [(x, y), (x', y')]) :
    MakesTwins
      (fun b b' => (P b b' ∧ b.shapes.Twins b'.shapes x y) ∧ b.shapes.Twins b'.shapes x' y')
      (Build.push (kind.map Prod.fst)) (Build.push (kind.map Prod.snd)) :=
  push kind fun _ _ hstart c hc => by
    rw [h] at hc
    rcases List.mem_cons.mp hc with rfl | hc
    · exact hstart.1.2
    · cases List.mem_singleton.mp hc
      exact hstart.2

end Follows

end Build

end ImplicitScene
