import ImplicitScene.Proofs.Choice
import ImplicitScene.Proofs.FloatOrder

/-!
# The closest model is the first of the nearest

The search goes through the models and keeps the closest so far.  It starts with
the distance that stands for "nothing there".  A model takes the place of the one
before only if it is closer, so of models that tie the first stays, and a model
whose distance is NaN is passed over wherever it stands.

`Finds` says what a search may end with, in terms of the distances alone.  One
model is added in front by `Finds.cons`.  The distance that is found is the same
for two searches over the same distances, in whatever order.
-/

namespace ImplicitScene

/-! ## What a search finds -/

/-- What a search over `models` ends with that has found `best` before: that, if no model is closer,
and otherwise the first of the nearest models. -/
inductive Finds (d : Model → Float32) (best : Closest) (models : List Model) : Closest → Prop where
  | earlier (h : ∀ n ∈ models, ¬(d n).abs < best.distance) : Finds d best models best
  | first {front rest : List Model} {m : Model} (hmodels : models = front ++ m :: rest)
      (hcloser : (d m).abs < best.distance)
      (hfront : ∀ n ∈ front, (d m).abs < (d n).abs ∨ (d n).abs.isNaN = true)
      (hrest : ∀ n ∈ rest, ¬(d n).abs < (d m).abs) : Finds d best models ⟨m.id, (d m).abs⟩

namespace Finds

variable {d : Model → Float32} {best c : Closest} {models : List Model}

/-- A model is looked at before the others. -/
theorem cons {m : Model} (h : Finds d (Probe.keepCloser best m (d m)) models c) :
    Finds d best (m :: models) c := by
  unfold Probe.keepCloser at h
  split at h
  next hcloser =>
    cases h with
    | earlier hrest => exact .first (List.nil_append _).symm hcloser (by simp) hrest
    | first hmodels hless hfront hrest =>
        refine .first (hmodels ▸ List.cons_append.symm) (float_lt_trans hless hcloser) ?_ hrest
        exact List.forall_mem_cons.mpr ⟨Or.inl hless, hfront⟩
  next hfar =>
    cases h with
    | earlier hrest => exact .earlier (List.forall_mem_cons.mpr ⟨hfar, hrest⟩)
    | first hmodels hless hfront hrest =>
        refine .first (hmodels ▸ List.cons_append.symm) hless ?_ hrest
        exact List.forall_mem_cons.mpr ⟨float_lt_or_isNaN hless hfar, hfront⟩

/-- No model is closer than what is found. -/
theorem not_lt (h : Finds d best models c) : ∀ n ∈ models, ¬(d n).abs < c.distance := by
  cases h with
  | earlier h => exact h
  | first hmodels _ hfront hrest =>
      rw [hmodels, List.forall_mem_append, List.forall_mem_cons]
      refine ⟨fun n hn hlt => ?_, fun hlt => float_lt_asymm hlt hlt, hrest⟩
      rcases hfront n hn with hless | hnan
      · exact float_lt_asymm hless hlt
      · rw [(lt_iff_rank.mp hlt).1] at hnan
        cases hnan

/-- What is found is what was found before, or the distance of a model that is closer. -/
theorem best_or_model (h : Finds d best models c) :
    c = best ∨ ∃ m ∈ models, c.distance = (d m).abs ∧ (d m).abs < best.distance := by
  cases h with
  | earlier => exact Or.inl rfl
  | first hmodels hcloser => exact Or.inr ⟨_, by simp [hmodels], rfl, hcloser⟩

/-- Two searches over the same distances find the same distance. -/
theorem distance_eq {d' : Model → Float32} {c' : Closest} {models' : List Model}
    (h : Finds d best models c) (h' : Finds d' best models' c')
    (hsub : ∀ n ∈ models, ∃ n' ∈ models', d' n' = d n)
    (hsub' : ∀ n' ∈ models', ∃ n ∈ models, d n = d' n') : c.distance = c'.distance := by
  -- no distance of one search is below what the other finds
  have hleast : ∀ n ∈ models, ¬(d n).abs < c'.distance := by
    intro n hn
    obtain ⟨n', hn', heq⟩ := hsub n hn
    exact heq ▸ h'.not_lt n' hn'
  have hleast' : ∀ n' ∈ models', ¬(d' n').abs < c.distance := by
    intro n' hn'
    obtain ⟨n, hn, heq⟩ := hsub' n' hn'
    exact heq ▸ h.not_lt n hn
  rcases h.best_or_model with rfl | ⟨m, hm, hc, hcloser⟩
  · rcases h'.best_or_model with rfl | ⟨m', hm', -, hcloser'⟩
    · rfl
    · exact absurd hcloser' (hleast' m' hm')
  · rcases h'.best_or_model with rfl | ⟨m', hm', hc', hcloser'⟩
    · exact absurd hcloser (hleast m hm)
    · have hnumber := (lt_iff_rank.mp hcloser).1
      have hnumber' := (lt_iff_rank.mp hcloser').1
      rw [hc, hc']
      exact abs_eq_of_not_lt hnumber hnumber' (hc' ▸ hleast m hm) (hc ▸ hleast' m' hm')

end Finds

namespace Probe

variable {v : Probe} {position : Float3} {d : Model → Float32}

/-- A search over models that have distances ends. -/
theorem closestOf_finds {models : List Model} (hd : ∀ m ∈ models, v.distance m position = .ok (d m))
    (best : Closest) : ∃ c, v.closestOf position best models = .ok c ∧ Finds d best models c := by
  induction models generalizing best with
  | nil => exact ⟨best, rfl, .earlier (by simp)⟩
  | cons m models ih =>
      rw [List.forall_mem_cons] at hd
      obtain ⟨c, hc, hfinds⟩ := ih hd.2 (keepCloser best m (d m))
      refine ⟨c, ?_, hfinds.cons⟩
      rw [closestOf_cons, hd.1]
      exact hc

theorem closest_finds (hd : ∀ m ∈ v.scene.models, v.distance m position = .ok (d m)) :
    ∃ c, v.closest position = .ok c ∧ Finds d ⟨0, farAway⟩ v.scene.models c :=
  closestOf_finds hd _

/-- The distance that is found depends on the shapes of the models only, and not on their order. -/
theorem closest_distance_eq {w : Probe} {c : Closest} (hframe : w.frame = v.frame)
    (hshapes : w.scene.shapes = v.scene.shapes)
    (hperm : (w.scene.models.map Model.shape).Perm (v.scene.models.map Model.shape))
    (hd : ∀ m ∈ v.scene.models, v.distance m position = .ok (d m))
    (hc : Finds d ⟨0, farAway⟩ v.scene.models c) :
    (w.closest position).map Closest.distance = .ok c.distance := by
  -- each model of one scene has a twin of the same shape in the other
  have htwin : ∀ {ms ns : List Model}, (ms.map Model.shape).Perm (ns.map Model.shape) →
      ∀ m ∈ ms, ∃ n ∈ ns, n.shape = m.shape := fun h m hm =>
    List.mem_map.mp (h.mem_iff.mp (List.mem_map_of_mem hm))
  have hsame : ∀ n, ∀ m ∈ v.scene.models, n.shape = m.shape →
      w.distance n position = .ok (d m) := by
    intro n m hm hshape
    rw [← hd m hm, distance, distance, hframe, hshapes, hshape]
  let d' : Model → Float32 := fun n => (w.distance n position).toOption.getD 0.0
  have heq : ∀ {n m : Model}, m ∈ v.scene.models → n.shape = m.shape → d' n = d m := by
    intro n m hm hshape
    simp only [d', hsame n m hm hshape]
    rfl
  have hd' : ∀ n ∈ w.scene.models, w.distance n position = .ok (d' n) := by
    intro n hn
    obtain ⟨m, hm, hshape⟩ := htwin hperm n hn
    rw [heq hm hshape.symm]
    exact hsame n m hm hshape.symm
  obtain ⟨c', hc', hfinds⟩ := closest_finds hd'
  rw [hc', hc.distance_eq hfinds]
  · rfl
  · intro m hm
    obtain ⟨n, hn, hshape⟩ := htwin hperm.symm m hm
    exact ⟨n, hn, heq hm hshape⟩
  · intro n hn
    obtain ⟨m, hm, hshape⟩ := htwin hperm n hn
    exact ⟨m, hm, (heq hm hshape.symm).symm⟩

end Probe

/-! ## The closest model of a scene that was built -/

/-- Where every model has a distance, there is a closest model.  It is none if no model is near, and
otherwise the first of the nearest models.  How near it is does not depend on the order of the
models. -/
theorem Builder.Reachable.closest_first_nearest {b : Builder} (h : b.Reachable) (epsilon : Float32)
    (frame : Context) (position : Float3) (d : Model → Float32) :
    let v : Probe := { scene := b.scene, epsilon, frame }
    (∀ m ∈ b.scene.models, v.distance m position = .ok (d m)) →
    ∃ c, v.closest position = .ok c ∧
      ((∀ n ∈ b.scene.models, ¬(d n).abs < farAway) → c = ⟨0, farAway⟩) ∧
      ((∃ n ∈ b.scene.models, (d n).abs < farAway) →
        ∃ front m rest, b.scene.models = front ++ m :: rest ∧ c.object = m.id ∧
          b.scene.model? c.object = some m ∧ c.distance = (d m).abs ∧ c.distance < farAway ∧
          (∀ n ∈ b.scene.models, ¬(d n).abs < c.distance) ∧
          ∀ n ∈ front, c.distance < (d n).abs ∨ (d n).abs.isNaN = true) ∧
      ∀ scene : Scene, scene.shapes = b.scene.shapes →
        (scene.models.map Model.shape).Perm (b.scene.models.map Model.shape) →
          (({ v with scene } : Probe).closest position).map Closest.distance = .ok c.distance := by
  intro v hd
  obtain ⟨c, hc, hfinds⟩ := v.closest_finds hd
  refine ⟨c, hc, fun hfar => ?_, fun hnear => ?_, fun scene hshapes hperm =>
    Probe.closest_distance_eq (v := v) rfl hshapes hperm hd hfinds⟩
  · rcases hfinds.best_or_model with rfl | ⟨m, hm, -, hcloser⟩
    · rfl
    · exact absurd hcloser (hfar m hm)
  · have hleast := hfinds.not_lt
    cases hfinds with
    | earlier hfar =>
        obtain ⟨n, hn, hcloser⟩ := hnear
        exact absurd hcloser (hfar n hn)
    | @first front rest m hmodels hcloser hfront hrest =>
        have hm : m ∈ v.scene.models := by simp [hmodels]
        exact ⟨front, m, rest, hmodels, rfl, h.wellFormed.model?_eq hm, rfl, hcloser, hleast,
          hfront⟩

/-- Two models of one ball tie at every point, and the first of them is the closest. -/
theorem closest_first_nearest_twins :
    let v : Probe := { scene := Builder.twins.scene, epsilon := 0.5 }
    let position : Float3 := ⟨2.0, 0.0, 0.0⟩
    Builder.twins.Reachable ∧ (∀ m ∈ Builder.twins.scene.models, v.distance m position = .ok 1.5) ∧
      v.closest position = .ok ⟨1, 1.5⟩ := by
  intro v position
  have hreachable : Builder.twins.Reachable := .model _ _ (.model _ _ (.push _ (.empty 1)))
  have hmodels : Builder.twins.scene.models = [⟨1, ⟨1, 1⟩, {}⟩, ⟨2, ⟨1, 1⟩, {}⟩] := rfl
  have hsphere : Distance.sphere position = 1.5 := by decide +kernel
  have hshape : Builder.twins.scene.shapes.distance {} ⟨1, 1⟩ position .zero = .ok 1.5 := by
    rw [Arena.distance, ← hsphere]
    rfl
  have hd : ∀ m ∈ Builder.twins.scene.models, v.distance m position = .ok 1.5 := by
    rw [hmodels, List.forall_mem_cons, List.forall_mem_singleton]
    exact ⟨hshape, hshape⟩
  obtain ⟨c, hc, -, hnear, -⟩ :=
    hreachable.closest_first_nearest v.epsilon v.frame position (fun _ => 1.5) hd
  obtain ⟨front, m, rest, hsplit, hobject, -, hdistance, -, -, hfront⟩ :=
    hnear ⟨_, List.mem_cons_self, by decide +kernel⟩
  refine ⟨hreachable, hd, ?_⟩
  rw [hdistance] at hfront
  cases front with
  | cons n front =>
      have htie := hfront n List.mem_cons_self
      exact absurd htie (by decide +kernel)
  | nil =>
      obtain ⟨rfl, -⟩ := List.cons.inj (hmodels.symm.trans hsplit)
      have habs : (1.5 : Float32).abs = 1.5 := by decide +kernel
      have hfound : c = ⟨1, 1.5⟩ := by
        cases c
        rw [Closest.mk.injEq]
        exact ⟨hobject, hdistance.trans habs⟩
      rw [hc, hfound]

end ImplicitScene
