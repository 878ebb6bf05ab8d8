import Mathlib.Data.List.Perm.Basic
import ImplicitScene.Proofs.Probing
import ImplicitScene.Scene.Batch

/-!
# Many points in any order

The points of a batch may be looked at in any order, and at the same time.  If one
fails, the others may never be looked at, and nothing says which error is reported
when several fail.  `Collects` holds of every result that such a run may have.

In general a run may have many results.  It has one if all errors that occur are
the same (`Collects.unique`).  In a scene that was built they are, since only a
snippet can keep the closest model from being found.  So a batch gives the same
result in every order, and the one that it gives point by point.
-/

namespace ImplicitScene

/-! ## Results of a run without an order -/

section Collecting

variable {ε α β : Type}

/-- What a run over several points may give: the values in the order of the points if there is one
for every point, and otherwise some error that occurred. -/
inductive Collects (results : List (Except ε α)) : Except ε (List α) → Prop where
  | values {as : List α} (h : results = as.map .ok) : Collects results (.ok as)
  | failure {e : ε} (h : .error e ∈ results) : Collects results (.error e)

theorem Collects.cons_ok {results : List (Except ε α)} {r : Except ε (List α)} (a : α)
    (h : Collects results r) : Collects (.ok a :: results) (r.map (a :: ·)) := by
  cases h with
  | values h => exact .values (by rw [h, List.map_cons])
  | failure h => exact .failure (List.mem_cons_of_mem _ h)

/-- Where only one error occurs, every run gives the same. -/
theorem Collects.unique {results : List (Except ε α)} {error : ε}
    (herror : ∀ e, .error e ∈ results → e = error) {r s : Except ε (List α)}
    (hr : Collects results r) (hs : Collects results s) : r = s := by
  -- an error among the results is none of the values
  have hapart : ∀ {as : List α} {e : ε}, results = as.map .ok → .error e ∉ results := by
    rintro as e rfl hmem
    obtain ⟨a, -, ha⟩ := List.mem_map.mp hmem
    cases ha
  cases hr with
  | values hr =>
      cases hs with
      | values hs =>
          have hinjective : Function.Injective (Except.ok : α → Except ε α) :=
            fun _ _ => Except.ok.inj
          rw [List.map_injective_iff.mpr hinjective (hr.symm.trans hs)]
      | failure hs => exact absurd hs (hapart hr)
  | failure hr =>
      cases hs with
      | values hs => exact absurd hr (hapart hs)
      | failure hs => rw [herror _ hr, herror _ hs]

/-- Point by point is one way to run. -/
theorem mapM_collects (f : α → Except ε β) (xs : List α) : Collects (xs.map f) (xs.mapM f) := by
  induction xs with
  | nil => exact .values rfl
  | cons x xs ih =>
      rw [List.map_cons, List.mapM_cons]
      cases hx : f x with
      | error e => exact .failure List.mem_cons_self
      | ok y =>
          have htail := ih.cons_ok y
          cases hxs : xs.mapM f with
          | error e => rwa [hxs] at htail
          | ok ys => rwa [hxs] at htail

theorem error?_eq_some {r : Except ε α} {e : ε} (h : error? r = some e) : r = .error e := by
  cases r with
  | ok a => cases h
  | error e' => rw [Option.some.inj h]

theorem map_ok_filterMap_toOption {results : List (Except ε α)}
    (h : ∀ r ∈ results, ∃ a, r = .ok a) :
    results = (results.filterMap Except.toOption).map .ok := by
  induction results with
  | nil => rfl
  | cons r results ih =>
      rw [List.forall_mem_cons] at h
      obtain ⟨⟨a, rfl⟩, hrest⟩ := h
      rw [List.filterMap_cons_some (f := Except.toOption) rfl, List.map_cons, ← ih hrest]

/-- Any order of the points, each of them once, is a way to run. -/
theorem gather_collects {order : List Nat} {results : List (Except ε α)}
    (horder : order.Perm (List.range results.length)) :
    Collects results (gather order results) := by
  unfold gather
  cases hfirst : firstError? order results with
  | some e =>
      obtain ⟨i, -, hi⟩ := List.exists_of_findSome?_eq_some hfirst
      obtain ⟨r, hr, he⟩ := Option.bind_eq_some_iff.mp hi
      exact .failure (error?_eq_some he ▸ List.mem_of_getElem? hr)
  | none =>
      refine .values (map_ok_filterMap_toOption fun r hr => ?_)
      obtain ⟨i, hi⟩ := List.mem_iff_getElem?.mp hr
      have hmem : i ∈ order :=
        horder.mem_iff.mpr (List.mem_range.mpr (List.getElem?_eq_some_iff.mp hi).1)
      have hnone := List.findSome?_eq_none_iff.mp hfirst i hmem
      rw [hi] at hnone
      cases r with
      | ok a => exact ⟨a, rfl⟩
      | error e => cases hnone

end Collecting

/-! ## Batches of points -/

/-- In a scene that was built, a batch of points gives the same in every order of the points, also
if it fails: what it gives point by point. -/
theorem Builder.Reachable.batch_eq_closestEach {b : Builder} (h : b.Reachable) (epsilon : Float32)
    (frame : Context) (points : List Float3) :
    let v : Probe := { scene := b.scene, epsilon, frame }
    (∀ order : List Nat, order.Perm (List.range points.length) →
      v.closestInOrder order points = v.closestEach points) ∧
    ∀ r, Collects (points.map v.closest) r ↔ r = v.closestEach points := by
  intro v
  have hsnippet : ∀ e, .error e ∈ points.map v.closest → e = .snippet := by
    intro e he
    obtain ⟨position, -, hfails⟩ := List.mem_map.mp he
    have hclosest := Probe.closest_failsOnlyIf h.wellFormed (v := v) rfl position
    rw [hfails] at hclosest
    exact hclosest.2
  have heach : Collects (points.map v.closest) (v.closestEach points) :=
    mapM_collects v.closest points
  refine ⟨fun order horder => ?_, fun r => ⟨fun hr => hr.unique hsnippet heach, ?_⟩⟩
  · refine Collects.unique hsnippet (gather_collects ?_) heach
    rwa [List.length_map]
  · rintro rfl
    exact heach

/-- Neither of two points has a distance to the ball that a snippet moves.  The second is looked at
first. -/
theorem batch_eq_closestEach_drift :
    let v : Probe := { scene := Builder.drift.scene, epsilon := 0.5 }
    let points : List Float3 := [.zero, ⟨1.0, 0.0, 0.0⟩]
    Builder.drift.Reachable ∧ [1, 0].Perm (List.range points.length) ∧
      v.closestEach points = .error .snippet ∧
      v.closestInOrder [1, 0] points = .error .snippet := by
  intro v points
  have hreachable : Builder.drift.Reachable := .model _ _ (.push _ (.push _ (.empty 1)))
  have horder : [1, 0].Perm (List.range points.length) := .swap 0 1 []
  have hclosest : ∀ position, v.closest position = .error .snippet := by
    intro position
    have hsettles := Probe.closestOf_settles hreachable.wellFormed (v := v) rfl position
      v.scene.models ⟨0, farAway⟩ fun _ hm => hm
    exact hsettles.eq_error ⟨_, List.mem_singleton.mpr rfl, ⟨1, 2⟩, by decide, _, rfl, _,
      List.mem_singleton.mpr rfl, rfl⟩
  have heach : v.closestEach points = .error .snippet := by
    rw [Probe.closestEach, List.mapM_cons, hclosest]
    rfl
  exact ⟨hreachable, horder, heach,
    ((hreachable.batch_eq_closestEach v.epsilon v.frame points).1 _ horder).trans heach⟩

end ImplicitScene
