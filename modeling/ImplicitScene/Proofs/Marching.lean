import ImplicitScene.Proofs.FloatOrder
import ImplicitScene.Proofs.Probing

/-!
# How a march ends

A march looks at one point after the other and asks there for the closest model.
Only the answers decide how it goes on, so a march can be told for any way of asking
(`marchAsking`).  With the answers of a probe it is `march`.  With a way of asking that
keeps every query it is the same march beside its queries (`marchKeeping`).

The answers also say how far the ray has come before each query (`way`).  A march ends
in one of three ways: at a surface, at the limit, or with its steps used up (`EndsBy`).
After the same answers only one of them is possible, and a limit that is NaN is never
reached.  None of this depends on how floats round.
-/

namespace ImplicitScene

/-- The closest model does not depend on the step that normals are measured with. -/
theorem Probe.closest_epsilon (v : Probe) (epsilon : Float32) (position : Float3) :
    Probe.closest { v with epsilon } position = v.closest position := by
  have hmodels : ∀ (models : List Model) (best : Closest),
      Probe.closestOf { v with epsilon } position best models =
        v.closestOf position best models := by
    intro models
    induction models with
    | nil => exact fun _ => rfl
    | cons model models ih =>
        intro best
        simp only [closestOf_cons, ih]
        rfl
  exact hmodels v.scene.models _

/-- A point that was looked at, and what was found there. -/
structure Query where
  /-- The point. -/
  point : Float3
  /-- The closest model. -/
  answer : Closest

namespace Ray

/-! ## Marches with their queries -/

/-- A march from where it stands, if `ask` finds the closest model at a point. -/
def marchAsking {M : Type → Type} [Monad M] (r : Ray) (ask : Float3 → M Closest)
    (epsilon : Float32) : (steps : Nat) → March → M March
  | 0, m => pure m
  | steps + 1, m => do
      let closest ← ask m.position
      if closest.distance < epsilon then
        let travelled := m.travelled + closest.distance
        pure ⟨closest, r.point travelled, travelled⟩
      else if r.limit < m.travelled then pure ⟨closest, r.point r.limit, r.limit⟩
      else
        let travelled := m.travelled + closest.distance * 0.5
        r.marchAsking ask epsilon steps ⟨closest, r.point travelled, travelled - epsilon⟩

/-- Ask a probe for the closest model, and keep the query after those before it. -/
def askKeeping (v : Probe) (point : Float3) : StateT (List Query) (Except EvalError) Closest :=
  fun queries => do
    let answer ← v.closest point
    .ok (answer, queries ++ [⟨point, answer⟩])

/-- The march from the origin, with the queries it makes, first to last. -/
def marchKeeping (r : Ray) (v : Probe) (epsilon : Float32) (steps : Nat) :
    Except EvalError (March × List Query) :=
  r.marchAsking (askKeeping v) epsilon steps r.start []

/-- With the answers of a probe, this is the march. -/
theorem marchAsking_closest (r : Ray) (v : Probe) (epsilon : Float32) (steps : Nat) (m : March) :
    r.marchAsking v.closest epsilon steps m = r.marchFrom { v with epsilon } steps m := by
  induction steps generalizing m with
  | zero => rfl
  | succ steps ih =>
      rw [marchFrom_succ, Probe.closest_epsilon, marchAsking]
      simp only [ih]
      rfl

/-! ## Exits -/

/-- A march that goes on after an answer. -/
def advance (r : Ray) (epsilon : Float32) (m : March) (closest : Closest) : March :=
  let travelled := m.travelled + closest.distance * 0.5
  ⟨closest, r.point travelled, travelled - epsilon⟩

/-- How far a ray has come after queries that did not end its march, from `travelled` on. -/
def way (epsilon travelled : Float32) (queries : List Query) : Float32 :=
  queries.foldl (fun t q => t + q.answer.distance * 0.5 - epsilon) travelled

/-- How a march ends. -/
inductive Exit where
  /-- At a surface. -/
  | surface
  /-- At the limit. -/
  | limit
  /-- With its steps used up. -/
  | steps
  deriving DecidableEq

/-- A march ends in this way at its query of number `count`, when the ray had come as far as
`before`. -/
def EndsBy (r : Ray) (epsilon : Float32) (steps count : Nat) (before : Float32) (m : March) :
    Exit → Prop
  | .surface =>
      m.closest.distance < epsilon ∧ m.travelled = before + m.closest.distance ∧
        m.position = r.point m.travelled
  | .limit =>
      ¬m.closest.distance < epsilon ∧ r.limit < before ∧ m.travelled = r.limit ∧
        m.position = r.point r.limit
  | .steps =>
      ¬m.closest.distance < epsilon ∧ ¬r.limit < before ∧ count = steps ∧
        ∃ t, t = before + m.closest.distance * 0.5 ∧ m.position = r.point t ∧
          m.travelled = t - epsilon

section Exits

variable {r : Ray} {v : Probe} {epsilon before : Float32} {steps count : Nat} {m out : March}

/-- A march ends in one way only. -/
theorem EndsBy.unique {exit exit' : Exit} (h : r.EndsBy epsilon steps count before m exit)
    (h' : r.EndsBy epsilon steps count before m exit') : exit = exit' := by
  cases exit with
  | surface =>
      cases exit' with
      | surface => rfl
      | limit | steps => exact absurd h.1 h'.1
  | limit =>
      cases exit' with
      | surface => exact absurd h'.1 h.1
      | limit => rfl
      | steps => exact absurd h.2.1 h'.2.1
  | steps =>
      cases exit' with
      | surface => exact absurd h'.1 h.1
      | limit => exact absurd h'.2.1 h.2.1
      | steps => rfl

/-- Nothing is beyond a limit that is NaN. -/
theorem not_endsBy_limit (h : r.limit.isNaN = true) :
    ¬r.EndsBy epsilon steps count before m .limit := by
  rintro ⟨-, hbeyond, -⟩
  rw [lt_iff_rank, h] at hbeyond
  cases hbeyond.1

/-- One more step before all others. -/
theorem EndsBy.succ {exit : Exit} (h : r.EndsBy epsilon steps count before m exit) :
    r.EndsBy epsilon (steps + 1) (count + 1) before m exit := by
  cases exit with
  | surface | limit => exact h
  | steps =>
      obtain ⟨hfar, hwithin, hcount, hend⟩ := h
      exact ⟨hfar, hwithin, congrArg (· + 1) hcount, hend⟩

end Exits

/-- A march of at most `steps` steps that began when the ray had come as far as `travelled`.  It
made the queries `earlier` and then the query `last`, and ended there. -/
structure Ended (r : Ray) (v : Probe) (epsilon : Float32) (steps : Nat) (travelled : Float32)
    (earlier : List Query) (last : Query) (m : March) : Prop where
  /-- There is a step for each query. -/
  count : earlier.length + 1 ≤ steps
  /-- The queries were answered by the probe. -/
  answered : ∀ q ∈ earlier ++ [last], v.closest q.point = .ok q.answer
  /-- Before the last query no surface was met. -/
  clear : ∀ q ∈ earlier, ¬q.answer.distance < epsilon
  /-- The closest model is that of the last query. -/
  closest : m.closest = last.answer
  /-- The march ended in one of the three ways. -/
  exit : ∃! exit,
    r.EndsBy epsilon steps (earlier.length + 1) (way epsilon travelled earlier) m exit

section Runs

variable {r : Ray} {v : Probe} {epsilon : Float32} {steps : Nat} {m out : March}
  {closest : Closest}

/-- A march that ends at its first query. -/
theorem Ended.first (exit : Exit) (hclosest : v.closest m.position = .ok closest)
    (hout : out.closest = closest)
    (hexit : r.EndsBy epsilon (steps + 1) 1 m.travelled out exit) :
    r.Ended v epsilon (steps + 1) m.travelled [] ⟨m.position, closest⟩ out where
  count := Nat.le_add_left 1 steps
  answered := List.forall_mem_singleton.mpr hclosest
  clear := List.forall_mem_nil _
  closest := hout
  exit := ⟨exit, hexit, fun _ h => h.unique hexit⟩

/-- A march that goes on behind its first query. -/
theorem Ended.behind {earlier : List Query} {last : Query}
    (hclosest : v.closest m.position = .ok closest) (hfar : ¬closest.distance < epsilon)
    (h : r.Ended v epsilon steps (r.advance epsilon m closest).travelled earlier last out) :
    r.Ended v epsilon (steps + 1) m.travelled (⟨m.position, closest⟩ :: earlier) last out where
  count := Nat.succ_le_succ h.count
  answered := List.forall_mem_cons.mpr ⟨hclosest, h.answered⟩
  clear := List.forall_mem_cons.mpr ⟨hfar, h.clear⟩
  closest := h.closest
  exit := by
    obtain ⟨exit, hexit, -⟩ := h.exit
    exact ⟨exit, hexit.succ, fun _ h' => h'.unique hexit.succ⟩

/-- The next query is kept, and the march goes on with it. -/
theorem marchAsking_askKeeping (hclosest : v.closest m.position = .ok closest)
    (queries : List Query) :
    r.marchAsking (askKeeping v) epsilon (steps + 1) m queries =
      if closest.distance < epsilon then
        .ok (⟨closest, r.point (m.travelled + closest.distance), m.travelled + closest.distance⟩,
          queries ++ [⟨m.position, closest⟩])
      else if r.limit < m.travelled then
        .ok (⟨closest, r.point r.limit, r.limit⟩, queries ++ [⟨m.position, closest⟩])
      else
        r.marchAsking (askKeeping v) epsilon steps (r.advance epsilon m closest)
          (queries ++ [⟨m.position, closest⟩]) := by
  have hasked : askKeeping v m.position queries =
      .ok (closest, queries ++ [⟨m.position, closest⟩]) :=
    bind_eq_ok_iff.mpr ⟨closest, hclosest, rfl⟩
  rw [marchAsking]
  simp only [bind, StateT.bind, hasked, Except.bind]
  split
  · rfl
  · split <;> rfl

/-- A march that is answered ends, and so it does beside its queries. -/
theorem ended_of_marchAsking (hsteps : 0 < steps)
    (h : r.marchAsking v.closest epsilon steps m = .ok out) (queries : List Query) :
    ∃ earlier last,
      r.marchAsking (askKeeping v) epsilon steps m queries =
        .ok (out, queries ++ (earlier ++ [last])) ∧
      r.Ended v epsilon steps m.travelled earlier last out := by
  induction steps generalizing m queries with
  | zero => exact absurd hsteps (Nat.lt_irrefl 0)
  | succ steps ih =>
      obtain ⟨closest, hclosest, hnext⟩ := ok_of_bind_eq_ok h
      dsimp only at hnext
      rw [marchAsking_askKeeping hclosest]
      split at hnext
      next hnear =>
        obtain rfl := Except.ok.inj hnext
        exact ⟨[], ⟨m.position, closest⟩, if_pos hnear,
          .first .surface hclosest rfl ⟨hnear, rfl, rfl⟩⟩
      next hfar =>
        rw [if_neg hfar]
        split at hnext
        next hbeyond =>
          obtain rfl := Except.ok.inj hnext
          exact ⟨[], ⟨m.position, closest⟩, if_pos hbeyond,
            .first .limit hclosest rfl ⟨hfar, hbeyond, rfl, rfl⟩⟩
        next hwithin =>
          rw [if_neg hwithin]
          cases steps with
          | zero =>
              obtain rfl := Except.ok.inj hnext
              exact ⟨[], ⟨m.position, closest⟩, rfl,
                .first .steps hclosest rfl ⟨hfar, hwithin, rfl, _, rfl, rfl, rfl⟩⟩
          | succ steps =>
              obtain ⟨earlier, last, hkeeping, hended⟩ := ih (Nat.succ_pos steps) hnext
                (queries ++ [⟨m.position, closest⟩])
              refine ⟨⟨m.position, closest⟩ :: earlier, last, ?_, hended.behind hclosest hfar⟩
              rw [List.append_assoc] at hkeeping
              exact hkeeping

end Runs

/-- A march that succeeds made at least one query and no more than it has steps.  It ended at the
last of them, in one of three ways, and not at a limit that is NaN. -/
theorem march_ended (r : Ray) (v : Probe) (epsilon : Float32) {steps : Nat} (hsteps : 1 ≤ steps)
    {m : March} (h : r.march { v with epsilon } steps = .ok m) :
    ∃ earlier last,
      r.marchKeeping v epsilon steps = .ok (m, earlier ++ [last]) ∧
      r.Ended v epsilon steps 0.0 earlier last m ∧
      (r.limit.isNaN = true →
        ¬r.EndsBy epsilon steps (earlier.length + 1) (way epsilon 0.0 earlier) m .limit) := by
  rw [march, ← marchAsking_closest] at h
  obtain ⟨earlier, last, hkeeping, hended⟩ := ended_of_marchAsking hsteps h []
  exact ⟨earlier, last, hkeeping, hended, not_endsBy_limit⟩

/-- Where there are no models, a ray is scattered at its second query. -/
theorem march_ended_empty :
    let r : Ray := ⟨.zero, ⟨0.0, 0.0, 1.0⟩, 1.0⟩
    let v : Probe := { scene := (Builder.empty 0).scene, epsilon := 0.5 }
    let m : March := ⟨⟨0, farAway⟩, r.point 1.0, 1.0⟩
    r.march { v with epsilon := 0.0001 } 256 = .ok m ∧ ∃ earlier last,
      r.marchKeeping v 0.0001 256 = .ok (m, earlier ++ [last]) ∧
      r.Ended v 0.0001 256 0.0 earlier last m := by
  intro r v m
  have hclosest : ∀ p, Probe.closest { v with epsilon := 0.0001 } p = .ok ⟨0, farAway⟩ :=
    fun _ => rfl
  have hmarch : r.march { v with epsilon := 0.0001 } 256 = .ok m := by
    have hfar : ¬farAway < 0.0001 := by decide +kernel
    have hwithin : ¬(1.0 : Float32) < 0.0 := by decide +kernel
    have hbeyond : (1.0 : Float32) < 0.0 + farAway * 0.5 - 0.0001 := by decide +kernel
    rw [march, marchFrom_succ, hclosest]
    refine (if_neg hfar).trans ((if_neg hwithin).trans ?_)
    rw [marchFrom_succ, hclosest]
    exact (if_neg hfar).trans (if_pos hbeyond)
  obtain ⟨earlier, last, hkeeping, hended, -⟩ := march_ended r v 0.0001 (by decide) hmarch
  exact ⟨hmarch, earlier, last, hkeeping, hended⟩

end Ray

end ImplicitScene
