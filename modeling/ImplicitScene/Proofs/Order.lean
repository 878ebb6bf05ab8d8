import Mathlib.Algebra.GroupWithZero.Nat
import Mathlib.Algebra.Order.BigOperators.Group.List
import Mathlib.Algebra.Order.Group.Nat
import Mathlib.Data.List.Basic
import Mathlib.Data.List.Induction
import ImplicitScene.Proofs.Construction
import ImplicitScene.Shape.Order

/-!
# The order of construction is the naive one

`Arena.listing` lists the shapes below a shape by recursion.  The lists of the
children come in turn, then the shape itself, and of every shape the first
occurrence is kept.  A shape that is shared is listed again and again on the way,
so the recursion can take exponential time.

`Arena.order` walks with a stack and looks at every shape once.  It gives the
same list.  The proof follows the walk through one visit.  A visit that begins
with the order `o` at child `k` of a shape ends with `o`, then the listings of
the children from `k` on, then the shape, without repetitions.  The children
before `k` are in `o` already, and what is in `o` brings all that lies below it.

The walk makes a fixed number of turns.  Every turn of a visit belongs to a
shape that the visit lists, one for each child and one for the shape itself, and
no shape is listed twice.  So the turns suffice.

That the order is topological is then read off the listing: it holds what lies
below the shape, each once, the shape last, and children before their parents.
-/

namespace ImplicitScene

/-! ## Keeping first occurrences -/

section FirstOccurrences

variable {α : Type} [DecidableEq α]

/-- A last element is kept if it does not occur before. -/
theorem eraseDups_concat (xs : List α) (x : α) :
    (xs ++ [x]).eraseDups = if x ∈ xs then xs.eraseDups else xs.eraseDups ++ [x] := by
  rw [List.eraseDups_append]
  by_cases h : x ∈ xs
  · simp [List.removeAll, h]
  · simp [List.removeAll, h, List.eraseDups_cons]

theorem nodup_eraseDups (xs : List α) : xs.eraseDups.Nodup := by
  induction xs using List.reverseRecOn with
  | nil => simp
  | append_singleton xs x ih =>
      rw [eraseDups_concat]
      split
      next => exact ih
      next h =>
        refine List.nodup_append.mpr ⟨ih, by simp, ?_⟩
        intro a ha b hb hab
        rw [List.mem_singleton.mp hb] at hab
        exact h (List.mem_eraseDups.mp (hab ▸ ha))

theorem eraseDups_of_nodup {xs : List α} (h : xs.Nodup) : xs.eraseDups = xs := by
  induction xs using List.reverseRecOn with
  | nil => simp
  | append_singleton xs x ih =>
      obtain ⟨hxs, -, hdisjoint⟩ := List.nodup_append.mp h
      have hx : x ∉ xs := fun hmem => hdisjoint x hmem x (by simp) rfl
      rw [eraseDups_concat, if_neg hx, ih hxs]

/-- A part that occurs before leaves no trace. -/
theorem eraseDups_append_of_subset {xs ys : List α} (h : ys ⊆ xs) (zs : List α) :
    (xs ++ ys ++ zs).eraseDups = (xs ++ zs).eraseDups := by
  induction zs using List.reverseRecOn with
  | nil =>
      rw [List.append_nil, List.append_nil]
      induction ys using List.reverseRecOn with
      | nil => rw [List.append_nil]
      | append_singleton ys y ih =>
          obtain ⟨hys, hy⟩ := List.append_subset.mp h
          have hmem : y ∈ xs ++ ys := List.mem_append_left _ (hy (List.mem_singleton.mpr rfl))
          rw [← List.append_assoc, eraseDups_concat, if_pos hmem, ih hys]
  | append_singleton zs z ih =>
      have hmem : z ∈ xs ++ ys ++ zs ↔ z ∈ xs ++ zs := by
        have := @h z
        simp only [List.mem_append]
        tauto
      rw [← List.append_assoc, ← List.append_assoc, eraseDups_concat, eraseDups_concat, ih]
      simp only [hmem]

theorem eraseDups_append_eraseDups (xs ys : List α) :
    (xs ++ ys.eraseDups).eraseDups = (xs ++ ys).eraseDups := by
  induction ys using List.reverseRecOn with
  | nil => simp
  | append_singleton ys y ih =>
      rw [← List.append_assoc, eraseDups_concat, eraseDups_concat]
      by_cases hy : y ∈ ys
      · rw [if_pos hy, if_pos (List.mem_append_right _ hy), ih]
      · rw [if_neg hy, ← List.append_assoc, eraseDups_concat, ih]
        simp only [List.mem_append, List.mem_eraseDups]

theorem eraseDups_eraseDups_append (xs ys : List α) :
    (xs.eraseDups ++ ys).eraseDups = (xs ++ ys).eraseDups := by
  induction ys using List.reverseRecOn with
  | nil =>
      rw [List.append_nil, List.append_nil]
      exact eraseDups_of_nodup (nodup_eraseDups xs)
  | append_singleton ys y ih =>
      rw [← List.append_assoc, ← List.append_assoc, eraseDups_concat, eraseDups_concat, ih]
      simp only [List.mem_append, List.mem_eraseDups]

end FirstOccurrences

/-! ## The listing by recursion -/

namespace Arena

/-- The shapes below a shape by recursion: the listings of the children in turn, then the shape
itself, with the first occurrence of each kept.  A child with a higher number is passed over. -/
def listing (arena : Arena) (id : ShapeId) : List ShapeId :=
  ((arena.dependencies id).flatMap (fun c =>
    if c.number < id.number then arena.listing c else []) ++ [id]).eraseDups
termination_by id.number

namespace WellFormed

variable {arena : Arena}

/-- Where children are older than their parents, no child is passed over. -/
theorem listing_eq (hw : arena.WellFormed) (id : ShapeId) :
    arena.listing id = ((arena.dependencies id).flatMap arena.listing ++ [id]).eraseDups := by
  rw [listing]
  congr 2
  refine List.flatMap_congr fun c hc => ?_
  exact if_pos (hw.child_of_dependencies hc).2

theorem mem_listing (hw : arena.WellFormed) {id x : ShapeId} :
    x ∈ arena.listing id ↔ (∃ c ∈ arena.dependencies id, x ∈ arena.listing c) ∨ x = id := by
  rw [hw.listing_eq, List.mem_eraseDups, List.mem_append, List.mem_flatMap, List.mem_singleton]

theorem self_mem_listing (hw : arena.WellFormed) (id : ShapeId) : id ∈ arena.listing id :=
  hw.mem_listing.mpr (Or.inr rfl)

/-- A shape has the greatest number below it. -/
theorem number_le_of_mem_listing (hw : arena.WellFormed) {id x : ShapeId}
    (hx : x ∈ arena.listing id) : x.number ≤ id.number := by
  rcases hw.mem_listing.mp hx with ⟨c, hc, hxc⟩ | rfl
  · have hlt := (hw.child_of_dependencies hc).2
    have hle := hw.number_le_of_mem_listing hxc
    omega
  · exact Nat.le_refl _
termination_by id.number

theorem contains_of_mem_listing (hw : arena.WellFormed) {id x : ShapeId}
    (h : arena.contains id = true) (hx : x ∈ arena.listing id) : arena.contains x = true := by
  rcases hw.mem_listing.mp hx with ⟨c, hc, hxc⟩ | rfl
  · have hchild := hw.child_of_dependencies hc
    have hlt := hchild.2
    exact hw.contains_of_mem_listing hchild.1 hxc
  · exact h
termination_by id.number

theorem nodup_listing (hw : arena.WellFormed) (id : ShapeId) : (arena.listing id).Nodup := by
  rw [hw.listing_eq]
  exact nodup_eraseDups _

end WellFormed

/-- A list in which the children of a shape stand before it. -/
def ChildrenFirst (arena : Arena) (ids : List ShapeId) : Prop :=
  ∀ before x after, ids = before ++ x :: after → ∀ c ∈ arena.dependencies x, c ∈ before

namespace ChildrenFirst

variable {arena : Arena}

theorem nil : arena.ChildrenFirst [] := by
  intro before x after h
  cases before <;> cases h

theorem concat_iff {ids : List ShapeId} {x : ShapeId} :
    arena.ChildrenFirst (ids ++ [x]) ↔
      arena.ChildrenFirst ids ∧ ∀ c ∈ arena.dependencies x, c ∈ ids := by
  constructor
  · intro h
    refine ⟨fun before y after hids => ?_, h ids x [] rfl⟩
    exact h before y (after ++ [x]) (by rw [hids, List.append_assoc, List.cons_append])
  · rintro ⟨h, hx⟩ before y after hids
    rcases List.eq_nil_or_concat after with rfl | ⟨after, z, rfl⟩
    · obtain ⟨rfl, hxy⟩ := List.append_inj' hids rfl
      obtain rfl := List.singleton_inj.mp hxy
      exact hx
    · rw [List.concat_eq_append, ← List.cons_append, ← List.append_assoc] at hids
      exact h before y after (List.append_inj' hids rfl).1

theorem append {ids others : List ShapeId} (h : arena.ChildrenFirst ids)
    (ho : arena.ChildrenFirst others) : arena.ChildrenFirst (ids ++ others) := by
  induction others using List.reverseRecOn with
  | nil => rwa [List.append_nil]
  | append_singleton others x ih =>
      obtain ⟨hothers, hx⟩ := concat_iff.mp ho
      rw [← List.append_assoc, concat_iff]
      exact ⟨ih hothers, fun c hc => List.mem_append_right _ (hx c hc)⟩

theorem flatMap {ids : List ShapeId} {f : ShapeId → List ShapeId}
    (h : ∀ x ∈ ids, arena.ChildrenFirst (f x)) : arena.ChildrenFirst (ids.flatMap f) := by
  induction ids with
  | nil => exact nil
  | cons x ids ih =>
      rw [List.forall_mem_cons] at h
      rw [List.flatMap_cons]
      exact h.1.append (ih h.2)

theorem eraseDups {ids : List ShapeId} (h : arena.ChildrenFirst ids) :
    arena.ChildrenFirst ids.eraseDups := by
  induction ids using List.reverseRecOn with
  | nil => exact nil
  | append_singleton ids x ih =>
      obtain ⟨hids, hx⟩ := concat_iff.mp h
      rw [eraseDups_concat]
      split
      · exact ih hids
      · exact concat_iff.mpr ⟨ih hids, fun c hc => List.mem_eraseDups.mpr (hx c hc)⟩

end ChildrenFirst

theorem WellFormed.childrenFirst_listing {arena : Arena} (hw : arena.WellFormed) (id : ShapeId) :
    arena.ChildrenFirst (arena.listing id) := by
  rw [hw.listing_eq]
  refine ChildrenFirst.eraseDups (ChildrenFirst.concat_iff.mpr ⟨.flatMap fun c hc => ?_, ?_⟩)
  · have hlt := (hw.child_of_dependencies hc).2
    exact hw.childrenFirst_listing c
  · intro c hc
    exact List.mem_flatMap.mpr ⟨c, hc, hw.self_mem_listing c⟩
termination_by id.number

end Arena

/-! ## One turn -/

namespace Walk

variable {arena : Arena} {w : Walk} {id c : ShapeId} {k : Nat} {rest : List Visit}

theorem run_succ (h : w.stack = ⟨id, k⟩ :: rest) (n : Nat) :
    run arena (n + 1) w = run arena n (w.turn arena) := by
  rw [run, h]

theorem run_of_stack_nil (h : w.stack = []) : ∀ n : Nat, run arena n w = w
  | 0 => rfl
  | n + 1 => by rw [run, h]

/-- A child that is listed already is passed over. -/
theorem turn_of_listed (h : w.stack = ⟨id, k⟩ :: rest) (hc : (arena.dependencies id)[k]? = some c)
    (hlisted : w.hasListed c = true) :
    w.turn arena = { w with stack := ⟨id, k + 1⟩ :: rest } := by
  simp [turn, h, hc, hlisted]

/-- A child that is not listed yet is visited next. -/
theorem turn_of_not_listed (h : w.stack = ⟨id, k⟩ :: rest)
    (hc : (arena.dependencies id)[k]? = some c) (hcontains : arena.contains c = true)
    (hlisted : w.hasListed c = false) :
    w.turn arena = { w with stack := ⟨c, 0⟩ :: ⟨id, k + 1⟩ :: rest } := by
  simp [turn, h, hc, hcontains, hlisted]

/-- A shape without further children is listed. -/
theorem turn_of_no_child (h : w.stack = ⟨id, k⟩ :: rest)
    (hc : (arena.dependencies id)[k]? = none) (hlisted : w.hasListed id = false) :
    w.turn arena =
      { stack := rest
        listed := w.listed.setIfInBounds id.index true
        order := w.order.push id } := by
  simp [turn, h, hc, hlisted]

/-! ## What a walk keeps -/

/-- The flags tell which shapes are in the order, no shape is there twice, and every shape there
has its children there. -/
structure Faithful (arena : Arena) (w : Walk) : Prop where
  /-- There is a flag for every shape. -/
  size : w.listed.size = arena.size
  /-- Only shapes of the arena are listed. -/
  contained : ∀ id ∈ w.order.toList, arena.contains id = true
  /-- The flag of a shape says whether it is listed. -/
  flag : ∀ {id : ShapeId}, arena.contains id = true →
    (w.hasListed id = true ↔ id ∈ w.order.toList)
  /-- No shape is listed twice. -/
  nodup : w.order.toList.Nodup
  /-- Children are listed with their parents. -/
  closed : ∀ id ∈ w.order.toList, ∀ c ∈ arena.dependencies id, c ∈ w.order.toList

namespace Faithful

theorem start (arena : Arena) (root : ShapeId) : (Walk.start arena root).Faithful arena where
  size := by simp [Walk.start]
  contained id h := by simp [Walk.start] at h
  flag := by
    intro id h
    simp only [hasListed, Walk.start, Array.getD_eq_getD_getElem?, Array.getElem?_replicate]
    split <;> simp
  nodup := by simp [Walk.start]
  closed id h := by simp [Walk.start] at h

/-- The stack plays no part. -/
theorem of_stack (hf : w.Faithful arena) (stack : List Visit) :
    ({ w with stack } : Walk).Faithful arena :=
  ⟨hf.size, hf.contained, hf.flag, hf.nodup, hf.closed⟩

/-- What lies below a listed shape is listed. -/
theorem mem_of_mem_listing (hw : arena.WellFormed) (hf : w.Faithful arena) {id x : ShapeId}
    (hid : id ∈ w.order.toList) (hx : x ∈ arena.listing id) : x ∈ w.order.toList := by
  rcases hw.mem_listing.mp hx with ⟨c, hc, hxc⟩ | rfl
  · have hlt := (hw.child_of_dependencies hc).2
    exact hf.mem_of_mem_listing hw (hf.closed id hid c hc) hxc
  · exact hid
termination_by id.number

/-- Listing a shape whose children are listed. -/
theorem push (hf : w.Faithful arena) (hc : arena.contains id = true) (hnew : id ∉ w.order.toList)
    (hdone : ∀ c ∈ arena.dependencies id, c ∈ w.order.toList) (rest : List Visit) :
    ({ stack := rest
       listed := w.listed.setIfInBounds id.index true
       order := w.order.push id } : Walk).Faithful arena := by
  refine ⟨?_, ?_, ?_, ?_, ?_⟩
  · simp [hf.size]
  · intro x hx
    rw [Array.toList_push, List.mem_append, List.mem_singleton] at hx
    rcases hx with hx | rfl
    · exact hf.contained x hx
    · exact hc
  · intro x hx
    obtain ⟨-, hpos, hle⟩ := Arena.contains_iff.mp hc
    obtain ⟨-, hpos', -⟩ := Arena.contains_iff.mp hx
    have hflag := hf.flag hx
    simp only [hasListed, Array.getD_eq_getD_getElem?, Array.toList_push, List.mem_append,
      List.mem_singleton] at hflag ⊢
    by_cases hxid : x = id
    · subst hxid
      have hlt : x.index < w.listed.size := by
        rw [hf.size]
        exact Nat.lt_of_lt_of_le (Nat.sub_lt hpos Nat.one_pos) hle
      simp [hlt]
    · -- two shapes of the arena with one position are the same
      have hindex : id.index ≠ x.index := by
        intro heq
        apply hxid
        unfold ShapeId.index at heq
        exact Arena.eq_of_number_eq hx hc (by omega)
      rw [Array.getElem?_setIfInBounds_ne hindex, hflag]
      simp [hxid]
  · rw [Array.toList_push]
    refine List.nodup_append.mpr ⟨hf.nodup, by simp, ?_⟩
    intro a ha b hb hab
    rw [List.mem_singleton.mp hb] at hab
    exact hnew (hab ▸ ha)
  · intro x hx c hcx
    rw [Array.toList_push, List.mem_append, List.mem_singleton] at hx ⊢
    rcases hx with hx | rfl
    · exact Or.inl (hf.closed x hx c hcx)
    · exact Or.inl (hdone c hcx)

end Faithful

/-! ## One visit -/

/-- The turns that a shape takes: one for every child and one for itself. -/
def cost (arena : Arena) (id : ShapeId) : Nat := (arena.dependencies id).length + 1

/-- The turns that the shapes listed so far have taken. -/
def spent (arena : Arena) (w : Walk) : Nat := (w.order.toList.map (cost arena)).sum

/-- Distinct shapes of a list take no more turns than the whole list. -/
theorem cost_le_of_subset (arena : Arena) {ids others : List ShapeId} (hnodup : ids.Nodup)
    (hsubset : ids ⊆ others) : (ids.map (cost arena)).sum ≤ (others.map (cost arena)).sum := by
  obtain ⟨ids', hperm, hsublist⟩ := List.subperm_of_subset hnodup hsubset
  rw [← (hperm.map (cost arena)).sum_nat]
  exact (hsublist.map (cost arena)).sum_le_sum fun _ _ => Nat.zero_le _

/-- A visit of a new shape from child `k` on.  It takes the shape off the stack, and appends to the
order what the listings of those children and the shape itself add to it.  Every turn is one that
a newly listed shape takes. -/
theorem visit (hw : arena.WellFormed) (id : ShapeId) (k : Nat) (rest : List Visit) (w : Walk)
    (hstack : w.stack = ⟨id, k⟩ :: rest) (hf : w.Faithful arena)
    (hid : arena.contains id = true) (hnew : id ∉ w.order.toList)
    (hdone : ∀ c ∈ (arena.dependencies id).take k, c ∈ w.order.toList)
    (hk : k ≤ (arena.dependencies id).length) :
    ∃ (turns : Nat) (w' : Walk), (∀ m, run arena (turns + m) w = run arena m w') ∧
      w'.stack = rest ∧ w'.Faithful arena ∧
      w'.order.toList =
        (w.order.toList ++
          (((arena.dependencies id).drop k).flatMap arena.listing ++ [id])).eraseDups ∧
      turns + k + w.spent arena = w'.spent arena := by
  have hflag : w.hasListed id = false :=
    Bool.eq_false_iff.mpr fun h => hnew ((hf.flag hid).mp h)
  cases hc : (arena.dependencies id)[k]? with
  | none =>
      have hlength : (arena.dependencies id).length ≤ k := List.getElem?_eq_none_iff.mp hc
      have hall : ∀ c ∈ arena.dependencies id, c ∈ w.order.toList := by
        rwa [List.take_of_length_le hlength] at hdone
      refine ⟨1, _, fun m => ?_, rfl, hf.push hid hnew hall rest, ?_, ?_⟩
      · rw [Nat.add_comm, run_succ hstack, turn_of_no_child hstack hc hflag]
      · rw [List.drop_of_length_le hlength, Array.toList_push, List.flatMap_nil, List.nil_append,
          eraseDups_concat, if_neg hnew, eraseDups_of_nodup hf.nodup]
      · simp only [spent, Array.toList_push, List.map_append, List.sum_append, List.map_singleton,
          List.sum_singleton, cost]
        omega
  | some c =>
      obtain ⟨hlt, hget⟩ := List.getElem?_eq_some_iff.mp hc
      have hmem : c ∈ arena.dependencies id := List.mem_of_getElem? hc
      obtain ⟨hcontains, hnumber⟩ := hw.child_of_dependencies hmem
      have hdrop : (arena.dependencies id).drop k = c :: (arena.dependencies id).drop (k + 1) := by
        rw [List.drop_eq_getElem_cons hlt, hget]
      have htake : (arena.dependencies id).take (k + 1) =
          (arena.dependencies id).take k ++ [c] := by
        rw [List.take_add_one, hc, Option.toList_some]
      by_cases hlisted : w.hasListed c = true
      · -- the child adds nothing, and the visit goes on with the next one
        have hcorder : c ∈ w.order.toList := (hf.flag hcontains).mp hlisted
        obtain ⟨turns, w', hrun, hrest, hfaithful, horder, hspent⟩ :=
          visit hw id (k + 1) rest { w with stack := ⟨id, k + 1⟩ :: rest } rfl (hf.of_stack _)
            hid hnew
            (by
              intro x hx
              rw [htake, List.mem_append, List.mem_singleton] at hx
              exact hx.elim (hdone x) fun h => h ▸ hcorder) hlt
        refine ⟨turns + 1, w', fun m => ?_, hrest, hfaithful, ?_, ?_⟩
        · rw [Nat.add_right_comm, run_succ hstack, turn_of_listed hstack hc hlisted, hrun]
        · have hsubset : arena.listing c ⊆ w.order.toList := fun x hx =>
            hf.mem_of_mem_listing hw hcorder hx
          rw [hdrop, List.flatMap_cons, List.append_assoc, ← List.append_assoc w.order.toList,
            eraseDups_append_of_subset hsubset]
          exact horder
        · change turns + (k + 1) + w.spent arena = w'.spent arena at hspent
          omega
      · -- the child is visited first, and then the visit goes on
        have hunlisted : w.hasListed c = false := Bool.eq_false_iff.mpr hlisted
        have hcnew : c ∉ w.order.toList := fun h => hlisted ((hf.flag hcontains).mpr h)
        obtain ⟨turns₁, w₁, hrun₁, hrest₁, hfaithful₁, horder₁, hspent₁⟩ :=
          visit hw c 0 (⟨id, k + 1⟩ :: rest) { w with stack := ⟨c, 0⟩ :: ⟨id, k + 1⟩ :: rest } rfl
            (hf.of_stack _) hcontains hcnew (by simp) (Nat.zero_le _)
        have hsub : w₁.order.toList = (w.order.toList ++ arena.listing c).eraseDups := by
          rw [horder₁, hw.listing_eq c, eraseDups_append_eraseDups, List.drop_zero]
        have hmem₁ : ∀ x, x ∈ w₁.order.toList ↔ x ∈ w.order.toList ∨ x ∈ arena.listing c := by
          intro x
          rw [hsub, List.mem_eraseDups, List.mem_append]
        have hnew₁ : id ∉ w₁.order.toList := by
          intro h
          rcases (hmem₁ id).mp h with hold | hbelow
          · exact hnew hold
          · have := hw.number_le_of_mem_listing hbelow
            omega
        obtain ⟨turns₂, w₂, hrun₂, hrest₂, hfaithful₂, horder₂, hspent₂⟩ :=
          visit hw id (k + 1) rest w₁ hrest₁ hfaithful₁ hid hnew₁
            (by
              intro x hx
              rw [htake, List.mem_append, List.mem_singleton] at hx
              rcases hx with hx | rfl
              · exact (hmem₁ x).mpr (Or.inl (hdone x hx))
              · exact (hmem₁ x).mpr (Or.inr (hw.self_mem_listing x))) hlt
        refine ⟨turns₁ + turns₂ + 1, w₂, fun m => ?_, hrest₂, hfaithful₂, ?_, ?_⟩
        · rw [Nat.add_right_comm, run_succ hstack,
            turn_of_not_listed hstack hc hcontains hunlisted, Nat.add_assoc, hrun₁, hrun₂]
        · rw [horder₂, hsub, eraseDups_eraseDups_append, hdrop, List.flatMap_cons,
            List.append_assoc, List.append_assoc]
        · change turns₁ + 0 + w.spent arena = w₁.spent arena at hspent₁
          omega
termination_by (id.number, (arena.dependencies id).length - k)

end Walk

/-! ## The whole walk -/

namespace Arena

variable {arena : Arena}

/-- The handles of all shapes, in the order of construction. -/
def handles (arena : Arena) : List ShapeId := arena.nodes.toList.map Node.id

theorem WellFormed.mem_handles (hw : arena.WellFormed) {id : ShapeId}
    (h : arena.contains id = true) : id ∈ arena.handles := by
  obtain ⟨node, hnode⟩ := exists_get?_of_contains h
  refine List.mem_map.mpr ⟨node, ?_, hw.id_of_get? hnode⟩
  exact Array.mem_toList_iff.mpr (mem_of_get? hnode)

/-- The number of turns is what all shapes together take. -/
theorem WellFormed.turns_eq (hw : arena.WellFormed) :
    arena.turns = (arena.handles.map (Walk.cost arena)).sum := by
  have hcost : arena.handles.map (Walk.cost arena) =
      arena.nodes.toList.map fun node => node.dependencies.length + 1 := by
    rw [handles, List.map_map]
    refine List.map_congr_left fun node hnode => ?_
    obtain ⟨i, hi, rfl⟩ := List.getElem_of_mem hnode
    have hget : arena.nodes[i]? = some arena.nodes.toList[i] := by simp
    have hdependencies : arena.dependencies ⟨arena.tag, i + 1⟩ =
        arena.nodes.toList[i].dependencies := by
      have hcontains : arena.contains ⟨arena.tag, i + 1⟩ = true := by
        refine contains_iff.mpr ⟨rfl, Nat.le_add_left _ _, ?_⟩
        rwa [Array.length_toList] at hi
      refine dependencies_of_get? ?_
      rw [get?, if_pos hcontains]
      exact hget
    rw [Function.comp, Walk.cost, hw.id_eq hget, hdependencies]
  have hfold : ∀ (nodes : List Node) (n : Nat),
      nodes.foldl (fun n node => n + node.dependencies.length + 1) n =
        n + (nodes.map fun node => node.dependencies.length + 1).sum := by
    intro nodes
    induction nodes with
    | nil => intro n; simp
    | cons node nodes ih =>
        intro n
        rw [List.foldl_cons, ih, List.map_cons, List.sum_cons]
        omega
  rw [hcost, turns, ← Array.foldl_toList, hfold, Nat.zero_add]

/-- A list of distinct shapes takes no more turns than all shapes together. -/
theorem WellFormed.cost_le_turns (hw : arena.WellFormed) {ids : List ShapeId} (hnodup : ids.Nodup)
    (hcontained : ∀ id ∈ ids, arena.contains id = true) :
    (ids.map (Walk.cost arena)).sum ≤ arena.turns := by
  rw [hw.turns_eq]
  exact Walk.cost_le_of_subset arena hnodup fun id hid => hw.mem_handles (hcontained id hid)

/-- The walk from a shape of the arena ends with an empty stack and the listing of the shape. -/
theorem WellFormed.run_start (hw : arena.WellFormed) {root : ShapeId}
    (h : arena.contains root = true) :
    ∃ w, Walk.run arena arena.turns (Walk.start arena root) = w ∧ w.stack = [] ∧ w.Faithful arena ∧
      w.order.toList = arena.listing root := by
  have hstack : (Walk.start arena root).stack = [⟨root, 0⟩] := by simp [Walk.start, h]
  obtain ⟨turns, w, hrun, hrest, hfaithful, horder, hspent⟩ :=
    Walk.visit hw root 0 [] (Walk.start arena root) hstack (.start arena root) h
      (by simp [Walk.start]) (by simp) (Nat.zero_le _)
  have hle : turns ≤ arena.turns := by
    have hzero : (Walk.start arena root).spent arena = 0 := rfl
    have htotal : w.spent arena ≤ arena.turns :=
      hw.cost_le_turns hfaithful.nodup hfaithful.contained
    omega
  obtain ⟨spare, hspare⟩ := Nat.exists_eq_add_of_le hle
  refine ⟨w, ?_, hrest, hfaithful, ?_⟩
  · rw [hspare, hrun, Walk.run_of_stack_nil hrest]
  · rw [horder, hw.listing_eq root]
    simp [Walk.start]

theorem WellFormed.order_eq (hw : arena.WellFormed) {root : ShapeId}
    (h : arena.contains root = true) : arena.order root = arena.listing root := by
  obtain ⟨w, hrun, -, -, horder⟩ := hw.run_start h
  rw [order, hrun, horder]

/-- A handle of another arena has nothing below it. -/
theorem order_eq_nil {root : ShapeId} (h : arena.contains root = false) :
    arena.order root = [] := by
  have hstack : (Walk.start arena root).stack = [] := by simp [Walk.start, h]
  rw [order, Walk.run_of_stack_nil hstack]
  rfl

end Arena

/-- The walk with a stack lists the shapes of a builder as the recursion does: the listings of the
children in turn, then the shape, without repetitions.  A handle that is not there has an empty
list. -/
theorem order_eq_listing {b : Builder} (hb : b.Reachable) (root : ShapeId) :
    (b.shapes.contains root = true →
      b.shapes.order root = b.shapes.listing root ∧
        b.shapes.listing root =
          ((b.shapes.dependencies root).flatMap b.shapes.listing ++ [root]).eraseDups) ∧
      (b.shapes.contains root = false → b.shapes.order root = []) := by
  have hw := hb.wellFormed.shapes
  exact ⟨fun h => ⟨hw.order_eq h, hw.listing_eq root⟩, Arena.order_eq_nil⟩

/-- A shape that is reached in two ways is listed once, where it is met first. -/
theorem order_eq_listing_diamond :
    Builder.diamond.shapes.contains ⟨1, 4⟩ = true ∧
      Builder.diamond.shapes.order ⟨1, 4⟩ = Builder.diamond.shapes.listing ⟨1, 4⟩ ∧
      Builder.diamond.shapes.order ⟨1, 4⟩ = [⟨1, 1⟩, ⟨1, 2⟩, ⟨1, 3⟩, ⟨1, 4⟩] :=
  ⟨rfl, ((order_eq_listing Builder.diamond_reachable ⟨1, 4⟩).1 rfl).1, rfl⟩

/-! ## The order is topological -/

namespace Arena

variable {arena : Arena}

/-- A shape is made from another, directly or through others.  Every shape counts as below itself. -/
def Below (arena : Arena) : ShapeId → ShapeId → Prop :=
  Relation.ReflTransGen fun x c => c ∈ arena.dependencies x

/-- A list of what lies below a shape, each once and after what it is made from. -/
structure TopologicalOrder (arena : Arena) (root : ShapeId) (ids : List ShapeId) : Prop where
  /-- No shape is listed twice. -/
  nodup : ids.Nodup
  /-- The shapes below the root are listed, and no others. -/
  mem_iff : ∀ x, x ∈ ids ↔ arena.Below root x
  /-- The root comes last. -/
  last : ids.getLast? = some root
  /-- What a shape is made from has a smaller index. -/
  earlier : ∀ {i : Nat} {x : ShapeId}, ids[i]? = some x →
    ∀ c ∈ arena.dependencies x, ∃ j < i, ids[j]? = some c

theorem WellFormed.mem_listing_iff (hw : arena.WellFormed) {root x : ShapeId} :
    x ∈ arena.listing root ↔ arena.Below root x := by
  constructor
  · intro hx
    rcases hw.mem_listing.mp hx with ⟨c, hc, hxc⟩ | rfl
    · have hlt := (hw.child_of_dependencies hc).2
      exact .head hc (hw.mem_listing_iff.mp hxc)
    · exact .refl
  · intro hx
    induction hx using Relation.ReflTransGen.head_induction_on with
    | refl => exact hw.self_mem_listing x
    | head hc _ ih => exact hw.mem_listing.mpr (Or.inl ⟨_, hc, ih⟩)
termination_by root.number

/-- The root has the greatest number, so it is not among the shapes below its children. -/
theorem WellFormed.getLast?_listing (hw : arena.WellFormed) (root : ShapeId) :
    (arena.listing root).getLast? = some root := by
  have hnew : root ∉ (arena.dependencies root).flatMap arena.listing := by
    intro hmem
    obtain ⟨c, hc, hroot⟩ := List.mem_flatMap.mp hmem
    have hlt := (hw.child_of_dependencies hc).2
    have hle := hw.number_le_of_mem_listing hroot
    omega
  rw [hw.listing_eq, eraseDups_concat, if_neg hnew, List.getLast?_concat]

theorem ChildrenFirst.index_lt {ids : List ShapeId} (h : arena.ChildrenFirst ids) {i : Nat}
    {x c : ShapeId} (hx : ids[i]? = some x) (hc : c ∈ arena.dependencies x) :
    ∃ j < i, ids[j]? = some c := by
  obtain ⟨hlt, hget⟩ := List.getElem?_eq_some_iff.mp hx
  have hsplit : ids = ids.take i ++ x :: ids.drop (i + 1) := by
    rw [← hget, ← List.drop_eq_getElem_cons hlt, List.take_append_drop]
  obtain ⟨j, hj, hcj⟩ := List.getElem_of_mem (h _ _ _ hsplit c hc)
  rw [List.length_take] at hj
  rw [List.getElem_take] at hcj
  exact ⟨j, by omega, List.getElem?_eq_some_iff.mpr ⟨by omega, hcj⟩⟩

end Arena

/-- For a shape that construction made, the walk lists what the shape is made from, each once and
after what it is made from itself, and the shape last. -/
theorem Builder.Reachable.order_topological {b : Builder} (hb : b.Reachable) {root : ShapeId}
    (h : b.shapes.contains root = true) :
    b.shapes.TopologicalOrder root (b.shapes.order root) := by
  have hw := hb.wellFormed.shapes
  rw [hw.order_eq h]
  exact ⟨hw.nodup_listing root, fun x => hw.mem_listing_iff, hw.getLast?_listing root,
    fun hx c hc => (hw.childrenFirst_listing root).index_lt hx hc⟩

/-- The ball that is reached in two ways comes first, before both shapes that are made from it. -/
theorem order_topological_diamond :
    Builder.diamond.shapes.contains ⟨1, 4⟩ = true ∧
      Builder.diamond.shapes.order ⟨1, 4⟩ = [⟨1, 1⟩, ⟨1, 2⟩, ⟨1, 3⟩, ⟨1, 4⟩] ∧
      Builder.diamond.shapes.TopologicalOrder ⟨1, 4⟩ (Builder.diamond.shapes.order ⟨1, 4⟩) :=
  ⟨rfl, rfl, Builder.diamond_reachable.order_topological rfl⟩

end ImplicitScene
