import ImplicitScene.Proofs.Order

/-!
# The turns of a walk

`Arena.order` walks with a stack.  A shape is marked as listed when it is taken off
the stack, and not when it is put there.  So nothing in a single turn keeps a shape
that is on the stack from being put there again.

It does not happen, because children are older than their parents.  The stack holds a
chain of shapes, each made from the one below it, so the numbers fall towards the top.
`Walk.Underway` says this of a walk after a number of turns, and with it that no shape
on the stack is listed, and that every turn so far belongs to a shape: one for each
child that was looked at, and one when the shape was listed.

One turn keeps it, in three cases.  Hence the walk takes exactly one turn for every
shape below the root and one for every reference of such a shape to a child, and puts
every one of these shapes on the stack once.
-/

namespace ImplicitScene

theorem Arena.WellFormed.contains_of_below {arena : Arena} (hw : arena.WellFormed)
    {root x : ShapeId} (h : arena.contains root = true) (hx : arena.Below root x) :
    arena.contains x = true :=
  hw.contains_of_mem_listing h (hw.mem_listing_iff.mpr hx)

namespace Walk

/-! ## What is put on the stack -/

/-- The shapes on the stack, innermost first. -/
def active (w : Walk) : List ShapeId := w.stack.map Visit.id

/-- The shape on top of the stack of `w'`, if that stack is higher than the one of `w`. -/
def entered (w w' : Walk) : List ShapeId :=
  if w.stack.length < w'.stack.length then w'.active.take 1 else []

/-- The walk from a root after a number of turns. -/
def after (arena : Arena) (root : ShapeId) (turns : Nat) : Walk :=
  run arena turns (start arena root)

/-- The shapes that are put on the stack up to a turn, first to last.  The root is there before the
first turn. -/
def pushes (arena : Arena) (root : ShapeId) : (turns : Nat) → List ShapeId
  | 0 => (after arena root 0).active
  | turns + 1 =>
      pushes arena root turns ++ entered (after arena root turns) (after arena root (turns + 1))

/-- The turns that the shapes below a root take together. -/
def due (arena : Arena) (root : ShapeId) : Nat := ((arena.listing root).map (cost arena)).sum

variable {arena : Arena} {root id c : ShapeId} {w : Walk} {k n : Nat} {rest : List Visit}

theorem mem_active (h : w.stack = ⟨id, k⟩ :: rest) : id ∈ w.active := by
  rw [active, h]
  exact List.mem_cons_self

theorem entered_eq_nil {w' : Walk} (h : w'.stack.length ≤ w.stack.length) : entered w w' = [] :=
  if_neg (Nat.not_lt.mpr h)

theorem turn_of_stack_nil (h : w.stack = []) : w.turn arena = w := by
  rw [turn, h]

theorem run_succ_of_turn (n : Nat) (w : Walk) :
    run arena (n + 1) w = run arena n (w.turn arena) := by
  cases h : w.stack with
  | nil => rw [turn_of_stack_nil h, run_of_stack_nil h, run_of_stack_nil h]
  | cons top rest => exact run_succ h n

theorem run_succ_eq_turn (n : Nat) (w : Walk) :
    run arena (n + 1) w = (run arena n w).turn arena := by
  induction n generalizing w with
  | zero => exact run_succ_of_turn 0 w
  | succ n ih => rw [run_succ_of_turn, ih, ← run_succ_of_turn]

theorem after_succ (n : Nat) : after arena root (n + 1) = (after arena root n).turn arena :=
  run_succ_eq_turn n _

theorem run_add (m n : Nat) (w : Walk) : run arena (m + n) w = run arena n (run arena m w) := by
  induction n with
  | zero => rfl
  | succ n ih => rw [← Nat.add_assoc, run_succ_eq_turn, ih, run_succ_eq_turn]

/-! ## A walk underway -/

/-- What holds of a walk from `root` after `n` turns that put the shapes `pushed` on the stack. -/
structure Underway (arena : Arena) (root : ShapeId) (n : Nat) (pushed : List ShapeId) (w : Walk) :
    Prop where
  /-- The flags tell what is listed. -/
  faithful : w.Faithful arena
  /-- What was put on the stack is still there or is listed. -/
  pushed_perm : pushed.Perm (w.order.toList ++ w.active)
  /-- Nothing was put on the stack twice. -/
  pushed_nodup : pushed.Nodup
  /-- Everything that was put on the stack lies below the root. -/
  pushed_below : ∀ x ∈ pushed, arena.Below root x
  /-- The root was put on the stack. -/
  root_pushed : root ∈ pushed
  /-- The numbers fall towards the top of the stack. -/
  falling : w.stack.Pairwise fun u v => u.id.number < v.id.number
  /-- No shape has had more children looked at than it has. -/
  next_le : ∀ v ∈ w.stack, v.next ≤ (arena.dependencies v.id).length
  /-- A child that was looked at was put on the stack. -/
  looked_at : ∀ v ∈ w.stack, ∀ c ∈ (arena.dependencies v.id).take v.next, c ∈ pushed
  /-- Every turn was taken by a shape that is listed, or by one on the stack for a child. -/
  turns : w.spent arena + (w.stack.map Visit.next).sum = n

namespace Underway

variable {pushed : List ShapeId}

theorem start (h : arena.contains root = true) :
    Underway arena root 0 (pushes arena root 0) (Walk.start arena root) := by
  have hstack : (Walk.start arena root).stack = [⟨root, 0⟩] := by simp [Walk.start, h]
  have hpushes : pushes arena root 0 = [root] := congrArg (List.map Visit.id) hstack
  have horder : (Walk.start arena root).order.toList = [] := rfl
  rw [hpushes]
  refine ⟨.start arena root, ?_, by simp, ?_, by simp, ?_, ?_, ?_, ?_⟩
  · rw [horder, active, hstack]
    exact .refl _
  · intro x hx
    rw [List.mem_singleton.mp hx]
    exact .refl
  · rw [hstack]
    exact List.pairwise_singleton _ _
  · rw [hstack, List.forall_mem_singleton]
    exact Nat.zero_le _
  · rw [hstack, List.forall_mem_singleton]
    simp
  · rw [spent, horder, hstack]
    rfl

variable (hu : Underway arena root n pushed w)
include hu

theorem mem_pushed {x : ShapeId} : x ∈ pushed ↔ x ∈ w.order.toList ∨ x ∈ w.active := by
  rw [hu.pushed_perm.mem_iff, List.mem_append]

theorem parts_nodup : (w.order.toList ++ w.active).Nodup :=
  hu.pushed_perm.nodup_iff.mp hu.pushed_nodup

/-- No shape is on the stack twice. -/
theorem active_nodup : w.active.Nodup := (List.nodup_append.mp hu.parts_nodup).2.1

/-- A shape on the stack is not listed. -/
theorem not_mem_order {x : ShapeId} (hx : x ∈ w.active) : x ∉ w.order.toList := fun horder =>
  (List.nodup_append.mp hu.parts_nodup).2.2 x horder x hx rfl

/-- The flag of a shape on the stack is there and is not set. -/
theorem flag_eq (hw : arena.WellFormed) (h : arena.contains root = true) {x : ShapeId}
    (hx : x ∈ w.active) : w.listed[x.index]? = some false := by
  have hcontains : arena.contains x = true :=
    hw.contains_of_below h (hu.pushed_below x (hu.mem_pushed.mpr (Or.inr hx)))
  obtain ⟨-, hpos, hle⟩ := Arena.contains_iff.mp hcontains
  have hlt : x.index < w.listed.size := by
    rw [hu.faithful.size]
    exact Nat.lt_of_lt_of_le (Nat.sub_lt hpos Nat.one_pos) hle
  have hflag : w.hasListed x = false :=
    Bool.eq_false_iff.mpr fun hset => hu.not_mem_order hx ((hu.faithful.flag hcontains).mp hset)
  rw [hasListed, Array.getD_eq_getD_getElem?, Array.getElem?_eq_getElem hlt] at hflag
  rw [Array.getElem?_eq_getElem hlt]
  exact congrArg some hflag

/-- A child of the top shape that was looked at is listed: it is older than everything on the
stack. -/
theorem mem_order_of_looked_at (hw : arena.WellFormed) (hstack : w.stack = ⟨id, k⟩ :: rest)
    (hc : c ∈ (arena.dependencies id).take k) : c ∈ w.order.toList := by
  have htop : (⟨id, k⟩ : Visit) ∈ w.stack := hstack ▸ List.mem_cons_self
  have hlt : c.number < id.number := (hw.child_of_dependencies (List.mem_of_mem_take hc)).2
  refine (hu.mem_pushed.mp (hu.looked_at _ htop c hc)).resolve_right fun hactive => ?_
  have hfalling := hu.falling
  rw [hstack, List.pairwise_cons] at hfalling
  rw [active, hstack, List.map_cons, List.mem_cons] at hactive
  rcases hactive with rfl | hactive
  · exact Nat.lt_irrefl _ hlt
  · obtain ⟨v, hv, rfl⟩ := List.mem_map.mp hactive
    exact Nat.lt_asymm hlt (hfalling.1 v hv)

/-! ## One turn -/

/-- The top shape passes over a child that is listed. -/
theorem pass (hstack : w.stack = ⟨id, k⟩ :: rest) (hc : (arena.dependencies id)[k]? = some c)
    (hlisted : c ∈ w.order.toList) :
    Underway arena root (n + 1) pushed { w with stack := ⟨id, k + 1⟩ :: rest } := by
  obtain ⟨hfaithful, hperm, hnodup, hbelow, hroot, hfalling, hnext, hlooked, hturns⟩ := hu
  have hpushed : c ∈ pushed := hperm.mem_iff.mpr (List.mem_append_left _ hlisted)
  have hlt : k < (arena.dependencies id).length := (List.getElem?_eq_some_iff.mp hc).1
  rw [active, hstack] at hperm
  rw [hstack, List.pairwise_cons] at hfalling
  rw [hstack, List.forall_mem_cons] at hnext hlooked
  refine ⟨hfaithful.of_stack _, hperm, hnodup, hbelow, hroot, ?_, ?_, ?_, ?_⟩
  · exact List.pairwise_cons.mpr hfalling
  · exact List.forall_mem_cons.mpr ⟨hlt, hnext.2⟩
  · refine List.forall_mem_cons.mpr ⟨fun x hx => ?_, hlooked.2⟩
    rw [List.take_add_one, hc, Option.toList_some, List.mem_append, List.mem_singleton] at hx
    exact hx.elim (hlooked.1 x) fun h => h ▸ hpushed
  · rw [hstack, List.map_cons, List.sum_cons] at hturns
    rw [List.map_cons, List.sum_cons, ← hturns]
    change w.spent arena + (k + 1 + _) = w.spent arena + (k + _) + 1
    omega

/-- The top shape puts a child on the stack that is not listed.  The child is older than everything
there, so it is not on the stack yet. -/
theorem descend (hw : arena.WellFormed) (hstack : w.stack = ⟨id, k⟩ :: rest)
    (hc : (arena.dependencies id)[k]? = some c) (hnew : c ∉ w.order.toList) :
    Underway arena root (n + 1) (pushed ++ [c])
      { w with stack := ⟨c, 0⟩ :: ⟨id, k + 1⟩ :: rest } := by
  have hmem : c ∈ arena.dependencies id := List.mem_of_getElem? hc
  have hlt : k < (arena.dependencies id).length := (List.getElem?_eq_some_iff.mp hc).1
  have hnumber : c.number < id.number := (hw.child_of_dependencies hmem).2
  have hid : arena.Below root id :=
    hu.pushed_below id (hu.mem_pushed.mpr (Or.inr (mem_active hstack)))
  have holder : ∀ v ∈ w.stack, c.number < v.id.number := by
    have hfalling := hu.falling
    rw [hstack, List.pairwise_cons] at hfalling
    rw [hstack, List.forall_mem_cons]
    exact ⟨hnumber, fun v hv => Nat.lt_trans hnumber (hfalling.1 v hv)⟩
  have hinactive : c ∉ w.active := by
    intro hactive
    obtain ⟨v, hv, rfl⟩ := List.mem_map.mp hactive
    exact Nat.lt_irrefl _ (holder v hv)
  have hunpushed : c ∉ pushed := fun h => (hu.mem_pushed.mp h).elim hnew hinactive
  obtain ⟨hfaithful, hperm, hnodup, hbelow, hroot, hfalling, hnext, hlooked, hturns⟩ := hu
  rw [active, hstack] at hperm
  rw [hstack, List.pairwise_cons] at hfalling
  rw [hstack, List.forall_mem_cons] at hnext hlooked holder
  refine ⟨hfaithful.of_stack _, ?_, ?_, ?_, ?_, ?_, ?_, ?_, ?_⟩
  · have hcons := (List.perm_append_singleton c pushed).trans (hperm.cons c)
    exact hcons.trans List.perm_middle.symm
  · exact List.nodup_append.mpr ⟨hnodup, by simp, fun a ha b hb hab => hunpushed
      (List.mem_singleton.mp hb ▸ hab ▸ ha)⟩
  · rw [List.forall_mem_append, List.forall_mem_singleton]
    exact ⟨hbelow, hid.tail hmem⟩
  · exact List.mem_append_left _ hroot
  · exact List.pairwise_cons.mpr ⟨List.forall_mem_cons.mpr holder, List.pairwise_cons.mpr hfalling⟩
  · exact List.forall_mem_cons.mpr ⟨Nat.zero_le _, List.forall_mem_cons.mpr ⟨hlt, hnext.2⟩⟩
  · refine List.forall_mem_cons.mpr ⟨by simp, List.forall_mem_cons.mpr ⟨fun x hx => ?_, ?_⟩⟩
    · rw [List.take_add_one, hc, Option.toList_some] at hx
      exact (List.mem_append.mp hx).elim (fun hx => List.mem_append_left _ (hlooked.1 x hx))
        (List.mem_append_right _)
    · exact fun v hv x hx => List.mem_append_left _ (hlooked.2 v hv x hx)
  · rw [hstack, List.map_cons, List.sum_cons] at hturns
    rw [List.map_cons, List.sum_cons, List.map_cons, List.sum_cons, ← hturns]
    change w.spent arena + (0 + (k + 1 + _)) = w.spent arena + (k + _) + 1
    omega

/-- The top shape is listed when all its children were looked at. -/
theorem finish (hw : arena.WellFormed) (h : arena.contains root = true)
    (hstack : w.stack = ⟨id, k⟩ :: rest) (hc : (arena.dependencies id)[k]? = none) :
    Underway arena root (n + 1) pushed
      { stack := rest
        listed := w.listed.setIfInBounds id.index true
        order := w.order.push id } := by
  have hactive := mem_active hstack
  have hlength : (arena.dependencies id).length ≤ k := List.getElem?_eq_none_iff.mp hc
  have hdone : ∀ c ∈ arena.dependencies id, c ∈ w.order.toList := fun c hc =>
    hu.mem_order_of_looked_at hw hstack (by rwa [List.take_of_length_le hlength])
  have hcontains : arena.contains id = true :=
    hw.contains_of_below h (hu.pushed_below id (hu.mem_pushed.mpr (Or.inr hactive)))
  have hnew := hu.not_mem_order hactive
  obtain ⟨hfaithful, hperm, hnodup, hbelow, hroot, hfalling, hnext, hlooked, hturns⟩ := hu
  rw [active, hstack] at hperm
  rw [hstack, List.pairwise_cons] at hfalling
  rw [hstack, List.forall_mem_cons] at hnext hlooked
  refine ⟨hfaithful.push hcontains hnew hdone rest, ?_, hnodup, hbelow, hroot, hfalling.2, hnext.2,
    hlooked.2, ?_⟩
  · rw [Array.toList_push, List.append_assoc]
    exact hperm
  · rw [hstack, List.map_cons, List.sum_cons] at hturns
    have hk : k = (arena.dependencies id).length := Nat.le_antisymm hnext.1 hlength
    simp only [spent, Array.toList_push, List.map_append, List.sum_append, List.map_singleton,
      List.sum_singleton, cost] at hturns ⊢
    omega

/-- One turn of a walk that is not at its end. -/
theorem turn (hw : arena.WellFormed) (h : arena.contains root = true) (hne : w.stack ≠ []) :
    Underway arena root (n + 1) (pushed ++ entered w (w.turn arena)) (w.turn arena) := by
  obtain ⟨⟨id, k⟩, rest, hstack⟩ := List.exists_cons_of_ne_nil hne
  cases hc : (arena.dependencies id)[k]? with
  | none =>
      have hflag : w.hasListed id = false := by
        rw [hasListed, Array.getD_eq_getD_getElem?, hu.flag_eq hw h (mem_active hstack),
          Option.getD_some]
      rw [turn_of_no_child hstack hc hflag, entered_eq_nil (by simp [hstack]), List.append_nil]
      exact hu.finish hw h hstack hc
  | some c =>
      have hcontains := (hw.child_of_dependencies (List.mem_of_getElem? hc)).1
      by_cases hlisted : w.hasListed c = true
      · rw [turn_of_listed hstack hc hlisted, entered_eq_nil (by simp [hstack]), List.append_nil]
        exact hu.pass hstack hc ((hu.faithful.flag hcontains).mp hlisted)
      · rw [turn_of_not_listed hstack hc hcontains (Bool.eq_false_iff.mpr hlisted)]
        have hone : entered w { w with stack := ⟨c, 0⟩ :: ⟨id, k + 1⟩ :: rest } = [c] := by
          rw [entered, hstack]
          exact if_pos (by simp)
        rw [hone]
        exact hu.descend hw hstack hc fun hmem =>
          hlisted ((hu.faithful.flag hcontains).mpr hmem)

/-! ## The end -/

/-- A walk with an empty stack has listed everything below the root. -/
theorem mem_order_iff (hstack : w.stack = []) {x : ShapeId} :
    x ∈ w.order.toList ↔ arena.Below root x := by
  have hactive : ∀ y, y ∉ w.active := by
    intro y hy
    rw [active, hstack] at hy
    cases hy
  constructor
  · exact fun hx => hu.pushed_below x (hu.mem_pushed.mpr (Or.inl hx))
  · intro hx
    induction hx with
    | refl => exact (hu.mem_pushed.mp hu.root_pushed).resolve_right (hactive root)
    | tail _ hc ih => exact hu.faithful.closed _ ih _ hc

/-- A walk with an empty stack has taken all turns of the shapes below the root. -/
theorem turns_eq (hw : arena.WellFormed) (hstack : w.stack = []) : n = due arena root := by
  have hperm : w.order.toList.Perm (arena.listing root) :=
    (List.perm_ext_iff_of_nodup hu.faithful.nodup (hw.nodup_listing root)).mpr fun x => by
      rw [hu.mem_order_iff hstack, hw.mem_listing_iff]
  rw [← hu.turns, hstack, spent, due, (hperm.map (cost arena)).sum_nat]
  rfl

/-- The shapes on the stack have turns left, one each at least. -/
theorem next_add_length_le :
    (w.stack.map Visit.next).sum + w.stack.length ≤ (w.active.map (cost arena)).sum := by
  have hnext := hu.next_le
  rw [active]
  generalize w.stack = stack at hnext ⊢
  induction stack with
  | nil => exact Nat.le_refl _
  | cons v rest ih =>
      rw [List.forall_mem_cons] at hnext
      have hrest := ih hnext.2
      have htop : v.next + 1 ≤ cost arena v.id := Nat.succ_le_succ hnext.1
      simp only [List.map_cons, List.sum_cons, List.length_cons]
      omega

/-- A walk with shapes on its stack has turns left. -/
theorem turns_lt (hw : arena.WellFormed) (hne : w.stack ≠ []) : n < due arena root := by
  have hlength : 0 < w.stack.length := List.length_pos_iff.mpr hne
  have hleft := hu.next_add_length_le
  have htotal := cost_le_of_subset arena hu.pushed_nodup fun x hx =>
    hw.mem_listing_iff.mpr (hu.pushed_below x hx)
  rw [(hu.pushed_perm.map (cost arena)).sum_nat, List.map_append, List.sum_append] at htotal
  have hturns := hu.turns
  rw [spent] at hturns
  rw [due]
  omega

end Underway

/-! ## The whole walk -/

section Whole

variable (hw : arena.WellFormed) (h : arena.contains root = true)
include hw h

/-- A walk is underway until it has taken all turns of the shapes below the root. -/
theorem underway_after : ∀ {k : Nat}, k ≤ due arena root →
    Underway arena root k (pushes arena root k) (after arena root k)
  | 0, _ => .start h
  | k + 1, hk => by
      have hu := underway_after (k := k) (Nat.le_of_succ_le hk)
      have hne : (after arena root k).stack ≠ [] := by
        intro hstack
        rw [← hu.turns_eq hw hstack] at hk
        exact Nat.lt_irrefl k hk
      rw [pushes, after_succ]
      exact hu.turn hw h hne

theorem after_stack_eq_nil : (after arena root (due arena root)).stack = [] := by
  by_contra hne
  exact Nat.lt_irrefl _ ((underway_after hw h (Nat.le_refl _)).turns_lt hw hne)

/-- After its last turn a walk rests. -/
theorem after_eq_of_le {k : Nat} (hk : due arena root ≤ k) :
    after arena root k = after arena root (due arena root) := by
  obtain ⟨spare, rfl⟩ := Nat.exists_eq_add_of_le hk
  rw [after, run_add]
  exact run_of_stack_nil (after_stack_eq_nil hw h) spare

/-- Every state of a walk is one of a walk underway. -/
theorem exists_underway (k : Nat) :
    ∃ n pushed, Underway arena root n pushed (after arena root k) := by
  rcases Nat.le_total k (due arena root) with hk | hk
  · exact ⟨k, _, underway_after hw h hk⟩
  · rw [after_eq_of_le hw h hk]
    exact ⟨_, _, underway_after hw h (Nat.le_refl _)⟩

theorem after_stack_eq_nil_iff {k : Nat} :
    (after arena root k).stack = [] ↔ due arena root ≤ k := by
  constructor
  · intro hstack
    by_contra hlt
    have hu := underway_after hw h (Nat.le_of_not_le hlt)
    exact hlt (Nat.le_of_eq (hu.turns_eq hw hstack).symm)
  · intro hk
    rw [after_eq_of_le hw h hk]
    exact after_stack_eq_nil hw h

end Whole

end Walk

/-! ## Every shape once -/

namespace Arena

/-- The walk from `root` takes `n` turns and visits every shape below the root once. -/
structure VisitsOnce (arena : Arena) (root : ShapeId) (n : Nat) : Prop where
  /-- There is something on the stack before each of the first `n` turns, and nothing after them. -/
  turns : ∀ k, (Walk.after arena root k).stack = [] ↔ n ≤ k
  /-- What is listed then is the order of construction. -/
  order : (Walk.after arena root n).order.toList = arena.order root
  /-- No shape is put on the stack twice. -/
  pushes_nodup : (Walk.pushes arena root n).Nodup
  /-- The shapes below the root are put on the stack, and no others. -/
  mem_pushes : ∀ x, x ∈ Walk.pushes arena root n ↔ arena.Below root x
  /-- At no time is a shape on the stack twice. -/
  active_nodup : ∀ k, (Walk.after arena root k).active.Nodup
  /-- A shape on the stack has a flag that is not set, also when it is taken off. -/
  unlisted : ∀ k, ∀ x ∈ (Walk.after arena root k).active,
    (Walk.after arena root k).listed[x.index]? = some false

theorem WellFormed.visitsOnce {arena : Arena} (hw : arena.WellFormed) {root : ShapeId}
    (h : arena.contains root = true) :
    arena.VisitsOnce root (Walk.due arena root) := by
  have hend := Walk.after_stack_eq_nil hw h
  have hu := Walk.underway_after hw h (Nat.le_refl _)
  have hle : Walk.due arena root ≤ arena.turns :=
    hw.cost_le_turns (hw.nodup_listing root) fun x hx => hw.contains_of_mem_listing h hx
  refine ⟨fun k => Walk.after_stack_eq_nil_iff hw h, ?_, hu.pushed_nodup, fun x => ?_, fun k => ?_,
    fun k x hx => ?_⟩
  · rw [← Walk.after_eq_of_le hw h hle]
    rfl
  · have hactive : x ∉ (Walk.after arena root (Walk.due arena root)).active := by
      rw [Walk.active, hend]
      exact List.not_mem_nil
    rw [← hu.mem_order_iff hend, hu.mem_pushed, or_iff_left hactive]
  · obtain ⟨n, pushed, hu⟩ := Walk.exists_underway hw h k
    exact hu.active_nodup
  · obtain ⟨n, pushed, hu⟩ := Walk.exists_underway hw h k
    exact hu.flag_eq hw h hx

end Arena

/-- The walk from a shape that construction made takes one turn for every shape below it and one for
every reference of such a shape to a child.  It visits each of these shapes once. -/
theorem Builder.Reachable.order_visitsOnce {b : Builder} (hb : b.Reachable) {root : ShapeId}
    (h : b.shapes.contains root = true) {below : List ShapeId} (hnodup : below.Nodup)
    (hbelow : ∀ x, x ∈ below ↔ b.shapes.Below root x) :
    b.shapes.VisitsOnce root
      (below.map fun x => (b.shapes.dependencies x).length + 1).sum := by
  have hw := hb.wellFormed.shapes
  have hperm : below.Perm (b.shapes.listing root) :=
    (List.perm_ext_iff_of_nodup hnodup (hw.nodup_listing root)).mpr fun x => by
      rw [hbelow, hw.mem_listing_iff]
  have hcost : (fun x => (b.shapes.dependencies x).length + 1) = Walk.cost b.shapes := rfl
  rw [hcost, (hperm.map (Walk.cost b.shapes)).sum_nat]
  exact hw.visitsOnce h

/-- Four shapes with four references to children take eight turns. -/
theorem order_visitsOnce_diamond :
    Builder.diamond.shapes.contains ⟨1, 4⟩ = true ∧
      (∀ x, x ∈ Builder.diamond.shapes.order ⟨1, 4⟩ ↔ Builder.diamond.shapes.Below ⟨1, 4⟩ x) ∧
      Builder.diamond.shapes.order ⟨1, 4⟩ = [⟨1, 1⟩, ⟨1, 2⟩, ⟨1, 3⟩, ⟨1, 4⟩] ∧
      Builder.diamond.shapes.VisitsOnce ⟨1, 4⟩ 8 := by
  have hw := Builder.diamond_reachable.wellFormed.shapes
  have horder : Builder.diamond.shapes.order ⟨1, 4⟩ = Builder.diamond.shapes.listing ⟨1, 4⟩ :=
    hw.order_eq rfl
  have hbelow : ∀ x, x ∈ Builder.diamond.shapes.order ⟨1, 4⟩ ↔
      Builder.diamond.shapes.Below ⟨1, 4⟩ x := fun x => by
    rw [horder, hw.mem_listing_iff]
  have hnodup : (Builder.diamond.shapes.order ⟨1, 4⟩).Nodup := horder ▸ hw.nodup_listing ⟨1, 4⟩
  exact ⟨rfl, hbelow, rfl, Builder.diamond_reachable.order_visitsOnce rfl hnodup hbelow⟩

end ImplicitScene
