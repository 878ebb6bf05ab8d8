import ImplicitScene.Proofs.Names
import ImplicitScene.Proofs.Unambiguous
import ImplicitScene.Shape.Field

/-!
# Lines tell shapes apart

The lines of a shape determine its form, the values of its parameters and the
numbers of its children.  So two shapes with the same lines have the same
distance wherever their children have.

The first ten characters of the first line tell the kind of a shape.  What they
leave open is the axis of a rotation, the mode of a repetition, and whether a
difference or an intersection is taken.  These show in what is put between the
literals: in the point and the cell that a child is called with, and in a minus
sign before the second child.
-/

namespace ImplicitScene

open Text

/-! ## Calls of children -/

theorem shapeCall_eq (model : Nat) (id : ShapeId) (point cell : String) :
    shapeCall model id point cell =
      shapeFunction model id ++ ("(" ++ (point ++ (", " ++ cell)) ++ ")") := by
  simp only [shapeCall, String.append_assoc]
  rfl

theorem shapeCall_closed (model : Nat) (id : ShapeId) {point cell : String} (hp : Inner point)
    (hc : Inner cell) : Closed (shapeCall model id point cell) := by
  rw [shapeCall_eq]
  refine .append (.of_class (by decide) (shapeFunction_word model id).1) (.parenthesize ?_)
  exact hp.append (.append (.of_scan rfl) hc)

/-- A call tells the number of the child and what it is called with. -/
theorem shapeCall_inj {model : Nat} {a b : ShapeId} {point cell point' cell' : String}
    (h : shapeCall model a point cell = shapeCall model b point' cell') :
    a.number = b.number ∧ point ++ (", " ++ cell) = point' ++ (", " ++ cell') := by
  rw [shapeCall_eq, shapeCall_eq] at h
  obtain ⟨hname, hargs⟩ :=
    applied_inj (shapeFunction_word model a).1 (shapeFunction_word model b).1 h
  exact ⟨(shapeFunction_inj hname).2, hargs⟩

/-- A call does not begin with a minus sign. -/
theorem shapeCall_ne_minus (model : Nat) (id : ShapeId) (point cell rest : String) :
    shapeCall model id point cell ≠ "-" ++ rest := by
  intro h
  have hchars := congrArg String.toList h
  rw [shapeCall_eq, String.toList_append, shapeFunction_toList] at hchars
  simp at hchars

/-! ## Kinds by their first line -/

/-- The combination up to the sign of the second operand. -/
def Combination.unsigned : Combination → Combination
  | union => union
  | intersection | difference => intersection

/-- The sign of the second operand. -/
def Combination.sign : Combination → String
  | union | intersection => ""
  | difference => "-"

namespace Kind

/-- What the literals of the lines tell about a form. -/
def coarse : Kind Unit Unit → Kind Unit Unit
  | rotate _ angle child => rotate .x angle child
  | combine op a b => combine op.unsigned a b
  | blend op a b radius => blend op.unsigned a b radius
  | tile _ period child => tile .shared period child
  | form => form

/-- The characters that the first line of a form begins with.  The line of a translation begins
with the call of its child. -/
def lead (form : Kind Unit Unit) : List Char :=
  ((form.frameSpelling.chars.headD []).headD [] ++ "shape".toList).take 10

theorem lead_table : (forms.all fun f => forms.all fun g =>
    f.lead != g.lead || f.coarse == g.coarse) = true := by
  decide +kernel

end Kind

theorem weave_take {l : String} {n : Nat} (h : n ≤ l.toList.length) (ls hs : List String) :
    (weave (l :: ls) hs).toList.take n = l.toList.take n := by
  cases hs with
  | nil => rfl
  | cons h hs =>
      rw [weave, String.append_assoc, String.toList_append, List.take_append_of_le_length]
      assumption

namespace Kind

theorem exists_body_eq_cons (model : Nat) (kind : ShapeKind) :
    ∃ line lines, kind.body model = line :: lines ∧ line.toList.take 10 = kind.form.lead := by
  rw [body_eq]
  cases kind with
  | translate offset child =>
      refine ⟨_, _, rfl, ?_⟩
      rw [weave, String.append_assoc, shapeCall_eq, String.toList_append, String.toList_append,
        String.toList_append, shapeFunction_toList]
      rfl
  | combine op | blend op => cases op <;> exact ⟨_, _, rfl, weave_take (by decide) _ _⟩
  | _ => exact ⟨_, _, rfl, weave_take (by decide) _ _⟩

theorem coarse_eq_of_body {model : Nat} {k k' : ShapeKind} (h : k.body model = k'.body model) :
    k.form.coarse = k'.form.coarse := by
  obtain ⟨line, lines, hbody, hlead⟩ := k.exists_body_eq_cons model
  obtain ⟨line', lines', hbody', hlead'⟩ := k'.exists_body_eq_cons model
  rw [h, hbody', List.cons.injEq] at hbody
  rw [← hbody.1, hlead'] at hlead
  have htable := List.all_eq_true.mp (List.all_eq_true.mp lead_table _ k.form_mem_forms) _
    k'.form_mem_forms
  simpa [hlead] using htable

/-! ## What stands between the literals -/

/-- What stands between the literals, the sign of a subtracted shape included. -/
def signedHoles (model : Nat) : ShapeKind → List (List String)
  | combine op a b => [[shapeCall model a "p" "cell", op.sign ++ shapeCall model b "p" "cell"]]
  | blend op a b radius =>
      [[shapeCall model a "p" "cell", op.sign ++ shapeCall model b "p" "cell", radius.glslScalar]]
  | kind => kind.holes model

theorem body_eq_signed (model : Nat) (kind : ShapeKind) :
    kind.body model = List.zipWith weave kind.form.coarse.frame (kind.signedHoles model) := by
  have hminus : ∀ s, ", -" ++ s = ", " ++ ("-" ++ s) := fun s => by
    rw [← String.append_assoc]
    rfl
  rw [body_eq]
  cases kind with
  | combine op a b | blend op a b =>
      cases op <;>
        simp only [form, coarse, Combination.unsigned, Combination.sign, frame, holes, signedHoles,
          List.zipWith, weave, hminus, String.empty_append]
  | _ => rfl

end Kind

/-- Whether all literals of a line but the first halt. -/
def haltsAll (line : List (List Char)) : Bool :=
  line.tail.all fun cs => cs.head?.any fun c => (depthAfter 0 c).isNone

theorem Kind.frames_halt : (forms.all fun f => f.frameSpelling.chars.all haltsAll) = true := by
  decide +kernel

/-- The texts that may stand between the literals of a line. -/
def FitsBetween (literals texts : List String) : Prop :=
  literals.length = texts.length + 1 ∧ ∀ t ∈ texts, Closed t

/-- The texts between the literals of several lines can be told apart. -/
theorem weaves_inj {frame hs ks : List (List String)}
    (hf : ∀ line ∈ frame, ∀ l ∈ line.tail, Halts l)
    (hh : List.Forall₂ FitsBetween frame hs) (hk : List.Forall₂ FitsBetween frame ks)
    (h : List.zipWith weave frame hs = List.zipWith weave frame ks) : hs = ks := by
  induction hh generalizing ks with
  | nil =>
      cases hk
      rfl
  | cons hfit _ ih =>
      cases hk with
      | cons hfit' hk =>
          rw [List.forall_mem_cons] at hf
          rw [List.zipWith_cons_cons, List.zipWith_cons_cons, List.cons.injEq] at h
          rw [Closed.weave_inj hf.1 hfit.2 hfit'.2 hfit.1 hfit'.1 h.1, ih hf.2 hk h.2]

/-- A slot whose content is legible and has the type that is asked for. -/
structure Slot.Fit (s : Slot) : Prop where
  /-- The content is legible. -/
  legible : s.content.Legible
  /-- It has the type that is asked for. -/
  demanded : ∀ d, s.demand = some d → s.content.type = .ok d

theorem Axis.turnedText_inner (axis : Axis) : Inner axis.turnedText := by
  cases axis <;> exact .of_scan (by decide +kernel)

theorem Expression.Legible.closed {e : Expression} (he : e.Legible) : Closed e.glsl := by
  obtain ⟨t, ht⟩ := he.typed
  rw [← spelled_glsl]
  exact (spelled_readable e ht he.clear he.plain).closed

theorem Expression.Legible.closed_glslScalar {e : Expression} (he : e.Legible) :
    Closed e.glslScalar := by
  rw [glslScalar_eq]
  exact he.asScalar.closed

namespace Kind

theorem mem_forms (form : Kind Unit Unit) : form ∈ forms := by
  have hself : Kind.form form = form := by cases form <;> rfl
  exact hself ▸ form.form_mem_forms

theorem frame_halts (form : Kind Unit Unit) : ∀ line ∈ form.frame, ∀ l ∈ line.tail, Halts l := by
  intro line hline l hl
  obtain ⟨chars, hchars, rfl⟩ := form.frameSpelling.exists_of_mem hline
  rw [← List.map_tail, List.mem_map] at hl
  obtain ⟨cs, hcs, rfl⟩ := hl
  have hhalts := List.all_eq_true.mp
    (List.all_eq_true.mp (List.all_eq_true.mp frames_halt _ (mem_forms form)) _ hchars) cs hcs
  cases cs with
  | nil => cases hhalts
  | cons c cs => exact ⟨c, by simp, by simpa using hhalts⟩

/-- What stands between the literals is closed. -/
theorem signedHoles_fit (model : Nat) {kind : ShapeKind} (h : ∀ s ∈ kind.parameters, Slot.Fit s) :
    List.Forall₂ FitsBetween kind.form.coarse.frame (kind.signedHoles model) := by
  have hslots : ∀ s ∈ kind.parameters, Closed s.content.glsl ∧ Closed s.content.glslScalar :=
    fun s hs => ⟨(h s hs).legible.closed, (h s hs).legible.closed_glslScalar⟩
  have hcall : ∀ id {point : String}, Inner point → Closed (shapeCall model id point "cell") :=
    fun id _ hp => shapeCall_closed model id hp (.of_scan rfl)
  have hplain : ∀ id, Closed (shapeCall model id "p" "cell") := fun id => hcall id (.of_scan rfl)
  have hsigned : ∀ (op : Combination) id, Closed (op.sign ++ shapeCall model id "p" "cell") :=
    fun op id => .append (by cases op <;> exact .of_scan rfl) (hplain id)
  cases kind with
  | sphere | cube | skull => simp [form, coarse, frame, signedHoles, holes, FitsBetween]
  | plane | smoothBox | cylinder | torus | truchet =>
      simp only [parameters, List.forall_mem_cons] at hslots
      simp [form, coarse, frame, signedHoles, holes, FitsBetween, hslots]
  | translate offset child =>
      simp only [parameters, List.forall_mem_cons] at hslots
      have hpoint : Inner ("p - " ++ offset.glsl) := .append (.of_scan rfl) hslots.1.1.inner
      simp [form, coarse, frame, signedHoles, holes, FitsBetween, hcall child hpoint]
  | scale factor child =>
      simp only [parameters, List.forall_mem_cons] at hslots
      have hpoint : Inner "p / _s" := .of_scan rfl
      simp [form, coarse, frame, signedHoles, holes, FitsBetween, hslots, hcall child hpoint]
  | rotate axis angle child =>
      simp only [parameters, List.forall_mem_cons] at hslots
      simp [form, coarse, frame, signedHoles, holes, FitsBetween, hslots,
        hcall child axis.turnedText_inner]
  | combine op a b =>
      cases op <;>
        simp [form, coarse, Combination.unsigned, frame, signedHoles, FitsBetween, hplain, hsigned]
  | blend op a b radius =>
      simp only [parameters, List.forall_mem_cons] at hslots
      cases op <;>
        simp [form, coarse, Combination.unsigned, frame, signedHoles, FitsBetween, hslots, hplain,
          hsigned]
  | tile mode period child =>
      have hperiod : Closed period.glsl := by
        cases mode <;> exact (hslots _ List.mem_cons_self).1
      have hchild : Closed (shapeCall model child "p - _span * _index" mode.cellText) :=
        shapeCall_closed model child (.of_scan rfl) (by cases mode <;> exact .of_scan rfl)
      simp [form, coarse, frame, signedHoles, holes, FitsBetween, hperiod, hchild]

theorem signedHoles_eq_of_body {model : Nat} {k k' : ShapeKind}
    (hk : ∀ s ∈ k.parameters, Slot.Fit s) (hk' : ∀ s ∈ k'.parameters, Slot.Fit s)
    (h : k.body model = k'.body model) : k.signedHoles model = k'.signedHoles model := by
  have hcoarse := coarse_eq_of_body h
  rw [body_eq_signed, body_eq_signed, ← hcoarse] at h
  exact weaves_inj (frame_halts _) (signedHoles_fit model hk)
    (hcoarse ▸ signedHoles_fit model hk') h

/-! ## Kinds that match -/

end Kind

/-- Expressions with the same value as vectors. -/
def SameVector (a b : Expression) : Prop := ∀ ctx, a.evalVector ctx = b.evalVector ctx

/-- Expressions with the same value as numbers. -/
def SameScalar (a b : Expression) : Prop := ∀ ctx, a.evalScalar ctx = b.evalScalar ctx

theorem Slot.Fit.sameVector {s s' : Slot} (hs : s.Fit) (hs' : s'.Fit) (hd : s.demand = some .vec3)
    (hd' : s'.demand = some .vec3) (h : s.content.glsl = s'.content.glsl) :
    SameVector s.content s'.content :=
  hs.legible.evalVector_eq hs'.legible (hs.demanded _ hd) (hs'.demanded _ hd') h

theorem Slot.Fit.sameScalar {s s' : Slot} (hs : s.Fit) (hs' : s'.Fit)
    (h : s.content.glslScalar = s'.content.glslScalar) : SameScalar s.content s'.content :=
  hs.legible.evalScalar_eq hs'.legible h

/-- The sign tells an intersection from a difference. -/
theorem Combination.sign_inj {op op' : Combination} (hop : op.unsigned = op'.unsigned) {model : Nat}
    {b b' : ShapeId}
    (h : op.sign ++ shapeCall model b "p" "cell" = op'.sign ++ shapeCall model b' "p" "cell") :
    op = op' ∧ b.number = b'.number := by
  have hne : ∀ {x y : ShapeId}, "" ++ shapeCall model x "p" "cell" ≠
      "-" ++ shapeCall model y "p" "cell" := fun {x y} => by
    rw [String.empty_append]
    exact shapeCall_ne_minus model x "p" "cell" _
  have hop : op = op' := by
    cases op <;> cases op' <;>
      first | rfl | exact absurd h hne | exact absurd h.symm hne | cases hop
  subst hop
  exact ⟨rfl, (shapeCall_inj ((String.append_right_inj _).mp h)).1⟩

theorem Axis.turnedText_inj {a b : Axis} (h : a.turnedText = b.turnedText) : a = b := by
  cases a <;> cases b <;> first | rfl | exact absurd h (by decide)

theorem Tiling.cellText_inj {a b : Tiling} (h : a.cellText = b.cellText) : a = b := by
  cases a <;> cases b <;> first | rfl | exact absurd h (by decide)

namespace Kind

/-- Kinds of one form, whose parameters have the same values and whose children have the same
numbers. -/
inductive Matches : ShapeKind → ShapeKind → Prop where
  | sphere : Matches sphere sphere
  | cube : Matches cube cube
  | skull : Matches skull skull
  | plane {n n' o o'} (hn : SameVector n n') (ho : SameScalar o o') :
      Matches (plane n o) (plane n' o')
  | smoothBox {s s' r r'} (hs : SameVector s s') (hr : SameScalar r r') :
      Matches (smoothBox s r) (smoothBox s' r')
  | cylinder {r r' h h'} (hr : SameScalar r r') (hh : SameScalar h h') :
      Matches (cylinder r h) (cylinder r' h')
  | torus {a a' b b'} (ha : SameScalar a a') (hb : SameScalar b b') :
      Matches (torus a b) (torus a' b')
  | truchet {t t'} (ht : SameScalar t t') : Matches (truchet t) (truchet t')
  | translate {o o'} {c c' : ShapeId} (ho : SameVector o o') (hc : c.number = c'.number) :
      Matches (translate o c) (translate o' c')
  | scale {f f'} {c c' : ShapeId} (hf : SameScalar f f') (hc : c.number = c'.number) :
      Matches (scale f c) (scale f' c')
  | rotate (axis : Axis) {a a'} {c c' : ShapeId} (ha : SameScalar a a')
      (hc : c.number = c'.number) : Matches (rotate axis a c) (rotate axis a' c')
  | combine (op : Combination) {a a' b b' : ShapeId} (ha : a.number = a'.number)
      (hb : b.number = b'.number) : Matches (combine op a b) (combine op a' b')
  | blend (op : Combination) {a a' b b' : ShapeId} {r r'} (ha : a.number = a'.number)
      (hb : b.number = b'.number) (hr : SameScalar r r') :
      Matches (blend op a b r) (blend op a' b' r')
  | tile (mode : Tiling) {p p'} {c c' : ShapeId} (hp : SameVector p p')
      (hc : c.number = c'.number) : Matches (tile mode p c) (tile mode p' c')

/-- Shapes with the same lines match. -/
theorem matches_of_body {model : Nat} {k k' : ShapeKind} (hk : ∀ s ∈ k.parameters, Slot.Fit s)
    (hk' : ∀ s ∈ k'.parameters, Slot.Fit s) (h : k.body model = k'.body model) : Matches k k' := by
  have hcoarse := coarse_eq_of_body h
  have hholes := signedHoles_eq_of_body hk hk' h
  cases k with
  | sphere =>
      cases k' with
      | sphere => exact .sphere
      | _ => cases hcoarse
  | cube =>
      cases k' with
      | cube => exact .cube
      | _ => cases hcoarse
  | skull =>
      cases k' with
      | skull => exact .skull
      | _ => cases hcoarse
  | plane n o =>
      cases k' with
      | plane n' o' =>
          simp only [signedHoles, holes, List.cons.injEq, and_true] at hholes
          simp only [parameters, List.forall_mem_cons] at hk hk'
          exact .plane (hk.1.sameVector hk'.1 rfl rfl hholes.1) (hk.2.1.sameScalar hk'.2.1 hholes.2)
      | _ => cases hcoarse
  | smoothBox size r =>
      cases k' with
      | smoothBox size' r' =>
          simp only [signedHoles, holes, List.cons.injEq, and_true] at hholes
          simp only [parameters, List.forall_mem_cons] at hk hk'
          exact .smoothBox (hk.1.sameVector hk'.1 rfl rfl hholes.2)
            (hk.2.1.sameScalar hk'.2.1 hholes.1)
      | _ => cases hcoarse
  | cylinder r height =>
      cases k' with
      | cylinder r' height' =>
          simp only [signedHoles, holes, List.cons.injEq, and_true] at hholes
          simp only [parameters, List.forall_mem_cons] at hk hk'
          exact .cylinder (hk.1.sameScalar hk'.1 hholes.1) (hk.2.1.sameScalar hk'.2.1 hholes.2)
      | _ => cases hcoarse
  | torus a b =>
      cases k' with
      | torus a' b' =>
          simp only [signedHoles, holes, List.cons.injEq, and_true] at hholes
          simp only [parameters, List.forall_mem_cons] at hk hk'
          exact .torus (hk.1.sameScalar hk'.1 hholes.1) (hk.2.1.sameScalar hk'.2.1 hholes.2)
      | _ => cases hcoarse
  | truchet t =>
      cases k' with
      | truchet t' =>
          simp only [signedHoles, holes, List.cons.injEq, and_true, true_and] at hholes
          simp only [parameters, List.forall_mem_cons] at hk hk'
          exact .truchet (hk.1.sameScalar hk'.1 hholes)
      | _ => cases hcoarse
  | translate o c =>
      cases k' with
      | translate o' c' =>
          simp only [signedHoles, holes, List.cons.injEq, and_true] at hholes
          simp only [parameters, List.forall_mem_cons] at hk hk'
          obtain ⟨hc, hpoint⟩ := shapeCall_inj hholes
          rw [String.append_left_inj, String.append_right_inj] at hpoint
          exact .translate (hk.1.sameVector hk'.1 rfl rfl hpoint) hc
      | _ => cases hcoarse
  | scale f c =>
      cases k' with
      | scale f' c' =>
          simp only [signedHoles, holes, List.cons.injEq, and_true] at hholes
          simp only [parameters, List.forall_mem_cons] at hk hk'
          exact .scale (hk.1.sameScalar hk'.1 hholes.1) (shapeCall_inj hholes.2).1
      | _ => cases hcoarse
  | rotate axis a c =>
      cases k' with
      | rotate axis' a' c' =>
          simp only [signedHoles, holes, List.cons.injEq, and_true, true_and] at hholes
          simp only [parameters, List.forall_mem_cons] at hk hk'
          obtain ⟨hc, hpoint⟩ := shapeCall_inj hholes.2
          obtain rfl := Axis.turnedText_inj ((String.append_left_inj _).mp hpoint)
          exact .rotate axis (hk.1.sameScalar hk'.1 hholes.1) hc
      | _ => cases hcoarse
  | combine op a b =>
      cases k' with
      | combine op' a' b' =>
          simp only [signedHoles, List.cons.injEq, and_true] at hholes
          simp only [form, coarse, Kind.combine.injEq, and_true] at hcoarse
          obtain ⟨rfl, hb⟩ := Combination.sign_inj hcoarse hholes.2
          exact .combine op (shapeCall_inj hholes.1).1 hb
      | _ => cases hcoarse
  | blend op a b r =>
      cases k' with
      | blend op' a' b' r' =>
          simp only [signedHoles, List.cons.injEq, and_true] at hholes
          simp only [form, coarse, Kind.blend.injEq, and_true] at hcoarse
          simp only [parameters, List.forall_mem_cons] at hk hk'
          obtain ⟨rfl, hb⟩ := Combination.sign_inj hcoarse hholes.2.1
          exact .blend op (shapeCall_inj hholes.1).1 hb (hk.1.sameScalar hk'.1 hholes.2.2)
      | _ => cases hcoarse
  | tile mode p c =>
      cases k' with
      | tile mode' p' c' =>
          simp only [signedHoles, holes, List.cons.injEq, and_true, true_and] at hholes
          obtain ⟨hc, hpoint⟩ := shapeCall_inj hholes.2
          rw [String.append_right_inj, String.append_right_inj] at hpoint
          obtain rfl := Tiling.cellText_inj hpoint
          refine .tile mode ?_ hc
          cases mode <;>
            exact (hk _ List.mem_cons_self).sameVector (hk' _ List.mem_cons_self) rfl rfl hholes.1
      | _ => cases hcoarse

/-- Kinds that match have the same distance, if their children have. -/
theorem Matches.distance_eq {k k' : ShapeKind} (h : Matches k k')
    {child child' : ShapeId → (point cell : Float3) → Except EvalError Float32}
    (hc : ∀ c ∈ k.children, ∀ c' ∈ k'.children, c.number = c'.number →
      ∀ point cell, child c point cell = child' c' point cell)
    (ctx : Context) (point cell : Float3) :
    k.distance child ctx point cell = k'.distance child' ctx point cell := by
  cases h with
  | sphere | cube | skull => rfl
  | plane hv hs | smoothBox hv hs => simp only [distance, hv _, hs _]
  | cylinder hs ht | torus hs ht => simp only [distance, hs _, ht _]
  | truchet ht => simp only [distance, ht _]
  | translate ho hn | scale ho hn =>
      have hchild := hc _ (by simp [children]) _ (by simp [children]) hn
      simp only [distance, ho _, hchild]
  | rotate axis ha hn =>
      have hchild := hc _ (by simp [children]) _ (by simp [children]) hn
      simp only [distance, ha _, hchild]
  | combine op ha hb =>
      have hfirst := hc _ (by simp [children]) _ (by simp [children]) ha
      have hsecond := hc _ (by simp [children]) _ (by simp [children]) hb
      simp only [distance, hfirst, hsecond]
  | blend op ha hb hr =>
      have hfirst := hc _ (by simp [children]) _ (by simp [children]) ha
      have hsecond := hc _ (by simp [children]) _ (by simp [children]) hb
      simp only [distance, hfirst, hsecond, hr _]
  | tile mode hp hn =>
      have hchild := hc _ (by simp [children]) _ (by simp [children]) hn
      simp only [distance, hp _, hchild]

end Kind

end ImplicitScene
