import ImplicitScene.Proofs.Frames
import ImplicitScene.Proofs.Twins

/-!
# Shapes are built in post-order

Every shape that is described in place becomes one stored shape, and a name becomes
none.  The children of a shape come first, from left to right, and then the shape
itself.

So the position of a shape is known from the term alone, and with it the handles of
its children.  A child that is described in place is the last of the shapes that it
describes.  A child that is named is whatever the name stands for.

The construction of a shape is followed step by step.  `Arena.Gains` says what has
become of the terms that are done.  `Build.Completes` says that what is left to do
makes a shape from the children that are done, and has a rule for each step that a
construction can take: build another child, resolve a formula, add the shape.
-/

namespace ImplicitScene

/-! ## Shapes in post-order -/

namespace ShapeTerm

mutual

/-- The shapes that a term describes in place, in post-order.  A name describes none. -/
def postorder : ShapeTerm → List (Kind Formula ShapeTerm)
  | named _ => []
  | inline kind => postorderBelow kind ++ [kind]
termination_by structural t => t

/-- The shapes that the children of a shape describe in place. -/
def postorderBelow : Kind Formula ShapeTerm → List (Kind Formula ShapeTerm)
  | .sphere | .cube | .skull => []
  | .plane _ _ | .smoothBox _ _ | .cylinder _ _ | .torus _ _ | .truchet _ => []
  | .translate _ child | .scale _ child | .rotate _ _ child | .tile _ _ child => postorder child
  | .combine _ a b | .blend _ a b _ => postorder a ++ postorder b
termination_by structural kind => kind

end

theorem postorder_inline (kind : Kind Formula ShapeTerm) :
    (inline kind).postorder = kind.children.flatMap postorder ++ [kind] := by
  rw [postorder]
  cases kind <;> simp [postorderBelow, Kind.children]

/-- The handle of what a term stands for, if the last shape that it describes in place has the
number `last`. -/
def handle (names : List (String × ShapeId)) (tag last : Nat) : ShapeTerm → Option ShapeId
  | named name => names.lookup name
  | inline _ => some ⟨tag, last⟩

/-- The handles of what terms stand for that are built one after the other, from `before` shapes
on. -/
def handlesFrom (names : List (String × ShapeId)) (tag : Nat) :
    (before : Nat) → List ShapeTerm → List (Option ShapeId)
  | _, [] => []
  | before, t :: ts =>
      t.handle names tag (before + t.postorder.length) ::
        handlesFrom names tag (before + t.postorder.length) ts

section Handles

variable {names names' : List (String × ShapeId)} {tag : Nat}

theorem handlesFrom_append (before : Nat) (ts us : List ShapeTerm) :
    handlesFrom names tag before (ts ++ us) =
      handlesFrom names tag before ts ++
        handlesFrom names tag (before + (ts.flatMap postorder).length) us := by
  induction ts generalizing before with
  | nil => rfl
  | cons t ts ih =>
      simp only [List.cons_append, handlesFrom, ih, List.flatMap_cons, List.length_append,
        Nat.add_assoc]

/-- Terms that stand for something stand for the same when more names are known. -/
theorem handlesFrom_mono (hnames : ∀ {n x}, names.lookup n = some x → names'.lookup n = some x)
    {before : Nat} {ts : List ShapeTerm} {ids : List ShapeId}
    (h : handlesFrom names tag before ts = ids.map some) :
    handlesFrom names' tag before ts = ids.map some := by
  induction ts generalizing before ids with
  | nil => exact h
  | cons t ts ih =>
      cases ids with
      | nil => cases h
      | cons id ids =>
          obtain ⟨hid, hids⟩ := List.cons.inj h
          have hhandle : t.handle names' tag (before + t.postorder.length) = some id := by
            cases t with
            | named name => exact hnames hid
            | inline kind => exact hid
          simp only [handlesFrom, List.map_cons, hhandle, ih hids]

/-- A name among terms that stand for something is known. -/
theorem lookup_of_handlesFrom {before : Nat} {ts : List ShapeTerm} {ids : List ShapeId}
    (h : handlesFrom names tag before ts = ids.map some) {name : String} (hmem : named name ∈ ts) :
    ∃ x, names.lookup name = some x := by
  induction ts generalizing before ids with
  | nil => cases hmem
  | cons t ts ih =>
      cases ids with
      | nil => cases h
      | cons id ids =>
          obtain ⟨hid, hids⟩ := List.cons.inj h
          rcases List.mem_cons.mp hmem with rfl | hmem
          · exact ⟨id, hid⟩
          · exact ih hids hmem

end Handles

end ShapeTerm

open ShapeTerm

/-- The stored shape at a position is what is described.  It has the handle of the position, the
form of the description, the expressions of the formulas, and the handles of the children.  The
shapes that these describe in place stand right before it. -/
structure Realizes (names : List (String × ShapeId)) (tag position : Nat)
    (kind : Kind Formula ShapeTerm) (node : Node) : Prop where
  /-- The handle is that of the position. -/
  id : node.id = ⟨tag, position + 1⟩
  /-- The form is the same. -/
  form : node.kind.form = kind.form
  /-- The parameters are what the formulas denote. -/
  parameters : kind.parameters.map (fun s => s.content.toExpression) =
    node.kind.parameters.map fun s => .ok s.content
  /-- The children are what their terms stand for. -/
  children : handlesFrom names tag (position - (kind.children.flatMap postorder).length)
    kind.children = node.kind.children.map some

/-- From one arena to another, the terms have been built and have come to stand for the handles.
Nothing else has changed. -/
structure Arena.Gains (names : List (String × ShapeId)) (terms : List ShapeTerm)
    (ids : List ShapeId) (a a' : Arena) : Prop where
  /-- The tag is the same. -/
  tag : a'.tag = a.tag
  /-- There is one shape more for each that is described in place. -/
  size : a'.size = a.size + (terms.flatMap postorder).length
  /-- The shapes that were there are there. -/
  old : ∀ {i : Nat}, i < a.size → a'.nodes[i]? = a.nodes[i]?
  /-- The others are as described, in post-order. -/
  new : ∀ {i : Nat} {kind : Kind Formula ShapeTerm}, (terms.flatMap postorder)[i]? = some kind →
    ∃ node, a'.nodes[a.size + i]? = some node ∧ Realizes names a.tag (a.size + i) kind node
  /-- The terms stand for the handles. -/
  ids : handlesFrom names a.tag a.size terms = ids.map some

namespace Arena.Gains

variable {names names' : List (String × ShapeId)} {terms terms' : List ShapeTerm}
  {ids ids' : List ShapeId} {a b c : Arena}

theorem nil : a.Gains names [] [] a where
  tag := rfl
  size := rfl
  old _ := rfl
  new h := by cases h
  ids := rfl

/-- Terms that are built after others. -/
theorem append (hab : a.Gains names terms ids b) (hbc : b.Gains names terms' ids' c) :
    a.Gains names (terms ++ terms') (ids ++ ids') c where
  tag := hbc.tag.trans hab.tag
  size := by rw [hbc.size, hab.size, List.flatMap_append, List.length_append, Nat.add_assoc]
  old {i} hi := by
    have hsize := hab.size
    rw [hbc.old (by omega), hab.old hi]
  new {i kind} hi := by
    have hsize := hab.size
    rw [List.flatMap_append, List.getElem?_append] at hi
    split at hi
    next hlt =>
      obtain ⟨node, hnode, hrealizes⟩ := hab.new hi
      exact ⟨node, by rw [hbc.old (by omega), hnode], hrealizes⟩
    next hge =>
      obtain ⟨node, hnode, hrealizes⟩ := hbc.new hi
      have hposition : b.size + (i - (terms.flatMap postorder).length) = a.size + i := by omega
      rw [hposition] at hnode hrealizes
      exact ⟨node, hnode, hab.tag ▸ hrealizes⟩
  ids := by
    have hrest := hbc.ids
    rw [hab.tag, hab.size] at hrest
    rw [handlesFrom_append, hab.ids, hrest, List.map_append]

/-- More names may be known. -/
theorem mono (h : a.Gains names terms ids b)
    (hnames : ∀ {n x}, names.lookup n = some x → names'.lookup n = some x) :
    a.Gains names' terms ids b where
  tag := h.tag
  size := h.size
  old := h.old
  new hi := by
    obtain ⟨node, hnode, hid, hform, hparameters, hchildren⟩ := h.new hi
    exact ⟨node, hnode, hid, hform, hparameters, handlesFrom_mono hnames hchildren⟩
  ids := handlesFrom_mono hnames h.ids

/-- A shape is added when its children are done. -/
theorem insert {kind : Kind Formula ShapeTerm} (h : a.Gains names kind.children ids b)
    {added : ShapeKind} (hform : added.form = kind.form)
    (hparameters : kind.parameters.map (fun s => s.content.toExpression) =
      added.parameters.map fun s => .ok s.content) (hids : added.children = ids) :
    a.Gains names [.inline kind] [(b.insert added).1] (b.insert added).2 := by
  have hpostorder : [ShapeTerm.inline kind].flatMap postorder =
      kind.children.flatMap postorder ++ [kind] := by simp [postorder_inline]
  have hsize := h.size
  have hold : ∀ {i : Nat}, i < b.size → (b.insert added).2.nodes[i]? = b.nodes[i]? := fun hi => by
    rw [Arena.insert, Array.getElem?_push_lt hi, ← Array.getElem?_eq_getElem hi]
  refine ⟨h.tag, ?_, fun hi => ?_, fun {i found} hi => ?_, ?_⟩
  · rw [hpostorder, List.length_append, ← Nat.add_assoc, ← hsize]
    simp [Arena.insert, Arena.size]
  · rw [hold (by omega), h.old hi]
  · rw [hpostorder, List.getElem?_append] at hi
    split at hi
    next hlt =>
      obtain ⟨node, hnode, hrealizes⟩ := h.new hi
      exact ⟨node, by rw [hold (by omega), hnode], hrealizes⟩
    next hge =>
      -- the last position holds the shape itself
      obtain ⟨hzero, rfl⟩ := List.getElem?_eq_some_iff.mp hi
      have hposition : a.size + i = b.size := by
        simp only [List.length_singleton] at hzero
        omega
      rw [hposition, List.getElem_singleton]
      refine ⟨⟨⟨b.tag, b.size + 1⟩, added⟩, ?_, ?_, hform, hparameters, ?_⟩
      · simp [Arena.insert, Arena.size]
      · rw [h.tag]
      · rw [hsize, Nat.add_sub_cancel, hids]
        exact h.ids
  · have hlast : (ShapeTerm.inline kind).postorder.length =
        (kind.children.flatMap postorder).length + 1 := by simp [postorder_inline]
    simp only [handlesFrom, handle, hlast, ← Nat.add_assoc, ← hsize, ← h.tag]
    rfl

/-- Every name inside the terms is known. -/
theorem lookup (h : a.Gains names terms ids b) {kind : Kind Formula ShapeTerm}
    (hkind : kind ∈ terms.flatMap postorder) {name : String} (hname : .named name ∈ kind.children) :
    ∃ x, names.lookup name = some x := by
  obtain ⟨i, hi, rfl⟩ := List.getElem_of_mem hkind
  obtain ⟨node, -, hrealizes⟩ := h.new (List.getElem?_eq_getElem hi)
  exact lookup_of_handlesFrom hrealizes.children hname

end Arena.Gains

/-! ## Building a shape -/

namespace Build

theorem of_toScene_ok {α : Type} {x : Build α} {tag : Nat} {scene : Scene}
    (h : x.toScene tag = .ok scene) :
    ∃ r c, x.runOn (.empty tag) = (.ok r, c) ∧ c.scene = scene := by
  rw [toScene] at h
  cases hrun : x.runOn (.empty tag) with
  | mk result c =>
      rw [hrun] at h
      cases result with
      | error e => cases h
      | ok r => exact ⟨r, c, rfl, Except.ok.inj h⟩

/-- The construction builds the term, and changes nothing but shapes. -/
def Makes (names : List (String × ShapeId)) (t : ShapeTerm) (x : Build ShapeId) : Prop :=
  ∀ ⦃b c : Builder⦄ ⦃id : ShapeId⦄, x.runOn b = (.ok id, c) →
    b.shapes.Gains names [t] [id] c.shapes ∧ c.models = b.models

/-- Where the children `built` of a shape are done, the construction makes the shape. -/
def Completes (names : List (String × ShapeId)) (kind : Kind Formula ShapeTerm)
    (built : List ShapeTerm) (ids : List ShapeId) (x : Build ShapeId) : Prop :=
  ∀ ⦃a : Arena⦄ ⦃b c : Builder⦄ ⦃id : ShapeId⦄, a.Gains names built ids b.shapes →
    x.runOn b = (.ok id, c) → a.Gains names [.inline kind] [id] c.shapes ∧ c.models = b.models

namespace Completes

variable {names : List (String × ShapeId)} {kind : Kind Formula ShapeTerm}
  {built : List ShapeTerm} {ids : List ShapeId}

theorem makes {x : Build ShapeId} (h : Completes names kind [] [] x) :
    Makes names (.inline kind) x :=
  fun _ _ _ hrun => h .nil hrun

/-- Build another child. -/
theorem child {t : ShapeTerm} {x : Build ShapeId} {f : ShapeId → Build ShapeId}
    (hx : Makes names t x) (hf : ∀ id, Completes names kind (built ++ [t]) (ids ++ [id]) (f id)) :
    Completes names kind built ids (x >>= f) := by
  intro a b c id hbuilt hrun
  obtain ⟨childId, m, hchild, hrest⟩ := of_bind_ok hrun
  obtain ⟨hgains, hmodels⟩ := hx hchild
  obtain ⟨hdone, hmodels'⟩ := hf childId (hbuilt.append hgains) hrest
  exact ⟨hdone, hmodels'.trans hmodels⟩

/-- Resolve a formula. -/
theorem resolve (φ : Formula) {f : Expression → Build ShapeId}
    (hf : ∀ e, φ.toExpression = .ok e → Completes names kind built ids (f e)) :
    Completes names kind built ids (φ.resolve >>= f) := by
  intro a b c id hbuilt hrun
  obtain ⟨e, he, hrest⟩ := of_liftExcept_ok hrun
  exact hf e he hbuilt hrest

/-- Add the shape. -/
theorem push {added : ShapeKind} (hform : added.form = kind.form)
    (hparameters : kind.parameters.map (fun s => s.content.toExpression) =
      added.parameters.map fun s => .ok s.content)
    (hbuilt : kind.children = built) (hids : added.children = ids) :
    Completes names kind built ids (Build.push added) := by
  intro a b c id hgains hrun
  rw [push_runOn] at hrun
  cases hadmits : b.shapes.admits added with
  | error e =>
      rw [hadmits] at hrun
      cases hrun
  | ok u =>
      rw [hadmits] at hrun
      cases hrun
      subst hbuilt
      exact ⟨hgains.insert hform hparameters hids, rfl⟩

end Completes

end Build

namespace ShapeTerm

open Build

variable (names : List (String × ShapeId))

mutual

/-- A name is looked up, and nothing is built. -/
theorem build_makes : ∀ t : ShapeTerm, Makes names t (build names t)
  | named name => by
      intro b c id hrun
      rw [build] at hrun
      cases hx : names.lookup name with
      | none =>
          rw [hx] at hrun
          cases hrun
      | some x =>
          rw [hx] at hrun
          cases hrun
          have hnil : b.shapes.Gains names [] [] b.shapes := .nil
          exact ⟨{ hnil with ids := by simp [handlesFrom, handle, hx] }, rfl⟩
  | inline kind => (buildKind_completes kind).makes

/-- The steps of each kind of shape, in the order in which they are taken. -/
theorem buildKind_completes : ∀ kind : Kind Formula ShapeTerm,
    Completes names kind [] [] (buildKind names kind)
  | .sphere => .push rfl rfl rfl rfl
  | .cube => .push rfl rfl rfl rfl
  | .skull => .push rfl rfl rfl rfl
  | .plane normal offset =>
      .resolve normal fun n hn => .resolve offset fun o ho =>
        .push rfl (by simp [Kind.parameters, hn, ho]) rfl rfl
  | .smoothBox size radius =>
      .resolve size fun s hs => .resolve radius fun r hr =>
        .push rfl (by simp [Kind.parameters, hs, hr]) rfl rfl
  | .cylinder radius height =>
      .resolve radius fun r hr => .resolve height fun h hh =>
        .push rfl (by simp [Kind.parameters, hr, hh]) rfl rfl
  | .torus major minor =>
      .resolve major fun r hr => .resolve minor fun t ht =>
        .push rfl (by simp [Kind.parameters, hr, ht]) rfl rfl
  | .truchet thickness =>
      .resolve thickness fun t ht => .push rfl (by simp [Kind.parameters, ht]) rfl rfl
  | .translate offset child =>
      .child (build_makes child) fun _ => .resolve offset fun o ho =>
        .push rfl (by simp [Kind.parameters, ho]) rfl rfl
  | .scale factor child =>
      .child (build_makes child) fun _ => .resolve factor fun f hf =>
        .push rfl (by simp [Kind.parameters, hf]) rfl rfl
  | .rotate _ angle child =>
      .child (build_makes child) fun _ => .resolve angle fun a ha =>
        .push rfl (by simp [Kind.parameters, ha]) rfl rfl
  | .combine _ a b =>
      .child (build_makes a) fun _ => .child (build_makes b) fun _ => .push rfl rfl rfl rfl
  | .blend _ a b radius =>
      .child (build_makes a) fun _ => .child (build_makes b) fun _ => .resolve radius fun r hr =>
        .push rfl (by simp [Kind.parameters, hr]) rfl rfl
  | .tile .perCell period child =>
      .resolve period fun p hp => .child (build_makes child) fun _ =>
        .push rfl (by simp [Kind.parameters, hp]) rfl rfl
  | .tile .shared period child =>
      .child (build_makes child) fun _ => .resolve period fun p hp =>
        .push rfl (by simp [Kind.parameters, hp]) rfl rfl

end

end ShapeTerm

end ImplicitScene
