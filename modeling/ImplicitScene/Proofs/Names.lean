import Mathlib.Data.List.Nodup
import ImplicitScene.Proofs.FunctionText
import ImplicitScene.Proofs.Order

/-!
# Names of functions

The functions of a program have different names.  A name has a *stem*, the
letters it begins with, and an *index*, the digits after them.  The stem tells
the functions of a model from each other and from all other functions.  The index
is the number of the model, so it tells the models apart.  Two shapes of one
model differ in the number after the underscore.
-/

namespace ImplicitScene

/-! ## Numbers in names -/

theorem not_isAlpha_of_isDigit {c : Char} (h : c.isDigit = true) : c.isAlpha = false := by
  rw [Bool.eq_false_iff]
  intro halpha
  delta Char.isAlpha Char.isUpper Char.isLower at halpha
  delta Char.isDigit at h
  simp only [Bool.or_eq_true, Bool.and_eq_true, decide_eq_true_eq, ge_iff_le,
    UInt32.le_iff_toNat_le] at h halpha
  have hnine : ('9' : Char).val.toNat = 57 := rfl
  have hupper : ('A' : Char).val.toNat = 65 := rfl
  have hlower : ('a' : Char).val.toNat = 97 := rfl
  omega

/-- A number begins with a digit. -/
theorem exists_toString_eq_cons (n : Nat) :
    ∃ d digits, (toString n).toList = d :: digits ∧ d.isAlpha = false := by
  have hne : (toString n).toList ≠ [] := by
    rw [Nat.toString_eq_repr, Nat.toList_repr]
    exact Nat.toDigits_ne_nil
  obtain ⟨d, digits, hdigits⟩ := List.exists_cons_of_ne_nil hne
  have hd := isDigit_of_mem_toString n d (by rw [hdigits]; exact List.mem_cons_self)
  exact ⟨d, digits, hdigits, not_isAlpha_of_isDigit hd⟩

/-- Different numbers are written differently. -/
theorem toString_toList_inj {m n : Nat} (h : (toString m).toList = (toString n).toList) :
    m = n := by
  rw [Nat.toString_eq_repr, Nat.toString_eq_repr, Nat.toList_repr, Nat.toList_repr] at h
  have hread := congrArg (fun digits => Nat.ofDigitChars 10 digits 0) h
  simpa using hread

/-- The letters that a name begins with. -/
def stem (name : String) : List Char := name.toList.takeWhile Char.isAlpha

/-- The digits after the stem of a name. -/
def index (name : String) : List Char :=
  (name.toList.dropWhile Char.isAlpha).takeWhile Char.isDigit

section Numbered

variable {name letters : String} {n : Nat} {rest : List Char}
  (hname : name.toList = letters.toList ++ ((toString n).toList ++ rest))
  (hletters : letters.toList.all Char.isAlpha = true)
include hname hletters

theorem stem_eq : stem name = letters.toList := by
  obtain ⟨d, digits, hdigits, hd⟩ := exists_toString_eq_cons n
  rw [stem, hname, List.takeWhile_append_of_pos (List.all_eq_true.mp hletters), hdigits,
    List.cons_append, List.takeWhile_cons_of_neg (by simp [hd]), List.append_nil]

theorem index_eq (hrest : ∀ c ∈ rest.head?, c.isDigit = false) :
    index name = (toString n).toList := by
  obtain ⟨d, digits, hdigits, hd⟩ := exists_toString_eq_cons n
  have hdrop : name.toList.dropWhile Char.isAlpha = (toString n).toList ++ rest := by
    rw [hname, List.dropWhile_append_of_pos (List.all_eq_true.mp hletters), hdigits,
      List.cons_append, List.dropWhile_cons_of_neg (by simp [hd])]
  have hstop : rest.takeWhile Char.isDigit = [] := by
    cases rest with
    | nil => rfl
    | cons c rest => exact List.takeWhile_cons_of_neg (by simpa using hrest c)
  rw [index, hdrop, List.takeWhile_append_of_pos (isDigit_of_mem_toString n), hstop,
    List.append_nil]

end Numbered

/-! ## The functions of a model -/

theorem stem_shapeFunction (model : Nat) (id : ShapeId) :
    stem (shapeFunction model id) = "shape".toList :=
  stem_eq (shapeFunction_toList model id) (by decide)

theorem index_shapeFunction (model : Nat) (id : ShapeId) :
    index (shapeFunction model id) = (toString model).toList :=
  index_eq (shapeFunction_toList model id) (by decide) (by simp)

/-- The name of a shape's function tells the model and the shape. -/
theorem shapeFunction_inj {m n : Nat} {x y : ShapeId} (h : shapeFunction m x = shapeFunction n y) :
    m = n ∧ x.number = y.number := by
  have hindex := congrArg index h
  rw [index_shapeFunction, index_shapeFunction] at hindex
  obtain rfl : m = n := toString_toList_inj hindex
  have hchars := congrArg String.toList h
  rw [shapeFunction_toList, shapeFunction_toList] at hchars
  have hnumber := List.append_cancel_left (List.append_cancel_left hchars)
  exact ⟨rfl, toString_toList_inj (List.cons.inj hnumber).2⟩

theorem numbered_toList (letters : String) (n : Nat) :
    (letters ++ toString n).toList = letters.toList ++ ((toString n).toList ++ []) := by
  rw [String.toList_append, List.append_nil]

theorem stem_letters {letters : String} (hletters : letters.toList.all Char.isAlpha = true)
    (n : Nat) : stem (letters ++ toString n) = letters.toList :=
  stem_eq (numbered_toList letters n) hletters

/-- The stems of the functions of a model. -/
def modelStems : List (List Char) :=
  ["shape".toList, "distance".toList, "normal".toList, "material".toList]

/-- Every function of a model is named for its kind and for the model. -/
theorem name_of_mem_modelDefinitions {shapes : Arena} {m : Model} {f : FunctionDef}
    (hf : f ∈ modelDefinitions shapes m) :
    stem f.name ∈ modelStems ∧ index f.name = (toString m.id).toList := by
  have hnumbered : ∀ letters : String, letters.toList.all Char.isAlpha = true →
      letters.toList ∈ modelStems → stem (letters ++ toString m.id) ∈ modelStems ∧
        index (letters ++ toString m.id) = (toString m.id).toList := by
    intro letters hletters hmem
    exact ⟨(stem_letters hletters m.id).symm ▸ hmem,
      index_eq (numbered_toList letters m.id) hletters (by simp)⟩
  rcases List.mem_append.mp hf with hshape | hother
  · obtain ⟨node, -, rfl⟩ := List.mem_map.mp hshape
    refine ⟨?_, index_shapeFunction m.id node.id⟩
    rw [FunctionDef.name, shapeDefinition, stem_shapeFunction]
    decide
  · simp only [List.mem_cons, List.not_mem_nil, or_false] at hother
    rcases hother with rfl | rfl | rfl
    · exact hnumbered "distance" (by decide) (by decide)
    · exact hnumbered "normal" (by decide) (by decide)
    · exact hnumbered "material" (by decide) (by decide)

namespace Arena.WellFormed

variable {shapes : Arena}

/-- The shapes that handles denote have these handles. -/
theorem map_id_filterMap_get? (hw : shapes.WellFormed) :
    ∀ {ids : List ShapeId}, (∀ x ∈ ids, shapes.contains x = true) →
      (ids.filterMap shapes.get?).map Node.id = ids
  | [], _ => rfl
  | x :: ids, h => by
      rw [List.forall_mem_cons] at h
      obtain ⟨node, hnode⟩ := exists_get?_of_contains h.1
      rw [List.filterMap_cons_some hnode, List.map_cons, hw.id_of_get? hnode,
        hw.map_id_filterMap_get? h.2]

theorem shapeDefinition_names (hw : shapes.WellFormed) {ids : List ShapeId}
    (h : ∀ x ∈ ids, shapes.contains x = true) (model : Nat) :
    ((ids.filterMap shapes.get?).map (shapeDefinition model)).map FunctionDef.name =
      ids.map (shapeFunction model) := by
  have hnames : FunctionDef.name ∘ shapeDefinition model = shapeFunction model ∘ Node.id := rfl
  rw [List.map_map, hnames, ← List.map_map, hw.map_id_filterMap_get? h]

theorem contains_of_mem_order (hw : shapes.WellFormed) {id : ShapeId}
    (h : shapes.contains id = true) : ∀ x ∈ shapes.order id, shapes.contains x = true := by
  rw [hw.order_eq h]
  exact fun x hx => hw.contains_of_mem_listing h hx

theorem modelDefinitions_names (hw : shapes.WellFormed) {m : Model}
    (h : shapes.contains m.shape = true) :
    (modelDefinitions shapes m).map FunctionDef.name =
      (shapes.order m.shape).map (shapeFunction m.id) ++
        ["distance" ++ toString m.id, "normal" ++ toString m.id, "material" ++ toString m.id] := by
  rw [modelDefinitions, List.map_append, hw.shapeDefinition_names (hw.contains_of_mem_order h)]
  rfl

theorem modelDefinitions_nodup (hw : shapes.WellFormed) {m : Model}
    (h : shapes.contains m.shape = true) :
    ((modelDefinitions shapes m).map FunctionDef.name).Nodup := by
  rw [hw.modelDefinitions_names h, List.nodup_append, hw.order_eq h]
  have hdistance := @stem_letters "distance" (by decide) m.id
  have hnormal := @stem_letters "normal" (by decide) m.id
  have hmaterial := @stem_letters "material" (by decide) m.id
  refine ⟨?_, ?_, ?_⟩
  · refine List.Nodup.map_on (fun x hx y hy hxy => ?_) (hw.nodup_listing m.shape)
    exact eq_of_number_eq (hw.contains_of_mem_listing h hx) (hw.contains_of_mem_listing h hy)
      (shapeFunction_inj hxy).2
  · have hne : ∀ {a b : String}, stem a ≠ stem b → a ≠ b := fun hne hab => hne (hab ▸ rfl)
    simp only [List.nodup_cons, List.mem_cons, List.not_mem_nil, or_false, not_or,
      not_false_eq_true, List.nodup_nil, and_true]
    refine ⟨⟨hne ?_, hne ?_⟩, hne ?_⟩
    · rw [hdistance, hnormal]
      decide
    · rw [hdistance, hmaterial]
      decide
    · rw [hnormal, hmaterial]
      decide
  · intro a ha b hb hab
    obtain ⟨x, -, rfl⟩ := List.mem_map.mp ha
    have hshape := stem_shapeFunction m.id x
    rw [hab] at hshape
    simp only [List.mem_cons, List.not_mem_nil, or_false] at hb
    rcases hb with rfl | rfl | rfl
    · exact absurd (hdistance.symm.trans hshape) (by decide)
    · exact absurd (hnormal.symm.trans hshape) (by decide)
    · exact absurd (hmaterial.symm.trans hshape) (by decide)

end Arena.WellFormed

/-! ## All functions -/

/-- The names of the functions that belong to no model. -/
def fixedNames : List String :=
  Helper.all.map (fun h => h.signature.name) ++
    ["main", "materialAir", "calculateClosest", "calculateNormal", "calculateMaterial"]

theorem fixedNames_nodup : fixedNames.Nodup := by
  decide +kernel

namespace Helper

theorem mem_all (h : Helper) : h ∈ all := by
  cases h <;> decide

theorem name_mem_all (h : Helper) : h.signature.name ∈ all.map fun h => h.signature.name :=
  List.mem_map_of_mem h.mem_all

theorem name_mem_fixedNames (h : Helper) : h.signature.name ∈ fixedNames :=
  List.mem_append_left _ h.name_mem_all

/-- Different helpers have different names. -/
theorem name_inj {h k : Helper} (hname : h.signature.name = k.signature.name) : h = k := by
  have hnodup : (all.map fun h => h.signature.name).Nodup :=
    fixedNames_nodup.sublist (List.sublist_append_left _ _)
  exact List.inj_on_of_nodup_map hnodup h.mem_all k.mem_all hname

end Helper

theorem stem_fixedNames : ∀ n ∈ fixedNames, stem n ∉ modelStems := by
  decide +kernel

/-- The functions of a program, those of the models last. -/
theorem Scene.definitions_perm (scene : Scene) :
    (scene.definitions.map FunctionDef.name).Perm
      (((Helper.needed scene.usedKinds).map fun h => h.signature.name) ++
        ["main", "materialAir", "calculateClosest", "calculateNormal", "calculateMaterial"] ++
        scene.models.flatMap fun m => (modelDefinitions scene.shapes m).map FunctionDef.name) := by
  have hhelpers : FunctionDef.name ∘ Helper.function = fun h => h.signature.name := rfl
  simp only [definitions, List.map_append, List.map_map, List.map_flatMap, hhelpers,
    List.append_assoc]
  refine List.Perm.append_left _ ?_
  exact List.Perm.append_left ["main"] List.perm_append_comm

/-- The functions of a program that belong to no model have names of their own. -/
theorem Scene.fixed_sublist (scene : Scene) :
    List.Sublist (((Helper.needed scene.usedKinds).map fun h => h.signature.name) ++
      ["main", "materialAir", "calculateClosest", "calculateNormal", "calculateMaterial"])
      fixedNames := by
  have hneeded : List.Sublist (Helper.needed scene.usedKinds) Helper.all :=
    List.filter_sublist.append_left _
  exact (hneeded.map _).append_right _

theorem Builder.WellFormed.definitions_nodup {b : Builder} (hw : b.WellFormed) :
    (b.scene.definitions.map FunctionDef.name).Nodup := by
  rw [b.scene.definitions_perm.nodup_iff, List.nodup_append]
  have hfixed := b.scene.fixed_sublist
  refine ⟨fixedNames_nodup.sublist hfixed, List.nodup_flatMap.mpr ⟨fun m hm => ?_, ?_⟩, ?_⟩
  · exact hw.shapes.modelDefinitions_nodup (hw.model_shape m hm)
  · rw [List.pairwise_iff_getElem]
    intro i j hi hj hij name hi' hj'
    obtain ⟨f, hf, rfl⟩ := List.mem_map.mp hi'
    obtain ⟨g, hg, hname⟩ := List.mem_map.mp hj'
    have hindex := (name_of_mem_modelDefinitions hf).2
    rw [← hname, (name_of_mem_modelDefinitions hg).2] at hindex
    have hids := toString_toList_inj hindex
    rw [hw.model_id (List.getElem?_eq_getElem hi),
      hw.model_id (List.getElem?_eq_getElem hj)] at hids
    omega
  · intro n hn name hname heq
    subst heq
    obtain ⟨m, -, hname⟩ := List.mem_flatMap.mp hname
    obtain ⟨f, hf, rfl⟩ := List.mem_map.mp hname
    exact stem_fixedNames _ (hfixed.subset hn) (name_of_mem_modelDefinitions hf).1

end ImplicitScene
