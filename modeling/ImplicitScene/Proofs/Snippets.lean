import Mathlib.Data.List.Nodup
import ImplicitScene.Description.Reader
import ImplicitScene.Proofs.ExpressionText
import ImplicitScene.Proofs.Replacing

/-!
# Slots of snippets

A slot is an identifier in braces.  The bindings of a snippet fill its slots one after
the other.  The text of a typed expression without snippets has no braces, and it is put
in between parentheses.  So nothing that is put in is or completes a slot, and filling in
turn is filling all at once, in any order (`fillSlots_simultaneous`).

The type of a snippet is found only if every slot has a binding.  For this the slots are
found by a scan from each opening brace to the next closing one.  A second opening brace in
between does not start the scan anew.  So a slot behind an open brace is not found, and it is
filled all the same if it has a binding.  If it has none it stays in the text, and these are
the only slots that stay (`slots_left`).
-/

namespace ImplicitScene

open Text

/-! ## Slots -/

namespace Text

theorem braced_toList (name : String) :
    (braced name).toList = '\x7b' :: (name.toList ++ ['\x7d']) := by
  simp [braced]

/-- The text has a slot of the name. -/
structure HasSlot (text name : String) : Prop where
  /-- The name is an identifier. -/
  identifier : isIdentifier name.toList = true
  /-- The name stands in the text in braces. -/
  occurs : (braced name).toList <:+: text.toList

/-- The slot stands in the text behind an opening brace, with no closing brace in between. -/
def IsCovered (slot text : List Char) : Prop :=
  ∃ between, '\x7d' ∉ between ∧ '\x7b' :: (between ++ slot) <:+: text

/-- The text has a slot of the name behind a brace that is open there. -/
structure HasCoveredSlot (text name : String) : Prop where
  /-- The name is an identifier. -/
  identifier : isIdentifier name.toList = true
  /-- The name stands in the text in braces, and these behind an open brace. -/
  occurs : IsCovered (braced name).toList text.toList

theorem HasCoveredSlot.hasSlot {text name : String} (h : HasCoveredSlot text name) :
    HasSlot text name := by
  obtain ⟨between, -, hoccurs⟩ := h.occurs
  have hbehind : (braced name).toList <:+: '\x7b' :: (between ++ (braced name).toList) :=
    List.infix_cons (List.suffix_append _ _).isInfix
  exact ⟨h.identifier, hbehind.trans hoccurs⟩

/-- The table has no characters of ASCII. -/
theorem alphanumericRanges_beyond_ascii :
    (alphanumericRanges.toList.all fun r => 0x80 ≤ r.1) = true := by
  decide +kernel

theorem isAlphanumeric_of_ascii {c : Char} (hc : c.toNat < 0x80) :
    isAlphanumeric c = c.isAlphanum := by
  refine Bool.or_eq_left_iff_imp.mpr fun hrange => ?_
  rw [← Array.any_toList, List.any_eq_true] at hrange
  obtain ⟨r, hr, hmem⟩ := hrange
  have hlow := List.all_eq_true.mp alphanumericRanges_beyond_ascii r hr
  simp only [Bool.and_eq_true, decide_eq_true_eq] at hmem hlow
  omega

/-- An identifier has no marks of ASCII. -/
theorem not_mem_of_isIdentifier (c : Char) {name : List Char} (h : isIdentifier name = true)
    (hc : c.toNat < 0x80 ∧ (c.isAlphanum || c = '_') = false := by decide) : c ∉ name := by
  intro hmem
  rw [isIdentifier, Bool.and_eq_true, List.all_eq_true] at h
  have hchar := h.2 c hmem
  rw [isAlphanumeric_of_ascii hc.1, hc.2] at hchar
  cases hchar

theorem isIdentifier_open_cons (cs : List Char) : isIdentifier ('\x7b' :: cs) = false :=
  Bool.eq_false_iff.mpr fun h =>
    absurd List.mem_cons_self (not_mem_of_isIdentifier '\x7b' h)

/-- At one place only one slot begins. -/
theorem eq_of_braced_begin {m n : String} (hm : isIdentifier m.toList = true)
    (hn : isIdentifier n.toList = true) {cs : List Char} (hmcs : (braced m).toList <+: cs)
    (hncs : (braced n).toList <+: cs) : m = n := by
  rw [braced_toList] at hmcs hncs
  obtain ⟨b, rfl⟩ := hncs
  rw [List.cons_append, List.cons_prefix_cons, List.append_assoc] at hmcs
  exact String.toList_injective (eq_of_slot_begins (not_mem_of_isIdentifier '\x7d' hn)
    (not_mem_of_isIdentifier '\x7d' hm) hmcs.2)

/-! ## Filling one slot -/

section Step

variable {text name value n : String}

/-- What is put in brings no slots, and no slot of the name is left. -/
theorem hasSlot_of_replaceAll (hhead : value.toList.head? = some '(')
    (hclear : '\x7b' ∉ value.toList) (h : HasSlot (replaceAll text (braced name) value) n) :
    HasSlot text n ∧ name ≠ n := by
  have hoccurs := h.occurs
  rw [replaceAll, String.toList_ofList, braced_toList n] at hoccurs
  have hguard : '(' ∉ '\x7b' :: (n.toList ++ ['\x7d']) := by
    simp [not_mem_of_isIdentifier '(' h.identifier]
  constructor
  · refine ⟨h.identifier, ?_⟩
    rw [braced_toList]
    exact infix_of_infix_replaceFrom hhead hclear hguard hoccurs
  · rintro rfl
    rw [braced_toList] at hoccurs
    exact not_infix_replaceFrom hhead hclear hguard 0 text.toList hoccurs

/-- The slots of other names stay. -/
theorem hasSlot_replaceAll (hname : isIdentifier name.toList = true) (h : HasSlot text n)
    (hne : name ≠ n) : HasSlot (replaceAll text (braced name) value) n := by
  obtain ⟨a, b, htext⟩ := h.occurs
  have hopen : ∀ {m : String}, isIdentifier m.toList = true → '\x7b' ∉ m.toList ++ ['\x7d'] :=
    fun hm => by simp [not_mem_of_isIdentifier '\x7b' hm]
  refine ⟨h.identifier, ?_⟩
  rw [replaceAll, String.toList_ofList, ← htext, List.append_assoc, braced_toList, braced_toList]
  refine infix_replaceFrom_append _ b (hopen h.identifier) (hopen hname) (fun cs hw hu => ?_)
    (Nat.zero_le _)
  rw [← braced_toList] at hw hu
  exact hne (eq_of_braced_begin hname h.identifier hw hu)

end Step

end Text

namespace Expression

/-! ## Filling slots in turn -/

/-- The text of a typed expression without snippets has no braces. -/
theorem glsl_not_mem_open {e : Expression} {t : Ty} (ht : e.type = .ok t)
    (ho : e.isOpaque = false) : '\x7b' ∉ e.glsl.toList := by
  have hembeds : Embeds (fun _ => True) e.glsl :=
    glsl_embeds (fun _ _ => trivial) trivial e ht ho
  exact fun hmem => absurd (hembeds.plain _ hmem) (by decide)

/-- The pattern and the text of a binding: its name in braces, its expression in parentheses. -/
def slotValue (b : String × Expression) : String × String :=
  (braced b.1, "(" ++ b.2.glsl ++ ")")

theorem slotValue_head? (b : String × Expression) : (slotValue b).2.toList.head? = some '(' := by
  simp [slotValue]

theorem slotValue_clear {b : String × Expression} (h : '\x7b' ∉ b.2.glsl.toList) :
    '\x7b' ∉ (slotValue b).2.toList := by
  simpa [slotValue] using h

theorem fillSlots_cons (b : String × Expression) (bindings : List (String × Expression))
    (text : String) : fillSlots (b :: bindings) text =
      fillSlots bindings (replaceAll text (braced b.1) (slotValue b).2) := by
  rw [fillSlots, slotValue]

section Run

variable {bindings : List (String × Expression)} {text n : String}

theorem hasSlot_of_fillSlots (hclear : ∀ b ∈ bindings, '\x7b' ∉ b.2.glsl.toList)
    (h : HasSlot (fillSlots bindings text) n) : HasSlot text n ∧ ∀ b ∈ bindings, b.1 ≠ n := by
  induction bindings generalizing text with
  | nil => exact ⟨h, by simp⟩
  | cons b bindings ih =>
      rw [List.forall_mem_cons] at hclear ⊢
      rw [fillSlots_cons] at h
      obtain ⟨hstep, hrest⟩ := ih hclear.2 h
      obtain ⟨htext, hne⟩ :=
        hasSlot_of_replaceAll (slotValue_head? b) (slotValue_clear hclear.1) hstep
      exact ⟨htext, hne, hrest⟩

theorem hasSlot_fillSlots (hnames : ∀ b ∈ bindings, isIdentifier b.1.toList = true)
    (h : HasSlot text n) (hunbound : ∀ b ∈ bindings, b.1 ≠ n) :
    HasSlot (fillSlots bindings text) n := by
  induction bindings generalizing text with
  | nil => exact h
  | cons b bindings ih =>
      rw [List.forall_mem_cons] at hnames hunbound
      rw [fillSlots_cons]
      exact ih hnames.2 (hasSlot_replaceAll hnames.1 h hunbound.1) hunbound.2

/-- The type around a snippet brings no slots. -/
theorem hasSlot_raw_iff (template : String) (bindings : List (String × Expression)) (ty : Ty) :
    HasSlot (raw template bindings ty).glsl n ↔ HasSlot (fillSlots bindings template) n := by
  have hfront : '\x7b' ∉ (ty.glsl ++ "(").toList := by cases ty <;> decide
  have hback : '\x7d' ∉ ")".toList := by decide
  have hoccurs : (braced n).toList <:+: (raw template bindings ty).glsl.toList ↔
      (braced n).toList <:+: (fillSlots bindings template).toList := by
    rw [glsl, String.append_assoc, String.toList_append, braced_toList,
      infix_append_iff_of_not_mem _ hfront, String.toList_append, ← List.cons_append,
      infix_append_iff_of_not_mem_right _ hback]
  exact ⟨fun h => ⟨h.identifier, hoccurs.mp h.occurs⟩,
    fun h => ⟨h.identifier, hoccurs.mpr h.occurs⟩⟩

end Run

/-! ## Filling slots at once -/

section Simultaneous

variable {bindings : List (String × Expression)}

theorem slotValue_guarded {b : String × Expression} (hname : isIdentifier b.1.toList = true)
    (hclear : '\x7b' ∉ b.2.glsl.toList) : Guarded '\x7b' '(' (slotValue b) where
  pattern :=
    ⟨b.1.toList ++ ['\x7d'], braced_toList b.1,
      by simp [not_mem_of_isIdentifier '\x7b' hname], by simp [not_mem_of_isIdentifier '(' hname]⟩
  head := slotValue_head? b
  clear := slotValue_clear hclear

/-- To fill slots in turn, after others were filled at once, is to fill all of them at once. -/
theorem fillSlots_substitute (values : List (String × String))
    (hvalues : ∀ v ∈ values, Guarded '\x7b' '(' v)
    (hbindings : ∀ b ∈ bindings, Guarded '\x7b' '(' (slotValue b)) (template : String) :
    fillSlots bindings (substitute values template) =
      substitute (values ++ bindings.map slotValue) template := by
  induction bindings generalizing values with
  | nil => simp [fillSlots]
  | cons b bindings ih =>
      rw [List.forall_mem_cons] at hbindings
      have hstep : replaceAll (substitute values template) (braced b.1) (slotValue b).2 =
          substitute (values ++ [slotValue b]) template := by
        rw [replaceAll, substitute, String.toList_ofList]
        exact congrArg String.ofList (replaceFrom_substituteFrom hvalues hbindings.1 0 _)
      have hboth : ∀ v ∈ values ++ [slotValue b], Guarded '\x7b' '(' v := by
        rw [List.forall_mem_append, List.forall_mem_singleton]
        exact ⟨hvalues, hbindings.1⟩
      rw [fillSlots_cons, hstep, ih _ hboth hbindings.2, List.append_assoc, List.map_cons]
      rfl

theorem fillSlots_eq_substitute
    (hbindings : ∀ b ∈ bindings, Guarded '\x7b' '(' (slotValue b)) (template : String) :
    fillSlots bindings template = substitute (bindings.map slotValue) template := by
  have hpass := fillSlots_substitute [] (by simp) hbindings template
  rwa [substitute_nil, List.nil_append] at hpass

/-- Bindings of different names may be filled in any order. -/
theorem substitute_perm (hnames : ∀ b ∈ bindings, isIdentifier b.1.toList = true)
    (hdistinct : (bindings.map Prod.fst).Nodup) {order : List (String × Expression)}
    (horder : bindings.Perm order) (template : String) :
    substitute (bindings.map slotValue) template = substitute (order.map slotValue) template := by
  refine congrArg String.ofList (substituteFrom_perm (horder.map slotValue) (fun cs => ?_) 0 _)
  rintro v ⟨hv, hvcs⟩ w ⟨hw, hwcs⟩
  obtain ⟨b, hb, rfl⟩ := List.mem_map.mp hv
  obtain ⟨c, hc, rfl⟩ := List.mem_map.mp hw
  rw [List.isPrefixOf_iff_prefix] at hvcs hwcs
  have hname : b.1 = c.1 := eq_of_braced_begin (hnames b hb) (hnames c hc) hvcs hwcs
  rw [List.inj_on_of_nodup_map hdistinct hb hc hname]

end Simultaneous

end Expression

/-- Sorting bindings of different names only reorders them. -/
theorem bindSorted_perm {α : Type} {name : String} (a : α) {bound : List (String × α)}
    (h : name ∉ bound.map Prod.fst) : (bindSorted name a bound).Perm ((name, a) :: bound) := by
  induction bound with
  | nil => rfl
  | cons b bound ih =>
      rw [List.map_cons, List.mem_cons, not_or] at h
      rw [bindSorted]
      split
      next => rfl
      next hless =>
        split
        next => exact ((ih h.2).cons b).trans (.swap _ _ _)
        next hgreater =>
          have hsame : name = b.1 :=
            String.le_antisymm (String.not_lt.mp hgreater) (String.not_lt.mp hless)
          exact absurd hsame h.1

theorem foldl_bindSorted_perm {α : Type} {bound : List (String × α)} (sorted : List (String × α))
    (h : ((bound ++ sorted).map Prod.fst).Nodup) :
    (bound.foldl (fun sorted b => bindSorted b.1 b.2 sorted) sorted).Perm (bound ++ sorted) := by
  induction bound generalizing sorted with
  | nil => rfl
  | cons b bound ih =>
      have hstep : (bound ++ bindSorted b.1 b.2 sorted).Perm (b :: bound ++ sorted) := by
        rw [List.cons_append, List.map_cons, List.nodup_cons, List.map_append, List.mem_append,
          not_or] at h
        exact ((bindSorted_perm b.2 h.1.2).append_left bound).trans List.perm_middle
      exact (ih _ ((hstep.map Prod.fst).nodup_iff.mpr h)).trans hstep

namespace Expression

/-- Filling slots in turn is filling them at once.  So the order of the bindings does not matter,
and that of a description, which is sorted by name, gives the same text as any other. -/
theorem fillSlots_simultaneous {bindings : List (String × Expression)}
    (hdistinct : (bindings.map Prod.fst).Nodup)
    (hnames : ∀ b ∈ bindings, isIdentifier b.1.toList = true)
    (htyped : ∀ b ∈ bindings, ∃ t, b.2.type = .ok t)
    (hplain : ∀ b ∈ bindings, b.2.isOpaque = false) (template : String) :
    fillSlots bindings template =
        substitute (bindings.map fun b => (braced b.1, "(" ++ b.2.glsl ++ ")")) template ∧
      (∀ order, bindings.Perm order → fillSlots order template = fillSlots bindings template) ∧
      fillSlots (bindings.foldl (fun sorted b => bindSorted b.1 b.2 sorted) []) template =
        fillSlots bindings template := by
  have hguarded : ∀ b ∈ bindings, Guarded '\x7b' '(' (slotValue b) := by
    intro b hb
    obtain ⟨t, ht⟩ := htyped b hb
    exact slotValue_guarded (hnames b hb) (glsl_not_mem_open ht (hplain b hb))
  have hany : ∀ order, bindings.Perm order →
      fillSlots order template = fillSlots bindings template := by
    intro order horder
    have horders : ∀ b ∈ order, Guarded '\x7b' '(' (slotValue b) := fun b hb =>
      hguarded b (horder.mem_iff.mpr hb)
    rw [fillSlots_eq_substitute horders, fillSlots_eq_substitute hguarded,
      substitute_perm hnames hdistinct horder]
  have hsorted := foldl_bindSorted_perm [] (by rwa [List.append_nil])
  rw [List.append_nil] at hsorted
  exact ⟨fillSlots_eq_substitute hguarded template, hany, hany _ hsorted.symm⟩

/-- Slots that stand close together, filled in both orders. -/
theorem fillSlots_simultaneous_close :
    let bindings := [("a", var .time), ("b", negate (var .uv))]
    let template := "\x7b\x7ba\x7d\x7d \x7bb\x7ba\x7d\x7bb\x7d\x7d"
    (bindings.map Prod.fst).Nodup ∧
      fillSlots bindings.reverse template = fillSlots bindings template ∧
      fillSlots bindings template = "\x7b(time)\x7d \x7bb(time)((-uv))\x7d" := by
  intro bindings template
  have hdistinct : (bindings.map Prod.fst).Nodup := by decide
  have hnames : ∀ b ∈ bindings, isIdentifier b.1.toList = true := by
    simp only [bindings, List.forall_mem_cons]
    exact ⟨by decide, by decide, by simp⟩
  have htyped : ∀ b ∈ bindings, ∃ t, b.2.type = .ok t := by
    simp only [bindings, List.forall_mem_cons]
    exact ⟨⟨.float, rfl⟩, ⟨.vec2, rfl⟩, by simp⟩
  have hplain : ∀ b ∈ bindings, b.2.isOpaque = false := by
    simp only [bindings, List.forall_mem_cons]
    exact ⟨rfl, rfl, by simp⟩
  obtain ⟨-, hany, -⟩ := fillSlots_simultaneous hdistinct hnames htyped hplain template
  exact ⟨hdistinct, hany _ (List.reverse_perm bindings).symm, by decide +kernel⟩

end Expression

/-! ## Slots that the scan finds -/

namespace Text

theorem IsCovered.cons {slot text : List Char} (h : IsCovered slot text) (c : Char) :
    IsCovered slot (c :: text) := by
  obtain ⟨between, hbetween, hoccurs⟩ := h
  exact ⟨between, hbetween, List.infix_cons hoccurs⟩

/-- A brace that is open stays open until it is closed. -/
theorem IsCovered.insert {slot text : List Char} {c : Char} (hc : c ≠ '\x7d')
    (h : IsCovered slot ('\x7b' :: text)) : IsCovered slot ('\x7b' :: c :: text) := by
  obtain ⟨between, hbetween, hoccurs⟩ := h
  rcases List.infix_cons_iff.mp hoccurs with hhere | hlater
  · rw [List.cons_prefix_cons] at hhere
    refine ⟨c :: between, by simp [hc.symm, hbetween], List.IsPrefix.isInfix ?_⟩
    rw [List.cons_append, List.cons_prefix_cons, List.cons_prefix_cons]
    exact ⟨rfl, rfl, hhere.2⟩
  · exact ⟨between, hbetween, List.infix_cons (List.infix_cons hlater)⟩

/-- The text up to the next closing brace is found. -/
theorem bracedTexts_close {name : List Char} (hname : '\x7d' ∉ name) (read rest : List Char) :
    bracedTexts (some read) (name ++ '\x7d' :: rest) =
      (read.reverse ++ name) :: bracedTexts none rest := by
  induction name generalizing read with
  | nil => simp [bracedTexts]
  | cons c name ih =>
      rw [List.mem_cons, not_or] at hname
      rw [List.cons_append, bracedTexts, if_neg (Ne.symm hname.1), ih hname.2]
      simp

/-- The scan finds a name in braces unless a brace is open before it.  The second part is about a
scan that has read an opening brace. -/
theorem mem_bracedTexts_or {name : List Char} (hname : '\x7d' ∉ name) (front rest : List Char) :
    let slot := '\x7b' :: (name ++ ['\x7d'])
    let text := front ++ slot ++ rest
    (name ∈ bracedTexts none text ∨ IsCovered slot text) ∧
      ∀ read, name ∈ bracedTexts (some read) text ∨ IsCovered slot ('\x7b' :: text) := by
  intro slot
  induction front with
  | nil =>
      have hfound : bracedTexts none (slot ++ rest) = name :: bracedTexts none rest := by
        simp [slot, bracedTexts, bracedTexts_close hname]
      refine ⟨Or.inl (by simp [hfound]), fun read => Or.inr ⟨[], by simp, ?_⟩⟩
      exact (List.prefix_append ('\x7b' :: slot) rest).isInfix
  | cons c front ih =>
      obtain ⟨hclosed, hopen⟩ := ih
      refine ⟨?_, fun read => ?_⟩
      · rw [List.cons_append, List.cons_append, bracedTexts]
        by_cases hc : c = '\x7b'
        · rw [if_pos hc, hc]
          exact hopen []
        · rw [if_neg hc]
          exact hclosed.imp_right fun h => h.cons c
      · rw [List.cons_append, List.cons_append, bracedTexts]
        by_cases hc : c = '\x7d'
        · rw [if_pos hc]
          exact hclosed.imp (List.mem_cons_of_mem _) fun h => (h.cons c).cons _
        · rw [if_neg hc]
          exact (hopen (c :: read)).imp_right fun h => h.insert hc

theorem mem_slotNames_or {text name : String} (h : HasSlot text name) :
    name ∈ slotNames text ∨ HasCoveredSlot text name := by
  obtain ⟨front, rest, htext⟩ := h.occurs
  rw [braced_toList] at htext
  have hscan := (mem_bracedTexts_or (not_mem_of_isIdentifier '\x7d' h.identifier) front rest).1
  rw [htext, ← braced_toList] at hscan
  refine hscan.imp (fun hfound => ?_) fun hcovered => ⟨h.identifier, hcovered⟩
  refine List.mem_map.mpr ⟨name.toList, List.mem_filter.mpr ⟨hfound, h.identifier⟩, ?_⟩
  exact String.ofList_toList

end Text

namespace Expression

/-! ## Slots that stay -/

theorem type_of_typeBindings {bindings : List (String × Expression)}
    (h : typeBindings bindings = .ok ()) : ∀ b ∈ bindings, ∃ t, b.2.type = .ok t := by
  induction bindings with
  | nil => simp
  | cons b bindings ih =>
      obtain ⟨t, ht, hrest⟩ := ok_of_bind_eq_ok h
      exact List.forall_mem_cons.mpr ⟨⟨t, ht⟩, ih hrest⟩

/-- A snippet has a type if its bindings have one and every slot that the scan finds is bound. -/
theorem type_raw_inv {template : String} {bindings : List (String × Expression)} {ty t : Ty}
    (h : (raw template bindings ty).type = .ok t) :
    (∀ b ∈ bindings, ∃ s, b.2.type = .ok s) ∧
      ∀ name ∈ slotNames template, ∃ b ∈ bindings, b.1 = name := by
  obtain ⟨⟨⟩, hbindings, hslots⟩ := ok_of_bind_eq_ok h
  refine ⟨type_of_typeBindings hbindings, fun name hname => ?_⟩
  split at hslots
  next => cases hslots
  next hnone =>
    have hbound := List.find?_eq_none.mp hnone name hname
    simpa using hbound

/-- In the text of a snippet that has a type, the slots that are left are behind open braces and
have no binding.  If the bindings have identifiers as names, all such slots are left. -/
theorem slots_left {template : String} {bindings : List (String × Expression)} {ty t : Ty}
    (ht : (raw template bindings ty).type = .ok t) (ho : ∀ b ∈ bindings, b.2.isOpaque = false)
    (name : String) :
    (HasSlot (raw template bindings ty).glsl name →
      HasCoveredSlot template name ∧ ∀ b ∈ bindings, b.1 ≠ name) ∧
    ((∀ b ∈ bindings, isIdentifier b.1.toList = true) → HasCoveredSlot template name →
      (∀ b ∈ bindings, b.1 ≠ name) → HasSlot (raw template bindings ty).glsl name) := by
  obtain ⟨htyped, hbound⟩ := type_raw_inv ht
  rw [hasSlot_raw_iff]
  constructor
  · intro hleft
    have hclear : ∀ b ∈ bindings, '\x7b' ∉ b.2.glsl.toList := by
      intro b hb
      obtain ⟨s, hs⟩ := htyped b hb
      exact glsl_not_mem_open hs (ho b hb)
    obtain ⟨hslot, hunbound⟩ := hasSlot_of_fillSlots hclear hleft
    refine ⟨(mem_slotNames_or hslot).resolve_left fun hfound => ?_, hunbound⟩
    obtain ⟨b, hb, hname⟩ := hbound name hfound
    exact hunbound b hb hname
  · intro hnames hcovered hunbound
    exact hasSlot_fillSlots hnames hcovered.hasSlot hunbound

/-- Of three slots one is found, one is filled all the same, and one is left. -/
theorem slots_left_behind_braces :
    let template := "\x7b\x7ba\x7d + \x7b\x7bb\x7d + \x7bc\x7d"
    let e := raw template [("a", var .time), ("c", var .uv)] .vec3
    e.type = .ok .vec3 ∧ HasSlot e.glsl "b" ∧ ¬HasSlot e.glsl "a" ∧ ¬HasSlot e.glsl "c" := by
  intro template e
  have hslots : slotNames template = ["c"] := by
    have hscan : bracedTexts none template.toList = [['\x7b', 'a'], ['\x7b', 'b'], ['c']] := by
      decide +kernel
    have hname : isIdentifier ['c'] = true := by decide
    rw [slotNames, hscan]
    simp [isIdentifier_open_cons, hname]
  have ht : e.type = .ok .vec3 := by
    rw [type, hslots]
    rfl
  have hplain : ∀ b ∈ [("a", var .time), ("c", var .uv)], b.2.isOpaque = false := by
    simp [isOpaque]
  have hnames : ∀ b ∈ [("a", var .time), ("c", var .uv)], isIdentifier b.1.toList = true := by
    simp only [List.forall_mem_cons]
    exact ⟨by decide, by decide, by simp⟩
  have hcovered : HasCoveredSlot template "b" := by
    refine ⟨by decide, [], by simp, ?_⟩
    exact ⟨['\x7b', '\x7b', 'a', '\x7d', ' ', '+', ' '],
      [' ', '+', ' ', '\x7b', 'c', '\x7d'], by decide +kernel⟩
  refine ⟨ht, (slots_left ht hplain "b").2 hnames hcovered (by simp), fun h => ?_, fun h => ?_⟩
  · exact ((slots_left ht hplain "a").1 h).2 ("a", var .time) (by simp) rfl
  · exact ((slots_left ht hplain "c").1 h).2 ("c", var .uv) (by simp) rfl

/-- A slot in double braces has no binding, and still the snippet has a type. -/
theorem unbound_slot_left :
    let e := raw "\x7b\x7ba\x7d\x7d" [] .vec3
    e.type = .ok .vec3 ∧ e.glsl = "vec3(\x7b\x7ba\x7d\x7d)" ∧ HasSlot e.glsl "a" := by
  intro e
  have hslots : slotNames "\x7b\x7ba\x7d\x7d" = [] := by
    have hscan : bracedTexts none "\x7b\x7ba\x7d\x7d".toList = [['\x7b', 'a']] := by
      decide +kernel
    rw [slotNames, hscan]
    simp [isIdentifier_open_cons]
  have ht : e.type = .ok .vec3 := by
    rw [type, hslots]
    rfl
  have htext : e.glsl = "vec3(\x7b\x7ba\x7d\x7d)" := by decide +kernel
  refine ⟨ht, htext, by decide, ?_⟩
  rw [htext]
  exact ⟨['v', 'e', 'c', '3', '(', '\x7b'], ['\x7d', ')'], by decide +kernel⟩

end Expression

end ImplicitScene
