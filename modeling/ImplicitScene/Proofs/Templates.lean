import Mathlib.Data.List.Induction
import Mathlib.Data.List.Infix
import Mathlib.Data.List.Nodup
import ImplicitScene.Proofs.MainFunction

/-!
# Filling templates

The slots of a template are filled one name after the other, each time by replacing a
text everywhere, and they are listed by a scan that knows nothing of that.  Both follow
the *parts* of the template: its slots and the characters beside them (`Parsed`).  To
fill a name is to put characters for its slots (`Parsed.replaceFrom`), and to list the
slots is to drop the characters (`Parsed.slots`).  So names that are filled are listed no
more, the others are listed as before, and the order of the values does not matter
(`slots_fill`).

The parts after a filling have to be those that a scan of the new text would find.  There
is one way to spoil this with plain names and values.  A dollar sign and an opening brace
with a slot between them come together when the slot is filled with the empty text, and
what they begin then is a slot that the template did not have
(`empty_value_begins_slot`).  Such a place is a *seam* of the template (`Seam`).
-/

namespace ImplicitScene.Template

open Text

/-! ## Parts -/

/-- A part of a template. -/
inductive Part where
  /-- A character beside the slots. -/
  | char (c : Char)
  /-- The slot of a name. -/
  | slot (name : String)

namespace Part

/-- The characters of a part. -/
def chars : Part → List Char
  | char c => [c]
  | slot name => (Template.slot name).toList

/-- The name of a slot. -/
def name? : Part → Option String
  | char _ => none
  | slot name => some name

end Part

/-- The characters of several parts. -/
def charsOf (parts : List Part) : List Char := parts.flatMap Part.chars

theorem charsOf_char (c : Char) (parts : List Part) :
    charsOf (.char c :: parts) = c :: charsOf parts := rfl

theorem charsOf_slot (name : String) (parts : List Part) :
    charsOf (.slot name :: parts) =
      '$' :: '\x7b' :: (name.toList ++ '\x7d' :: charsOf parts) := by
  simp [charsOf, Part.chars, slot_toList]

/-- The parts that a text is read as.  A name has neither a dollar sign nor a closing brace.  A
dollar sign before an opening brace begins a slot, unless no closing brace comes after it. -/
inductive Parsed : List Part → Prop
  | nil : Parsed []
  | char {c : Char} {parts : List Part}
      (apart : c = '$' → (charsOf parts).head? = some '\x7b' → '\x7d' ∉ charsOf parts)
      (rest : Parsed parts) : Parsed (.char c :: parts)
  | slot {name : String} {parts : List Part} (dollar : '$' ∉ name.toList)
      (brace : '\x7d' ∉ name.toList) (rest : Parsed parts) : Parsed (.slot name :: parts)

/-! ## Slots of a text -/

theorem slotsFrom_of_not_mem {name : Option (List Char)} {cs : List Char} (h : '\x7d' ∉ cs) :
    slotsFrom name cs = [] := by
  fun_induction slotsFrom name cs with
  | case1 => rfl
  | case2 cs ih => exact ih (by simp_all)
  | case3 c cs hne ih => exact ih (by simp_all)
  | case4 name cs => simp at h
  | case5 name c cs hne ih => exact ih (by simp_all)

theorem slotsFrom_name {n : List Char} (h : '\x7d' ∉ n) (name cs : List Char) :
    slotsFrom (some name) (n ++ '\x7d' :: cs) = (name.reverse ++ n) :: slotsFrom none cs := by
  induction n generalizing name with
  | nil => simp [slotsFrom]
  | cons c n ih =>
      rw [List.mem_cons, not_or] at h
      rw [List.cons_append, slotsFrom]
      · simp [ih h.2]
      · exact fun heq => h.1 heq.symm

theorem slotsFrom_skip {c : Char} {cs : List Char} (h : c = '$' → cs.head? ≠ some '\x7b') :
    slotsFrom none (c :: cs) = slotsFrom none cs := by
  rw [slotsFrom]
  rintro rest rfl rfl
  exact h rfl rfl

/-- The slots of a text are those of its parts. -/
theorem Parsed.slotsFrom {parts : List Part} (h : Parsed parts) :
    Template.slotsFrom none (charsOf parts) = (parts.filterMap Part.name?).map String.toList := by
  induction h with
  | nil => rfl
  | @char c parts apart _ ih =>
      rw [charsOf_char, List.filterMap_cons_none rfl, ← ih]
      by_cases hopen : c = '$' ∧ (charsOf parts).head? = some '\x7b'
      · -- the slot is not closed, so neither it nor anything after it counts
        have hmem := apart hopen.1 hopen.2
        rw [slotsFrom_of_not_mem hmem, slotsFrom_of_not_mem]
        rw [List.mem_cons, not_or, hopen.1]
        exact ⟨by decide, hmem⟩
      · exact slotsFrom_skip fun hc hhead => hopen ⟨hc, hhead⟩
  | @slot name parts _ brace _ ih =>
      rw [charsOf_slot, Template.slotsFrom, slotsFrom_name brace, ih]
      rfl

/-- Slots are listed by their names. -/
theorem Parsed.slots {parts : List Part} (h : Parsed parts) :
    slots (String.ofList (charsOf parts)) = parts.filterMap Part.name? := by
  rw [Template.slots, String.toList_ofList, h.slotsFrom, List.map_map]
  simp [Function.comp_def]

/-! ## Reading a template -/

/-- No dollar sign stands between the beginning of a slot and the next closing brace. -/
def SlotsApart (cs : List Char) : Prop :=
  ∀ a name b, cs = a ++ '$' :: '\x7b' :: (name ++ '\x7d' :: b) → '\x7d' ∉ name → '$' ∉ name

theorem SlotsApart.suffix {a b : List Char} (h : SlotsApart (a ++ b)) : SlotsApart b := by
  rintro c name d rfl
  exact h (a ++ c) name d (List.append_assoc _ _ _).symm

/-- If a slot begins here and is closed, no dollar sign stands in it. -/
def clearSlot : List Char → Bool
  | '$' :: '\x7b' :: cs => !cs.contains '\x7d' || !(cs.takeWhile (· != '\x7d')).contains '$'
  | _ => true

theorem slotsApart_iff {cs : List Char} : SlotsApart cs ↔ cs.tails.all clearSlot = true := by
  rw [List.all_eq_true]
  constructor
  · intro h rest hrest
    obtain ⟨a, rfl⟩ := (List.mem_tails _ _).mp hrest
    unfold clearSlot
    split
    next r =>
      by_cases hclosed : '\x7d' ∈ r
      · obtain ⟨name, b, rfl, hname⟩ := List.eq_append_cons_of_mem hclosed
        rw [takeWhile_name hname]
        simpa using h a name b rfl hname
      · simp [hclosed]
    next => rfl
  · rintro h a name b rfl hname
    have hclear := h _ ((List.mem_tails _ _).mpr (List.suffix_append a _))
    rw [clearSlot, takeWhile_name hname] at hclear
    simpa using hclear

instance (cs : List Char) : Decidable (SlotsApart cs) := decidable_of_iff' _ slotsApart_iff

theorem charsOf_append (parts others : List Part) :
    charsOf (parts ++ others) = charsOf parts ++ charsOf others :=
  List.flatMap_append

@[simp] theorem charsOf_map_char (cs : List Char) : charsOf (cs.map .char) = cs := by
  induction cs with
  | nil => rfl
  | cons c cs ih => rw [List.map_cons, charsOf_char, ih]

/-- Characters without a closing brace have no slots among them. -/
theorem parsed_chars {cs : List Char} (h : '\x7d' ∉ cs) : Parsed (cs.map .char) := by
  induction cs with
  | nil => exact .nil
  | cons c cs ih =>
      rw [List.mem_cons, not_or] at h
      refine .char (fun _ _ => ?_) (ih h.2)
      rw [charsOf_map_char]
      exact h.2

/-- A template has parts. -/
theorem SlotsApart.exists_parsed {cs : List Char} (h : SlotsApart cs) :
    ∃ parts, Parsed parts ∧ charsOf parts = cs := by
  match cs with
  | [] => exact ⟨[], .nil, rfl⟩
  | c :: rest =>
      by_cases hopen : c = '$' ∧ rest.head? = some '\x7b'
      · obtain ⟨rfl, hhead⟩ := hopen
        obtain ⟨rest, rfl⟩ := List.head?_eq_some_iff.mp hhead
        by_cases hclosed : '\x7d' ∈ rest
        · obtain ⟨name, b, rfl, hname⟩ := List.eq_append_cons_of_mem hclosed
          have hdollar := h [] name b rfl hname
          have hrest : SlotsApart b := by
            refine SlotsApart.suffix (a := '$' :: '\x7b' :: (name ++ ['\x7d'])) ?_
            simpa using h
          obtain ⟨parts, hparsed, rfl⟩ := hrest.exists_parsed
          refine ⟨.slot (String.ofList name) :: parts, .slot ?_ ?_ hparsed, ?_⟩
          · rwa [String.toList_ofList]
          · rwa [String.toList_ofList]
          · rw [charsOf_slot, String.toList_ofList]
        · refine ⟨('$' :: '\x7b' :: rest).map .char, parsed_chars ?_, charsOf_map_char _⟩
          simpa using hclosed
      · obtain ⟨parts, hparsed, rfl⟩ := (h.suffix (a := [c])).exists_parsed
        exact ⟨.char c :: parts, .char (fun hc hhead => absurd ⟨hc, hhead⟩ hopen) hparsed, rfl⟩
termination_by cs.length
decreasing_by
  · simp_all only [List.length_cons, List.length_append]; omega
  · exact Nat.lt_succ_self _

/-! ## Filling parts -/

/-- What a part becomes when slots are filled. -/
def Part.filled (values : List (String × String)) : Part → List Part
  | char c => [char c]
  | slot name =>
      match values.find? fun v => v.1 = name with
      | some v => v.2.toList.map char
      | none => [slot name]

/-- What parts become when slots are filled. -/
def filled (values : List (String × String)) (parts : List Part) : List Part :=
  parts.flatMap (Part.filled values)

theorem filled_char (values : List (String × String)) (c : Char) (parts : List Part) :
    filled values (.char c :: parts) = .char c :: filled values parts := rfl

theorem filled_nil (parts : List Part) : filled [] parts = parts := by
  induction parts with
  | nil => rfl
  | cons part parts ih => cases part <;> exact congrArg (_ :: ·) ih

theorem filled_chars (values : List (String × String)) (cs : List Char) :
    filled values (cs.map .char) = cs.map .char := by
  induction cs with
  | nil => rfl
  | cons c cs ih => exact congrArg (Part.char c :: ·) ih

/-- To fill one more name afterwards is to fill it at once. -/
theorem filled_filled (values : List (String × String)) (v : String × String)
    (parts : List Part) : filled [v] (filled values parts) = filled (values ++ [v]) parts := by
  rw [filled, filled, filled, List.flatMap_assoc]
  congr 1
  funext part
  cases part with
  | char c => rfl
  | slot name =>
      simp only [Part.filled, List.find?_append]
      cases values.find? fun v => v.1 = name with
      | some u => exact filled_chars [v] _
      | none =>
          rw [Option.none_or]
          simp [Part.filled]

/-- Filling a name in a text fills it in the parts. -/
theorem Parsed.replaceFrom {parts : List Part} (h : Parsed parts) {name : String}
    (hname : '\x7d' ∉ name.toList) (value : String) :
    Text.replaceFrom (Template.slot name).toList value.toList 0 (charsOf parts) =
      charsOf (filled [(name, value)] parts) := by
  induction h with
  | nil => rfl
  | @char c parts apart _ ih =>
      -- a pattern that began here would have a closing brace
      have habsent : ¬(Template.slot name).toList.isPrefixOf (c :: charsOf parts) = true := by
        rw [List.isPrefixOf_iff_prefix, slot_toList, List.cons_prefix_cons]
        rintro ⟨rfl, rest, hrest⟩
        have hhead : (charsOf parts).head? = some '\x7b' := by rw [← hrest]; rfl
        refine apart rfl hhead ?_
        rw [← hrest]
        simp
      rw [charsOf_char, Text.replaceFrom, if_neg habsent, ih]
      rfl
  | @slot n parts dollar brace _ ih =>
      have hpiece : charsOf (.slot n :: parts) =
          (Piece.slot n).string.toList ++ charsOf parts := rfl
      rw [hpiece, replaceFrom_piece (p := .slot n) hname ⟨dollar, brace⟩, ih, filled, filled,
        List.flatMap_cons, charsOf_append]
      congr 1
      by_cases hn : n = name
      · simp [Piece.fill, Piece.string, Part.filled, hn]
      · simp [Piece.fill, Piece.string, Part.filled, hn, Ne.symm hn, charsOf, Part.chars]

/-! ## Seams -/

/-- A text without dollar signs and braces. -/
def Plain (s : String) : Prop := '$' ∉ s.toList ∧ '\x7b' ∉ s.toList ∧ '\x7d' ∉ s.toList

/-- Slots with empty values, at least one, that have a dollar sign before them and an opening brace
after them.  When they are filled, the two come together and begin a slot. -/
def Seam (values : List (String × String)) (cs : List Char) : Prop :=
  ∃ names : List String, names ≠ [] ∧ (∀ name ∈ names, (name, "") ∈ values) ∧
    '$' :: (names.flatMap fun name => (slot name).toList) ++ ['\x7b'] <:+: cs

theorem Seam.of_suffix {values : List (String × String)} {a b : List Char} (h : Seam values b) :
    Seam values (a ++ b) := by
  obtain ⟨names, hne, hempty, hseam⟩ := h
  exact ⟨names, hne, hempty, hseam.trans (List.suffix_append a b).isInfix⟩

/-- Before a seam there are two dollar signs. -/
theorem Seam.dollars {values : List (String × String)} {cs : List Char} (h : Seam values cs) :
    ['$', '$'] <:+: cs := by
  obtain ⟨names, hne, -, hseam⟩ := h
  obtain ⟨name, names, rfl⟩ := List.exists_cons_of_ne_nil hne
  refine List.IsInfix.trans (List.IsPrefix.isInfix ?_) hseam
  simp [slot_toList]

theorem Seam.mono {values others : List (String × String)} {cs : List Char} (h : Seam values cs)
    (hsub : values ⊆ others) : Seam others cs := by
  obtain ⟨names, hne, hempty, hseam⟩ := h
  exact ⟨names, hne, fun name hname => hsub (hempty name hname), hseam⟩

section Seams

variable {values : List (String × String)} {parts : List Part}

/-- Parts without a closing brace have nothing to fill. -/
theorem filled_of_not_mem (h : '\x7d' ∉ charsOf parts) : filled values parts = parts := by
  induction parts with
  | nil => rfl
  | cons part parts ih =>
      cases part with
      | char c =>
          rw [charsOf_char, List.mem_cons, not_or] at h
          exact congrArg (Part.char c :: ·) (ih h.2)
      | slot name => simp [charsOf_slot] at h

/-- Filled parts begin with an opening brace only if the parts do, after slots with empty values. -/
theorem exists_names_of_head? (hvalues : ∀ v ∈ values, Plain v.2)
    (h : (charsOf (filled values parts)).head? = some '\x7b') :
    ∃ (names : List String) (rest : List Part), (∀ name ∈ names, (name, "") ∈ values) ∧
      parts = names.map .slot ++ .char '\x7b' :: rest := by
  induction parts with
  | nil => cases h
  | cons part parts ih =>
      cases part with
      | char c =>
          obtain rfl : c = '\x7b' := Option.some.inj h
          exact ⟨[], parts, List.forall_mem_nil _, rfl⟩
      | slot name =>
          rw [filled, List.flatMap_cons, charsOf_append, Part.filled] at h
          split at h
          next v hfound =>
            have hmem := List.mem_of_find?_eq_some hfound
            have hname : v.1 = name := by simpa using List.find?_some hfound
            rw [charsOf_map_char] at h
            cases hvalue : v.2.toList with
            | nil =>
                rw [hvalue] at h
                obtain ⟨names, rest, hnames, rfl⟩ := ih h
                refine ⟨name :: names, rest, List.forall_mem_cons.mpr ⟨?_, hnames⟩, rfl⟩
                have hempty : v = (name, "") := Prod.ext hname (String.toList_eq_nil_iff.mp hvalue)
                exact hempty ▸ hmem
            | cons c cs =>
                rw [hvalue] at h
                obtain rfl : c = '\x7b' := Option.some.inj h
                exact absurd (hvalue ▸ List.mem_cons_self) (hvalues v hmem).2.1
          next =>
            rw [← charsOf_append, List.singleton_append, charsOf_slot] at h
            exact absurd (Option.some.inj h) (by decide)

/-- Characters without a dollar sign may stand before any parts. -/
theorem Parsed.chars_append {cs : List Char} (hcs : '$' ∉ cs) (h : Parsed parts) :
    Parsed (cs.map .char ++ parts) := by
  induction cs with
  | nil => exact h
  | cons c cs ih =>
      rw [List.mem_cons, not_or] at hcs
      exact .char (fun hc => absurd hc.symm hcs.1) (ih hcs.2)

/-- Filled parts are read as they are, if there is no seam. -/
theorem Parsed.filled (h : Parsed parts) (hvalues : ∀ v ∈ values, Plain v.2)
    (hseam : ¬Seam values (charsOf parts)) : Parsed (filled values parts) := by
  induction h with
  | nil => exact .nil
  | @char c parts apart _ ih =>
      rw [filled_char]
      refine .char (fun hc hhead => ?_) (ih fun h => hseam (h.of_suffix (a := [c])))
      obtain ⟨names, rest, hnames, hparts⟩ := exists_names_of_head? hvalues hhead
      cases names with
      | nil =>
          -- the slot that begins here was not closed before
          have hclosed : '\x7d' ∉ charsOf parts := apart hc (by rw [hparts]; rfl)
          rwa [filled_of_not_mem hclosed]
      | cons name names =>
          refine absurd ⟨name :: names, List.cons_ne_nil _ _, hnames, ?_⟩ hseam
          have hslots : charsOf ((name :: names).map .slot) =
              (name :: names).flatMap fun name => (Template.slot name).toList :=
            List.flatMap_map _ _ _
          rw [charsOf_char, hparts, charsOf_append, hslots, charsOf_char, hc]
          exact ⟨[], charsOf rest, by simp⟩
  | @slot name parts dollar brace _ ih =>
      have hrest := ih fun h => hseam (h.of_suffix (a := (Template.slot name).toList))
      rw [Template.filled, List.flatMap_cons, Part.filled]
      split
      next v hfound =>
        exact hrest.chars_append (hvalues v (List.mem_of_find?_eq_some hfound)).1
      next => exact .slot dollar brace hrest

end Seams

/-! ## Filling a template -/

/-- What is given for the slots of a template.  No dollar sign stands inside a slot of the template,
the names are distinct, and neither names nor values have a dollar sign or a brace. -/
structure Fits (template : String) (values : List (String × String)) : Prop where
  /-- Slots of the template are apart. -/
  apart : SlotsApart template.toList
  /-- Every name has one value. -/
  distinct : (values.map Prod.fst).Nodup
  /-- Names are plain. -/
  names : ∀ v ∈ values, Plain v.1
  /-- Values are plain. -/
  values : ∀ v ∈ values, Plain v.2

instance (s : String) : Decidable (Plain s) :=
  inferInstanceAs (Decidable ('$' ∉ s.toList ∧ '\x7b' ∉ s.toList ∧ '\x7d' ∉ s.toList))

instance (template : String) (values : List (String × String)) :
    Decidable (Fits template values) :=
  decidable_of_iff (SlotsApart template.toList ∧ (values.map Prod.fst).Nodup ∧
      (∀ v ∈ values, Plain v.1) ∧ ∀ v ∈ values, Plain v.2)
    ⟨fun ⟨a, b, c, d⟩ => ⟨a, b, c, d⟩, fun h => ⟨h.apart, h.distinct, h.names, h.values⟩⟩

section Filling

variable {values others : List (String × String)} {parts : List Part}

/-- Filling names in turn fills the parts at once. -/
theorem Parsed.fill (h : Parsed parts) (hnames : ∀ v ∈ values, Plain v.1)
    (hvalues : ∀ v ∈ values, Plain v.2) (hseam : ¬Seam values (charsOf parts)) :
    fill (String.ofList (charsOf parts)) values =
      String.ofList (charsOf (Template.filled values parts)) := by
  induction values using List.reverseRecOn with
  | nil => rw [filled_nil]; rfl
  | append_singleton values v ih =>
      rw [List.forall_mem_append, List.forall_mem_singleton] at hnames hvalues
      have hbefore : ¬Seam values (charsOf parts) := fun h =>
        hseam (h.mono (List.subset_append_left _ _))
      have hlast : Template.fill (String.ofList (charsOf parts)) (values ++ [v]) =
          replaceAll (Template.fill (String.ofList (charsOf parts)) values) (Template.slot v.1)
            v.2 :=
        List.foldl_append
      have hstep := (h.filled hvalues.1 hbefore).replaceFrom hnames.2.2.2 v.2
      rw [hlast, ih hnames.1 hvalues.1 hbefore, replaceAll, String.toList_ofList, hstep,
        filled_filled]

/-- The slots of other names are left. -/
theorem filterMap_name?_filled (values : List (String × String)) (parts : List Part) :
    (filled values parts).filterMap Part.name? =
      (parts.filterMap Part.name?).filter fun name => name ∉ values.map Prod.fst := by
  induction parts with
  | nil => rfl
  | cons part parts ih =>
      cases part with
      | char c => exact ih
      | slot name =>
          have hcons : (Part.slot name :: parts).filterMap Part.name? =
              name :: parts.filterMap Part.name? := rfl
          rw [filled, List.flatMap_cons, List.filterMap_append, ← filled, ih, hcons,
            List.filter_cons, Part.filled]
          split
          next v hfound =>
            have hname : v.1 = name := by simpa using List.find?_some hfound
            have hgiven : name ∈ values.map Prod.fst :=
              hname ▸ List.mem_map_of_mem (List.mem_of_find?_eq_some hfound)
            have hchars : (v.2.toList.map Part.char).filterMap Part.name? = [] := by
              simp [List.filterMap_map, Function.comp_def, Part.name?]
            rw [hchars, if_neg (by simpa using hgiven)]
            rfl
          next hnone =>
            have hleft : name ∉ values.map Prod.fst := by
              rintro hgiven
              obtain ⟨v, hv, rfl⟩ := List.mem_map.mp hgiven
              exact List.find?_eq_none.mp hnone v hv (decide_eq_true rfl)
            rw [if_pos (by simpa using hleft)]
            rfl

/-- If names are distinct, the order of the values does not matter. -/
theorem filled_perm (hdistinct : (values.map Prod.fst).Nodup) (hperm : values.Perm others)
    (parts : List Part) : filled values parts = filled others parts := by
  have hfind : ∀ name : String, (values.find? fun v => v.1 = name) =
      others.find? fun v => v.1 = name := by
    intro name
    refine List.find?_eq_find?_of_perm hperm ?_
    rintro u ⟨hu, huname⟩ w ⟨hw, hwname⟩
    refine List.inj_on_of_nodup_map hdistinct hu hw ?_
    exact (of_decide_eq_true huname).trans (of_decide_eq_true hwname).symm
  have hpart : Part.filled values = Part.filled others := by
    funext part
    cases part with
    | char c => rfl
    | slot name => rw [Part.filled, Part.filled, hfind]
  rw [filled, filled, hpart]

end Filling

/-- Filling slots leaves the slots of other names, in order and as often as they stand in the
template, and the order of the values does not matter.  This takes a template without seams. -/
theorem slots_fill {template : String} {values : List (String × String)} (h : Fits template values)
    (hseam : ¬Seam values template.toList) :
    slots (fill template values) =
      (slots template).filter (fun name => name ∉ values.map Prod.fst) ∧
    ∀ others, values.Perm others → fill template others = fill template values := by
  obtain ⟨parts, hparsed, hchars⟩ := h.apart.exists_parsed
  obtain rfl : String.ofList (charsOf parts) = template := by rw [hchars, String.ofList_toList]
  rw [String.toList_ofList] at hseam
  have hfill := hparsed.fill h.names h.values hseam
  refine ⟨?_, fun others hperm => ?_⟩
  · rw [hfill, (hparsed.filled h.values hseam).slots, hparsed.slots, filterMap_name?_filled]
  · have hnames : ∀ v ∈ others, Plain v.1 := fun v hv => h.names v (hperm.mem_iff.mpr hv)
    have hvalues : ∀ v ∈ others, Plain v.2 := fun v hv => h.values v (hperm.mem_iff.mpr hv)
    have hsound : ¬Seam others (charsOf parts) := fun hs => hseam (hs.mono hperm.symm.subset)
    rw [hparsed.fill hnames hvalues hsound, hfill, filled_perm h.distinct hperm]

/-- A template with code in braces, a slot that is filled with nothing, and a slot that is not
closed. -/
theorem slots_fill_unclosed :
    let template := "$\x7ba\x7d\x7b $\x7bb\x7d \x7d $ $\x7ba\x7d$\x7bc"
    let values := [("c", "1"), ("a", "")]
    Fits template values ∧ ¬Seam values template.toList ∧
      slots template = ["a", "b", "a"] ∧ slots (fill template values) = ["b"] ∧
      fill template [("a", ""), ("c", "1")] = fill template values := by
  intro template values
  have hfits : Fits template values := by decide
  have hseam : ¬Seam values template.toList := mt Seam.dollars (by decide)
  obtain ⟨hslots, hperm⟩ := slots_fill hfits hseam
  exact ⟨hfits, hseam, by decide, hslots.trans (by decide), hperm _ (.swap _ _ _)⟩

/-- A slot that is filled with nothing brings a dollar sign before it and a brace after it together.
They begin a slot that the template does not have, and it is filled if its name comes later. -/
theorem empty_value_begins_slot :
    let template := "$$\x7ba\x7d\x7bb\x7d"
    (Fits template [("a", "")] ∧ slots (fill template [("a", "")]) = ["b"] ∧
      (slots template).filter (fun name => name ∉ [("a", "")].map Prod.fst) = []) ∧
    (Fits template [("a", ""), ("b", "x")] ∧ fill template [("a", ""), ("b", "x")] = "x" ∧
      fill template [("b", "x"), ("a", "")] = "$\x7bb\x7d") := by
  intro template
  exact ⟨⟨by decide, by decide, by decide⟩, by decide, by decide, by decide⟩

end ImplicitScene.Template
