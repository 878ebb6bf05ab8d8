import Mathlib.Data.List.Find
import ImplicitScene.Text.Replace

/-!
# Replacing in turn and all at once

Patterns may be replaced one after the other, each in the text that the one before
it left.  Or they may be replaced all at once, in a single pass over the text.  The
first way looks into the texts that were put in, and the second does not.

Here every pattern begins with a *mark* that stands nowhere else in it.  Every
replacement is free of marks and begins with a *guard* that stands in no pattern.  So
no pattern begins in a replacement, and none runs into one.  Then both ways give the
same text (`replaceFrom_substituteFrom`).
-/

namespace ImplicitScene.Text

/-! ## One pattern -/

theorem replaceFrom_skip (p r b : List Char) :
    ∀ a : List Char, replaceFrom p r a.length (a ++ b) = replaceFrom p r 0 b
  | [] => rfl
  | _ :: a => by
      rw [List.length_cons, List.cons_append, replaceFrom]
      exact replaceFrom_skip p r b a

theorem replaceFrom_pattern (c : Char) (p r b : List Char) :
    replaceFrom (c :: p) r 0 (c :: p ++ b) = r ++ replaceFrom (c :: p) r 0 b := by
  have hprefix : (c :: p).isPrefixOf (c :: (p ++ b)) = true :=
    List.isPrefixOf_iff_prefix.mpr (List.prefix_append (c :: p) b)
  rw [List.cons_append, replaceFrom, if_pos hprefix, List.length_cons, Nat.add_sub_cancel,
    replaceFrom_skip]

theorem replaceFrom_append_of_not_mem {c : Char} (p r b : List Char) :
    ∀ {a : List Char}, c ∉ a → replaceFrom (c :: p) r 0 (a ++ b) = a ++ replaceFrom (c :: p) r 0 b
  | [], _ => rfl
  | d :: a, h => by
      simp only [List.mem_cons, not_or] at h
      have hprefix : ¬(c :: p).isPrefixOf (d :: (a ++ b)) = true := by
        simp [List.isPrefixOf, h.1]
      rw [List.cons_append, replaceFrom, if_neg hprefix, replaceFrom_append_of_not_mem p r b h.2,
        List.cons_append]

/-- A name without a closing brace goes up to the next one. -/
theorem takeWhile_name {n : List Char} (hn : '\x7d' ∉ n) (b : List Char) :
    (n ++ '\x7d' :: b).takeWhile (fun c => c != '\x7d') = n := by
  rw [List.takeWhile_append_of_pos fun c hc => by
    simpa using fun heq : c = '\x7d' => hn (heq ▸ hc)]
  simp

/-- A slot begins with the slot of a name only if it is that slot. -/
theorem eq_of_slot_begins {m n b : List Char} (hm : '\x7d' ∉ m) (hn : '\x7d' ∉ n)
    (h : n ++ ['\x7d'] <+: m ++ '\x7d' :: b) : n = m := by
  obtain ⟨t, ht⟩ := h
  rw [← takeWhile_name hn t, ← takeWhile_name hm b, ← ht]
  simp

/-! ## What stands in a text afterwards -/

section Occurrences

variable {mark guard : Char} {p r u w : List Char}

/-- What begins with a mark is found after any text without marks. -/
theorem infix_append_iff_of_not_mem {a : List Char} (b : List Char) (h : mark ∉ a) :
    mark :: u <:+: a ++ b ↔ mark :: u <:+: b := by
  induction a with
  | nil => rfl
  | cons c a ih =>
      rw [List.mem_cons, not_or] at h
      rw [List.cons_append, List.infix_cons_iff, ih h.2, List.cons_prefix_cons]
      exact or_iff_right fun hhead => h.1 hhead.1

/-- What ends with a mark is found before any text without marks. -/
theorem infix_append_iff_of_not_mem_right {b : List Char} (a : List Char) (h : mark ∉ b) :
    u ++ [mark] <:+: a ++ b ↔ u ++ [mark] <:+: a := by
  have hflip : ∀ l : List Char, u ++ [mark] <:+: l ↔ mark :: u.reverse <:+: l.reverse := by
    intro l
    rw [← List.reverse_infix, List.reverse_concat]
  rw [hflip, hflip, List.reverse_append]
  exact infix_append_iff_of_not_mem _ (mt List.mem_reverse.mp h)

/-- A text without guards does not run into a replacement. -/
theorem prefix_of_prefix_replaceFrom (hr : r.head? = some guard) :
    ∀ {u cs : List Char}, guard ∉ u → u <+: replaceFrom p r 0 cs → u <+: cs
  | [], _, _, _ => List.nil_prefix
  | _ :: _, [], _, h => h
  | d :: u, c :: cs, hu, h => by
      rw [List.mem_cons, not_or] at hu
      rw [replaceFrom] at h
      split at h
      next =>
        -- the replacement begins with the guard, and the text does not
        obtain ⟨r, rfl⟩ := List.head?_eq_some_iff.mp hr
        rw [List.cons_append, List.cons_prefix_cons] at h
        exact absurd h.1.symm hu.1
      next =>
        rw [List.cons_prefix_cons] at h ⊢
        exact ⟨h.1, prefix_of_prefix_replaceFrom hr hu.2 h.2⟩

/-- Replacing brings in nothing that begins with a mark and has no guard. -/
theorem infix_of_infix_replaceFrom (hr : r.head? = some guard) (hmark : mark ∉ r)
    (hguard : guard ∉ mark :: u) : ∀ {skip : Nat} {cs : List Char},
      mark :: u <:+: replaceFrom p r skip cs → mark :: u <:+: cs
  | _, [], h => h
  | skip + 1, c :: cs, h => by
      rw [replaceFrom] at h
      exact List.infix_cons (infix_of_infix_replaceFrom hr hmark hguard h)
  | 0, c :: cs, h => by
      rw [replaceFrom] at h
      split at h
      next =>
        rw [infix_append_iff_of_not_mem _ hmark] at h
        exact List.infix_cons (infix_of_infix_replaceFrom hr hmark hguard h)
      next =>
        rw [List.infix_cons_iff, List.cons_prefix_cons] at h
        rcases h with ⟨rfl, hprefix⟩ | hrest
        · rw [List.mem_cons, not_or] at hguard
          have hbegin := prefix_of_prefix_replaceFrom hr hguard.2 hprefix
          exact (List.cons_prefix_cons.mpr ⟨rfl, hbegin⟩).isInfix
        · exact List.infix_cons (infix_of_infix_replaceFrom hr hmark hguard hrest)

/-- The pattern itself is gone. -/
theorem not_infix_replaceFrom (hr : r.head? = some guard) (hmark : mark ∉ r)
    (hguard : guard ∉ mark :: u) : ∀ (skip : Nat) (cs : List Char),
      ¬mark :: u <:+: replaceFrom (mark :: u) r skip cs
  | _, [] => by simp [replaceFrom]
  | skip + 1, c :: cs => by
      rw [replaceFrom]
      exact not_infix_replaceFrom hr hmark hguard skip cs
  | 0, c :: cs => by
      rw [replaceFrom]
      split
      next =>
        rw [infix_append_iff_of_not_mem _ hmark]
        exact not_infix_replaceFrom hr hmark hguard _ cs
      next habsent =>
        rw [List.infix_cons_iff, List.cons_prefix_cons]
        rintro (⟨rfl, hprefix⟩ | hrest)
        · rw [List.mem_cons, not_or] at hguard
          have hbegin := prefix_of_prefix_replaceFrom hr hguard.2 hprefix
          rw [List.isPrefixOf_iff_prefix] at habsent
          exact habsent (List.cons_prefix_cons.mpr ⟨rfl, hbegin⟩)
        · exact not_infix_replaceFrom hr hmark hguard 0 cs hrest

/-- A text without marks that begins before a mark ends before it. -/
theorem length_le_of_prefix_append {a b : List Char} (hw : mark ∉ w) (h : w <+: a ++ mark :: b) :
    w.length ≤ a.length := by
  obtain ⟨t, ht⟩ := h
  rcases List.append_eq_append_iff.mp ht with ⟨rest, rfl, -⟩ | ⟨rest, rfl, hrest⟩
  · simp
  · cases rest with
    | nil => simp
    | cons d rest =>
        obtain ⟨rfl, -⟩ := List.cons.inj hrest
        simp at hw

/-- Another pattern stays, if the two cannot begin at one place. -/
theorem infix_replaceFrom_append (r b : List Char) (hu : mark ∉ u) (hw : mark ∉ w)
    (hne : ∀ cs, mark :: w <+: cs → ¬mark :: u <+: cs) : ∀ {skip : Nat} {a : List Char},
      skip ≤ a.length → mark :: u <:+: replaceFrom (mark :: w) r skip (a ++ mark :: (u ++ b))
  | 0, [], _ => by
      have habsent : ¬(mark :: w).isPrefixOf (mark :: (u ++ b)) = true := fun h =>
        hne _ (List.isPrefixOf_iff_prefix.mp h) (List.prefix_append (mark :: u) b)
      rw [List.nil_append, replaceFrom, if_neg habsent, replaceFrom_append_of_not_mem w r b hu]
      exact (List.prefix_append (mark :: u) _).isInfix
  | skip + 1, c :: a, h => by
      rw [List.cons_append, replaceFrom]
      exact infix_replaceFrom_append r b hu hw hne (Nat.le_of_succ_le_succ h)
  | 0, c :: a, _ => by
      rw [List.cons_append, replaceFrom]
      split
      next hfound =>
        -- what is passed over has no mark, so it ends before the other pattern
        rw [List.isPrefixOf_iff_prefix, List.cons_prefix_cons] at hfound
        have hlength := length_le_of_prefix_append hw hfound.2
        exact (infix_replaceFrom_append r b hu hw hne hlength).trans
          (List.suffix_append r _).isInfix
      next =>
        exact List.infix_cons (infix_replaceFrom_append r b hu hw hne (Nat.zero_le _))

end Occurrences

/-! ## Several patterns in one pass -/

/-- Replace several patterns, passing over the next `skip` characters.  At each place the first
pattern that begins there is replaced, and a character where none begins is copied. -/
def substituteFrom (values : List (String × String)) : (skip : Nat) → List Char → List Char
  | _, [] => []
  | skip + 1, _ :: cs => substituteFrom values skip cs
  | 0, c :: cs =>
      match values.find? fun v => v.1.toList.isPrefixOf (c :: cs) with
      | some v => v.2.toList ++ substituteFrom values (v.1.toList.length - 1) cs
      | none => c :: substituteFrom values 0 cs

/-- The text with several patterns replaced, each by its value, in one pass from left to right. -/
def substitute (values : List (String × String)) (text : String) : String :=
  String.ofList (substituteFrom values 0 text.toList)

/-- The pattern begins with its only mark, and the value, which has none, begins with a guard that
the pattern does not have. -/
structure Guarded (mark guard : Char) (v : String × String) : Prop where
  /-- The pattern. -/
  pattern : ∃ w, v.1.toList = mark :: w ∧ mark ∉ w ∧ guard ∉ w
  /-- The value begins with the guard. -/
  head : v.2.toList.head? = some guard
  /-- The value has no marks. -/
  clear : mark ∉ v.2.toList

section Substitutions

variable {mark guard : Char} {values : List (String × String)}

theorem substituteFrom_nil (cs : List Char) : substituteFrom [] 0 cs = cs := by
  induction cs with
  | nil => rfl
  | cons c cs ih =>
      rw [substituteFrom, List.find?_nil]
      exact congrArg (c :: ·) ih

theorem substitute_nil (text : String) : substitute [] text = text := by
  rw [substitute, substituteFrom_nil, String.ofList_toList]

theorem substituteFrom_skip (values : List (String × String)) (b : List Char) :
    ∀ a : List Char, substituteFrom values a.length (a ++ b) = substituteFrom values 0 b
  | [] => rfl
  | _ :: a => by
      rw [List.length_cons, List.cons_append, substituteFrom]
      exact substituteFrom_skip values b a

/-- No pattern begins without a mark. -/
theorem find?_eq_none_of_ne (hv : ∀ v ∈ values, Guarded mark guard v) {c : Char} (hc : mark ≠ c)
    (cs : List Char) : (values.find? fun v => v.1.toList.isPrefixOf (c :: cs)) = none := by
  rw [List.find?_eq_none]
  intro v hmem hprefix
  obtain ⟨w, hw, -⟩ := (hv v hmem).pattern
  rw [List.isPrefixOf_iff_prefix, hw, List.cons_prefix_cons] at hprefix
  exact hc hprefix.1

theorem substituteFrom_append_of_not_mem (hv : ∀ v ∈ values, Guarded mark guard v)
    (b : List Char) {a : List Char} (ha : mark ∉ a) :
    substituteFrom values 0 (a ++ b) = a ++ substituteFrom values 0 b := by
  induction a with
  | nil => rfl
  | cons c a ih =>
      rw [List.mem_cons, not_or] at ha
      rw [List.cons_append, substituteFrom, find?_eq_none_of_ne hv ha.1]
      exact congrArg (c :: ·) (ih ha.2)

/-- A text without marks and guards begins a text exactly if it begins the text with the patterns
replaced. -/
theorem prefix_substituteFrom (hv : ∀ v ∈ values, Guarded mark guard v) {u : List Char}
    (hmark : mark ∉ u) (hguard : guard ∉ u) (cs : List Char) :
    u <+: substituteFrom values 0 cs ↔ u <+: cs := by
  induction u generalizing cs with
  | nil => simp
  | cons d u ih =>
      rw [List.mem_cons, not_or] at hmark hguard
      cases cs with
      | nil => rw [substituteFrom]
      | cons c cs =>
          rw [substituteFrom]
          split
          next v hfound =>
            -- the text begins with the mark, and the replaced text with the guard
            have hmem := List.mem_of_find?_eq_some hfound
            have hprefix := List.find?_some hfound
            obtain ⟨w, hw, -⟩ := (hv v hmem).pattern
            obtain ⟨r, hr⟩ := List.head?_eq_some_iff.mp (hv v hmem).head
            rw [List.isPrefixOf_iff_prefix, hw, List.cons_prefix_cons] at hprefix
            rw [hr, List.cons_append, List.cons_prefix_cons, List.cons_prefix_cons, ← hprefix.1]
            exact iff_of_false (fun h => hguard.1 h.1.symm) (fun h => hmark.1 h.1.symm)
          next =>
            rw [List.cons_prefix_cons, List.cons_prefix_cons, ih hmark.2 hguard.2]

/-- To replace one more pattern afterwards is to replace it in the same pass. -/
theorem replaceFrom_substituteFrom (hv : ∀ v ∈ values, Guarded mark guard v) {p r : String}
    (hp : Guarded mark guard (p, r)) (skip : Nat) (cs : List Char) :
    replaceFrom p.toList r.toList 0 (substituteFrom values skip cs) =
      substituteFrom (values ++ [(p, r)]) skip cs := by
  obtain ⟨w, hw, hmark, hguard⟩ := hp.pattern
  dsimp only at hw
  induction cs generalizing skip with
  | nil => rfl
  | cons c cs ih =>
      cases skip with
      | succ skip => exact ih skip
      | zero =>
          rw [hw] at ih ⊢
          rw [substituteFrom, substituteFrom, List.find?_append]
          cases hfound : values.find? fun v => v.1.toList.isPrefixOf (c :: cs) with
          | some v =>
              have hclear := (hv v (List.mem_of_find?_eq_some hfound)).clear
              rw [Option.some_or]
              exact (replaceFrom_append_of_not_mem w _ _ hclear).trans
                (congrArg (v.2.toList ++ ·) (ih _))
          | none =>
              -- the pattern begins here exactly if it did so before
              have hsame : (mark :: w).isPrefixOf (c :: substituteFrom values 0 cs) =
                  (mark :: w).isPrefixOf (c :: cs) := by
                rw [Bool.eq_iff_iff, List.isPrefixOf_iff_prefix, List.isPrefixOf_iff_prefix,
                  List.cons_prefix_cons, List.cons_prefix_cons,
                  prefix_substituteFrom hv hmark hguard]
              rw [Option.none_or, List.find?_singleton, hw]
              dsimp only
              rw [replaceFrom, hsame]
              cases hprefix : (mark :: w).isPrefixOf (c :: cs) with
              | true =>
                  -- its tail has no mark, so the pass copied it
                  rw [List.isPrefixOf_iff_prefix, List.cons_prefix_cons] at hprefix
                  obtain ⟨-, b, rfl⟩ := hprefix
                  have hrest := ih w.length
                  rw [substituteFrom_skip] at hrest
                  simp [hw, substituteFrom_append_of_not_mem hv b hmark, replaceFrom_skip, hrest]
              | false => simp [ih 0]

/-- The order of the patterns does not matter if no two of them begin at one place. -/
theorem substituteFrom_perm {others : List (String × String)} (hperm : values.Perm others)
    (hone : ∀ cs, {v ∈ values | v.1.toList.isPrefixOf cs}.Subsingleton) (skip : Nat)
    (cs : List Char) : substituteFrom values skip cs = substituteFrom others skip cs := by
  induction cs generalizing skip with
  | nil => rfl
  | cons c cs ih =>
      cases skip with
      | succ skip => exact ih skip
      | zero =>
          rw [substituteFrom, substituteFrom, List.find?_eq_find?_of_perm hperm (hone (c :: cs))]
          split
          next v _ => rw [ih]
          next => rw [ih]

end Substitutions

end ImplicitScene.Text
