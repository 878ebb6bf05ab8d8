import ImplicitScene.Proofs.Frames

/-!
# Where a text ends

A text that is put into another can be found again if it is known where it ends.
A scanner reads a text from left to right and may stop at a character.  If it
reads through two texts, and stops at what follows each of them, then the texts
are equal when the wholes are (`append_inj_of_foldlM`).

A text on one line is *closed* if its parentheses match and no blank, comma or
semicolon stands outside them.  In program text such a character, or a parenthesis
that is not opened inside, follows every expression and every call.
-/

namespace ImplicitScene

/-! ## Scanners -/

section Scanners

variable {α σ : Type}

/-- Texts that a scanner reads through, each followed by something it stops at, end at the same
place. -/
theorem append_inj_of_foldlM {step : σ → α → Option σ} :
    ∀ {a b r q : List α} {s t u : σ}, a.foldlM step s = some t → b.foldlM step s = some u →
      (∀ c ∈ r.head?, step t c = none) → (∀ c ∈ q.head?, step u c = none) →
        a ++ r = b ++ q → a = b ∧ r = q
  | [], [], _, _, _, _, _, _, _, _, _, h => ⟨rfl, h⟩
  | [], c :: b, r, q, s, t, u, ha, hb, hr, _, h => by
      cases ha
      rw [List.nil_append, List.cons_append] at h
      have hstop := hr c (by simp [h])
      simp [hstop] at hb
  | c :: a, [], r, q, s, t, u, ha, hb, _, hq, h => by
      cases hb
      rw [List.nil_append, List.cons_append] at h
      have hstop := hq c (by simp [← h])
      simp [hstop] at ha
  | c :: a, d :: b, r, q, s, t, u, ha, hb, hr, hq, h => by
      obtain ⟨rfl, htail⟩ := List.cons.inj h
      rw [List.foldlM_cons] at ha hb
      cases hs : step s c with
      | none => simp [hs] at ha
      | some s' =>
          rw [hs] at ha hb
          obtain ⟨rfl, hrest⟩ := append_inj_of_foldlM ha hb hr hq htail
          exact ⟨rfl, hrest⟩

/-- Texts of one class of characters, each followed by something else, end at the same place. -/
theorem append_inj_of_forall {p : α → Bool} {a b r q : List α} (ha : ∀ c ∈ a, p c = true)
    (hb : ∀ c ∈ b, p c = true) (hr : ∀ c ∈ r.head?, p c = false) (hq : ∀ c ∈ q.head?, p c = false)
    (h : a ++ r = b ++ q) : a = b ∧ r = q := by
  have hread : ∀ {l : List α}, (∀ c ∈ l, p c = true) →
      l.foldlM (fun (_ : Unit) c => if p c then some () else none) () = some () := by
    intro l hl
    induction l with
    | nil => rfl
    | cons c l ih =>
        rw [List.forall_mem_cons] at hl
        simp [hl.1, ih hl.2]
  refine append_inj_of_foldlM (hread ha) (hread hb) (fun c hc => ?_) (fun c hc => ?_) h
  · simp [hr c hc]
  · simp [hq c hc]

end Scanners

namespace Text

/-! ## Closed texts -/

/-- The characters that end an expression outside of parentheses. -/
def isStop (c : Char) : Bool := c == ' ' || c == ',' || c == ';'

/-- How many parentheses are open after a character.  Outside of them a stop ends the scan, and so
does a parenthesis that closes.  The end of the line ends it everywhere. -/
def depthAfter (depth : Nat) (c : Char) : Option Nat :=
  if c = '\n' then none
  else if c = '(' then some (depth + 1)
  else
    match depth with
    | 0 => if c = ')' || isStop c then none else some 0
    | depth + 1 => if c = ')' then some depth else some (depth + 1)

/-- The text opens and closes its own parentheses, and has no stop outside of them. -/
def Closed (s : String) : Prop := ∀ depth, s.toList.foldlM depthAfter depth = some depth

/-- The text is closed when it stands between parentheses. -/
def Inner (s : String) : Prop := ∀ depth, s.toList.foldlM depthAfter (depth + 1) = some (depth + 1)

/-- The text begins with a character that ends a closed text. -/
def Halts (s : String) : Prop := ∃ c ∈ s.toList.head?, depthAfter 0 c = none

/-- A character is read in the same way below more parentheses. -/
theorem depthAfter_add {d e : Nat} {c : Char} (n : Nat) (h : depthAfter d c = some e) :
    depthAfter (d + n) c = some (e + n) := by
  unfold depthAfter at h ⊢
  split at h
  next => cases h
  next hline =>
    rw [if_neg hline]
    split at h
    next hopen =>
      cases h
      rw [if_pos hopen, Nat.add_right_comm]
    next hopen =>
      rw [if_neg hopen]
      cases d with
      | zero =>
          dsimp only at h
          split at h
          next => cases h
          next hstop =>
            cases h
            simp only [Bool.or_eq_true, decide_eq_true_eq, not_or] at hstop
            cases n <;> simp [hstop]
      | succ d =>
          rw [Nat.add_right_comm]
          dsimp only at h ⊢
          split at h
          next hclose =>
            cases h
            rw [if_pos hclose]
          next hclose =>
            cases h
            rw [if_neg hclose, Nat.add_right_comm]

theorem foldlM_depthAfter_add (n : Nat) {cs : List Char} {d e : Nat}
    (h : cs.foldlM depthAfter d = some e) : cs.foldlM depthAfter (d + n) = some (e + n) := by
  induction cs generalizing d with
  | nil =>
      cases h
      rfl
  | cons c cs ih =>
      rw [List.foldlM_cons] at h ⊢
      obtain ⟨d', hstep, hrest⟩ := Option.bind_eq_some_iff.mp h
      rw [depthAfter_add n hstep]
      exact ih hrest

/-- Closed texts, each followed by nothing or by a text that halts, end at the same place. -/
theorem Closed.append_inj {a b r q : String} (ha : Closed a) (hb : Closed b) (hr : r = "" ∨ Halts r)
    (hq : q = "" ∨ Halts q) (h : a ++ r = b ++ q) : a = b ∧ r = q := by
  have hstop : ∀ {t : String}, t = "" ∨ Halts t → ∀ c ∈ t.toList.head?, depthAfter 0 c = none := by
    rintro t (rfl | ⟨d, hd, hhalt⟩) c hc
    · cases hc
    · rw [Option.mem_def] at hc hd
      rw [hd] at hc
      exact Option.some.inj hc ▸ hhalt
  rw [← String.toList_inj, String.toList_append, String.toList_append] at h
  obtain ⟨hab, hrq⟩ := append_inj_of_foldlM (ha 0) (hb 0) (hstop hr) (hstop hq) h
  exact ⟨String.toList_inj.mp hab, String.toList_inj.mp hrq⟩

/-- A text that is scanned to its end stays on its line. -/
theorem not_mem_newline_of_foldlM {cs : List Char} {d e : Nat}
    (h : cs.foldlM depthAfter d = some e) : '\n' ∉ cs := by
  induction cs generalizing d with
  | nil => simp
  | cons c cs ih =>
      rw [List.foldlM_cons] at h
      obtain ⟨d', hstep, hrest⟩ := Option.bind_eq_some_iff.mp h
      rw [List.mem_cons, not_or]
      refine ⟨?_, ih hrest⟩
      rintro rfl
      simp [depthAfter] at hstep

theorem Closed.not_mem_newline {s : String} (h : Closed s) : '\n' ∉ s.toList :=
  not_mem_newline_of_foldlM (h 0)

theorem Halts.append {s : String} (h : Halts s) (t : String) : Halts (s ++ t) := by
  obtain ⟨c, hc, hhalt⟩ := h
  refine ⟨c, ?_, hhalt⟩
  rw [Option.mem_def] at hc
  rw [String.toList_append, List.head?_append, hc]
  rfl

namespace Closed

/-- Whether a text is closed is found out by one scan. -/
theorem of_scan {s : String} (h : s.toList.foldlM depthAfter 0 = some 0) : Closed s := by
  intro depth
  have hshift := foldlM_depthAfter_add depth h
  rwa [Nat.zero_add] at hshift

theorem inner {s : String} (h : Closed s) : Inner s := fun depth => h (depth + 1)

theorem append {s t : String} (hs : Closed s) (ht : Closed t) : Closed (s ++ t) := by
  intro depth
  simp [List.foldlM_append, hs depth, ht depth]

/-- A text of a class of characters without parentheses, stops and line ends is closed. -/
theorem of_class {p : Char → Bool} (hp : (['\n', '(', ')', ' ', ',', ';'].any p) = false)
    {s : String} (h : ∀ c ∈ s.toList, p c = true) : Closed s := by
  simp only [List.any_cons, List.any_nil, Bool.or_eq_false_iff] at hp
  obtain ⟨hline, hopen, hclose, hblank, hcomma, hsemicolon, -⟩ := hp
  have hne : ∀ {c d : Char}, p d = false → p c = true → c ≠ d := by
    rintro c d hd hc rfl
    rw [hd] at hc
    cases hc
  intro depth
  generalize s.toList = cs at h
  induction cs with
  | nil => rfl
  | cons c cs ih =>
      rw [List.forall_mem_cons] at h
      have hstep : depthAfter depth c = some depth := by
        cases depth <;>
          simp [depthAfter, isStop, hne hline h.1, hne hopen h.1, hne hclose h.1, hne hblank h.1,
            hne hcomma h.1, hne hsemicolon h.1]
      simp [hstep, ih h.2]

/-- Parentheses close what stands between them. -/
theorem parenthesize {s : String} (h : Inner s) : Closed ("(" ++ s ++ ")") := by
  intro depth
  have hopen : ∀ d, depthAfter d '(' = some (d + 1) := fun d => rfl
  have hclose : ∀ d, depthAfter (d + 1) ')' = some d := fun d => rfl
  simp [List.foldlM_append, hopen, hclose, h depth]

end Closed

namespace Inner

theorem of_scan {s : String} (h : s.toList.foldlM depthAfter 1 = some 1) : Inner s := by
  intro depth
  have hshift := foldlM_depthAfter_add depth h
  rwa [Nat.add_comm] at hshift

theorem append {s t : String} (hs : Inner s) (ht : Inner t) : Inner (s ++ t) := by
  intro depth
  simp [List.foldlM_append, hs depth, ht depth]

/-- Texts divided by commas. -/
theorem intercalate : ∀ {texts : List String}, (∀ t ∈ texts, Closed t) →
    Inner (", ".intercalate texts)
  | [], _ => fun _ => rfl
  | [t], h => by
      rw [String.intercalate_singleton]
      exact (h t (List.mem_singleton_self t)).inner
  | t :: u :: texts, h => by
      rw [List.forall_mem_cons] at h
      rw [String.intercalate_cons_cons]
      exact (h.1.inner.append (.of_scan rfl)).append (intercalate h.2)

end Inner

/-- A name ends at the first parenthesis. -/
theorem applied_inj {name name' args args' : String}
    (hword : ∀ c ∈ name.toList, isWordChar c = true)
    (hword' : ∀ c ∈ name'.toList, isWordChar c = true)
    (h : name ++ ("(" ++ args ++ ")") = name' ++ ("(" ++ args' ++ ")")) :
    name = name' ∧ args = args' := by
  have hparenthesis : isWordChar '(' = false := by decide
  have hchars : name.toList ++ ("(" ++ args ++ ")").toList =
      name'.toList ++ ("(" ++ args' ++ ")").toList := by
    rw [← String.toList_append, h, String.toList_append]
  obtain ⟨hname, hargs⟩ := append_inj_of_forall (p := isWordChar) hword hword'
    (by simp [hparenthesis]) (by simp [hparenthesis]) hchars
  rw [String.toList_inj, String.append_left_inj, String.append_right_inj] at hargs
  exact ⟨String.toList_inj.mp hname, hargs⟩

/-- Closed texts can be told apart when commas divide them. -/
theorem Closed.intercalate_inj : ∀ {ts us : List String}, ts ≠ [] → us ≠ [] →
    (∀ t ∈ ts, Closed t) → (∀ u ∈ us, Closed u) →
      ", ".intercalate ts = ", ".intercalate us → ts = us
  | [], _, hts, _, _, _, _ => absurd rfl hts
  | _ :: _, [], _, hus, _, _, _ => absurd rfl hus
  | t :: ts, u :: us, _, _, ht, hu, h => by
      have hcomma : Halts ", " := ⟨',', rfl, rfl⟩
      rw [List.forall_mem_cons] at ht hu
      cases ts with
      | nil =>
          cases us with
          | nil =>
              rw [String.intercalate_singleton, String.intercalate_singleton] at h
              rw [h]
          | cons v us =>
              rw [String.intercalate_singleton, String.intercalate_cons_cons, String.append_assoc,
                ← String.append_empty (s := t)] at h
              have hrest := (ht.1.append_inj hu.1 (Or.inl rfl) (Or.inr (hcomma.append _)) h).2
              simp at hrest
      | cons s ts =>
          cases us with
          | nil =>
              rw [String.intercalate_singleton, String.intercalate_cons_cons, String.append_assoc,
                ← String.append_empty (s := u)] at h
              have hrest := (ht.1.append_inj hu.1 (Or.inr (hcomma.append _)) (Or.inl rfl) h).2
              simp at hrest
          | cons v us =>
              rw [String.intercalate_cons_cons, String.intercalate_cons_cons, String.append_assoc,
                String.append_assoc] at h
              obtain ⟨rfl, hrest⟩ :=
                ht.1.append_inj hu.1 (Or.inr (hcomma.append _)) (Or.inr (hcomma.append _)) h
              rw [String.append_right_inj] at hrest
              rw [intercalate_inj (by simp) (by simp) ht.2 hu.2 hrest]

/-- The texts between literals can be told apart, if they are closed and every literal after one of
them halts. -/
theorem Closed.weave_inj : ∀ {ls hs ks : List String}, (∀ l ∈ ls.tail, Halts l) →
    (∀ h ∈ hs, Closed h) → (∀ k ∈ ks, Closed k) → ls.length = hs.length + 1 →
      ls.length = ks.length + 1 → weave ls hs = weave ls ks → hs = ks
  | [], _, _, _, _, _, hlength, _, _ => by simp at hlength
  | l :: ls, [], [], _, _, _, _, _, _ => rfl
  | l :: ls, [], k :: ks, _, _, _, hlength, hlength', _ => by
      simp only [List.length_cons, List.length_nil] at hlength hlength'
      omega
  | l :: ls, h :: hs, [], _, _, _, hlength, hlength', _ => by
      simp only [List.length_cons, List.length_nil] at hlength hlength'
      omega
  | l :: ls, h :: hs, k :: ks, hl, hh, hk, hlength, hlength', heq => by
      rw [List.forall_mem_cons] at hh hk
      have hhalts : ∀ rest, weave ls rest = "" ∨ Halts (weave ls rest) := by
        intro rest
        cases ls with
        | nil => exact Or.inl rfl
        | cons m ls =>
            have hm := hl m List.mem_cons_self
            cases rest with
            | nil => exact Or.inr hm
            | cons r rest =>
                rw [weave, String.append_assoc]
                exact Or.inr (hm.append _)
      rw [weave, weave, String.append_assoc, String.append_assoc, String.append_right_inj] at heq
      obtain ⟨rfl, hrest⟩ := hh.1.append_inj hk.1 (hhalts hs) (hhalts ks) heq
      rw [weave_inj (fun m hm => hl m (List.mem_of_mem_tail hm)) hh.2 hk.2
        (by simpa using hlength) (by simpa using hlength') hrest]

end Text

end ImplicitScene
