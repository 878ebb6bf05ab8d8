import ImplicitScene.Text.Blank

/-!
# Words before parentheses

A text is read as words and marks.  A word is a longest run of letters, digits
and underscores.  Every other character that is not blank is a mark.  A word is
*applied* when the next token is an opening parenthesis.

The texts of a program are put together from pieces.  Two things can go wrong at
a seam: the last word of one piece may run on into the next, and it may be
applied by a parenthesis that the next one begins with.  A piece that *opens*
allows neither, whatever follows it.  A piece that *closes* allows neither,
whatever stands before it.  So an unknown text between a piece that opens and a
piece that closes applies just the words it applies alone.

Literals are long, and reading one back from its bytes is slow.  `Spelling` pairs
a list of literals with their characters, so that a condition on the characters
can be decided.
-/

namespace ImplicitScene

/-- A token of program text. -/
inductive Token where
  /-- A longest run of letters, digits and underscores. -/
  | word (letters : List Char)
  /-- Any other character that is not blank. -/
  | mark (c : Char)
  deriving Repr, DecidableEq

namespace Text

/-- Whether a character belongs to words. -/
def isWordChar (c : Char) : Bool := c.isAlphanum || c == '_'

/-- The word whose letters were read so far, in reverse. -/
def pending : List Char → List Token
  | [] => []
  | c :: cs => [.word (c :: cs).reverse]

/-- The tokens of a text, with the letters of the current word in reverse. -/
def lexFrom : (word : List Char) → List Char → List Token
  | word, [] => pending word
  | word, c :: cs =>
      if isWordChar c then lexFrom (c :: word) cs
      else pending word ++ (if isBlank c then [] else [.mark c]) ++ lexFrom [] cs

/-- The tokens of a text. -/
def lex (cs : List Char) : List Token := lexFrom [] cs

/-- The word that a token applies, given the tokens after it. -/
def appliedBy : Token → List Token → List (List Char)
  | .word w, .mark '(' :: _ => [w]
  | _, _ => []

/-- The words that are applied. -/
def applied : List Token → List (List Char)
  | [] => []
  | t :: ts => appliedBy t ts ++ applied ts

/-- Whether the text does not end inside a word. -/
def endsApart (cs : List Char) : Bool := cs.getLast?.all fun c => !isWordChar c

/-- Whether the text begins outside a word. -/
def startsApart (cs : List Char) : Bool := cs.head?.any fun c => !isWordChar c

/-! ## Reading the pieces of a text -/

theorem endsApart_append {a b : List Char} (hb : endsApart b = true)
    (ha : b = [] → endsApart a = true) : endsApart (a ++ b) = true := by
  rw [endsApart, List.getLast?_append]
  cases hlast : b.getLast? with
  | none => exact ha (List.getLast?_eq_none_iff.mp hlast)
  | some c => simpa [endsApart, hlast] using hb

theorem lexFrom_append_of_startsApart {b : List Char} (hb : startsApart b = true) :
    ∀ (a word : List Char), lexFrom word (a ++ b) = lexFrom word a ++ lex b
  | [], word => by
      cases b with
      | nil => simp [startsApart] at hb
      | cons c cs =>
          have hc : isWordChar c = false := by simpa [startsApart] using hb
          simp [lex, lexFrom, hc, pending]
  | c :: a, word => by
      by_cases hc : isWordChar c = true
      · simp only [List.cons_append, lexFrom, if_pos hc]
        exact lexFrom_append_of_startsApart hb a _
      · simp only [List.cons_append, lexFrom, if_neg hc, List.append_assoc]
        rw [lexFrom_append_of_startsApart hb a]

theorem lexFrom_append_of_endsApart (b : List Char) :
    ∀ {a : List Char} (word : List Char), a ≠ [] → endsApart a = true →
      lexFrom word (a ++ b) = lexFrom word a ++ lex b
  | [c], word, _, ha => by
      have hc : isWordChar c = false := by simpa [endsApart] using ha
      simp [lex, lexFrom, hc, pending]
  | c :: d :: a, word, _, ha => by
      have hrest : endsApart (d :: a) = true := by simpa [endsApart] using ha
      have ih := fun w => lexFrom_append_of_endsApart b w (List.cons_ne_nil d a) hrest
      by_cases hc : isWordChar c = true
      · simp only [List.cons_append, lexFrom.eq_2 _ c, if_pos hc]
        exact ih _
      · simp only [List.cons_append, lexFrom.eq_2 _ c, if_neg hc, List.append_assoc]
        rw [← List.cons_append, ih]

theorem lex_append_of_startsApart (a : List Char) {b : List Char} (hb : startsApart b = true) :
    lex (a ++ b) = lex a ++ lex b :=
  lexFrom_append_of_startsApart hb a []

theorem lex_append_of_endsApart {a : List Char} (ha : endsApart a = true) (b : List Char) :
    lex (a ++ b) = lex a ++ lex b := by
  cases a with
  | nil => rfl
  | cons c cs => exact lexFrom_append_of_endsApart b [] (List.cons_ne_nil c cs) ha

/-- A word is read as one token. -/
theorem lexFrom_of_word : ∀ {cs : List Char} (word : List Char), (∀ c ∈ cs, isWordChar c = true) →
    lexFrom word cs = pending (cs.reverse ++ word)
  | [], word, _ => rfl
  | c :: cs, word, h => by
      rw [List.forall_mem_cons] at h
      rw [lexFrom, if_pos h.1, lexFrom_of_word _ h.2]
      simp

theorem lex_of_word {cs : List Char} (h : ∀ c ∈ cs, isWordChar c = true) (hne : cs ≠ []) :
    lex cs = [.word cs] := by
  rw [lex, lexFrom_of_word [] h, List.append_nil]
  obtain ⟨c, rest, hrest⟩ := List.exists_cons_of_ne_nil (List.reverse_ne_nil_iff.mpr hne)
  rw [hrest, pending, ← hrest, List.reverse_reverse]

/-- A mark that is not blank stands for itself. -/
theorem lex_cons_mark {c : Char} (hw : isWordChar c = false) (hb : isBlank c = false)
    (cs : List Char) : lex (c :: cs) = .mark c :: lex cs := by
  simp [lex, lexFrom, hw, hb, pending]

theorem isWordChar_of_isBlank {c : Char} (h : isBlank c = true) : isWordChar c = false := by
  simp only [isBlank, blankRanges, List.any_cons, List.any_nil, Bool.or_false, Bool.or_eq_true,
    Bool.and_eq_true, decide_eq_true_eq] at h
  rw [Bool.eq_false_iff]
  intro hw
  delta isWordChar Char.isAlphanum Char.isAlpha Char.isUpper Char.isLower Char.isDigit at hw
  simp only [Bool.or_eq_true, Bool.and_eq_true, decide_eq_true_eq, ge_iff_le, beq_iff_eq,
    UInt32.le_iff_toNat_le] at hw
  have hval : c.val.toNat = c.toNat := rfl
  rcases hw with ((⟨low, high⟩ | ⟨low, high⟩) | ⟨low, high⟩) | rfl
  · simp at low high
    omega
  · simp at low high
    omega
  · simp at low high
    omega
  · revert h
    decide

theorem lex_of_blank {cs : List Char} (h : ∀ c ∈ cs, isBlank c = true) : lex cs = [] := by
  induction cs with
  | nil => rfl
  | cons c cs ih =>
      rw [List.forall_mem_cons] at h
      simpa [lex, lexFrom, isWordChar_of_isBlank h.1, h.1, pending] using ih h.2

theorem lex_blank_append {blanks : List Char} (h : ∀ c ∈ blanks, isBlank c = true)
    (cs : List Char) : lex (blanks ++ cs) = lex cs := by
  have hends : endsApart blanks = true := by
    cases hlast : blanks.getLast? with
    | none => simp [endsApart, hlast]
    | some c =>
        have hc := isWordChar_of_isBlank (h c (List.mem_of_getLast? hlast))
        simp [endsApart, hlast, hc]
  rw [lex_append_of_endsApart hends, lex_of_blank h, List.nil_append]

theorem lex_append_blank (cs : List Char) {blanks : List Char}
    (h : ∀ c ∈ blanks, isBlank c = true) : lex (cs ++ blanks) = lex cs := by
  cases blanks with
  | nil => rw [List.append_nil]
  | cons c rest =>
      have hc := isWordChar_of_isBlank (h c (List.mem_cons_self ..))
      rw [lex_append_of_startsApart cs (by simp [startsApart, hc]), lex_of_blank h, List.append_nil]

/-! ## Applied words -/

theorem mem_appliedBy {w : List Char} {t : Token} {ts : List Token} :
    w ∈ appliedBy t ts ↔ t = .word w ∧ ts.head? = some (.mark '(') := by
  unfold appliedBy
  split
  next => simp [eq_comm]
  next hno =>
    simp only [List.not_mem_nil, false_iff, not_and]
    rintro rfl hhead
    obtain ⟨rest, rfl⟩ := List.head?_eq_some_iff.mp hhead
    exact hno w rest rfl rfl

/-- A word is applied where an opening parenthesis follows it. -/
theorem mem_applied {w : List Char} {ts : List Token} :
    w ∈ applied ts ↔ ∃ before after, ts = before ++ .word w :: .mark '(' :: after := by
  induction ts with
  | nil => simp [applied]
  | cons t ts ih =>
      rw [applied, List.mem_append, mem_appliedBy, ih]
      constructor
      · rintro (⟨rfl, hhead⟩ | ⟨before, after, rfl⟩)
        · obtain ⟨rest, rfl⟩ := List.head?_eq_some_iff.mp hhead
          exact ⟨[], rest, rfl⟩
        · exact ⟨t :: before, after, rfl⟩
      · rintro ⟨before, after, hts⟩
        cases before with
        | nil =>
            obtain ⟨rfl, rfl⟩ := List.cons_eq_cons.mp hts
            exact Or.inl ⟨rfl, rfl⟩
        | cons u before =>
            obtain ⟨rfl, rfl⟩ := List.cons_eq_cons.mp hts
            exact Or.inr ⟨before, after, rfl⟩

/-- At a seam a word is applied only if it is the last on the left, and only by a parenthesis that
is the first on the right. -/
theorem mem_applied_append {w : List Char} {s t : List Token} :
    w ∈ applied (s ++ t) ↔
      w ∈ applied s ∨ w ∈ applied t ∨
        (s.getLast? = some (.word w) ∧ t.head? = some (.mark '(')) := by
  induction s with
  | nil => simp [applied]
  | cons x s ih =>
      rw [List.cons_append, applied, applied, List.mem_append, List.mem_append, mem_appliedBy,
        mem_appliedBy, ih]
      cases s with
      | nil => simp [applied, or_comm]
      | cons y s => simp [or_assoc]

/-- Nothing is applied without a parenthesis. -/
theorem applied_lexFrom_of_no_parenthesis :
    ∀ {cs : List Char} (word : List Char), '(' ∉ cs → applied (lexFrom word cs) = [] := by
  have hno : ∀ {cs : List Char} (word : List Char), '(' ∉ cs → .mark '(' ∉ lexFrom word cs := by
    intro cs
    induction cs with
    | nil =>
        intro word _
        cases word <;> simp [lexFrom, pending]
    | cons c cs ih =>
        intro word h
        simp only [List.mem_cons, not_or] at h
        rw [lexFrom]
        split
        next => exact ih _ h.2
        next =>
          have hpending : .mark '(' ∉ pending word := by cases word <;> simp [pending]
          have hmark : .mark '(' ∉ (if isBlank c then [] else [Token.mark c]) := by
            split <;> simp [h.1]
          simp [hpending, hmark, ih [] h.2]
  intro cs word h
  refine List.eq_nil_iff_forall_not_mem.mpr fun w hw => ?_
  obtain ⟨before, after, hsplit⟩ := mem_applied.mp hw
  exact hno word h (by simp [hsplit])

/-! ## Texts that apply known words only -/

section Known

variable {known : String → Prop} {a b e : String}

/-- Every word that the tokens apply is known. -/
def Calls (known : String → Prop) (ts : List Token) : Prop :=
  ∀ w ∈ applied ts, known (String.ofList w)

/-- A text that applies known words only. -/
def AppliesOnly (known : String → Prop) (text : String) : Prop := Calls known (lex text.toList)

/-- A text that applies known words only, also if a parenthesis follows it. -/
def Complete (known : String → Prop) (text : String) : Prop :=
  Calls known (lex text.toList ++ [.mark '('])

/-- A complete text that does not end inside a word. -/
def Opens (known : String → Prop) (text : String) : Prop :=
  endsApart text.toList = true ∧ Complete known text

/-- Whether a text begins with a mark that is not an opening parenthesis, blanks aside. -/
def closes (cs : List Char) : Bool :=
  startsApart cs && (lex cs).head?.any fun t => t != .mark '('

theorem Calls.append {s t : List Token} (hs : Calls known (s ++ [.mark '('])) (ht : Calls known t) :
    Calls known (s ++ t) := by
  intro w hw
  rcases mem_applied_append.mp hw with hw | hw | ⟨hlast, -⟩
  · exact hs w (mem_applied_append.mpr (Or.inl hw))
  · exact ht w hw
  · exact hs w (mem_applied_append.mpr (Or.inr (Or.inr ⟨hlast, rfl⟩)))

theorem Calls.append_of_head {s t : List Token} (hs : Calls known s) (ht : Calls known t)
    (hhead : t.head? ≠ some (.mark '(')) : Calls known (s ++ t) := by
  intro w hw
  rcases mem_applied_append.mp hw with hw | hw | ⟨-, hparenthesis⟩
  · exact hs w hw
  · exact ht w hw
  · exact absurd hparenthesis hhead

theorem AppliesOnly.of_no_parenthesis (h : '(' ∉ e.toList) : AppliesOnly known e := by
  intro w hw
  rw [lex, applied_lexFrom_of_no_parenthesis [] h] at hw
  cases hw

theorem Complete.appliesOnly (h : Complete known a) : AppliesOnly known a :=
  fun w hw => h w (mem_applied_append.mpr (Or.inl hw))

/-- Any text may follow one that opens. -/
theorem Opens.append_text (ha : Opens known a) (he : AppliesOnly known e) :
    AppliesOnly known (a ++ e) := by
  rw [AppliesOnly, String.toList_append, lex_append_of_endsApart ha.1]
  exact Calls.append ha.2 he

theorem Opens.append (ha : Opens known a) (hb : Opens known b) : Opens known (a ++ b) := by
  constructor
  · rw [String.toList_append]
    exact endsApart_append hb.1 fun _ => ha.1
  · rw [Complete, String.toList_append, lex_append_of_endsApart ha.1, List.append_assoc]
    exact Calls.append ha.2 hb.2

/-- A text that closes may follow any other. -/
theorem AppliesOnly.append_closing (he : AppliesOnly known e) (hc : closes b.toList = true)
    (hb : Opens known b) : Opens known (e ++ b) := by
  obtain ⟨hstarts, hfirst⟩ := Bool.and_eq_true_iff.mp hc
  have hne : b.toList ≠ [] := by
    intro hnil
    simp [hnil, startsApart] at hstarts
  have hhead : (lex b.toList ++ [Token.mark '(']).head? ≠ some (.mark '(') := by
    intro hparenthesis
    cases hlex : lex b.toList with
    | nil => simp [hlex] at hfirst
    | cons t ts =>
        simp only [hlex, List.cons_append, List.head?_cons, Option.some.injEq] at hparenthesis
        simp [hlex, hparenthesis] at hfirst
  constructor
  · rw [String.toList_append]
    exact endsApart_append hb.1 fun hnil => absurd hnil hne
  · rw [Complete, String.toList_append, lex_append_of_startsApart _ hstarts, List.append_assoc]
    exact Calls.append_of_head he hb.2 hhead

/-- A known name may be applied after a text that opens. -/
theorem Opens.append_call (ha : Opens known a) {name : String} (hname : known name)
    (hword : ∀ c ∈ name.toList, isWordChar c = true) (hne : name ≠ "") (hb : Opens known b) :
    Opens known (a ++ name ++ "(" ++ b) := by
  have htokens : lex (a ++ name ++ "(" ++ b).toList =
      lex a.toList ++ .word name.toList :: .mark '(' :: lex b.toList := by
    have hparenthesis : ("(" : String).toList = ['('] := rfl
    simp only [String.toList_append, hparenthesis, List.append_assoc, List.singleton_append]
    rw [lex_append_of_endsApart ha.1, lex_append_of_startsApart _ rfl,
      lex_of_word hword (by simpa using hne), lex_cons_mark rfl (by decide)]
    rfl
  constructor
  · simp only [String.toList_append]
    refine endsApart_append hb.1 fun _ => endsApart_append (by decide) fun hnil => ?_
    cases hnil
  · rw [Complete, htokens, List.append_assoc]
    refine Calls.append ha.2 fun w hw => ?_
    simp only [List.cons_append, applied, appliedBy, List.nil_append, List.mem_cons] at hw
    rcases hw with rfl | hw
    · rwa [String.ofList_toList]
    · exact hb.2 w hw

end Known

/-! ## Literals -/

/-- A list of texts with their characters. -/
structure Spelling (texts : List String) where
  /-- The characters of the texts. -/
  chars : List (List Char)
  /-- The characters spell the texts. -/
  spells : chars.map String.ofList = texts

namespace Spelling

/-- No texts. -/
def nil : Spelling [] := ⟨[], rfl⟩

/-- One text more. -/
def cons (cs : List Char) {texts : List String} (s : Spelling texts) :
    Spelling (String.ofList cs :: texts) :=
  ⟨cs :: s.chars, by rw [List.map_cons, s.spells]⟩

theorem mem_of_mem_chars {texts : List String} (s : Spelling texts) {cs : List Char}
    (h : cs ∈ s.chars) : String.ofList cs ∈ texts := by
  rw [← s.spells]
  exact List.mem_map_of_mem h

theorem map_toList {texts : List String} (s : Spelling texts) :
    texts.map String.toList = s.chars := by
  obtain ⟨chars, rfl⟩ := s
  simp [Function.comp_def, String.toList_ofList]

end Spelling

/-- Whether a literal opens when the words in `base` are known. -/
def literalOpens (base : List (List Char)) (cs : List Char) : Bool :=
  endsApart cs && (applied (lex cs ++ [.mark '('])).all fun w => base.contains w

/-- Whether a literal closes what stands before it and opens again. -/
def literalJoins (base : List (List Char)) (cs : List Char) : Bool :=
  closes cs && literalOpens base cs

section Literals

variable {known : String → Prop} {base : List String} {a e : String} {cs : List Char}

theorem AppliesOnly.literal (h : '(' ∉ cs) : AppliesOnly known (String.ofList cs) :=
  .of_no_parenthesis (by rwa [String.toList_ofList])

theorem Opens.literal (s : Spelling base) (hbase : ∀ n ∈ base, known n)
    (h : literalOpens s.chars cs = true) : Opens known (String.ofList cs) := by
  obtain ⟨hends, hall⟩ := Bool.and_eq_true_iff.mp h
  rw [Opens, Complete, String.toList_ofList]
  refine ⟨hends, fun w hw => hbase _ (s.mem_of_mem_chars ?_)⟩
  simpa using List.all_eq_true.mp hall w hw

/-- A literal that applies nothing. -/
theorem Opens.silent (h : literalOpens [] cs = true) : Opens known (String.ofList cs) :=
  Opens.literal .nil (by simp) h

theorem AppliesOnly.append_literal (he : AppliesOnly known e) (s : Spelling base)
    (hbase : ∀ n ∈ base, known n) (h : literalJoins s.chars cs = true) :
    Opens known (e ++ String.ofList cs) := by
  obtain ⟨hcloses, hopens⟩ := Bool.and_eq_true_iff.mp h
  refine he.append_closing ?_ (Opens.literal s hbase hopens)
  rwa [String.toList_ofList]

theorem Opens.literals (s : Spelling base) (hbase : ∀ n ∈ base, known n) {texts : List String}
    (t : Spelling texts) (h : (t.chars.all fun cs => literalOpens s.chars cs) = true) :
    ∀ text ∈ texts, Opens known text := by
  intro text htext
  rw [← t.spells, List.mem_map] at htext
  obtain ⟨cs, hcs, rfl⟩ := htext
  exact Opens.literal s hbase (List.all_eq_true.mp h cs hcs)

/-- An unknown text between one that opens and a literal that closes. -/
theorem Opens.fill (ha : Opens known a) (he : AppliesOnly known e) (s : Spelling base)
    (hbase : ∀ n ∈ base, known n) (h : literalJoins s.chars cs = true) :
    Opens known (a ++ e ++ String.ofList cs) :=
  (ha.append_text he).append_literal s hbase h

/-- The same, where the literal applies nothing. -/
theorem Opens.close (ha : Opens known a) (he : AppliesOnly known e)
    (h : literalJoins [] cs = true) : Opens known (a ++ e ++ String.ofList cs) :=
  ha.fill he .nil (by simp) h

/-- An unknown text between two literals. -/
theorem Opens.around (s : Spelling base) (hbase : ∀ n ∈ base, known n) {left right : List Char}
    (he : AppliesOnly known e)
    (h : (literalOpens s.chars left && literalJoins s.chars right) = true) :
    Opens known (String.ofList left ++ e ++ String.ofList right) := by
  rw [Bool.and_eq_true_iff] at h
  exact (Opens.literal s hbase h.1).fill he s hbase h.2

/-- A known name that is applied to what follows. -/
theorem Opens.call {name : String} (hname : known name)
    (hword : (∀ c ∈ name.toList, isWordChar c = true) ∧ name ≠ "") :
    Opens known (name ++ "(") := by
  have hnothing : Opens known "" := Opens.silent rfl
  simpa using hnothing.append_call hname hword.1 hword.2 hnothing

end Literals

end Text

end ImplicitScene
