import ImplicitScene.Proofs.ProgramText

/-!
# Printing step by step

The lines of a statement are computed for an indentation that is given.  They may as
well be printed one after the other, by a *printer* that holds the text so far and the
indentation of the next line.  A block and a guard go one step deeper for what they
hold and come back afterwards, so the printer ends with the indentation it began with
(`Statement.print_eq`).  The same holds of functions, items and whole programs, and
what is printed is the text of the program (`Program.print_eq`).

Texts compose in two ways (`printing_composes`).  A statement at an indentation has
the lines of the statement without one, with four blanks for each step before all lines
that are not empty lines of their own.  A *line* without characters gets the blanks as
every other line does, so the lines do not tell which of them are empty lines and the
statement has to (`Statement.blankMarks`).  Two lists of items are printed one after the
other, with an empty line between them unless the items that meet are of one group.
-/

namespace ImplicitScene

/-! ## Printers -/

/-- A text that is being printed. -/
structure Printer where
  /-- The text so far. -/
  out : String
  /-- The indentation of the next line. -/
  indent : Nat

namespace Printer

/-- Print a line. -/
def line (p : Printer) (text : String) : Printer :=
  { p with out := p.out ++ (indentation p.indent ++ text ++ "\n") }

/-- Print an empty line. -/
def blankLine (p : Printer) : Printer := { p with out := p.out ++ "\n" }

/-- Indent the next lines by one more step. -/
def deeper (p : Printer) : Printer := { p with indent := p.indent + 1 }

/-- Indent the next lines by one step less, if they are indented at all. -/
def shallower (p : Printer) : Printer := { p with indent := p.indent - 1 }

/-- A printer that has printed lines as they are. -/
def wrote (p : Printer) (rows : List String) : Printer := { p with out := p.out ++ lined rows }

/-- Print several lines. -/
def lines (p : Printer) (texts : List String) : Printer := texts.foldl line p

/-- Print something one step deeper, between a header and a line that closes it. -/
def braced (p : Printer) (header closing : String) (inside : Printer → Printer) : Printer :=
  (inside (p.line (opening header)).deeper).shallower.line closing

@[simp] theorem wrote_indent (p : Printer) (rows : List String) :
    (p.wrote rows).indent = p.indent := rfl

@[simp] theorem deeper_indent (p : Printer) : p.deeper.indent = p.indent + 1 := rfl

@[simp] theorem wrote_nil (p : Printer) : p.wrote [] = p := by
  rw [wrote, lined, List.map_nil, String.join_nil, String.append_empty]

@[simp] theorem wrote_wrote (p : Printer) (rows others : List String) :
    (p.wrote rows).wrote others = p.wrote (rows ++ others) := by
  simp [wrote, lined_append, String.append_assoc]

@[simp] theorem line_eq (p : Printer) (text : String) :
    p.line text = p.wrote [indentation p.indent ++ text] := by
  simp [line, wrote, lined]

@[simp] theorem blankLine_eq (p : Printer) : p.blankLine = p.wrote [""] := by
  simp [blankLine, wrote, lined]

/-- What is printed one step deeper leaves the indentation as it was. -/
@[simp] theorem shallower_wrote_deeper (p : Printer) (rows : List String) :
    (p.deeper.wrote rows).shallower = p.wrote rows := rfl

@[simp] theorem lines_eq (p : Printer) (texts : List String) :
    p.lines texts = p.wrote (texts.map (indentation p.indent ++ ·)) := by
  induction texts generalizing p with
  | nil => exact p.wrote_nil.symm
  | cons text texts ih =>
      rw [lines, List.foldl_cons, ← lines, ih, line_eq, wrote_wrote, wrote_indent, List.map_cons,
        List.singleton_append]

end Printer

/-! ## Statements -/

namespace Statement

mutual

/-- Print a statement. -/
def print : Statement → Printer → Printer
  | line text, p => p.line text
  | blank, p => p.blankLine
  | block header body, p => p.braced header "\x7d" (printAll body)
  | guard header statement, p => (statement.print (p.line header).deeper).shallower
termination_by structural s => s

/-- Print several statements. -/
def printAll : List Statement → Printer → Printer
  | [], p => p
  | s :: ss, p => printAll ss (s.print p)
termination_by structural ss => ss

end

mutual

/-- A statement prints its lines and leaves the indentation as it was. -/
theorem print_eq : ∀ (s : Statement) (p : Printer), s.print p = p.wrote (s.rows p.indent)
  | line text, p => by rw [print, rows, p.line_eq]
  | blank, p => by rw [print, rows, p.blankLine_eq]
  | block header body, p => by simp [print, Printer.braced, printAll_eq body, rows]
  | guard header statement, p => by simp [print, print_eq statement, rows]

theorem printAll_eq : ∀ (ss : List Statement) (p : Printer),
    printAll ss p = p.wrote (rowsOfAll p.indent ss)
  | [], p => by simp [printAll, rowsOfAll]
  | s :: ss, p => by simp [printAll, print_eq s, printAll_eq ss, rowsOfAll]

end

/-- The lines that are printed without an indentation. -/
theorem linesOf_print {s : Statement} (h : ∀ t ∈ s.texts, Flat t) :
    linesOf (s.print ⟨"", 0⟩).out = s.rows 0 := by
  rw [print_eq, Printer.wrote, String.empty_append, linesOf_lined (s.rows_flat 0 h)]

/-! ## Indented lines -/

mutual

/-- For each line of a statement, whether it is an empty line of its own. -/
def blankMarks : Statement → List Bool
  | line _ => [false]
  | blank => [true]
  | block _ body => false :: blankMarksOfAll body ++ [false]
  | guard _ statement => false :: statement.blankMarks
termination_by structural s => s

/-- The marks of several statements. -/
def blankMarksOfAll : List Statement → List Bool
  | [] => []
  | s :: ss => s.blankMarks ++ blankMarksOfAll ss
termination_by structural ss => ss

end

mutual

theorem length_blankMarks : ∀ (s : Statement) (indent : Nat),
    s.blankMarks.length = (s.rows indent).length
  | line _, _ => rfl
  | blank, _ => rfl
  | block _ body, indent => by
      simp [blankMarks, rows, length_blankMarksOfAll body (indent + 1)]
  | guard _ statement, indent => by
      simp [blankMarks, rows, length_blankMarks statement (indent + 1)]

theorem length_blankMarksOfAll : ∀ (ss : List Statement) (indent : Nat),
    (blankMarksOfAll ss).length = (rowsOfAll indent ss).length
  | [], _ => rfl
  | s :: ss, indent => by
      simp [blankMarksOfAll, rowsOfAll, length_blankMarks s indent,
        length_blankMarksOfAll ss indent]

end

/-- A line with four blanks before it for each step.  An empty line stays empty. -/
def indented (steps : Nat) (isBlank : Bool) (row : String) : String :=
  if isBlank then "" else String.ofList (List.replicate (4 * steps) ' ') ++ row

theorem toList_indentation (n : Nat) : (indentation n).toList = List.replicate (4 * n) ' ' := by
  induction n with
  | zero => rfl
  | succ n ih =>
      rw [indentation_succ, String.toList_append, ih, Nat.mul_succ, Nat.add_comm,
        List.replicate_add]
      rfl

/-- Indentations add up. -/
theorem indented_indentation (steps indent : Nat) (text : String) :
    indented steps false (indentation indent ++ text) = indentation (indent + steps) ++ text := by
  have hblanks : List.replicate (4 * (indent + steps)) ' ' =
      List.replicate (4 * steps) ' ' ++ List.replicate (4 * indent) ' ' := by
    rw [← List.replicate_add, Nat.add_comm indent, Nat.mul_add]
  rw [← String.toList_inj, indented, if_neg Bool.false_ne_true]
  simp only [String.toList_append, String.toList_ofList, toList_indentation, hblanks,
    List.append_assoc]

mutual

/-- More steps put blanks before the lines that are not empty lines. -/
theorem rows_add : ∀ (s : Statement) (indent steps : Nat),
    s.rows (indent + steps) = List.zipWith (indented steps) s.blankMarks (s.rows indent)
  | line text, indent, steps => by
      simp [rows, blankMarks, indented_indentation]
  | blank, indent, steps => by
      simp [rows, blankMarks, indented]
  | block header body, indent, steps => by
      -- the body is a step deeper on both sides, so the steps to add are the same
      have hbody := rowsOfAll_add body (indent + 1) steps
      rw [Nat.add_right_comm] at hbody
      simp [rows, blankMarks, indented_indentation, hbody,
        List.zipWith_append (length_blankMarksOfAll body (indent + 1))]
  | guard header statement, indent, steps => by
      have hstatement := rows_add statement (indent + 1) steps
      rw [Nat.add_right_comm] at hstatement
      simp [rows, blankMarks, indented_indentation, hstatement]

theorem rowsOfAll_add : ∀ (ss : List Statement) (indent steps : Nat),
    rowsOfAll (indent + steps) ss =
      List.zipWith (indented steps) (blankMarksOfAll ss) (rowsOfAll indent ss)
  | [], _, _ => rfl
  | s :: ss, indent, steps => by
      rw [rowsOfAll, rowsOfAll, blankMarksOfAll, List.zipWith_append (length_blankMarks s indent),
        rows_add s indent steps, rowsOfAll_add ss indent steps]

end

end Statement

/-! ## Items -/

/-- Print a function. -/
def FunctionDef.print (f : FunctionDef) (p : Printer) : Printer :=
  p.braced f.signature.text "\x7d" (Statement.printAll f.body)

namespace Item

/-- Print an item. -/
def print (p : Printer) : Item → Printer
  | precision text => p.line ("precision " ++ text ++ ";")
  | uniform d => p.line ("uniform " ++ d.text ++ ";")
  | varying d => p.line ("varying " ++ d.text ++ ";")
  | constant d value => p.line ("const " ++ d.text ++ " = " ++ value ++ ";")
  | struct name fields =>
      p.braced ("struct " ++ name) "\x7d;" (·.lines (fields.map (·.text ++ ";")))
  | prototype s => p.line (s.text ++ ";")
  | function f => f.print p

theorem print_eq (item : Item) {p : Printer} (hp : p.indent = 0) :
    item.print p = p.wrote item.rows := by
  have hzero : ∀ text : String, indentation 0 ++ text = text := fun _ => String.empty_append
  cases item with
  | precision | uniform | varying | constant | prototype => rw [print, p.line_eq, hp, hzero, rows]
  | struct name fields =>
      simp [print, Printer.braced, hp, hzero, rows, Function.comp_def, String.append_assoc]
  | function f =>
      simp [print, FunctionDef.print, Printer.braced, Statement.printAll_eq, hp, hzero, rows,
        FunctionDef.rows]

/-- The items are of one group. -/
def SameGroup (a b : Item) : Prop := ∃ g : Group, a.group? = some g ∧ b.group? = some g

theorem joins_iff {a b : Item} : a.joins b = true ↔ a.SameGroup b := by
  rw [joins, Bool.and_eq_true, Option.isSome_iff_exists, beq_iff_eq, SameGroup]
  constructor
  · rintro ⟨⟨g, hg⟩, heq⟩
    exact ⟨g, hg, heq ▸ hg⟩
  · rintro ⟨g, ha, hb⟩
    exact ⟨⟨g, ha⟩, ha.trans hb.symm⟩

instance (a b : Item) : Decidable (a.SameGroup b) := decidable_of_iff _ joins_iff

end Item

/-! ## Programs -/

namespace Program

/-- Print an empty line before an item, unless it comes first or stands together with the item
before it. -/
def printBetween (item : Item) (p : Printer) : Option Item → Printer
  | none => p
  | some previous => if previous.joins item then p else p.blankLine

/-- Print items after the item before them, if there is one. -/
def printAfter : Option Item → List Item → Printer → Printer
  | _, [], p => p
  | previous?, item :: items, p =>
      printAfter (some item) items (item.print (printBetween item p previous?))

/-- Print a program. -/
def print (g : Program) : Printer := printAfter none g.items ⟨"", 0⟩

theorem printBetween_eq (previous item : Item) (p : Printer) :
    printBetween item p (some previous) =
      p.wrote (if previous.joins item then [] else [""]) := by
  rw [printBetween]
  split
  next => exact p.wrote_nil.symm
  next => exact p.blankLine_eq

theorem printAfter_eq (previous : Item) (items : List Item) {p : Printer} (hp : p.indent = 0) :
    printAfter (some previous) items p = p.wrote (rowsAfter previous items) := by
  induction items generalizing previous p with
  | nil => exact p.wrote_nil.symm
  | cons item items ih =>
      have hwrote : ∀ rows, (p.wrote rows).indent = 0 := fun _ => hp
      rw [printAfter, printBetween_eq, item.print_eq (hwrote _), Printer.wrote_wrote,
        ih item (hwrote _), Printer.wrote_wrote, rowsAfter]

/-- What is printed is the text of the program, and the indentation is back where it was. -/
theorem print_eq (g : Program) : g.print = ⟨g.text, 0⟩ := by
  have hwrote : ∀ rows : List String, Printer.wrote ⟨"", 0⟩ rows = ⟨lined rows, 0⟩ := by
    intro rows
    rw [Printer.wrote, String.empty_append]
  obtain ⟨items⟩ := g
  cases items with
  | nil => rfl
  | cons item items =>
      rw [print, printAfter, printBetween, item.print_eq rfl, printAfter_eq item items rfl,
        Printer.wrote_wrote, ← rows_cons, hwrote]
      rfl

/-- Items that follow others are printed after them, with an empty line between them unless the
items that meet are of one group. -/
theorem text_append {xs ys : List Item} (hxs : xs ≠ []) (hys : ys ≠ []) :
    text ⟨xs ++ ys⟩ =
      text ⟨xs⟩ ++ (if (xs.getLast hxs).SameGroup (ys.head hys) then "" else "\n") ++
        text ⟨ys⟩ := by
  obtain ⟨x, xs, rfl⟩ := List.exists_cons_of_ne_nil hxs
  obtain ⟨y, ys, rfl⟩ := List.exists_cons_of_ne_nil hys
  have hrows : rows ⟨x :: xs ++ y :: ys⟩ = rows ⟨x :: xs⟩ ++
      (if ((x :: xs).getLast hxs).joins y then [] else [""]) ++ rows ⟨y :: ys⟩ := by
    rw [List.cons_append, rows_cons, rows_cons, rows_cons, rowsAfter_append, rowsAfter]
    simp only [List.append_assoc]
  -- no line between them is the empty text, and one empty line is a line feed
  have hempty : lined (if ((x :: xs).getLast hxs).joins y then [] else [""]) =
      if ((x :: xs).getLast hxs).SameGroup y then "" else "\n" := by
    simp only [← Item.joins_iff]
    split <;> rfl
  calc text ⟨x :: xs ++ y :: ys⟩
      = lined (rows ⟨x :: xs⟩ ++ (if ((x :: xs).getLast hxs).joins y then [] else [""]) ++
          rows ⟨y :: ys⟩) := congrArg lined hrows
    _ = _ := by rw [lined_append, lined_append, hempty]; rfl

end Program

/-- Printing composes.  A statement leaves the indentation as it was and adds the lines it has
without an indentation, with four blanks for each step before all of them but the empty lines.  A
list of items that follows another is printed after it, with an empty line between them unless the
items that meet are of one group. -/
theorem printing_composes {s : Statement} (h : ∀ t ∈ s.texts, Flat t) (out : String)
    (indent : Nat) {xs ys : List Item} (hxs : xs ≠ []) (hys : ys ≠ []) :
    s.print ⟨out, indent⟩ = ⟨out ++ lined (s.rows indent), indent⟩ ∧
      s.blankMarks.length = (linesOf (s.print ⟨"", 0⟩).out).length ∧
      s.rows indent = List.zipWith (Statement.indented indent) s.blankMarks
        (linesOf (s.print ⟨"", 0⟩).out) ∧
      Program.print ⟨xs ++ ys⟩ = ⟨Program.text ⟨xs ++ ys⟩, 0⟩ ∧
      Program.text ⟨xs ++ ys⟩ = Program.text ⟨xs⟩ ++
        (if (xs.getLast hxs).SameGroup (ys.head hys) then "" else "\n") ++ Program.text ⟨ys⟩ := by
  have hlines := Statement.linesOf_print h
  refine ⟨s.print_eq _, ?_, ?_, Program.print_eq _, Program.text_append hxs hys⟩
  · rw [hlines, ← s.length_blankMarks 0]
  · rw [hlines, ← s.rows_add 0 indent, Nat.zero_add]

/-- A loop with a line without characters, an empty line and a guarded block. -/
def Statement.loop : Statement :=
  block "while (a)" [line "", blank, guard "if (b)" (block "else" [line "c;"])]

/-- The empty line of the loop gets no blanks and the line without characters does.  The uniform
follows the varying at once, and the function comes after an empty line. -/
theorem printing_composes_loop :
    (∀ t ∈ Statement.loop.texts, Flat t) ∧
      Statement.loop.blankMarks = [false, false, true, false, false, false, false, false] ∧
      Statement.loop.print ⟨"x\n", 2⟩ = ⟨"x\n" ++ lined (Statement.loop.rows 2), 2⟩ ∧
      Statement.loop.rows 2 = ["        while (a) \x7b", "            ", "", "            if (b)",
        "                else \x7b", "                    c;", "                \x7d",
        "        \x7d"] ∧
      Program.text ⟨[Item.precision "p", Item.varying ⟨"float", "v"⟩] ++
          [Item.uniform ⟨"float", "u"⟩, Item.function ⟨⟨"void", "f", []⟩, []⟩]⟩ =
        "precision p;\n\nvarying float v;\nuniform float u;\n\nvoid f() \x7b\n\x7d\n" := by
  have hflat : ∀ t ∈ Statement.loop.texts, Flat t := by decide
  obtain ⟨hprint, -, hrows, -, htext⟩ := printing_composes hflat "x\n" 2
    (List.cons_ne_nil (Item.precision "p") [.varying ⟨"float", "v"⟩])
    (List.cons_ne_nil (Item.uniform ⟨"float", "u"⟩) [.function ⟨⟨"void", "f", []⟩, []⟩])
  exact ⟨hflat, by decide, hprint, hrows.trans (by decide +kernel), htext.trans (by decide +kernel)⟩

end ImplicitScene
