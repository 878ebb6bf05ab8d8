import ImplicitScene.Program.Basic

/-!
# The text of a program

A program is printed line by line.  The body of a function, of a block and of a
guard is indented by four blanks.  An empty line has no blanks.  Items are
divided by an empty line, except neighbours of one group: precisions, values set
from outside, constants, and prototypes.
-/

namespace ImplicitScene

/-- The text of a declaration. -/
def Declaration.text (d : Declaration) : String := d.ty ++ " " ++ d.name

/-- The text of a signature. -/
def Signature.text (s : Signature) : String :=
  s.result ++ " " ++ s.name ++ "(" ++ ", ".intercalate (s.parameters.map Declaration.text) ++ ")"

/-- The blanks before a line at an indentation. -/
def indentation (indent : Nat) : String := String.join (List.replicate indent "    ")

/-- A header with the brace that opens its block. -/
def opening (header : String) : String := header ++ " \x7b"

namespace Statement

mutual

/-- The lines of a statement. -/
def rows (indent : Nat) : Statement → List String
  | line text => [indentation indent ++ text]
  | blank => [""]
  | block header body =>
      (indentation indent ++ opening header) :: rowsOfAll (indent + 1) body ++
        [indentation indent ++ "\x7d"]
  | guard header statement => (indentation indent ++ header) :: rows (indent + 1) statement
termination_by structural s => s

/-- The lines of several statements. -/
def rowsOfAll (indent : Nat) : List Statement → List String
  | [] => []
  | s :: ss => rows indent s ++ rowsOfAll indent ss
termination_by structural ss => ss

end

end Statement

/-- The lines of a function. -/
def FunctionDef.rows (f : FunctionDef) : List String :=
  opening f.signature.text :: Statement.rowsOfAll 1 f.body ++ ["\x7d"]

namespace Item

/-- The items that may stand together without an empty line. -/
inductive Group where
  | precision | interface | constant | prototype
  deriving Repr, DecidableEq

/-- The group of an item. -/
def group? : Item → Option Group
  | precision _ => some .precision
  | uniform _ | varying _ => some .interface
  | constant _ _ => some .constant
  | prototype _ => some .prototype
  | struct _ _ | function _ => none

/-- Whether two neighbours stand together. -/
def joins (a b : Item) : Bool := a.group?.isSome && a.group? == b.group?

/-- The lines of an item. -/
def rows : Item → List String
  | precision text => ["precision " ++ text ++ ";"]
  | uniform d => ["uniform " ++ d.text ++ ";"]
  | varying d => ["varying " ++ d.text ++ ";"]
  | constant d value => ["const " ++ d.text ++ " = " ++ value ++ ";"]
  | struct name fields =>
      opening ("struct " ++ name) :: fields.map (fun d => indentation 1 ++ d.text ++ ";") ++
        ["\x7d;"]
  | prototype s => [s.text ++ ";"]
  | function f => f.rows

end Item

namespace Program

/-- The lines of the items that follow an item. -/
def rowsAfter : Item → List Item → List String
  | _, [] => []
  | previous, item :: items =>
      (if previous.joins item then [] else [""]) ++ item.rows ++ rowsAfter item items

/-- The lines of a program. -/
def rows (p : Program) : List String :=
  match p.items with
  | [] => []
  | item :: items => item.rows ++ rowsAfter item items

/-- The text of a program.  Every line ends with a line feed. -/
def text (p : Program) : String := String.join (p.rows.map (· ++ "\n"))

end Program

end ImplicitScene
