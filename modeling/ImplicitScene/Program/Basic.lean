import ImplicitScene.Text.Blank

/-!
# Programs

A program of the shading language is a list of items: declarations, structures,
prototypes and functions.  The text inside a statement is not looked into.
-/

namespace ImplicitScene

/-- A type and a name. -/
structure Declaration where
  /-- The type. -/
  ty : String
  /-- The name. -/
  name : String
  deriving Repr, DecidableEq

/-- The head of a function. -/
structure Signature where
  /-- The type of the result. -/
  result : String
  /-- The name. -/
  name : String
  /-- The parameters. -/
  parameters : List Declaration
  deriving Repr, DecidableEq

/-- A statement of a function body. -/
inductive Statement where
  /-- A line, which may begin with blanks of its own. -/
  | line (text : String)
  /-- An empty line. -/
  | blank
  /-- Statements between braces, after a header. -/
  | block (header : String) (body : List Statement)
  /-- One statement after a header, without braces. -/
  | guard (header : String) (statement : Statement)
  deriving Repr

/-- A function with its body. -/
structure FunctionDef where
  /-- The head. -/
  signature : Signature
  /-- The body. -/
  body : List Statement
  deriving Repr

/-- The name of a function. -/
def FunctionDef.name (f : FunctionDef) : String := f.signature.name

/-- One item of a program. -/
inductive Item where
  /-- The precision of numbers. -/
  | precision (text : String)
  /-- A value that is set from outside for the whole picture. -/
  | uniform (declaration : Declaration)
  /-- A value that is set from outside for each pixel. -/
  | varying (declaration : Declaration)
  /-- A constant. -/
  | constant (declaration : Declaration) (value : String)
  /-- A structure. -/
  | struct (name : String) (fields : List Declaration)
  /-- A function announced before it is defined. -/
  | prototype (signature : Signature)
  /-- A function. -/
  | function (f : FunctionDef)
  deriving Repr

/-- The function an item defines. -/
def Item.function? : Item → Option FunctionDef
  | function f => some f
  | _ => none

/-- The items of a program, first to last. -/
structure Program where
  /-- The items. -/
  items : List Item
  deriving Repr

namespace Statement

/-- A line of text as a statement.  A line without characters is empty. -/
def ofLine : List Char → Statement
  | [] => blank
  | cs => line (String.ofList cs)

/-- The lines of a text as statements, each trimmed at its end. -/
def lines (text : String) : List Statement := (Text.trimmedLines text).map ofLine

end Statement

namespace Program

/-- The functions of a program, in order. -/
def functions (p : Program) : List FunctionDef := p.items.filterMap Item.function?

/-- The first function of a name. -/
def function? (p : Program) (name : String) : Option FunctionDef :=
  p.functions.find? fun f => f.name == name

/-- Where the first function of a name stands among the items. -/
def position? (p : Program) (name : String) : Option Nat :=
  p.items.findIdx? fun item => (item.function?.map fun f => f.name == name).getD false

end Program

end ImplicitScene
