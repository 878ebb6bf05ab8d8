import ImplicitScene.Proofs.Names
import ImplicitScene.Scene.Probe

/-!
# Running the statements of a program

A statement of a program is a text.  Here it is read and run.  The tokens of a
line are read as a command: a declaration, an assignment or a return.  The tokens
of a header are read as a comparison.  Terms are numbers, names, parts of names
and calls, and a call may have calls among its arguments.

A run goes from statement to statement.  It carries the variables, and it stops
at the first return.  A block or a guard is entered only if its comparison holds,
and what is declared inside ends with it.

What the names of functions mean is not read from the program.  It is given by a
*library*, a table from names and arguments to results.  A function of the
library may fail, and then the run fails with it.  A run is *stuck* if a text
cannot be read, a name has no meaning or an argument does not fit.
-/

namespace ImplicitScene

namespace Shading

open Text (lex endsApart startsApart isWordChar)

/-! ## Terms, commands and comparisons -/

/-- An expression of program text. -/
inductive Term where
  /-- A whole number. -/
  | int (n : Nat)
  /-- All digits of a number with a point, and how many of them stand after the point. -/
  | decimal (digits places : Nat)
  /-- A variable or a constant. -/
  | name (x : String)
  /-- A part of a variable. -/
  | part (x field : String)
  /-- A function applied to arguments. -/
  | call (f : String) (args : List Term)

/-- What a line does. -/
inductive Command where
  /-- A new variable, with a first value or without. -/
  | declare (x : String) (value : Option Term)
  /-- A new value for a variable. -/
  | assign (x : String) (value : Term)
  /-- The result of the function. -/
  | result (value : Term)

/-- What a header asks. -/
inductive Comparison where
  /-- Whether the first number is less than the second. -/
  | less (a b : Term)
  /-- Whether two whole numbers are equal. -/
  | equal (a b : Term)

/-! ## Reading -/

/-- The number that a list of digits spells. -/
def number (digits : List Char) : Nat := Nat.ofDigitChars 10 digits 0

/-- A word that stands alone. -/
def Term.ofWord (w : List Char) : Term :=
  if w.all Char.isDigit then .int (number w) else .name (String.ofList w)

/-- Two words with a point between them. -/
def Term.ofParts (a b : List Char) : Term :=
  if a.all Char.isDigit then .decimal (number (a ++ b)) b.length
  else .part (String.ofList a) (String.ofList b)

/-- Read a term, and return the tokens after it.  The calls that are still open are on the stack,
each with its arguments so far in reverse.  The last argument is `last` if it is complete. -/
def Term.readFrom : (stack : List (String × List Term)) → (last : Option Term) → List Token →
    Option (Term × List Token)
  | stack, none, .word f :: .mark '(' :: ts => readFrom ((String.ofList f, []) :: stack) none ts
  | stack, none, .word a :: .mark '.' :: .word b :: ts => readFrom stack (some (.ofParts a b)) ts
  | stack, none, .word w :: ts => readFrom stack (some (.ofWord w)) ts
  | (f, args) :: stack, some t, .mark ',' :: ts => readFrom ((f, t :: args) :: stack) none ts
  | (f, args) :: stack, some t, .mark ')' :: ts =>
      readFrom stack (some (.call f (t :: args).reverse)) ts
  | [], some t, ts => some (t, ts)
  | _, _, _ => none

/-- Read a term, and return the tokens after it. -/
def Term.read (ts : List Token) : Option (Term × List Token) := readFrom [] none ts

/-- Read a term that a semicolon ends. -/
def Term.readLast (ts : List Token) : Option Term :=
  match read ts with
  | some (t, [.mark ';']) => some t
  | _ => none

/-- Read a command. -/
def Command.read : List Token → Option Command
  | .word w :: ts =>
      if String.ofList w = "return" then (Term.readLast ts).map .result
      else
        match ts with
        | [.word x, .mark ';'] => some (.declare (String.ofList x) none)
        | .word x :: .mark '=' :: ts =>
            (Term.readLast ts).map fun t => .declare (String.ofList x) (some t)
        | .mark '=' :: ts => (Term.readLast ts).map (.assign (String.ofList w))
        | _ => none
  | _ => none

/-- Read the second term of a comparison, which a parenthesis ends. -/
def Comparison.readSecond (compare : Term → Comparison) (ts : List Token) : Option Comparison :=
  match Term.read ts with
  | some (t, [.mark ')']) => some (compare t)
  | _ => none

/-- Read a comparison. -/
def Comparison.read : List Token → Option Comparison
  | .word w :: .mark '(' :: ts =>
      if String.ofList w = "if" then
        match Term.read ts with
        | some (a, .mark '<' :: ts) => readSecond (.less a) ts
        | some (a, .mark '=' :: .mark '=' :: ts) => readSecond (.equal a) ts
        | _ => none
      else none
  | _ => none

/-! ## Data -/

/-- What a variable of a program holds. -/
inductive Datum where
  /-- A whole number. -/
  | int (n : Nat)
  /-- A number. -/
  | float (x : Float32)
  /-- A vector. -/
  | vec3 (v : Float3)
  /-- A model and its distance. -/
  | closest (c : Closest)
  /-- A material at a point. -/
  | material (m : MaterialSample)

/-- Why a run has no result. -/
inductive Fault where
  /-- A text cannot be read, a name has no meaning or an argument does not fit. -/
  | stuck
  /-- A function failed. -/
  | failed (e : EvalError)

/-- What the names in a program mean. -/
structure Library where
  /-- The constants. -/
  constant : String → Option Datum
  /-- The functions. -/
  apply : String → List Datum → Except Fault Datum

/-- The variables of a run, the latest first.  A variable may have no value yet. -/
abbrev Variables := List (String × Option Datum)

/-- A part of a datum. -/
def Datum.part : Datum → String → Except Fault Datum
  | closest c, "object" => .ok (.int c.object)
  | closest c, "distance" => .ok (.float c.distance)
  | _, _ => .error .stuck

/-- The value of a variable or a constant.  A variable hides a constant of its name. -/
def Variables.get (vars : Variables) (lib : Library) (x : String) : Except Fault Datum :=
  match vars.lookup x with
  | some (some d) => .ok d
  | some none => .error .stuck
  | none =>
      match lib.constant x with
      | some d => .ok d
      | none => .error .stuck

/-- Give a variable a value.  It must have been declared. -/
def Variables.set (x : String) (d : Datum) : Variables → Except Fault Variables
  | [] => .error .stuck
  | (y, old) :: vars =>
      if y = x then .ok ((y, some d) :: vars)
      else do
        let vars ← set x d vars
        .ok ((y, old) :: vars)

/-! ## Running -/

section Run

variable (lib : Library)

mutual

/-- The value of a term. -/
def Term.eval (vars : Variables) : Term → Except Fault Datum
  | int n => .ok (.int n)
  | decimal digits places => .ok (.float (OfScientific.ofScientific digits true places))
  | name x => vars.get lib x
  | part x field => do
      let d ← vars.get lib x
      d.part field
  | call f args => do
      let args ← evalAll vars args
      lib.apply f args
termination_by structural t => t

/-- The values of several terms. -/
def Term.evalAll (vars : Variables) : List Term → Except Fault (List Datum)
  | [] => .ok []
  | t :: ts => do
      let d ← eval vars t
      let ds ← evalAll vars ts
      .ok (d :: ds)
termination_by structural ts => ts

end

/-- Whether a comparison holds. -/
def Comparison.holds (vars : Variables) : Comparison → Except Fault Bool
  | less a b => do
      let a ← a.eval lib vars
      let b ← b.eval lib vars
      match a, b with
      | .float x, .float y => .ok (decide (x < y))
      | _, _ => .error .stuck
  | equal a b => do
      let a ← a.eval lib vars
      let b ← b.eval lib vars
      match a, b with
      | .int m, .int n => .ok (m == n)
      | _, _ => .error .stuck

/-- How a statement ends. -/
inductive Outcome where
  /-- The run goes on with these variables. -/
  | next (vars : Variables)
  /-- The function returns. -/
  | returned (d : Datum)

/-- Carry a command out. -/
def Command.run (vars : Variables) : Command → Except Fault Outcome
  | declare x none => .ok (.next ((x, none) :: vars))
  | declare x (some t) => do
      let d ← t.eval lib vars
      .ok (.next ((x, some d) :: vars))
  | assign x t => do
      let d ← t.eval lib vars
      let vars ← vars.set x d
      .ok (.next vars)
  | result t => do
      let d ← t.eval lib vars
      .ok (.returned d)

/-- The end of a block: what was declared inside is dropped. -/
def Outcome.leave (outer : Variables) : Outcome → Outcome
  | next vars => .next (vars.drop (vars.length - outer.length))
  | returned d => .returned d

/-- Do something under the condition of a header. -/
def within (vars : Variables) (header : String) (body : Except Fault Outcome) :
    Except Fault Outcome :=
  match Comparison.read (lex header.toList) with
  | none => .error .stuck
  | some c => do
      if ← c.holds lib vars then
        let outcome ← body
        .ok (outcome.leave vars)
      else .ok (.next vars)

mutual

/-- Run a statement. -/
def run (vars : Variables) : Statement → Except Fault Outcome
  | .line text =>
      match Command.read (lex text.toList) with
      | none => .error .stuck
      | some c => c.run lib vars
  | .blank => .ok (.next vars)
  | .block header body => within lib vars header (runAll vars body)
  | .guard header statement => within lib vars header (run vars statement)
termination_by structural s => s

/-- Run statements up to the first return. -/
def runAll (vars : Variables) : List Statement → Except Fault Outcome
  | [] => .ok (.next vars)
  | s :: ss => do
      match ← run vars s with
      | .next vars => runAll vars ss
      | .returned d => .ok (.returned d)
termination_by structural ss => ss

end

end Run

/-! ## Reading numbers back -/

theorem number_toString (n : Nat) : number (toString n).toList = n := by
  rw [number, Nat.toString_eq_repr, Nat.toList_repr]
  simp

theorem Term.ofWord_toString (n : Nat) : ofWord (toString n).toList = .int n := by
  rw [ofWord, if_pos (List.all_eq_true.mpr (isDigit_of_mem_toString n)), number_toString]

theorem ofList_numbered (letters : String) (n : Nat) :
    String.ofList (letters.toList ++ (toString n).toList) = letters ++ toString n := by
  rw [← String.toList_append, String.ofList_toList]

/-- A number at the end of a word belongs to the word, if the text before the word and the text
after the number are apart from it. -/
theorem lex_numbered {first : String} (left letters right : String) (n : Nat)
    (hfirst : left ++ letters = first)
    (h : (endsApart left.toList && letters.toList.all isWordChar &&
      startsApart right.toList) = true) :
    lex (first ++ toString n ++ right).toList =
      lex left.toList ++ .word (letters.toList ++ (toString n).toList) :: lex right.toList := by
  subst hfirst
  simp only [Bool.and_eq_true] at h
  obtain ⟨⟨hleft, hletters⟩, hright⟩ := h
  have hword : ∀ c ∈ letters.toList ++ (toString n).toList, isWordChar c = true := by
    rw [← String.toList_append]
    exact (numbered_word hletters n).1
  have hne : letters.toList ++ (toString n).toList ≠ [] := by
    simp
  simp only [String.toList_append, List.append_assoc]
  rw [Text.lex_append_of_endsApart hleft, ← List.append_assoc,
    Text.lex_append_of_startsApart _ hright, Text.lex_of_word hword hne, List.singleton_append]

/-! ## Steps of a run -/

section Steps

variable {lib : Library} {vars : Variables}

/-- A call whose arguments have values is what the library says. -/
theorem Term.eval_call {f : String} {args : List Term} {ds : List Datum}
    (h : Term.evalAll lib vars args = .ok ds) :
    (Term.call f args).eval lib vars = lib.apply f ds := by
  rw [eval, h]
  rfl

/-- A line does what it reads as. -/
theorem run_line {text : String} {c : Command} (h : Command.read (lex text.toList) = some c) :
    run lib vars (.line text) = c.run lib vars := by
  rw [run, h]

/-- Where the comparison of a header holds, what is below it is done. -/
theorem within_of_holds {header : String} {c : Comparison} {body : Except Fault Outcome}
    (h : Comparison.read (lex header.toList) = some c) (hc : c.holds lib vars = .ok true) :
    within lib vars header body = body >>= fun outcome => .ok (outcome.leave vars) := by
  rw [within, h]
  dsimp only
  rw [hc]
  rfl

/-- Where the comparison fails, nothing is done. -/
theorem within_of_not_holds {header : String} {c : Comparison} {body : Except Fault Outcome}
    (h : Comparison.read (lex header.toList) = some c) (hc : c.holds lib vars = .ok false) :
    within lib vars header body = .ok (.next vars) := by
  rw [within, h]
  dsimp only
  rw [hc]
  rfl

theorem runAll_of_next {s : Statement} {ss : List Statement} {vars' : Variables}
    (h : run lib vars s = .ok (.next vars')) : runAll lib vars (s :: ss) = runAll lib vars' ss := by
  rw [runAll, h]
  rfl

/-- A line that returns a term ends with its value. -/
theorem run_result {text : String} {t : Term} {r : Except Fault Datum}
    (hread : Command.read (lex text.toList) = some (.result t)) (h : t.eval lib vars = r) :
    run lib vars (.line text) = r.map .returned := by
  rw [run_line hread, Command.run, h]
  cases r <;> rfl

/-- A statement that returns or fails is the last one. -/
theorem runAll_of_result {s : Statement} {ss : List Statement} {r : Except Fault Datum}
    (h : run lib vars s = r.map .returned) : runAll lib vars (s :: ss) = r.map .returned := by
  rw [runAll, h]
  cases r <;> rfl

end Steps

end Shading

open Shading

/-- Call a function.  It must take as many arguments and come to a return. -/
def FunctionDef.call (lib : Library) (f : FunctionDef) (args : List Datum) : Except Fault Datum :=
  if f.signature.parameters.length = args.length then do
    match ← runAll lib
      (f.signature.parameters.zipWith (fun d a => (d.name, some a)) args) f.body with
    | .next _ => .error .stuck
    | .returned d => .ok d
  else .error .stuck

/-- A function gives what its body returns. -/
theorem FunctionDef.call_eq {lib : Library} {f : FunctionDef} {args : List Datum}
    {r : Except Fault Datum} (hlength : f.signature.parameters.length = args.length)
    (h : runAll lib (f.signature.parameters.zipWith (fun d a => (d.name, some a)) args) f.body =
      r.map .returned) : f.call lib args = r := by
  rw [call, if_pos hlength, h]
  cases r <;> rfl

/-- Call the function of a name. -/
def Program.call (lib : Library) (p : Program) (name : String) (args : List Datum) :
    Except Fault Datum :=
  match p.function? name with
  | none => .error .stuck
  | some f => f.call lib args

end ImplicitScene
