import ImplicitScene.Decimal.Reader
import ImplicitScene.Demo
import ImplicitScene.Options

/-!
# The command line

A command line names one of three commands and gives it an argument and settings.
The words are read from left to right, and the first one that cannot be read ends
the reading.  A setting is given once.  Its value is the next word, unless that
looks like a setting, or it is attached to the name.  After two dashes every word
is an argument.
-/

namespace ImplicitScene

/-- The commands. -/
inductive Verb where
  | compile | demo | render
  deriving Repr, DecidableEq

/-- The command of a name. -/
def Verb.ofName? : String → Option Verb
  | "compile" => some .compile
  | "demo" => some .demo
  | "render" => some .render
  | _ => none

/-- The settings that have a value. -/
inductive Setting where
  | output | optionsFile | width | height | epsilon | steps | bounces | iterations | demo | frames
  deriving Repr, DecidableEq

/-- The setting of a name.  Two settings belong to the rendering command alone. -/
def Setting.ofName? (verb : Verb) : String → Option Setting
  | "output" => some .output
  | "options" => some .optionsFile
  | "width" => some .width
  | "height" => some .height
  | "epsilon" => some .epsilon
  | "steps" => some .steps
  | "bounces" => some .bounces
  | "iterations" => some .iterations
  | "demo" => if verb = .render then some .demo else none
  | "frames" => if verb = .render then some .frames else none
  | _ => none

/-- The values of the settings. -/
structure Settings where
  /-- The file to write. -/
  output : Option String := none
  /-- The file with options. -/
  optionsFile : Option String := none
  /-- The width of the picture. -/
  width : Option UInt32 := none
  /-- The height of the picture. -/
  height : Option UInt32 := none
  /-- How close to a surface a ray meets it. -/
  epsilon : Option Float32 := none
  /-- How many steps a ray may take. -/
  steps : Option UInt32 := none
  /-- How often a path may bounce. -/
  bounces : Option UInt32 := none
  /-- How many samples are taken beyond the first. -/
  iterations : Option UInt32 := none
  /-- The demonstration to render. -/
  demo : Option Demo := none
  /-- How many frames are added up. -/
  frames : Option UInt32 := none
  deriving Repr

/-- A value that is set for the first time. -/
def setOnce {α : Type} (current parsed : Option α) : Option (Option α) :=
  match current, parsed with
  | none, some a => some (some a)
  | _, _ => none

/-- A path, which is not empty. -/
def readPath? (text : String) : Option String := if text.isEmpty then none else some text

/-- Give a setting its value, if it has none yet and the text can be read. -/
def Settings.set? (s : Settings) (setting : Setting) (text : String) : Option Settings :=
  match setting with
  | .output => (setOnce s.output (readPath? text)).map fun output => { s with output }
  | .optionsFile =>
      (setOnce s.optionsFile (readPath? text)).map fun optionsFile => { s with optionsFile }
  | .width => (setOnce s.width (readWord? text)).map fun width => { s with width }
  | .height => (setOnce s.height (readWord? text)).map fun height => { s with height }
  | .epsilon => (setOnce s.epsilon (readFloat32? text)).map fun epsilon => { s with epsilon }
  | .steps => (setOnce s.steps (readWord? text)).map fun steps => { s with steps }
  | .bounces => (setOnce s.bounces (readWord? text)).map fun bounces => { s with bounces }
  | .iterations =>
      (setOnce s.iterations (readWord? text)).map fun iterations => { s with iterations }
  | .demo => (setOnce s.demo (Demo.ofName? text)).map fun demo => { s with demo }
  | .frames => (setOnce s.frames (readWord? text)).map fun frames => { s with frames }

/-- What a command line asks for. -/
inductive Command where
  /-- Write the program of a described scene. -/
  | compile (scene : String) (settings : Settings)
  /-- Write the program of a demonstration. -/
  | demo (demo : Demo) (settings : Settings)
  /-- Render a scene to a picture. -/
  | render (scene : Option String) (output : String) (settings : Settings)
  deriving Repr

/-- Why the reading of a command line ends early. -/
inductive Stop where
  /-- The command line cannot be read. -/
  | usage
  /-- Help is asked for, in general or about a command, in brief or in full. -/
  | help (about : Option Verb) (full : Bool)
  /-- The version is asked for. -/
  | version
  deriving Repr, DecidableEq

/-- A command line read in part. -/
structure CommandLine where
  /-- The command. -/
  verb : Option Verb := none
  /-- Whether help on some command was asked for by name. -/
  helping : Bool := false
  /-- The argument. -/
  argument : Option String := none
  /-- The settings. -/
  settings : Settings := {}
  /-- A setting whose value is the next word. -/
  pending : Option Setting := none
  /-- Whether every word is an argument. -/
  escaped : Bool := false
  deriving Repr

namespace CommandLine

/-- Go on with what could be read. -/
def orUsage {α : Type} : Option α → Except Stop α
  | some a => .ok a
  | none => .error .usage

/-- Give a setting its value. -/
def set (line : CommandLine) (setting : Setting) (text : String) : Except Stop CommandLine := do
  let settings ← orUsage (line.settings.set? setting text)
  .ok { line with settings, pending := none }

/-- A word that is an argument.  Before a command it names the command. -/
def takeArgument (line : CommandLine) (word : String) : Except Stop CommandLine :=
  match line.verb with
  | none =>
      if line.escaped then .error .usage
      else if line.helping then
        match Verb.ofName? word with
        | some verb => .ok { line with verb }
        | none => .error .usage
      else if word = "help" then .ok { line with helping := true }
      else do
        let verb ← orUsage (Verb.ofName? word)
        .ok { line with verb }
  | some verb => do
      if line.helping || line.argument.isSome then throw .usage
      if verb = .demo then discard (orUsage (Demo.ofName? word))
      let argument ← orUsage (readPath? word)
      .ok { line with argument }

/-- A setting given by its name, and a value if one is attached. -/
def takeNamed (line : CommandLine) (name : String) (value : Option String) :
    Except Stop CommandLine :=
  match name, value, line.verb with
  | "verbose", none, _ => .ok line
  | "help", none, about => .error (.help about true)
  | "version", none, none => .error .version
  | _, _, none => .error .usage
  | _, _, some verb => do
      let setting ← orUsage (Setting.ofName? verb name)
      match value with
      | some text => line.set setting text
      | none => .ok { line with pending := some setting }

/-- Settings given by letters. -/
def takeLetters (line : CommandLine) : List Char → Except Stop CommandLine
  | [] => .ok line
  | c :: cs =>
      match c, line.verb with
      | 'v', _ => line.takeLetters cs
      | 'h', about => .error (.help about false)
      | 'V', none => .error .version
      | 'o', some _ =>
          match cs with
          | [] => .ok { line with pending := some .output }
          | '=' :: text => line.set .output (String.ofList text)
          | text => line.set .output (String.ofList text)
      | _, _ => .error .usage

/-- A name with a value attached by an equals sign. -/
def splitValue (cs : List Char) : String × Option String :=
  let name := cs.takeWhile (· != '=')
  match cs.dropWhile (· != '=') with
  | [] => (String.ofList name, none)
  | _ :: value => (String.ofList name, some (String.ofList value))

/-- Whether a word begins with a dash and is more than that. -/
def looksLikeSetting (word : String) : Bool :=
  match word.toList with
  | '-' :: _ :: _ => true
  | _ => false

/-- Read one more word. -/
def take (line : CommandLine) (word : String) : Except Stop CommandLine :=
  if line.escaped then line.takeArgument word
  else
    match line.pending with
    | some setting =>
        if looksLikeSetting word then .error .usage else line.set setting word
    | none =>
        if line.helping && looksLikeSetting word then .error .usage
        else
          match word.toList with
          | ['-', '-'] => .ok { line with escaped := true }
          | '-' :: '-' :: cs =>
              let (name, value) := splitValue cs
              line.takeNamed name value
          | '-' :: c :: cs => line.takeLetters (c :: cs)
          | _ => line.takeArgument word

/-- The command of a line that has been read to its end. -/
def command (line : CommandLine) : Except Stop Command :=
  if line.pending.isSome then .error .usage
  else if line.helping then .error (.help line.verb true)
  else
    match line.verb, line.argument with
    | some .compile, some scene => .ok (.compile scene line.settings)
    | some .demo, some name => do
        let demo ← orUsage (Demo.ofName? name)
        .ok (.demo demo line.settings)
    | some .render, scene => do
        let output ← orUsage line.settings.output
        .ok (.render scene output line.settings)
    | _, _ => .error .usage

end CommandLine

/-- The command that the words of a command line ask for. -/
def Command.parse (words : List String) : Except Stop Command := do
  let line ← words.foldlM CommandLine.take {}
  line.command

end ImplicitScene
