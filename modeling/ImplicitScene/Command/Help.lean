import ImplicitScene.Command.Basic

/-!
# Help

Help on a command is a list of entries for its arguments and one for its settings.
There are two layouts.  The brief one puts the description of an entry beside its
label, or below it when that leaves too little room.  The full one always puts it
below, and lists the values that are allowed with a description of each.  Only a
command with such values has a full layout of its own.
-/

namespace ImplicitScene

/-- What a demonstration shows. -/
def Demo.about : Demo → String
  | simple => "A sphere next to a cube"
  | cubes => "Sphere and cube standing on a floor"
  | modulation => "Field of boxes with random per-cell heights under a spotlight"
  | truchet => "Truchet tiling carved into a sphere"
  | skull => "Row of repeated skulls on a floor"

/-- An entry of a list. -/
structure HelpEntry where
  /-- How the entry is written on a command line. -/
  label : String
  /-- The description. -/
  about : String
  /-- The value if none is given. -/
  default : Option String := none
  /-- The values that are allowed, each with a description, if only some are. -/
  values : List (String × String) := []
  deriving Repr, DecidableEq

namespace HelpEntry

/-- A setting without a letter. -/
def long (name about : String) : HelpEntry := { label := "    --" ++ name, about }

/-- A setting with a letter. -/
def lettered (letter name about : String) : HelpEntry :=
  { label := "-" ++ letter ++ ", --" ++ name, about }

/-- The default as a note. -/
def defaultNote (e : HelpEntry) : List String := e.default.toList.map fun v => s!"[default: {v}]"

/-- The notes of the brief layout. -/
def notes (e : HelpEntry) : List String :=
  let names := ", ".intercalate (e.values.map Prod.fst)
  e.defaultNote ++ if e.values.isEmpty then [] else [s!"[possible values: {names}]"]

/-- The description in the brief layout. -/
def briefText (e : HelpEntry) : String := " ".intercalate (e.about :: e.notes)

/-- The column at which a description below its label starts. -/
def indent : String := "          "

/-- Blanks after a text up to a column. -/
def padded (s : String) (column : Nat) : String :=
  s ++ String.ofList (List.replicate (column - s.length) ' ')

/-- An entry with the description beside the label. -/
def beside (column : Nat) (e : HelpEntry) : String :=
  "  " ++ padded e.label (column + 2) ++ e.briefText ++ "\n"

/-- An entry with the description below the label. -/
def below (e : HelpEntry) : String := "  " ++ e.label ++ "\n" ++ indent ++ e.briefText ++ "\n"

/-- The allowed values in the full layout. -/
def valueList (e : HelpEntry) : String :=
  let column := e.values.foldl (fun n v => Nat.max n v.1.length) 0
  let row (v : String × String) : String :=
    indent ++ "- " ++ padded (v.1 ++ ": ") (column + 2) ++ v.2 ++ "\n"
  if e.values.isEmpty then ""
  else "\n" ++ indent ++ "Possible values:\n" ++ String.join (e.values.map row)

/-- An entry in the full layout. -/
def full (e : HelpEntry) : String :=
  let notes := e.defaultNote.map fun note => indent ++ "\n" ++ indent ++ note ++ "\n"
  "  " ++ e.label ++ "\n" ++ indent ++ e.about ++ "\n" ++ String.join notes ++ e.valueList

/-- The width of the page. -/
def pageWidth : Nat := 100

/-- Whether a description is too wide to stand beside labels of a given width.  This is asked only
when the labels take more than two fifths of the page. -/
def tooWide (column : Nat) (e : HelpEntry) : Bool :=
  let taken := column + 12
  let width := e.about.length + (" ".intercalate e.notes).length
  taken ≤ pageWidth && 2 * pageWidth < 5 * taken && pageWidth - taken < width

/-- A list of entries in the brief layout. -/
def briefList (es : List HelpEntry) : String :=
  let column := es.foldl (fun n e => Nat.max n e.label.length) 2
  String.join (es.map (if es.any (tooWide column) then below else beside column))

/-- A list of entries in the full layout. -/
def fullList (es : List HelpEntry) : String := "\n".intercalate (es.map full)

end HelpEntry

namespace Verb

/-- The name of a command. -/
def name : Verb → String
  | compile => "compile"
  | demo => "demo"
  | render => "render"

/-- What a command does. -/
def about : Verb → String
  | compile => "Compile a JSON scene description"
  | demo => "Compile a built-in scene"
  | render => "Render a scene with the software tracer"

/-- How a command is called. -/
def usage : Verb → String
  | compile => "compile [OPTIONS] <SCENE>"
  | demo => "demo [OPTIONS] <NAME>"
  | render => "render [OPTIONS] --output <OUTPUT> [SCENE]"

/-- The demonstrations as values. -/
def demoValues : List (String × String) := Demo.all.map fun d => (d.name, d.about)

/-- The setting for more messages. -/
def verboseEntry : HelpEntry :=
  .lettered "v" "verbose..." "More log output (-v info, -vv debug, -vvv trace)"

/-- The argument of a command. -/
def arguments : Verb → List HelpEntry
  | compile => [{ label := "<SCENE>", about := "Scene description (.json)" }]
  | demo => [{ label := "<NAME>", about := "Scene name", values := demoValues }]
  | render => [{ label := "[SCENE]", about := "Scene description (.json); ignored with --demo" }]

/-- The settings that all commands have. -/
def commonEntries : List HelpEntry :=
  [.long "options <FILE>" "Options file (.json)", .long "width <WIDTH>" "Image width",
    .long "height <HEIGHT>" "Image height", .long "epsilon <EPSILON>" "Hit tolerance",
    .long "steps <STEPS>" "Marching steps per bounce", .long "bounces <BOUNCES>" "Bounces per sample",
    .long "iterations <ITERATIONS>" "Extra samples per frame"]

/-- The settings of a command, without help. -/
def entries : Verb → List HelpEntry
  | compile | demo =>
      [.lettered "o" "output <OUTPUT>" "Output file (stdout if omitted)", verboseEntry] ++
        commonEntries
  | render =>
      [{ HelpEntry.long "demo <DEMO>" "Render a built-in scene instead" with values := demoValues },
        verboseEntry,
        .lettered "o" "output <OUTPUT>"
          "Output image; the format follows the extension (.png, .ppm)",
        { HelpEntry.long "frames <FRAMES>" "Frames to accumulate" with default := some "1" }] ++
        commonEntries

/-- Whether a command has a full layout of its own. -/
def hasFullHelp (v : Verb) : Bool := (v.arguments ++ v.entries).any fun e => !e.values.isEmpty

/-- The setting that asks for help. -/
def helpEntry (v : Verb) (full : Bool) : HelpEntry :=
  .lettered "h" "help"
    (if !v.hasFullHelp then "Print help"
      else if full then "Print help (see a summary with '-h')"
      else "Print help (see more with '--help')")

/-- The help on a command. -/
def help (v : Verb) (full : Bool) : String :=
  let full := full && v.hasFullHelp
  let list := if full then HelpEntry.fullList else HelpEntry.briefList
  s!"{v.about}\n\nUsage: sdf-trace {v.usage}\n\nArguments:\n" ++ list v.arguments ++
    "\nOptions:\n" ++ list (v.entries ++ [v.helpEntry full])

end Verb

/-- The name and the version of the program. -/
def versionText : String := "sdf-trace 0.1.0\n"

/-- The help on the program. -/
def programHelp : String :=
  let command (v : Verb) : HelpEntry := { label := v.name, about := v.about }
  let help : HelpEntry :=
    { label := "help", about := "Print this message or the help of the given subcommand(s)" }
  "Compile SDF scenes into a path-tracing fragment shader\n\n" ++
    "Usage: sdf-trace [OPTIONS] <COMMAND>\n\nCommands:\n" ++
    HelpEntry.briefList ([Verb.compile, .demo, .render].map command ++ [help]) ++ "\nOptions:\n" ++
    HelpEntry.briefList
      [Verb.verboseEntry, .lettered "h" "help" "Print help", .lettered "V" "version" "Print version"]

/-- The report on a command line that asks for no command. -/
def Stop.report : Stop → Report
  | usage => { code := 2, err := "error: the command line cannot be read\n\n" ++ programHelp }
  | help none _ => { out := programHelp }
  | help (some verb) full => { out := verb.help full }
  | version => { out := versionText }

end ImplicitScene
