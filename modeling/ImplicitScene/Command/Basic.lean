import ImplicitScene.Command.Arguments
import ImplicitScene.Description.Reader
import ImplicitScene.Image.File
import ImplicitScene.Program.Assembly
import ImplicitScene.Tracer.Basic

/-!
# Commands

A command reads at most two files, writes at most one and reports what it did.
`Command.plan` is the pure part: given the files that are read, it says what is
written and reported.  The options are settled before the scene is looked at.
-/

namespace ImplicitScene

/-- How a command ends. -/
structure Report where
  /-- The exit code. -/
  code : UInt32 := 0
  /-- What is printed. -/
  out : String := ""
  /-- What is printed as an error. -/
  err : String := ""
  deriving Repr, DecidableEq

/-- The report of a failure. -/
def Report.failure (activity reason : String) : Report :=
  { code := 1, err := s!"{activity}: {reason}\n" }

/-- The report of a file that cannot be written. -/
def Report.unwritten (reason : String) : Report := .failure "Write error" reason

/-- What is written to a file. -/
inductive Content where
  /-- A text. -/
  | text (s : String)
  /-- A picture. -/
  | image (format : ImageFormat) (image : Image)
  /-- Nothing. -/
  | empty
  deriving Repr

/-- The bytes that are written. -/
def Content.bytes : Content → List UInt8
  | text s => s.toUTF8.toList
  | image format picture => picture.encode format
  | empty => []

/-- What a command does in the end. -/
inductive Plan where
  /-- Report only. -/
  | report (r : Report)
  /-- Write a file, and report when that has been possible. -/
  | write (path : String) (content : Content) (after : Report)
  deriving Repr

/-- The report of a plan that went well, or did not get as far as writing. -/
def Plan.settled : Except Report Plan → Plan
  | .ok plan => plan
  | .error r => .report r

namespace Settings

/-- The options: those of the file, or the default, changed by the settings. -/
def applyTo (s : Settings) (o : Options) : Options :=
  { o with
    width := s.width.getD o.width, height := s.height.getD o.height
    epsilon := s.epsilon.getD o.epsilon, steps := s.steps.getD o.steps
    bounces := s.bounces.getD o.bounces, iterations := s.iterations.getD o.iterations }

/-- The options of a file, the default if there is none. -/
def fileOptions (s : Settings) (read : String → Except String String) :
    Except OptionsError Options :=
  match s.optionsFile with
  | none => .ok {}
  | some path =>
      match read path with
      | .error reason => .error (.unreadable reason)
      | .ok text => Options.parse text

/-- The options that a command works with. -/
def options (s : Settings) (read : String → Except String String) : Except OptionsError Options := do
  let base ← s.fileOptions read
  let o := s.applyTo base
  o.validate
  .ok o

end Settings

namespace Command

/-- The tag of the handles in a command. -/
def tag : Nat := 1

/-- The settings of a command. -/
def settings : Command → Settings
  | compile _ s | demo _ s | render _ _ s => s

/-- The scene file of a command, if it reads one. -/
def sceneFile? : Command → Option String
  | compile path _ => some path
  | demo _ _ => none
  | render path _ s => if s.demo.isSome then none else path

/-- The files that a command may read. -/
def files (c : Command) : List String := c.settings.optionsFile.toList ++ c.sceneFile?.toList

/-- The scene that a file describes. -/
def loadScene (read : String → Except String String) (path : String) : Except SceneError Scene :=
  match read path with
  | .error reason => .error (.unreadable reason)
  | .ok text => Scene.parse text tag

/-- The scene that a command works with. -/
def scene (c : Command) (read : String → Except String String) : Except Report Scene :=
  let failed (e : SceneError) := Report.failure "Scene error" e.message
  match c with
  | compile path _ => (loadScene read path).mapError failed
  | demo d _ => (d.scene tag).mapError failed
  | render path _ s =>
      match s.demo, path with
      | some d, _ => (d.scene tag).mapError failed
      | none, some path => (loadScene read path).mapError failed
      | none, none => .error (.failure "Usage error" "give a scene file or --demo")

/-- Print a program, or write it to a file. -/
def deliver (program : String) : Option String → Plan
  | none => .report { out := program }
  | some path =>
      .write path (.text program) { out := s!"Wrote {path} ({program.utf8ByteSize} bytes)\n" }

/-- Write a picture to a file. -/
def deliverImage (image : Image) (path : String) (frames : Nat) : Plan :=
  match image.formatFor path with
  | .ok format =>
      .write path (.image format image)
        { out := s!"Rendered {image.width}x{image.height} ({frames} frame(s)) -> {path}\n" }
  | .error .unknownFormat => .report (.unwritten ImageError.unknownFormat.message)
  | .error e => .write path .empty (.unwritten e.message)

/-- Render a scene.  At least one frame is traced. -/
def renderPlan (scene : Scene) (o : Options) (output : String) (frames : UInt32) :
    Except Report Plan := do
  let t ← (Tracer.make scene o).mapError fun e => .failure "Options error" e.message
  let frames := if frames = 0 then 1 else frames
  let gathered ← (t.render frames).mapError fun e => .failure "Render error" e.message
  let image := Image.present gathered o.width.toNat o.height.toNat o.gamma
  .ok (deliverImage image output frames.toNat)

/-- What a command writes and reports, given how files are read. -/
def plan (c : Command) (read : String → Except String String) : Plan :=
  .settled do
    let o ← (c.settings.options read).mapError fun e => .failure "Options error" e.message
    let scene ← c.scene read
    match c with
    | compile _ s | demo _ s => .ok (deliver (scene.compile o) s.output)
    | render _ output s => renderPlan scene o output (s.frames.getD 1)

end Command

end ImplicitScene
