import ImplicitScene.Command.Folder

/-!
# The program

The command line with real files.
-/

namespace ImplicitScene

/-- What is in the way of a file operation, if that is known. -/
def fileError? : IO.Error → Option FileError
  | .noFileOrDirectory .. => some .missing
  | .inappropriateType _ code _ => some (if code = 21 then .isDirectory else .notDirectory)
  | _ => none

/-- The reason why a file operation failed. -/
def failureReason (e : IO.Error) : String := ((fileError? e).map FileError.message).getD (toString e)

/-- The text of a file.  A directory, and what is not text, reads as the empty text. -/
def readText (path : String) : IO (Except String String) := do
  try
    let bytes ← IO.FS.readBinFile path
    return .ok ((String.fromUTF8? bytes).getD "")
  catch e =>
    match fileError? e with
    | some .isDirectory => return .ok ""
    | _ => return .error (failureReason e)

/-- Print a report. -/
def printReport (r : Report) : IO UInt32 := do
  IO.print r.out
  IO.eprint r.err
  return r.code

/-- Carry out a plan with real files. -/
def carryOut : Plan → IO UInt32
  | .report r => printReport r
  | .write path content after => do
      let failed ← do
        try
          IO.FS.writeBinFile path content.bytes.toByteArray
          pure none
        catch e => pure (some (failureReason e))
      match failed with
      | none => printReport after
      | some reason => printReport (.unwritten reason)

end ImplicitScene

open ImplicitScene in
/-- Run a command line. -/
def main (words : List String) : IO UInt32 := do
  match Command.parse words with
  | .error stop => printReport stop.report
  | .ok c =>
      let contents ← c.files.mapM fun path => do return (path, ← readText path)
      carryOut (c.plan fun path => (contents.lookup path).getD (.error FileError.missing.message))
