import PathTemplate.CommandLine.Run

/-! # The program

Reads the file that the command line names, and prints what the command answers. -/

open PathTemplate CommandLine

/-- The bytes of a file. -/
def readFile (path : String) : IO (Except FileFault ByteArray) := do
  try
    return .ok (← IO.FS.readBinFile path)
  catch
    | .noFileOrDirectory .. => return .error .missing
    | e => return .error (.other (toString e))

def main (arguments : List String) : IO UInt32 := do
  let file ← match parse arguments with
    | .ok i => readFile i.config
    | .error _ => pure (.error .missing)
  let exit := run (fun _ => file) arguments
  (← IO.getStdout).putStr exit.output
  (← IO.getStderr).putStr exit.report
  return exit.code.toUInt32
