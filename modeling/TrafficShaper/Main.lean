import TrafficShaper.Cli.Run

/-! # The program

The command line on a machine: the configuration file is read from the file system, the seed
of the random draws comes from the system's random source, and the two texts of the run are
written to standard output and standard error. The run itself is `commandLine`.
-/

namespace TrafficShaper

/-- The system's error of a failed read, in the run's terms. -/
def IoError.ofSystem : IO.Error → IoError
  | .noFileOrDirectory .. => .notFound
  | .inappropriateType _ code details =>
    if code = 21 then .isDirectory else if code = 20 then .notDirectory else .other code.toNat details
  | .invalidArgument _ code details =>
    if code = 36 then .nameTooLong else if code = 40 then .tooManyLinks else .other code.toNat details
  | .permissionDenied _ code details => .other code.toNat details
  | .resourceExhausted _ code details => .other code.toNat details
  | .otherError code details => .other code.toNat details
  | e => .other 0 (toString e)

/-- The text of a file, or the system's error. -/
def readText (path : String) : IO (Except IoError String) := do
  try
    let bytes ← IO.FS.readBinFile path
    match String.fromUTF8? bytes with
    | some text => pure (.ok text)
    | none => pure (.error .invalidText)
  catch e => pure (.error (IoError.ofSystem e))

/-- A seed from the system's random source. -/
def freshSeed : IO UInt64 := do
  let bytes ← IO.getRandomBytes 8
  pure (bytes.foldl (fun acc b => (acc <<< 8) ||| b.toUInt64) 0)

/-- **The program**: the configuration file read, the run, its texts written; the exit status. -/
def runProgram (args : List String) : IO UInt32 := do
  let file ← match args[0]? with
    | some path => if path = "-" then pure none else some <$> readText path
    | none => pure none
  let read : FileReader := fun _ => file.getD (.error .notFound)
  let x := commandLine read args (← freshSeed)
  IO.print x.stdout
  IO.eprint x.stderr
  pure x.status.toUInt32

end TrafficShaper

/-- Runs the command line with the process's arguments. -/
def main (args : List String) : IO UInt32 := TrafficShaper.runProgram args
