import DocForm.CommandLine.Run

/-! The program: it reads the files that its arguments name and prints what comes of
them. -/

open DocForm.CommandLine

def readFile? (path : String) : IO (Option String) := do
  try
    return some (← IO.FS.readFile path)
  catch _ =>
    return none

def main (arguments : List String) : IO UInt32 := do
  let files ← (filesOf arguments).mapM fun path => do return (path, ← readFile? path)
  let outcome := run (fun path => (files.lookup path).join) arguments
  IO.print outcome.stdout
  for complaint in outcome.complaints do
    IO.eprintln complaint
  return UInt32.ofNat outcome.code
