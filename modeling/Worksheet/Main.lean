import Worksheet.CommandLine.Run

/-!
# The command line program

Reads the file that the command names, runs the command, prints what it leaves and sets the exit
code: 0 for success, 1 for trouble and 2 for a command line that makes no sense.
-/

open Worksheet.CommandLine

/-- The text of a file, if it can be read. -/
def readText? (path : String) : IO (Option String) :=
  try return some (← IO.FS.readFile path) catch _ => return none

/-- Runs a command with its output and its exit code. -/
def perform (command : Command) : IO UInt32 := do
  let contents ← match command.file? with
    | some path => readText? path
    | none => pure none
  let outcome := command.run contents
  IO.print outcome.output
  if let some trouble := outcome.trouble then
    IO.eprintln trouble.report
  return outcome.code

/-- The program. -/
def main (args : List String) : IO UInt32 := do
  match Command.ofWords? args with
  | some command => perform command
  | none =>
    IO.eprintln usageLine
    return usageCode
