import ControlQuery.CommandLine.Session
import ControlQuery.CommandLine.Standard
import ControlQuery.Regex.Standard
import ControlQuery.Snapshot.Standard

/-!
# The program

Reads what a run needs, and prints what it comes to.
-/

namespace ControlQuery.CommandLine

/-- The result of an action, unless it fails. -/
def succeeding {α : Type} (action : IO α) : IO (Option α) := do
  try
    return some (← action)
  catch _ =>
    return none

/-- All of standard input. -/
def allInput : IO String := do
  match String.fromUTF8? (← (← IO.getStdin).readBinToEnd) with
  | some text => return text
  | none => throw (IO.userError "stream did not contain valid UTF-8")

/-- The text of a snapshot. -/
def Source.read : Source → IO (Option String)
  | .standardInput => succeeding allInput
  | .file path => succeeding (IO.FS.readFile path)

/-- Reports a failure and gives the exit code. -/
def report (message : String) (cause : Option String) : IO UInt32 := do
  IO.eprintln s!"Error: {message}"
  if let some reason := cause then
    IO.eprintln s!"\nCaused by:\n    {reason}"
  return 1

/-- Prints a text that starts with a line or with the report of a match, and gives the exit code. -/
def print (start : Report.Output) (text : String) : IO UInt32 := do
  try
    let stdout ← IO.getStdout
    stdout.putStr text
    stdout.flush
    return 0
  catch error =>
    let fault : Report.WriteFault := match error with
      | .resourceVanished .. => .closedPipe
      | _ => .other
    match fault.message? start with
    | some message => report message (some (toString error))
    | none => return 0

/-- Ends a run and gives the exit code. -/
def conclude (start : Report.Output) : Outcome → IO UInt32
  | .misused => do
    IO.eprint usage
    return 2
  | .printed text => print start text
  | .failed failure => report failure.message failure.cause?

/-- Writes the manual pages to a directory, by default the current one. -/
def writeManual (outputDirectory : Option String) : IO Outcome := do
  let current := (← IO.getEnv "PWD").getD "."
  let directory := outputDirectory.getD current
  if (← succeeding (IO.FS.createDirAll directory)).isNone then
    return .failed (.failedManual (.directory directory))
  for (page, command) in program.pages do
    let path := Manual.path directory page
    if (← succeeding (IO.FS.writeFile path (Interface.manualPage command))).isNone then
      return .failed (.failedManual (.page path))
  return .printed (writtenPages (Manual.paths program directory))

/-- Prints what a session has written, reports its failure if there is one, and gives the exit
code. -/
def finish (start : Report.Output) (s : Session Unit) : IO UInt32 := do
  let (result, journal) := s.result
  match result with
  | .ok () => print start journal.written
  | .error failure =>
    unless journal.written.isEmpty do
      discard (print start journal.written)
    report failure.message failure.cause?

/-- Runs a search. Without a file and with nobody to write a snapshot there is only help. -/
def search (options : SearchOptions) : IO UInt32 := do
  let start : Report.Output := if options.explain || options.count then .line else .report
  let source? := options.source?
  if source? = some .standardInput then
    if ← (← IO.getStdin).isTty then
      return ← conclude start (.ofHalt .help)
  let text ← match source? with
    | some source => source.read
    | none => pure none
  let colours := wantsColour (← IO.getEnv "CLICOLOR_FORCE") (← IO.getEnv "NO_COLOR")
    (← IO.getEnv "CLICOLOR") (← (← IO.getStdout).isTty)
  finish start (options.session (fun _ => text) colours)

end ControlQuery.CommandLine

open ControlQuery.CommandLine in
/-- Runs the program with the arguments of its command line. -/
def main (arguments : List String) : IO UInt32 := do
  match Interface.read arguments with
  | .error halt => conclude .line (.ofHalt halt)
  | .ok (.completions shell) => conclude .line (.printed (Interface.completions shell))
  | .ok (.manual outputDirectory) => conclude .line (← writeManual outputDirectory)
  | .ok (.search options) => search options
