import ControlQuery.CPath.Meaning
import ControlQuery.CommandLine.Options

/-!
# Arguments of the command line

The arguments are read from left to right. An option may be given by its long name or by a letter,
letters may be written together, and a value stands behind an equals sign or in the next argument.
Two dashes end the options. The first argument that makes no sense ends the reading, and so does a
request for help or for the version.
-/

namespace ControlQuery.CommandLine

/-- An option without a value. -/
inductive Flag where
  | first
  | count
  | compact
  | noDisplay
  | noPath
  | explain
  | verbose
  | quiet
  | help
  | version
deriving DecidableEq, Repr

/-- An option with a value. -/
inductive Parameter where
  | format
  | maxNesting
  | outputDirectory
deriving DecidableEq, Repr

/-- An option. -/
inductive Key where
  | flag (f : Flag)
  | parameter (p : Parameter)
deriving DecidableEq, Repr

namespace Key

/-- The name of an option behind two dashes. -/
def long : Key → String
  | flag .first => "first"
  | flag .count => "count"
  | flag .compact => "compact"
  | flag .noDisplay => "no-display"
  | flag .noPath => "no-path"
  | flag .explain => "explain"
  | flag .verbose => "verbose"
  | flag .quiet => "quiet"
  | flag .help => "help"
  | flag .version => "version"
  | parameter .format => "format"
  | parameter .maxNesting => "max-nesting"
  | parameter .outputDirectory => "output-dir"

/-- The letter of an option behind one dash, if it has one. -/
def short? : Key → Option Char
  | flag .noDisplay => some 'n'
  | flag .verbose => some 'v'
  | flag .quiet => some 'q'
  | flag .help => some 'h'
  | flag .version => some 'V'
  | parameter .format => some 'f'
  | parameter .outputDirectory => some 'o'
  | _ => none

end Key

/-- A command that arguments are read for. -/
structure Level where
  keys : List Key
  subcommands : List String := []
  /-- For each argument that is neither option nor subcommand, whether it will do. -/
  words : List (String → Bool) := []

/-- The options that all commands have. -/
def commonKeys : List Key :=
  [.flag .verbose, .flag .quiet, .flag .help]

namespace Level

/-- The program itself: a query and a file, or a subcommand. -/
def search : Level where
  keys := commonKeys ++
    [.flag .version, .flag .first, .flag .count, .flag .compact, .flag .noDisplay, .flag .noPath,
      .flag .explain, .parameter .format, .parameter .maxNesting]
  subcommands := ["generate"]
  words := [fun _ => true, fun path => !path.isEmpty]

/-- The subcommand that writes what goes with the program. -/
def generate : Level where
  keys := commonKeys
  subcommands := ["shell", "man", "help"]

/-- The subcommand that writes manual pages. -/
def manual : Level where
  keys := .parameter .outputDirectory :: commonKeys

/-- The subcommand that writes completions for a shell. -/
def completions : Level where
  keys := commonKeys
  words := [fun name => (Shell.ofName? name).isSome]

end Level

/-- What has been read of the arguments of a command. -/
structure Seen where
  flags : List Flag := []
  format : Option SnapshotFormat := none
  maxNesting : Option Count := none
  outputDirectory : Option String := none
  words : List String := []
  /-- An option whose value is still to come. -/
  pending : Option Parameter := none
  /-- Whether two dashes have ended the options. -/
  onlyWords : Bool := false

/-- The count that a text writes, with an optional plus sign. -/
def countOfText? (text : String) : Option Count :=
  let digits := match text.toList with
    | '+' :: cs => cs
    | cs => cs
  if !digits.isEmpty && digits.all Char.isDigit then CPath.count? (String.ofList digits) else none

namespace Seen

/-- Whether nothing has been given. -/
def isEmpty (s : Seen) : Bool :=
  s.flags.isEmpty && s.words.isEmpty && s.format.isNone && s.maxNesting.isNone &&
    s.outputDirectory.isNone

/-- Whether two options exclude each other. -/
def conflicts (s : Seen) : Bool :=
  s.flags.contains .verbose && s.flags.contains .quiet

/-- Takes an option without a value. Only the ones for the amount of messages may be repeated. -/
def withFlag (s : Seen) (f : Flag) : Except Halt Seen :=
  match f with
  | .help => .error .help
  | .version => .error .version
  | f =>
    if s.flags.contains f && f != .verbose && f != .quiet then .error .usage
    else .ok { s with flags := f :: s.flags }

/-- Takes the value of an option, which is given once at most. -/
def withValue (s : Seen) (p : Parameter) (value : String) : Except Halt Seen :=
  let s := { s with pending := none }
  match p with
  | .format =>
    match s.format, SnapshotFormat.ofName? value with
    | none, some format => .ok { s with format := some format }
    | _, _ => .error .usage
  | .maxNesting =>
    match s.maxNesting, countOfText? value with
    | none, some n => .ok { s with maxNesting := some n }
    | _, _ => .error .usage
  | .outputDirectory =>
    match s.outputDirectory, value.isEmpty with
    | none, false => .ok { s with outputDirectory := some value }
    | _, _ => .error .usage

/-- Takes an argument that is no option. -/
def withWord (s : Seen) (level : Level) (word : String) : Except Halt Seen :=
  match level.words[s.words.length]? with
  | some isFit =>
    if isFit word then .ok { s with words := s.words ++ [word] } else .error .usage
  | none => .error .usage

/-- Takes letters behind a dash. -/
def withLetters (s : Seen) (level : Level) : List Char → Except Halt Seen
  | [] => .ok s
  | c :: cs =>
    match level.keys.find? fun key => key.short? == some c with
    | none => .error .usage
    | some (.flag f) => do (← s.withFlag f).withLetters level cs
    | some (.parameter p) =>
      match cs with
      | [] => .ok { s with pending := some p }
      | '=' :: value => s.withValue p (String.ofList value)
      | value => s.withValue p (String.ofList value)

/-- Takes a long name, and the value behind an equals sign if there is one. -/
def withName (s : Seen) (level : Level) (name : List Char) : Except Halt Seen :=
  let key := String.ofList (name.takeWhile (· != '='))
  let value := match name.dropWhile (· != '=') with
    | _ :: value => some (String.ofList value)
    | [] => none
  match level.keys.find? fun k => k.long == key, value with
  | some (.flag f), none => s.withFlag f
  | some (.parameter p), some value => s.withValue p value
  | some (.parameter p), none => .ok { s with pending := some p }
  | _, _ => .error .usage

/-- Takes an argument. -/
def take (s : Seen) (level : Level) (argument : String) : Except Halt Seen :=
  if s.onlyWords then s.withWord level argument
  else
    let isOption := argument.startsWith "-" && argument != "-"
    match s.pending with
    | some p => if isOption then .error .usage else s.withValue p argument
    | none =>
      match argument.toList with
      | ['-', '-'] => .ok { s with onlyWords := true }
      | '-' :: '-' :: name => s.withName level name
      | '-' :: letters => if isOption then s.withLetters level letters else s.withWord level argument
      | _ => s.withWord level argument

end Seen

/-- Reads the arguments of a command up to a subcommand, and gives its name and what stands behind
it. -/
def Level.read (level : Level) (s : Seen) :
    List String → Except Halt (Seen × Option (String × List String))
  | [] => if s.pending.isSome then .error .usage else .ok (s, none)
  | argument :: rest =>
    if level.subcommands.contains argument && s.pending.isNone && !s.onlyWords then
      .ok (s, some (argument, rest))
    else do level.read (← s.take level argument) rest

/-- The search that arguments ask for. -/
def Seen.searchOptions (s : Seen) : SearchOptions where
  query := s.words[0]?
  input := s.words[1]?
  format := s.format
  first := s.flags.contains .first
  count := s.flags.contains .count
  compact := s.flags.contains .compact
  noDisplay := s.flags.contains .noDisplay
  noPath := s.flags.contains .noPath
  explain := s.flags.contains .explain
  maxNesting := s.maxNesting.getD 32

/-- Reads arguments that no subcommand may follow. -/
def Level.readAll (level : Level) (arguments : List String) : Except Halt Seen := do
  let (s, _) ← level.read {} arguments
  if s.conflicts then throw .usage
  return s

/-- Reads the arguments of the subcommand that writes what goes with the program. -/
def generated (arguments : List String) : Except Halt Invocation := do
  let (s, sub) ← Level.generate.read {} arguments
  let invocation ← match sub with
    | some ("man", rest) => do
      let m ← Level.manual.readAll rest
      pure (.manual m.outputDirectory)
    | some ("shell", rest) => do
      let c ← Level.completions.readAll rest
      match c.words[0]?.bind Shell.ofName? with
      | some shell => pure (.completions shell)
      | none => throw .usage
    | some _ => throw .help
    | none => throw .usage
  if s.conflicts then throw .usage
  return invocation

/-- What arguments ask for. -/
def Invocation.ofArguments (arguments : List String) : Except Halt Invocation := do
  let (s, sub) ← Level.search.read {} arguments
  let invocation ← match sub with
    | some (_, rest) => generated rest
    | none => pure (.search s.searchOptions)
  if s.conflicts || (sub.isNone && s.isEmpty) then throw .usage
  return invocation

end ControlQuery.CommandLine
