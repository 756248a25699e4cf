import SqlGate.Text.Case

namespace SqlGate
namespace Cli

/-!
# Argument lists

An argument list is read from the left on one level: the program has one, and
each of its commands.  A level knows options, commands and how many plain
arguments it takes.  An option that takes a value has it attached or takes the
next argument that does not look like an option; what it took is settled when
the next option or plain argument comes, so a repetition is found only then.
Behind `--` all arguments are plain.
-/

/-- Why an argument list gives no settings. -/
inductive ArgumentFault where
  /-- Nothing was asked for. -/
  | displayHelpOnMissingArgumentOrSubcommand
  /-- The usage was asked for. -/
  | displayHelp
  /-- The version was asked for. -/
  | displayVersion
  /-- An argument is not known or one too many. -/
  | unknownArgument
  /-- A command is not known. -/
  | invalidSubcommand
  /-- There is no command. -/
  | missingSubcommand
  /-- An argument that is needed is not there. -/
  | missingRequiredArgument
  /-- An option is there twice. -/
  | argumentConflict
  /-- An option has no value, or one that it does not take. -/
  | invalidValue
  /-- An option without values has one. -/
  | tooManyValues
deriving DecidableEq, Repr

/-- An option. -/
inductive OptionName where
  | database
  | logLevel
  | jsonLogs
  | param
  | help
  | version
deriving DecidableEq, Repr

/-- How an option is written and used. -/
structure OptionSpec where
  /-- Which option it is. -/
  name : OptionName
  /-- Its word behind two hyphens. -/
  long : String
  /-- Its letter behind one hyphen. -/
  short : Option Char := none
  takesValue : Bool := false
  /-- Whether it may be there more than once. -/
  isRepeatable : Bool := false
deriving DecidableEq, Repr

/-- What is known on one level. -/
structure Level where
  options : List OptionSpec
  commands : List String := []
  /-- How many plain arguments it takes. -/
  plainCount : Nat := 0
deriving Repr

/-- How far a list has been read. -/
structure Scan where
  /-- The options that are settled, in order, with their values. -/
  settled : List (OptionName × String) := []
  /-- The option that came last, if it is not settled, with its value if it has one already. -/
  pending : Option (OptionSpec × Option String) := none
  /-- The plain arguments, in order. -/
  plain : List String := []
  /-- Whether all that follows is plain. -/
  isTrailing : Bool := false
deriving Repr

namespace Scan

def has (scan : Scan) (name : OptionName) : Bool :=
  scan.settled.any fun entry => entry.1 == name

def values (scan : Scan) (name : OptionName) : List String :=
  (scan.settled.filter fun entry => entry.1 == name).map Prod.snd

/-- Add an option with its value; most options may be there only once. -/
def add (scan : Scan) (spec : OptionSpec) (value : String) : Except ArgumentFault Scan :=
  if scan.has spec.name && !spec.isRepeatable then .error .argumentConflict
  else .ok { scan with settled := scan.settled ++ [(spec.name, value)] }

/-- Settle the option that came last. -/
def settle (scan : Scan) : Except ArgumentFault Scan :=
  match scan.pending with
  | none => .ok scan
  | some (_, none) => .error .invalidValue
  | some (spec, some value) => { scan with pending := none }.add spec value

/-- Whether the next argument is the value of an option. -/
def isAwaiting (scan : Scan) : Bool :=
  match scan.pending with
  | some (_, none) => true
  | _ => false

def takeAttached (scan : Scan) (spec : OptionSpec) (value : String) :
    Except ArgumentFault Scan := do
  (<- scan.settle).add spec value

/-- Take an option whose value is to follow. -/
def takeOpen (scan : Scan) (spec : OptionSpec) : Except ArgumentFault Scan := do
  return { (<- scan.settle) with pending := some (spec, none) }

def takeFlag (scan : Scan) (spec : OptionSpec) : Except ArgumentFault Scan := do
  let scan <- scan.settle
  match spec.name with
  | .help => .error .displayHelp
  | .version => .error .displayVersion
  | _ => scan.add spec "true"

/-- Take an option that is written with its word. -/
def takeLong (level : Level) (scan : Scan) (word : String) (value : Option String) :
    Except ArgumentFault Scan :=
  match level.options.find? fun spec => spec.long == word with
  | none => .error .unknownArgument
  | some spec =>
      match spec.takesValue, value with
      | true, some value => scan.takeAttached spec value
      | true, none => scan.takeOpen spec
      | false, some _ => .error .tooManyValues
      | false, none => scan.takeFlag spec

/-- The value attached to a letter, in front of which a `=` may stand. -/
def attachedValue : List Char -> Option String
  | [] => none
  | '=' :: rest => some (String.ofList rest)
  | rest => some (String.ofList rest)

/-- Take options that are written with letters, of which the last may have a value. -/
def takeShort (level : Level) (scan : Scan) : List Char -> Except ArgumentFault Scan
  | [] => .ok scan
  | letter :: rest =>
      match level.options.find? fun spec => spec.short == some letter with
      | none => .error .unknownArgument
      | some spec =>
          if spec.takesValue then
            match attachedValue rest with
            | some value => scan.takeAttached spec value
            | none => scan.takeOpen spec
          else do takeShort level (<- scan.takeFlag spec) rest

def excessFault (level : Level) (scan : Scan) (argument : String) : ArgumentFault :=
  if scan.isTrailing && level.commands.contains argument then .unknownArgument
  else if level.commands.isEmpty then .unknownArgument
  else .invalidSubcommand

def takePlain (level : Level) (scan : Scan) (argument : String) : Except ArgumentFault Scan := do
  if scan.plain.length < level.plainCount then
    let scan <- scan.settle
    return { scan with plain := scan.plain ++ [argument] }
  else .error (scan.excessFault level argument)

/-- Take an argument that does not look like an option. -/
def takeWord (level : Level) (scan : Scan) (argument : String) : Except ArgumentFault Scan :=
  match scan.pending with
  | some (spec, none) => .ok { scan with pending := some (spec, some argument) }
  | _ => scan.takePlain level argument

/-- Take an argument that is not a command. -/
def take (level : Level) (scan : Scan) (argument : String) : Except ArgumentFault Scan :=
  if scan.isTrailing then scan.takePlain level argument
  else
    match argument.toList with
    | ['-', '-'] => .ok { scan with isTrailing := true }
    | '-' :: '-' :: rest =>
        let word := rest.takeWhile (· != '=')
        scan.takeLong level (String.ofList word)
          (if word.length < rest.length then some (String.ofList (rest.drop (word.length + 1)))
            else none)
    | '-' :: letter :: rest => scan.takeShort level (letter :: rest)
    | _ => scan.takeWord level argument

/-- Read a list up to its end or to a command, which is told with what follows it. -/
def run (level : Level) (scan : Scan) :
    List String -> Except ArgumentFault (Scan × Option (String × List String))
  | [] => .ok (scan, none)
  | argument :: rest =>
      if !scan.isTrailing && !scan.isAwaiting && level.commands.contains argument then
        .ok (scan, some (argument, rest))
      else do run level (<- scan.take level argument) rest

end Scan
end Cli
end SqlGate
