import CalculatorTrials.CommandLine.Command

/-!
# Arguments of the command line

The first argument names a command and the others are its options, each with a
value and each at most once. A value follows its option as the next argument or
behind an equals sign; behind the short name of the count it may follow at once.
-/

namespace CalculatorTrials

/-- What the arguments ask for. -/
inductive Request where
  | version
  | perform (command : Command)
  deriving DecidableEq, Repr

/-- An option of a command. -/
inductive CommandOption where
  | count
  | seed
  | maxDepth
  | testFile
  | expectFile
  | resultsFile
  deriving DecidableEq, Repr

namespace CommandOption

/-- The long name of an option. -/
def name : CommandOption → String
  | count => "--count"
  | seed => "--seed"
  | maxDepth => "--max-depth"
  | testFile => "--test-file"
  | expectFile => "--expect-file"
  | resultsFile => "--results-file"

/-- The file that an option names unless it is given. -/
def defaultFile : CommandOption → String
  | testFile => "autogentest.tc"
  | expectFile => "pcalc.expect"
  | resultsFile => "pcalc.out"
  | count | seed | maxDepth => ""

end CommandOption

/-- Options with their values. -/
abbrev GivenOptions := List (CommandOption × String)

namespace GivenOptions

/-- The part of an argument in front of the first equals sign, and the part
behind it if there is one. -/
def splitEquals : List Char → List Char × Option (List Char)
  | [] => ([], none)
  | character :: rest =>
      if character = '=' then ([], some rest)
      else
        let (before, behind) := splitEquals rest
        (character :: before, behind)

/-- The option that an argument names, with its value if it holds one. -/
def name?
    (allowed : List CommandOption)
    (argument : String) : Option (CommandOption × Option String) :=
  match argument.toList with
  | '-' :: 'c' :: value =>
      if allowed.contains .count then
        match value with
        | [] => some (.count, none)
        | '=' :: value => some (.count, some (String.ofList value))
        | value => some (.count, some (String.ofList value))
      else none
  | characters => do
      let (name, value) := splitEquals characters
      let option ← allowed.find? (·.name == String.ofList name)
      return (option, value.map String.ofList)

/-- Whether an argument can be a value. A dash starts an option unless it
stands alone. -/
def isValue (argument : String) : Bool :=
  argument.toList.head? != some '-' || argument == "-"

/-- Add an option, which must be new. -/
def insert?
    (given : GivenOptions)
    (option : CommandOption)
    (value : String) : Option GivenOptions :=
  if given.any (·.1 == option) then none else some ((option, value) :: given)

/-- The options that arguments give. Two dashes end them. -/
def parse?
    (allowed : List CommandOption)
    (given : GivenOptions) : List String → Option GivenOptions
  | [] => some given
  | argument :: rest =>
      if argument = "--" then if rest.isEmpty then some given else none
      else
        match name? allowed argument, rest with
        | none, _ => none
        | some (option, some value), rest => do
            parse? allowed (← given.insert? option value) rest
        | some (option, none), value :: rest =>
            if isValue value then do
              parse? allowed (← given.insert? option value) rest
            else none
        | some (_, none), [] => none

/-- An unsigned 64-bit number, possibly with a plus sign. -/
def number? (text : String) : Option Nat := do
  let digits := match text.toList with
    | '+' :: digits => digits
    | digits => digits
  guard (!digits.isEmpty)
  let number ← digits.foldlM (fun number character => do
    guard character.isDigit
    return 10 * number + (character.toNat - '0'.toNat)) 0
  guard (number < UInt64.size)
  return number

/-- The number given for an option, if any. -/
def number
    (given : GivenOptions)
    (option : CommandOption) : Option (Option Nat) :=
  match given.lookup option with
  | none => some none
  | some text => (number? text).map some

/-- The file given for an option. -/
def file (given : GivenOptions) (option : CommandOption) : Option String :=
  match given.lookup option with
  | none => some option.defaultFile
  | some path => if path.isEmpty then none else some path

/-- The settings for making test cases. -/
def generation (given : GivenOptions) : Option Generation := do
  let defaults : Generator := {}
  return {
    count := (← given.number .count).getD defaultCount
    seed := (← given.number .seed).map Nat.toUInt64
    maxDepth := (← given.number .maxDepth).getD defaults.maxDepth }

end GivenOptions

namespace Command

/-- The command with a name and arguments. -/
def parse? (name : String) (arguments : List String) : Option Command :=
  match name with
  | "generate" => do
      let given ← GivenOptions.parse? [.count, .seed, .maxDepth, .testFile] []
        arguments
      return generate (← given.generation) (← given.file .testFile)
  | "expects" => do
      let given ← GivenOptions.parse? [.testFile, .expectFile] [] arguments
      return expects (← given.file .testFile) (← given.file .expectFile)
  | "both" => do
      let given ← GivenOptions.parse?
        [.count, .seed, .maxDepth, .testFile, .expectFile] [] arguments
      return both (← given.generation) (← given.file .testFile)
        (← given.file .expectFile)
  | "check" => do
      let given ← GivenOptions.parse? [.expectFile, .resultsFile] [] arguments
      return check (← given.file .expectFile) (← given.file .resultsFile)
  | _ => none

end Command

namespace Request

/-- The answer to a request for the version. -/
def versionText : String := "pcalc-autogen 0.1.0\n"

/-- What arguments ask for, if they make sense. -/
def parse? : List String → Option Request
  | [] => none
  | first :: rest =>
      if first = "--version" ∨ "-V".toList.isPrefixOf first.toList then
        some version
      else (Command.parse? first rest).map perform

end Request
end CalculatorTrials
