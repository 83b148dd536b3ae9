import NodeDevices.Text.Decimal
import NodeDevices.Text.LetterCase
import NodeDevices.Text.Substring
/-! The options of a command: how they are written, what their values must look like, and
where a value comes from that is not given. A value is checked when the next argument is
read, so that an unknown argument right after it is found first.
-/

namespace NodeDevices.CommandLine

/-- Why arguments are not a command to carry out. -/
inductive UsageError where
  | helpAsked
  | versionAsked
  | nothingGiven
  | unknownCommand
  | unknownArgument
  | missingValue
  | badValue
  | surplusValue
  | repeated
  | missingRequired
  deriving DecidableEq, Repr

/-- The text of an error. -/
def UsageError.message : UsageError → String
  | .helpAsked => "help is asked for"
  | .versionAsked => "the version is asked for"
  | .nothingGiven => "a command is missing"
  | .unknownCommand => "there is no such command"
  | .unknownArgument => "there is an unexpected argument"
  | .missingValue => "an option has no value"
  | .badValue => "an option has an invalid value"
  | .surplusValue => "an option that takes no value has one"
  | .repeated => "an option is given more than once"
  | .missingRequired => "a required option is missing"

/-- What the value of an option must look like. -/
inductive ValueKind where
  | text
  | path
  | number
  | truth
  deriving DecidableEq, Repr

/-- The value of an option. -/
inductive Value where
  | text (value : String)
  | number (value : UInt64)
  | truth (value : Bool)
  deriving DecidableEq, Repr

/-- An option. One without a kind of value is a flag. Where it is not given, a variable of
the environment and then a fallback give its value, as far as it has them.
-/
structure Spec where
  name : String
  kind : Option ValueKind := none
  variableName : Option String := none
  fallback : Option String := none
  /-- What the option means, in a line of help. -/
  help : String := ""
  deriving DecidableEq, Repr

/-- The words for yes. -/
def trueWords : List String := ["y", "yes", "t", "true", "on", "1"]

/-- The words for no. -/
def falseWords : List String := ["n", "no", "f", "false", "off", "0"]

/-- Reads a word for yes or no, in any case of letters. -/
def truth? (text : String) : Option Bool :=
  let word := String.ofList (Text.LetterCase.lower text.toList)
  if word ∈ trueWords then some true else if word ∈ falseWords then some false else none

/-- Reads a number of 64 bits, which may have a plus sign. -/
def number? (text : String) : Option UInt64 :=
  match Text.Decimal.nat? ((Text.dropStart? ['+'] text.toList).getD text.toList) with
  | some n => if n < UInt64.size then some (UInt64.ofNat n) else none
  | none => none

/-- Reads a value of a kind. -/
def ValueKind.read (kind : ValueKind) (text : String) : Except UsageError Value :=
  match kind with
  | .text => .ok (.text text)
  | .path => if text = "" then .error .missingValue else .ok (.text text)
  | .number => ((number? text).map fun n => Except.ok (.number n)).getD (.error .badValue)
  | .truth => ((truth? text).map fun b => Except.ok (.truth b)).getD (.error .badValue)

/-- The values of options, by their names. -/
abbrev Values := List (String × Value)

/-- The text given for an option. -/
def Values.text? (values : Values) (name : String) : Option String :=
  match values.lookup name with
  | some (.text value) => some value
  | _ => none

/-- The number given for an option. -/
def Values.number? (values : Values) (name : String) : Option UInt64 :=
  match values.lookup name with
  | some (.number value) => some value
  | _ => none

/-- Says whether an option is given as true. -/
def Values.isTrue (values : Values) (name : String) : Bool :=
  values.lookup name = some (.truth true)

/-- How an argument is written. -/
inductive Argument where
  /-- Two dashes, after which everything is a value. -/
  | escape
  | long (name : String) (value : Option String)
  | short (letter : Char)
  | plain (text : String)
  deriving DecidableEq, Repr

/-- The argument that a text is. -/
def Argument.ofText (text : String) : Argument :=
  match text.toList with
  | ['-', '-'] => .escape
  | '-' :: '-' :: rest =>
      let name := String.ofList (rest.takeWhile (· ≠ '='))
      match rest.dropWhile (· ≠ '=') with
      | _ :: value => .long name (some (String.ofList value))
      | [] => .long name none
  | '-' :: letter :: _ => .short letter
  | _ => .plain text

/-- What reading has come to: the values so far, and the option whose value comes next or is
still to be checked.
-/
structure Reading where
  values : Values := []
  pending : Option (Spec × Option String) := none

namespace Reading

/-- Takes the value of an option, which is given only once. -/
def accept (reading : Reading) (spec : Spec) (value : Except UsageError Value)
    : Except UsageError Reading :=
  if (reading.values.lookup spec.name).isSome then .error .repeated
  else value.map fun value => { reading with values := (spec.name, value) :: reading.values }

/-- Checks the value of the last option. -/
def settle (reading : Reading) : Except UsageError Reading :=
  match reading.pending with
  | none => .ok reading
  | some (_, none) => .error .missingValue
  | some (spec, some text) =>
      { reading with pending := none }.accept spec ((spec.kind.getD .text).read text)

/-- Reads the arguments of a command with the given options. -/
def arguments (specs : List Spec) : List String → Reading → Except UsageError Reading
  | [], reading => reading.settle
  | text :: rest, reading =>
      match Argument.ofText text with
      | .escape => if rest = [] then reading.settle else .error .unknownArgument
      | .short letter =>
          if letter = 'h' then reading.settle.bind fun _ => .error .helpAsked
          else .error .unknownArgument
      | .plain value =>
          match reading.pending with
          | some (spec, none) =>
              arguments specs rest { reading with pending := some (spec, some value) }
          | _ => .error .unknownArgument
      | .long name value =>
          if name = "help" then
            if value.isSome then .error .surplusValue
            else reading.settle.bind fun _ => .error .helpAsked
          else
            match specs.find? (·.name = name) with
            | none => .error .unknownArgument
            | some spec =>
                match spec.kind, value with
                | none, some _ => .error .surplusValue
                | none, none => do
                    arguments specs rest
                      (← (← reading.settle).accept spec (.ok (.truth true)))
                | some kind, some text => do
                    arguments specs rest (← (← reading.settle).accept spec (kind.read text))
                | some _, none => do
                    arguments specs rest { ← reading.settle with pending := some (spec, none) }

/-- Takes the values of options that are not given from where the options say. -/
def complete (source : Spec → Option String) : List Spec → Reading → Except UsageError Reading
  | [], reading => .ok reading
  | spec :: rest, reading =>
      match reading.values.lookup spec.name, source spec with
      | none, some text => do
          complete source rest (← reading.accept spec ((spec.kind.getD .text).read text))
      | _, _ => complete source rest reading

end Reading

/-- The values of a command's options. -/
def readValues (specs : List Spec) (environment : List (String × String))
    (texts : List String) : Except UsageError Values := do
  let given ← Reading.arguments specs texts {}
  let fromEnvironment (spec : Spec) := spec.variableName.bind fun name => environment.lookup name
  let found ← Reading.complete fromEnvironment specs given
  return (← Reading.complete Spec.fallback specs found).values

end NodeDevices.CommandLine
