/-!
# Command lines

A command line names a command and gives its arguments. Options may stand anywhere among the
other arguments:

* `--name value` and `--name=value`, or `-n value`, `-nvalue` and `-n=value` for short names;
  short names may be run together, as in `-vv`;
* behind `--` every argument is a plain one, and so is `-` by itself;
* an option that takes one value is given at most once.

`Arguments.read` takes the arguments of one command apart by its `Grammar`;
`Request.read` finds the command and reads the whole line. `-v` is accepted everywhere, and so
are the requests for help and for the version, which end the reading at once.
-/

namespace CodeIndex

/-- Why a command line cannot be read. -/
inductive UsageError where
  | noCommand
  | unknownCommand (name : String)
  | unknownOption (name : String)
  | unexpectedArgument (text : String)
  | missingArguments
  | missingValue (option : String)
  | unexpectedValue (option : String)
  | repeatedOption (option : String)
  | emptyPath
  | invalidNumber (text : String)
deriving DecidableEq, Repr

/-- The wording of a usage error. -/
def UsageError.message : UsageError → String
  | .noCommand => "a command is required"
  | .unknownCommand name => "unknown command " ++ name
  | .unknownOption name => "unknown option " ++ name
  | .unexpectedArgument text => "unexpected argument " ++ text
  | .missingArguments => "required arguments are missing"
  | .missingValue option => "a value is required for " ++ option
  | .unexpectedValue option => "no value is allowed for " ++ option
  | .repeatedOption option => option ++ " is given more than once"
  | .emptyPath => "a path is empty"
  | .invalidNumber text => "not a number: " ++ text

/-! ## Grammars -/

/-- What values an option or a plain argument takes. -/
inductive ValueKind where
  | text
  | path
  | number
deriving DecidableEq, Repr

/-- An option that takes a value. -/
structure OptionRule where
  short : Char
  long : String
  value : ValueKind
  repeatable : Bool
deriving DecidableEq, Repr

/-- The options and plain arguments of a command. -/
structure Grammar where
  options : List OptionRule
  plain : ValueKind
  least : Nat
  most : Option Nat
deriving DecidableEq, Repr

/-- The number below `2 ^ 64` that a text of digits makes; a plus sign may stand in front. -/
def number? (text : String) : Option Nat :=
  let digits :=
    match text.toList with
    | '+' :: rest => rest
    | all => all
  if digits.isEmpty || !digits.all Char.isDigit then none
  else
    let number := digits.foldl (fun acc c => 10 * acc + (c.toNat - '0'.toNat)) 0
    if number < UInt64.size then some number else none

/-- Accepts a value of a kind. -/
def ValueKind.check (kind : ValueKind) (text : String) : Except UsageError Unit :=
  match kind with
  | .text => .ok ()
  | .path => if text.isEmpty then .error .emptyPath else .ok ()
  | .number => if (number? text).isSome then .ok () else .error (.invalidNumber text)

/-- Arguments taken apart: the values of options by their long names, and the plain arguments,
both in the order of the line. -/
structure Arguments where
  options : List (String × String) := []
  plain : List String := []
deriving DecidableEq, Repr

/-- What ends the reading of a line before it is complete. -/
inductive Interruption where
  | help
  | version
  | usage (error : UsageError)
deriving DecidableEq, Repr

namespace Arguments

/-- The values of an option. -/
def valuesOf (arguments : Arguments) (long : String) : List String :=
  (arguments.options.filter (·.1 == long)).map (·.2)

/-- Adds the value of an option. -/
def addOption (arguments : Arguments) (rule : OptionRule) (value : String) :
    Except Interruption Arguments :=
  if !rule.repeatable && !(arguments.valuesOf rule.long).isEmpty then
    .error (.usage (.repeatedOption rule.long))
  else
    match rule.value.check value with
    | .error error => .error (.usage error)
    | .ok () => .ok { arguments with options := arguments.options ++ [(rule.long, value)] }

/-- Adds a plain argument. -/
def addPlain (grammar : Grammar) (arguments : Arguments) (value : String) :
    Except Interruption Arguments :=
  if grammar.most.any (· ≤ arguments.plain.length) then
    .error (.usage (.unexpectedArgument value))
  else
    match grammar.plain.check value with
    | .error error => .error (.usage error)
    | .ok () => .ok { arguments with plain := arguments.plain ++ [value] }

end Arguments

/-! ## Single arguments -/

/-- What an argument asks for: nothing more, or the value of an option, which is attached to
the argument or stands next. -/
inductive Demand where
  | nothing
  | attached (rule : OptionRule) (value : String)
  | next (rule : OptionRule)

/-- What an argument of short names asks for. -/
def shortDemand (options : List OptionRule) : List Char → Except Interruption Demand
  | [] => .ok .nothing
  | c :: rest =>
    if c = 'h' then .error .help
    else if c = 'V' then .error .version
    else if c = 'v' then shortDemand options rest
    else
      match options.find? (·.short == c), rest with
      | none, _ => .error (.usage (.unknownOption (String.ofList ['-', c])))
      | some rule, [] => .ok (.next rule)
      | some rule, '=' :: value => .ok (.attached rule (String.ofList value))
      | some rule, value => .ok (.attached rule (String.ofList value))

/-- What an argument with a long name asks for. -/
def longDemand (options : List OptionRule) (text : List Char) : Except Interruption Demand :=
  let name := String.ofList (text.takeWhile (· != '='))
  let value? := (text.dropWhile (· != '=')).tail?.map String.ofList
  match options.find? (·.long == name), value? with
  | some rule, some value => .ok (.attached rule value)
  | some rule, none => .ok (.next rule)
  | none, some _ =>
    if name ∈ ["help", "version", "verbose"] then .error (.usage (.unexpectedValue name))
    else .error (.usage (.unknownOption name))
  | none, none =>
    if name = "help" then .error .help
    else if name = "version" then .error .version
    else if name = "verbose" then .ok .nothing
    else .error (.usage (.unknownOption name))

/-- What an argument asks for, if it is made of option names; a plain argument is not. -/
def demand? (options : List OptionRule) (argument : String) :
    Option (Except Interruption Demand) :=
  match argument.toList with
  | '-' :: '-' :: text => some (longDemand options text)
  | '-' :: c :: text => some (shortDemand options (c :: text))
  | _ => none

/-! ## Whole lines -/

namespace Arguments

/-- Adds plain arguments. -/
def addAllPlain (grammar : Grammar) (arguments : Arguments) :
    List String → Except Interruption Arguments
  | [] => .ok arguments
  | value :: rest => do
    let arguments ← arguments.addPlain grammar value
    arguments.addAllPlain grammar rest

/-- Takes the arguments of a command apart. -/
def read (grammar : Grammar) (arguments : Arguments) :
    List String → Except Interruption Arguments
  | [] =>
    if arguments.plain.length < grammar.least then .error (.usage .missingArguments)
    else .ok arguments
  | "--" :: rest => do
    let arguments ← arguments.addAllPlain grammar rest
    if arguments.plain.length < grammar.least then .error (.usage .missingArguments)
    else .ok arguments
  | argument :: rest =>
    match demand? grammar.options argument with
    | none => do
      let arguments ← arguments.addPlain grammar argument
      arguments.read grammar rest
    | some (.error interruption) => .error interruption
    | some (.ok .nothing) => arguments.read grammar rest
    | some (.ok (.attached rule value)) => do
      let arguments ← arguments.addOption rule value
      arguments.read grammar rest
    | some (.ok (.next rule)) =>
      match rest with
      | [] => .error (.usage (.missingValue rule.long))
      | value :: rest =>
        if (demand? [] value).isSome then .error (.usage (.missingValue rule.long))
        else do
          let arguments ← arguments.addOption rule value
          arguments.read grammar rest

end Arguments

/-- Finds the command that a line begins with, behind options that are accepted everywhere. -/
def splitCommand : List String → Except Interruption (String × List String)
  | [] => .error (.usage .noCommand)
  | argument :: rest =>
    if argument = "--" then
      match rest with
      | [] => .error (.usage .noCommand)
      | name :: _ => .error (.usage (.unexpectedArgument name))
    else
      match demand? [] argument with
      | none => .ok (argument, rest)
      | some (.error interruption) => .error interruption
      | some (.ok _) => splitCommand rest

end CodeIndex
