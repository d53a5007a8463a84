import CodeIndex.Command.Arguments

/-!
# Requests

What a user can ask for on the command line: the key of an entity that is described by hand, or
the extraction of some unit files.
-/

namespace CodeIndex

/-- An entity whose key is asked for. -/
inductive KeyRequest where
  | type (name : String) (parameters : List String)
  | method (enclosing returnType name : String) (parameters typeParameters : List String)
      (lambdaOffset : Option Nat)
  | field (enclosing fieldType name : String) (typeParameters : List String)
  | localVariable (method variableType name : String)
  | enumConstant (enumName name : String)
deriving DecidableEq, Repr

/-- The files of an extraction. -/
structure ExtractRequest where
  units : List String
  config : Option String := none
  output : Option String := none
deriving DecidableEq, Repr

/-- What a command line asks for. Help and version are about a command, by its path. -/
inductive Request where
  | key (request : KeyRequest)
  | extract (request : ExtractRequest)
  | help
  | version (path : List String)
deriving DecidableEq, Repr

namespace Request

/-! ## Grammars of the commands -/

/-- A type parameter of the enclosing type. -/
def typeParameterRule : OptionRule := ⟨'t', "type-param", .text, true⟩

/-- The grammar of `key type`. -/
def typeGrammar : Grammar := ⟨[⟨'p', "param", .text, true⟩], .text, 1, some 1⟩

/-- The grammar of `key method`. -/
def methodGrammar : Grammar :=
  ⟨[typeParameterRule, ⟨'l', "lambda-offset", .number, false⟩], .text, 3, none⟩

/-- The grammar of `key field`. -/
def fieldGrammar : Grammar := ⟨[typeParameterRule], .text, 3, some 3⟩

/-- The grammar of `key variable`. -/
def variableGrammar : Grammar := ⟨[], .text, 3, some 3⟩

/-- The grammar of `key enum-constant`. -/
def enumConstantGrammar : Grammar := ⟨[], .text, 2, some 2⟩

/-- The grammar of `extract`. -/
def extractGrammar : Grammar :=
  ⟨[⟨'c', "config", .path, false⟩, ⟨'o', "output", .path, false⟩], .path, 1, none⟩

/-! ## Reading -/

/-- The request for a key, from the command's name and its arguments taken apart. -/
def keyRequest? (command : String) (arguments : Arguments) : Option KeyRequest :=
  match command, arguments.plain with
  | "type", [name] => some (.type name (arguments.valuesOf "param"))
  | "method", enclosing :: returnType :: name :: parameters =>
    some (.method enclosing returnType name parameters (arguments.valuesOf "type-param")
      ((arguments.valuesOf "lambda-offset").head?.bind number?))
  | "field", [enclosing, type, name] =>
    some (.field enclosing type name (arguments.valuesOf "type-param"))
  | "variable", [method, type, name] => some (.localVariable method type name)
  | "enum-constant", [enumName, name] => some (.enumConstant enumName name)
  | _, _ => none

/-- The grammar of a command below `key`. -/
def keyGrammar? (name : String) : Option Grammar :=
  if name = "type" then some typeGrammar
  else if name = "method" then some methodGrammar
  else if name = "field" then some fieldGrammar
  else if name = "variable" then some variableGrammar
  else if name = "enum-constant" then some enumConstantGrammar
  else none

/-- The names of commands below a path. -/
def commandsBelow : List String → List String
  | [] => ["extract", "key", "help"]
  | ["key"] => ["type", "method", "field", "variable", "enum-constant", "help"]
  | _ => []

/-- The answer to a request for help on a path of commands. -/
def helpOn (path : List String) : List String → Except UsageError Request
  | [] => .ok .help
  | name :: rest =>
    if name ∈ commandsBelow path then helpOn (path ++ [name]) rest
    else .error (.unknownCommand name)

/-- The request that an interruption amounts to. -/
def ofInterruption (path : List String) : Interruption → Except UsageError Request
  | .help => .ok .help
  | .version => .ok (.version path)
  | .usage error => .error error

/-- Reads what stands behind `extract`. -/
def readExtract (line : List String) : Except UsageError Request :=
  match Arguments.read extractGrammar {} line with
  | .error interruption => ofInterruption ["extract"] interruption
  | .ok arguments =>
    .ok (.extract ⟨arguments.plain, (arguments.valuesOf "config").head?,
      (arguments.valuesOf "output").head?⟩)

/-- Reads what stands behind `key`. -/
def readKey (line : List String) : Except UsageError Request :=
  match splitCommand line with
  | .error interruption => ofInterruption ["key"] interruption
  | .ok (name, rest) =>
    if name = "help" then helpOn ["key"] rest
    else
      match keyGrammar? name with
      | none => .error (.unknownCommand name)
      | some grammar =>
        match Arguments.read grammar {} rest with
        | .error interruption => ofInterruption ["key", name] interruption
        | .ok arguments =>
          match keyRequest? name arguments with
          | some request => .ok (.key request)
          | none => .error .missingArguments

/-- Reads a command line. -/
def read (line : List String) : Except UsageError Request :=
  match splitCommand line with
  | .error interruption => ofInterruption [] interruption
  | .ok (name, rest) =>
    if name = "extract" then readExtract rest
    else if name = "key" then readKey rest
    else if name = "help" then helpOn [] rest
    else .error (.unknownCommand name)

end Request

end CodeIndex
