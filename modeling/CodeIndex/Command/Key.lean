import CodeIndex.Command.Answer
import CodeIndex.Command.Request

/-!
# The key command

Computes the key of an entity that is described by hand, with the same functions that identify
the nodes of a unit. It serves to find out why two records that should share a key do not.
-/

namespace CodeIndex

/-- The key that is asked for. -/
def KeyRequest.compute : KeyRequest → Except IdentityError Key
  | .type name parameters => Key.ofType name parameters
  | .method enclosing returnType name parameters typeParameters lambdaOffset => do
    let owner ← Key.ofType enclosing typeParameters
    Key.ofMethod owner returnType name parameters lambdaOffset
  | .field enclosing fieldType name typeParameters => do
    let owner ← Key.ofType enclosing typeParameters
    Key.ofField owner fieldType name
  | .localVariable owner variableType name => Key.ofVariable ⟨owner⟩ variableType name
  | .enumConstant enumName name => Key.ofEnumConstant enumName name

/-- The key command: the canonical string and the hash, on a line each. -/
def KeyRequest.command (request : KeyRequest) : Command Unit := do
  let key ← Command.expect (request.compute.mapError Error.identity)
  Command.print (key.canonical ++ "\nkey: " ++ toString key.hash ++ "\n")

/-- The answer of the key command. -/
def KeyRequest.answer (request : KeyRequest) : Answer := request.command.answer

end CodeIndex
