import StateMachine.Checkpoint
import StateMachine.Checkpoint.Error
import StateMachine.Json.Quoted
import StateMachine.Storable
import StateMachine.Timestamp.Writer

namespace StateMachine

variable {S : Type} [Storable S]

def Json.writeState (state : S) : Except String (List Char) :=
  match (Storable.form : StoredForm S) with
  | .text write _ => (write state).map fun text => quote text.toList
  | .variants _ name _ => .ok (quote (name state).toList)

def Json.writeMember (field : Checkpoint.Field) (value : List Char) : List Char :=
  quote field.key.toList ++ ':' :: value

def Memory.toJson (memory : Memory S) : Except String String :=
  (Json.writeState memory.state).map fun state =>
    String.ofList ('{' :: Json.writeMember .state state ++ ['}'])

namespace Checkpoint

/-- The characters of a checkpoint whose state is written already. -/
def writeJson (checkpoint : Checkpoint S) (state : List Char) : List Char :=
  '{' :: Json.writeMember .version (Nat.toDigits 10 checkpoint.version.toNat) ++
    ',' :: Json.writeMember .id (Json.quote checkpoint.id.toList) ++
    ',' :: Json.writeMember .timestamp (Json.quote checkpoint.timestamp.write) ++
    ',' :: Json.writeMember .state state ++ ['}']

def toJson (checkpoint : Checkpoint S) : Except (CheckpointError S) String :=
  match Json.writeState checkpoint.state with
  | .error reason => .error (.notWritten reason)
  | .ok state => .ok (String.ofList (checkpoint.writeJson state))

end Checkpoint

end StateMachine
