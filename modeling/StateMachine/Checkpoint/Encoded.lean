import StateMachine.Checkpoint.Binary
import StateMachine.Checkpoint.JsonReader
import StateMachine.Checkpoint.JsonWriter

namespace StateMachine.Checkpoint

inductive Format where
  | json
  | binary
  deriving DecidableEq, Repr

inductive Encoded where
  | json (text : String)
  | binary (bytes : List UInt8)
  deriving DecidableEq, Repr

variable {S : Type} [Storable S]

def encode (checkpoint : Checkpoint S) : Format → Except (CheckpointError S) Encoded
  | .json => checkpoint.toJson.map .json
  | .binary => checkpoint.toBinary.map .binary

def Encoded.decode : Encoded → Except (CheckpointError S) (Checkpoint S)
  | json text => ofJson text
  | binary bytes => ofBinary bytes

/-- Whether the number of bytes takes no more than eight bytes itself. -/
def Encoded.Fits : Encoded → Prop
  | json _ => True
  | binary bytes => bytes.length < UInt64.size

end StateMachine.Checkpoint
