import StateMachine.Checkpoint
import StateMachine.Checkpoint.Error
import StateMachine.Octets
import StateMachine.Storable
import StateMachine.Timestamp.Reader
import StateMachine.Timestamp.Writer

namespace StateMachine

variable {S : Type} [Storable S]

def Octets.writeState (state : S) : Except String (List UInt8) :=
  match (Storable.form : StoredForm S) with
  | .text write _ => (write state).map writeText
  | .variants _ _ index => .ok (ofNat 4 (index state))

def Octets.readState (bytes : List UInt8) : Except DecodeError (S × List UInt8) :=
  match (Storable.form : StoredForm S) with
  | .text _ read =>
    match readText? bytes with
    | none => .error .malformed
    | some (text, rest) => .ok (read text, rest)
  | .variants values _ _ =>
    match readNat? 4 bytes with
    | none => .error .malformed
    | some (place, rest) =>
      match values[place]? with
      | none => .error (.invalidValue place (.variantIndex values.length))
      | some state => .ok (state, rest)

namespace Checkpoint

def writeBinary (checkpoint : Checkpoint S) (state : List UInt8) : List UInt8 :=
  Octets.ofNat 4 checkpoint.version.toNat ++ Octets.writeText checkpoint.id ++
    Octets.writeText checkpoint.timestamp.toText ++ state

def toBinary (checkpoint : Checkpoint S) : Except (CheckpointError S) (List UInt8) :=
  match Octets.writeState checkpoint.state with
  | .error reason => .error (.notWritten reason)
  | .ok state => .ok (checkpoint.writeBinary state)

def readHead? (bytes : List UInt8) :
    Option ((UInt32 × String × Timestamp) × List UInt8) := do
  let (version, bytes) ← Octets.readNat? 4 bytes
  let (id, bytes) ← Octets.readText? bytes
  let (time, bytes) ← Octets.readText? bytes
  let timestamp ← Timestamp.ofText? time
  return ((UInt32.ofNat version, id, timestamp), bytes)

/-- Reads a checkpoint from the front of some bytes. Bytes behind the state do not matter. -/
def readBinary (bytes : List UInt8) : Except DecodeError (Checkpoint S) :=
  match readHead? bytes with
  | none => .error .malformed
  | some ((version, id, timestamp), rest) =>
    match Octets.readState rest with
    | .error e => .error e
    | .ok (state, _) => .ok ⟨version, id, timestamp, state⟩

def ofBinary (bytes : List UInt8) : Except (CheckpointError S) (Checkpoint S) :=
  (readBinary bytes).mapError .notRead

end Checkpoint

end StateMachine
