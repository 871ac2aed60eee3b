import StateMachine.Checkpoint.Encoded
import StateMachine.Machine.Run

namespace StateMachine

inductive Operation (S T A : Type) [ArgumentKind A] where
  | fire (trigger : T) (argument : Argument A)
  | reset
  | force (state : S)
  | enabled (trigger : T)
  | capture (id : String) (timestamp : Timestamp)

inductive Operation.Result (S T A : Type) where
  | fired (outcome : Except (FireError S T A) (Fired S))
  | reset
  | forced (outcome : Except (FireError S T A) Unit)
  | enabled (answer : Bool)
  | captured (checkpoint : Checkpoint S)

namespace Machine

variable {S T A E K : Type} [ArgumentKind A] [Token K S] [Named S] [Named T] [BEq S] [BEq T]
  [DecidableEq A]

/-- Performs an operation, where scripts may fire again, `depth` deep. -/
def perform (machine : Machine S T A E K) (depth : Nat) :
    Operation S T A → World E K → Traced (Event S T A) (World E K) (Operation.Result S T A)
  | .fire trigger argument, world => (machine.fire depth trigger argument world).map .fired
  | .reset, world => (machine.answer depth .reset world).map fun _ => .reset
  | .force state, world => (machine.answer depth (.force state) world).map .forced
  | .enabled trigger, world => (machine.answer depth (.enabled trigger) world).map .enabled
  | .capture id timestamp, world =>
    .pure (.captured (.capture world.token id timestamp)) world

def performAll (machine : Machine S T A E K) (depth : Nat) :
    List (Operation S T A) → World E K →
      Traced (Event S T A) (World E K) (List (Operation.Result S T A))
  | [], world => .pure [] world
  | next :: rest, world =>
    (machine.perform depth next world).bind fun result world =>
      (machine.performAll depth rest world).map (result :: ·)

def resume [Storable S] (machine : Machine S T A E K) (encoded : Checkpoint.Encoded) :
    Except (CheckpointError S) (Memory S × Log.Record) :=
  encoded.decode.bind machine.restore

end Machine

end StateMachine
