import StateMachine.Machine.Operation

namespace StateMachine

inductive Query (S T : Type) where
  | initial
  | newMemory
  | states
  | size
  | hasTransitions (state : S)
  | triggersFrom (state : S)
  | transition (state : S) (trigger : T)

inductive Query.Answer (S T A E K : Type) [ArgumentKind A] where
  | state (state : S)
  | memory (memory : Memory S)
  | states (states : List S)
  | size (size : Nat)
  | truth (value : Bool)
  | triggers (triggers : List T)
  | transition (found : Option (Transition S T A E K))

inductive Use (S T A : Type) [ArgumentKind A] where
  | operation (operation : Operation S T A)
  | query (query : Query S T)
  | state
  | permits (state : S) (trigger : T)
  | encode (checkpoint : Checkpoint S) (format : Checkpoint.Format)
  | decode (encoded : Checkpoint.Encoded)
  /-- Rebuilds a memory from a checkpoint. The instance keeps its own. -/
  | restore (checkpoint : Checkpoint S)
  /-- Puts another memory into the instance. -/
  | adopt (memory : Memory S)

inductive Use.Result (S T A E K : Type) [ArgumentKind A] where
  | operation (result : Operation.Result S T A)
  | query (answer : Query.Answer S T A E K)
  | state (state : S)
  | permits (answer : Option Bool)
  | encoded (outcome : Except (CheckpointError S) Checkpoint.Encoded)
  | decoded (outcome : Except (CheckpointError S) (Checkpoint S))
  | restored (outcome : Except (CheckpointError S) (Memory S))
  | adopted

namespace Machine

variable {S T A E K : Type} [ArgumentKind A] [BEq S] [BEq T]

def reply (machine : Machine S T A E K) : Query S T → Query.Answer S T A E K
  | .initial => .state machine.initial
  | .newMemory => .memory machine.newMemory
  | .states => .states machine.states
  | .size => .size machine.size
  | .hasTransitions state => .truth (machine.hasTransitions state)
  | .triggersFrom state => .triggers (machine.triggersFrom state)
  | .transition state trigger => .transition (machine.transition? state trigger)

def permits (machine : Machine S T A E K) (state : S) (trigger : T) (environment : E) :
    Traced (Event S T A) E (Option Bool) :=
  match machine.transition? state trigger with
  | none => .pure none environment
  | some transition => (transition.verdict environment).map some

variable [Token K S] [Named S] [Named T] [DecidableEq A] [Storable S]

/-- Makes use of a machine for an instance, where scripts may fire again, `depth` deep. -/
def use (machine : Machine S T A E K) (depth : Nat) :
    Use S T A → World E K → Traced (Event S T A) (World E K) (Use.Result S T A E K)
  | .operation operation, world => (machine.perform depth operation world).map .operation
  | .query query, world => .pure (.query (machine.reply query)) world
  | .state, world => .pure (.state (Token.state world.token)) world
  | .permits state trigger, world =>
    ((machine.permits state trigger world.environment).mapWorld fun environment =>
      { world with environment }).map .permits
  | .encode checkpoint format, world => .pure (.encoded (checkpoint.encode format)) world
  | .decode encoded, world => .pure (.decoded encoded.decode) world
  | .restore checkpoint, world => (machine.answer depth (.restore checkpoint) world).map .restored
  | .adopt memory, world =>
    .pure .adopted { world with token := Token.setMemory world.token memory }

def useAll (machine : Machine S T A E K) (depth : Nat) :
    List (Use S T A) → World E K →
      Traced (Event S T A) (World E K) (List (Use.Result S T A E K))
  | [], world => .pure [] world
  | next :: rest, world =>
    (machine.use depth next world).bind fun result world =>
      (machine.useAll depth rest world).map (result :: ·)

end Machine

end StateMachine
