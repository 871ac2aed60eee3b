import StateMachine.Table
import StateMachine.Transition

namespace StateMachine

/-- A compiled table of transitions, which holds nothing about instances. -/
structure Machine (S T A E K : Type) [ArgumentKind A] where
  initial : S
  table : Table S T (Transition S T A E K)
  callback : Option (Callback S T A E K)

namespace Machine

variable {S T A E K : Type} [ArgumentKind A]

def newMemory (machine : Machine S T A E K) : Memory S := ⟨machine.initial⟩

def states (machine : Machine S T A E K) : List S := machine.table.states

def size (machine : Machine S T A E K) : Nat := machine.table.size

variable [BEq S]

def hasTransitions (machine : Machine S T A E K) (state : S) : Bool := machine.table.hasRow state

def triggersFrom (machine : Machine S T A E K) (state : S) : List T :=
  machine.table.triggers state

def transition? [BEq T] (machine : Machine S T A E K) (state : S) (trigger : T) :
    Option (Transition S T A E K) :=
  machine.table.get? state trigger

/-- The transition out of a state on a trigger. A state without any transitions is told from a
trigger that has none there. -/
def select [BEq T] (machine : Machine S T A E K) (state : S) (trigger : T) :
    Except (FireError S T A) (Transition S T A E K) :=
  match machine.table.rows.get? state with
  | none => .error (.deadState state)
  | some row =>
    match row.get? trigger with
    | none => .error (.undeclared state trigger)
    | some transition => .ok transition

/-- Whether firing a trigger would commit a transition: there is one, and its guard passes. The
kind of argument that it requires does not matter. -/
def enabled [BEq T] [Token K S] (machine : Machine S T A E K) (trigger : T) (token : K)
    (environment : E) : Traced (Event S T A) E Bool :=
  match machine.select (Token.state token) trigger with
  | .error _ => .pure false environment
  | .ok transition => transition.verdict environment

omit [BEq S] in
def reset [Named S] [Token K S] (machine : Machine S T A E K) (token : K) : K × Log.Record :=
  (Token.move token machine.initial, .reset (name machine.initial))

/-- Forces an instance into a state. A state without transitions is refused, since the instance
could never leave it. -/
def force [Named S] [Token K S] (machine : Machine S T A E K) (state : S) (token : K) :
    Except (FireError S T A) (K × Log.Record) :=
  if machine.hasTransitions state then .ok (Token.move token state, .forced (name state))
  else .error (.deadTarget state)

/-- The memory of the instance that a checkpoint was taken of. A checkpoint of another format
version is refused first, then one of a state without transitions. -/
def restore [Named S] (machine : Machine S T A E K) (checkpoint : Checkpoint S) :
    Except (CheckpointError S) (Memory S × Log.Record) :=
  if checkpoint.version ≠ Checkpoint.currentVersion then
    .error (.foreignVersion checkpoint.version Checkpoint.currentVersion)
  else if machine.hasTransitions checkpoint.state then
    .ok (⟨checkpoint.state⟩, .restored checkpoint.id (name checkpoint.state))
  else .error (.deadState checkpoint.state)

end Machine

end StateMachine
