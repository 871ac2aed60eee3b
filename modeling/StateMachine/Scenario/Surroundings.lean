import StateMachine.Keyed
import StateMachine.Scenario.Kind
import StateMachine.Scenario.Vocabulary
import StateMachine.Script

namespace StateMachine.Scenario

inductive Nested (S T : Type) where
  | fired (outcome : Except (FireError S T Kind) (Fired S))
  | tooDeep
  | forced (outcome : Except (FireError S T Kind) Unit)
  | restored (outcome : Except (CheckpointError S) Unit)
  | permitted (answer : Bool)

inductive Entry (S T : Type) where
  | guard (id : String) (source : S) (trigger : T) (target : S) (result : Bool)
  | action (forAny : Bool) (id : String) (source : S) (trigger : T) (target : S) (current : S)
    (argument : Option String)
  | nested (result : Nested S T)

/-- The shared environment of guards and actions. -/
structure Surroundings (S T : Type) where
  flags : Keyed String Bool
  calls : Keyed Nat Nat
  trace : List (Entry S T)

namespace Surroundings

variable {S T : Type}

def start (flags : Keyed String Bool) : Surroundings S T := ⟨flags, .empty, []⟩

def flag (flags : Keyed String Bool) (name : String) : Bool := (flags.get? name).getD false

def setFlag (surroundings : Surroundings S T) (name : String) (value : Bool) :
    Surroundings S T :=
  { surroundings with flags := surroundings.flags.put name value }

def callsOf (surroundings : Surroundings S T) (guard : Nat) : Nat :=
  (surroundings.calls.get? guard).getD 0

def note (surroundings : Surroundings S T) (entry : Entry S T) : Surroundings S T :=
  { surroundings with trace := surroundings.trace ++ [entry] }

end Surroundings

end StateMachine.Scenario
