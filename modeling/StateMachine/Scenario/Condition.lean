import StateMachine.Scenario.Surroundings
import StateMachine.Transition

namespace StateMachine.Scenario

inductive Condition (S T : Type) where
  | always (value : Bool)
  | flag (name : String)
  | toggle (name : String)
  | source (state : S)
  | trigger (trigger : T)
  | target (state : S)
  | selfLoop
  | not (condition : Condition S T)
  | all (conditions : List (Condition S T))
  | any (conditions : List (Condition S T))
  | callsBelow (bound : Int)
  deriving Inhabited

namespace Condition

variable {S T : Type} [BEq S] [BEq T]

mutual

def eval (calls : Nat) (source : S) (trigger : T) (target : S) :
    Condition S T → Keyed String Bool → Bool × Keyed String Bool
  | .always value, flags => (value, flags)
  | .flag name, flags => (Surroundings.flag flags name, flags)
  | .toggle name, flags =>
    let value := Surroundings.flag flags name
    (value, flags.put name !value)
  | .source state, flags => (source == state, flags)
  | .trigger other, flags => (trigger == other, flags)
  | .target state, flags => (target == state, flags)
  | .selfLoop, flags => (source == target, flags)
  | .not condition, flags =>
    let (value, flags) := condition.eval calls source trigger target flags
    (!value, flags)
  | .all conditions, flags => evalAll calls source trigger target conditions flags
  | .any conditions, flags => evalAny calls source trigger target conditions flags
  | .callsBelow bound, flags => ((calls : Int) < bound, flags)

def evalAll (calls : Nat) (source : S) (trigger : T) (target : S) :
    List (Condition S T) → Keyed String Bool → Bool × Keyed String Bool
  | [], flags => (true, flags)
  | condition :: rest, flags =>
    let (value, flags) := condition.eval calls source trigger target flags
    if value then evalAll calls source trigger target rest flags else (false, flags)

def evalAny (calls : Nat) (source : S) (trigger : T) (target : S) :
    List (Condition S T) → Keyed String Bool → Bool × Keyed String Bool
  | [], flags => (false, flags)
  | condition :: rest, flags =>
    let (value, flags) := condition.eval calls source trigger target flags
    if value then (true, flags) else evalAny calls source trigger target rest flags

end

end Condition

structure GuardSpec (S T : Type) where
  id : String
  condition : Condition S T

/-- The guard under a number of its own, by which its evaluations are counted. -/
def GuardSpec.guard {S T : Type} [BEq S] [BEq T] (spec : GuardSpec S T) (number : Nat) :
    Guard S T (Surroundings S T) :=
  fun source trigger target surroundings =>
    let calls := surroundings.callsOf number
    let (result, flags) := spec.condition.eval calls source trigger target surroundings.flags
    let counted := { surroundings with flags, calls := surroundings.calls.put number (calls + 1) }
    (result, counted.note (.guard spec.id source trigger target result))

end StateMachine.Scenario
