import StateMachine.Checkpoint.Binary
import StateMachine.Checkpoint.JsonWriter
import StateMachine.Scenario.Condition

namespace StateMachine.Scenario

def nameOf? (α : Type) [Vocabulary α] (text : String) : Option String :=
  (Vocabulary.ofText? text : Option α).map name

variable {S T : Type} [BEq S] [BEq T]

def GuardSpec.verdicts (spec : GuardSpec S T) :
    List (S × T × S) → Surroundings S T → List Bool × Surroundings S T
  | [], surroundings => ([], surroundings)
  | (source, trigger, target) :: rest, surroundings =>
    let (verdict, surroundings) := spec.guard 0 source trigger target surroundings
    let (verdicts, surroundings) := spec.verdicts rest surroundings
    (verdict :: verdicts, surroundings)

omit [BEq S] in
def storedForms [Storable S] (checkpoint : Checkpoint S) :
    Except (CheckpointError S) (String × List UInt8) := do
  let json ← checkpoint.toJson
  let binary ← checkpoint.toBinary
  return (json, binary)

end StateMachine.Scenario
