import StateMachine.Memory
import StateMachine.Timestamp

namespace StateMachine

/-- A snapshot of the state of one instance. The table of transitions is not part of it. -/
structure Checkpoint (S : Type) where
  version : UInt32
  id : String
  timestamp : Timestamp
  state : S

namespace Checkpoint

variable {S : Type}

/-- The format version that is written, and the only one that can be restored. -/
def currentVersion : UInt32 := 1

def capture {K : Type} [Token K S] (token : K) (id : String) (timestamp : Timestamp) :
    Checkpoint S :=
  ⟨currentVersion, id, timestamp, Token.state token⟩

end Checkpoint

end StateMachine
