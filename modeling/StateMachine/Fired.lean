import StateMachine.Argument
import StateMachine.Name

namespace StateMachine

/-- What became of a fire that was not refused. -/
inductive Fired (S : Type) where
  | committed (source target : S)
  | blocked (state : S)
  deriving DecidableEq, Repr

namespace Fired

variable {S : Type}

def isCommitted : Fired S → Bool
  | committed .. => true
  | blocked _ => false

def state : Fired S → S
  | committed _ target => target
  | blocked state => state

end Fired

inductive FireError (S T A : Type) where
  | deadState (state : S)
  | undeclared (state : S) (trigger : T)
  | argumentMissing (state : S) (trigger : T) (expected : A)
  | argumentUnwanted (state : S) (trigger : T) (found : A)
  | argumentMismatch (state : S) (trigger : T) (expected found : A)
  | deadTarget (state : S)
  deriving DecidableEq, Repr

def FireError.message {S T A : Type} [Named S] [Named T] [ArgumentKind A] :
    FireError S T A → String
  | deadState state => s!"No transitions configured from state '{name state}'"
  | undeclared state trigger =>
    s!"No transition configured from state '{name state}' on trigger '{name trigger}'"
  | argumentMissing state trigger expected =>
    s!"Trigger '{name trigger}' from state '{name state}' requires an argument of type " ++
      ArgumentKind.kindName expected
  | argumentUnwanted state trigger found =>
    s!"Trigger '{name trigger}' from state '{name state}' takes no argument, got " ++
      ArgumentKind.kindName found
  | argumentMismatch state trigger expected found =>
    s!"Trigger '{name trigger}' from state '{name state}' expects an argument of type " ++
      s!"{ArgumentKind.kindName expected}, got {ArgumentKind.kindName found}"
  | deadTarget state =>
    s!"Cannot reset to state '{name state}': it has no transitions configured"

end StateMachine
