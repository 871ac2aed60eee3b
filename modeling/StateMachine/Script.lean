import StateMachine.Checkpoint
import StateMachine.Checkpoint.Error
import StateMachine.Fired

namespace StateMachine

inductive Request (S T A : Type) [ArgumentKind A] where
  | fire (trigger : T) (argument : Argument A)
  | reset
  | force (state : S)
  | enabled (trigger : T)
  | newMemory
  | restore (checkpoint : Checkpoint S)

/-- The reply to a request. A fire that would exceed the permitted nesting has no outcome. -/
@[reducible] def Request.Reply {S T A : Type} [ArgumentKind A] : Request S T A → Type
  | fire .. => Option (Except (FireError S T A) (Fired S))
  | reset => Unit
  | force _ => Except (FireError S T A) Unit
  | enabled _ => Bool
  | newMemory => Memory S
  | restore _ => Except (CheckpointError S) (Memory S)

/-- A program over a token of type `K` in an environment of type `E`. -/
inductive Script (S T A E K : Type) [ArgumentKind A] where
  | done
  | observe (next : E → K → Script S T A E K)
  | update (environment : E) (token : K) (next : Script S T A E K)
  | ask (request : Request S T A) (next : request.Reply → Script S T A E K)

end StateMachine
