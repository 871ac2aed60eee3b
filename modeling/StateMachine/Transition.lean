import StateMachine.Event
import StateMachine.Script

namespace StateMachine

/-- Decides on a transition from its source, trigger and target in an environment that it may
change. -/
abbrev Guard (S T E : Type) := S → T → S → E → Bool × E

abbrev Action (S T A E K : Type) [ArgumentKind A] (argument : Option A) :=
  S → T → S → Payload argument → Script S T A E K

abbrev Callback (S T A E K : Type) [ArgumentKind A] := S → T → S → Script S T A E K

structure Transition (S T A E K : Type) [ArgumentKind A] where
  source : S
  trigger : T
  target : S
  argument : Option A
  guard : Option (Guard S T E)
  action : Option (Action S T A E K argument)

namespace Transition

variable {S T A E K : Type} [ArgumentKind A]

def declared (source : S) (trigger : T) (target : S) (argument : Option A) :
    Transition S T A E K :=
  ⟨source, trigger, target, argument, none, none⟩

/-- Evaluates the guard on the declared source, trigger and target; without a guard the transition
is permitted. -/
def verdict (transition : Transition S T A E K) (environment : E) : Traced (Event S T A) E Bool :=
  match transition.guard with
  | none => .pure true environment
  | some guard =>
    let (passed, environment) :=
      guard transition.source transition.trigger transition.target environment
    ⟨passed, environment,
      [.guard transition.source transition.trigger transition.target passed]⟩

/-- What an argument hands over to a transition that requires just this kind of argument; any other
argument is refused. -/
def accept [DecidableEq A] (transition : Transition S T A E K) (argument : Argument A) :
    Except (FireError S T A) (Payload transition.argument) :=
  match transition.argument, argument with
  | none, ⟨none, payload⟩ => .ok payload
  | none, ⟨some found, _⟩ =>
    .error (.argumentUnwanted transition.source transition.trigger found)
  | some expected, ⟨none, _⟩ =>
    .error (.argumentMissing transition.source transition.trigger expected)
  | some expected, ⟨some found, payload⟩ =>
    if h : found = expected then .ok (h ▸ payload)
    else .error (.argumentMismatch transition.source transition.trigger expected found)

end Transition

end StateMachine
