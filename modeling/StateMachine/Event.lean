import StateMachine.Fired
import StateMachine.Log
import StateMachine.Memory

namespace StateMachine

/-- The token that a machine works on, and everything else that guards and scripts can see. -/
structure World (E K : Type) where
  environment : E
  token : K

/-- One thing that happened in a run. An action or the callback is called while the token is in the
state `current`. -/
inductive Event (S T A : Type) [ArgumentKind A] where
  | guard (source : S) (trigger : T) (target : S) (passed : Bool)
  | stored (state : S)
  | action (source : S) (trigger : T) (target : S) (argument : Argument A) (current : S)
  | callback (source : S) (trigger : T) (target : S) (current : S)
  | log (record : Log.Record)
  | returned (outcome : Except (FireError S T A) (Fired S))

def Event.record? {S T A : Type} [ArgumentKind A] : Event S T A → Option Log.Record
  | log record => some record
  | _ => none

/-- A value, the world it was obtained in, and the events that led there. -/
structure Traced (ε ω α : Type) where
  value : α
  world : ω
  events : List ε

namespace Traced

variable {ε ω ω' α β : Type}

def pure (value : α) (world : ω) : Traced ε ω α := ⟨value, world, []⟩

def record (event : ε) (world : ω) : Traced ε ω Unit := ⟨(), world, [event]⟩

def bind (first : Traced ε ω α) (next : α → ω → Traced ε ω β) : Traced ε ω β :=
  let second := next first.value first.world
  ⟨second.value, second.world, first.events ++ second.events⟩

def map (f : α → β) (traced : Traced ε ω α) : Traced ε ω β :=
  ⟨f traced.value, traced.world, traced.events⟩

def mapWorld (f : ω → ω') (traced : Traced ε ω α) : Traced ε ω' α :=
  ⟨traced.value, f traced.world, traced.events⟩

@[simp] theorem bind_pure_left (value : α) (world : ω) (next : α → ω → Traced ε ω β) :
    (pure value world).bind next = next value world := rfl

@[simp] theorem bind_pure_right (traced : Traced ε ω α) : traced.bind pure = traced := by
  simp [bind, pure]

end Traced

end StateMachine
