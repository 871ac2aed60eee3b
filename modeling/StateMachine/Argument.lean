namespace StateMachine

class ArgumentKind (A : Type) where
  kindName : A → String
  Value : A → Type

/-- What a fire hands over: a value of the kind, or nothing where there is no kind. -/
def Payload {A : Type} [ArgumentKind A] : Option A → Type
  | none => Unit
  | some kind => ArgumentKind.Value kind

/-- A kind, or the lack of one, with what is handed over for it. -/
structure Argument (A : Type) [ArgumentKind A] where
  kind : Option A
  payload : Payload kind

namespace Argument

variable {A : Type} [ArgumentKind A]

def absent : Argument A := ⟨none, ()⟩

def of (kind : A) (value : ArgumentKind.Value kind) : Argument A := ⟨some kind, value⟩

def describe : Option A → String
  | none => "no argument"
  | some kind => ArgumentKind.kindName kind

end Argument

end StateMachine
