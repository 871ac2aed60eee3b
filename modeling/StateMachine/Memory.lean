namespace StateMachine

structure Memory (S : Type) where
  state : S
  deriving DecidableEq, Repr

def Memory.same {S : Type} [BEq S] (a b : Memory S) : Bool := a.state == b.state

/-- Values that carry a memory which can be read and replaced. -/
class Token (K : Type) (S : outParam Type) where
  memory : K → Memory S
  setMemory : K → Memory S → K

namespace Token

variable {K S : Type} [Token K S]

def state (token : K) : S := (memory token).state

def move (token : K) (target : S) : K := setMemory token ⟨target⟩

end Token

instance (S : Type) : Token (Memory S) S where
  memory := id
  setMemory _ memory := memory

/-- Tokens whose memory is a part of its own: what is stored is what is read, the later of two
writes wins, and writing back what was read changes nothing. -/
class LawfulToken (K : Type) {S : outParam Type} [Token K S] : Prop where
  memory_setMemory : ∀ (token : K) (memory : Memory S),
    Token.memory (Token.setMemory token memory) = memory
  setMemory_setMemory : ∀ (token : K) (first second : Memory S),
    Token.setMemory (Token.setMemory token first) second = Token.setMemory token second
  setMemory_memory : ∀ token : K, Token.setMemory token (Token.memory token) = token

instance (S : Type) : LawfulToken (Memory S) where
  memory_setMemory _ _ := rfl
  setMemory_setMemory _ _ _ := rfl
  setMemory_memory _ := rfl

@[simp] theorem Token.state_move {K S : Type} [Token K S] [LawfulToken K] (token : K) (target : S) :
    Token.state (Token.move token target) = target := by
  simp [state, move, LawfulToken.memory_setMemory]

end StateMachine
