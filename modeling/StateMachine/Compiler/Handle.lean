import StateMachine.Compiler

namespace StateMachine

/-- A compiler whose last declaration requires the given kind of argument. -/
structure Handle (S T A E K : Type) [ArgumentKind A] (argument : Option A) where
  compiler : Compiler S T A E K

inductive Link (S T A E K : Type) [ArgumentKind A] (argument : Option A) where
  | guard (guard : Guard S T E)
  | action (action : Action S T A E K argument)

variable {S T A E K : Type} [ArgumentKind A] [BEq S] [BEq T] [DecidableEq A]

namespace Handle

variable {argument : Option A}

def link (handle : Handle S T A E K argument) :
    Link S T A E K argument → Handle S T A E K argument × Option (ConfigError S T A)
  | .guard guard => (handle.compiler.attachGuard guard).map .mk id
  | .action action => (handle.compiler.attachAction argument action).map .mk id

/-- Attaches one thing after the other up to the first refusal. What was attached before it stays.
The result is the compiler that is left, and the refusal if there is one. -/
def chain (handle : Handle S T A E K argument) :
    List (Link S T A E K argument) → Compiler S T A E K × Option (ConfigError S T A)
  | [] => (handle.compiler, none)
  | next :: rest =>
    match handle.link next with
    | (handle, some e) => (handle.compiler, some e)
    | (handle, none) => handle.chain rest

end Handle

def Compiler.declareChain (compiler : Compiler S T A E K) (source : S) (trigger : T) (target : S)
    (argument : Option A) (links : List (Link S T A E K argument)) :
    Compiler S T A E K × Option (ConfigError S T A) :=
  match compiler.declare source trigger target argument with
  | (compiler, some e) => (compiler, some e)
  | (compiler, none) => Handle.chain ⟨compiler⟩ links

end StateMachine
