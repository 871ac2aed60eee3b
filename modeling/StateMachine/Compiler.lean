import StateMachine.Machine

namespace StateMachine

inductive Attachment where
  | guard
  | action
  deriving DecidableEq, Repr

inductive ConfigError (S T A : Type) where
  | alreadyDeclared (state : S) (trigger : T)
  | nothingDeclared (what : Attachment)
  | guardTaken (state : S) (trigger : T)
  | actionTaken (state : S) (trigger : T)
  | actionMismatch (state : S) (trigger : T) (expected found : Option A)
  | callbackTaken
  | noInitialState
  | noTransitions
  deriving DecidableEq, Repr

def ConfigError.message {S T A : Type} [Named S] [Named T] [ArgumentKind A] :
    ConfigError S T A → String
  | alreadyDeclared state trigger =>
    s!"Transition from state '{name state}' on trigger '{name trigger}' is already declared"
  | nothingDeclared .guard =>
    "Cannot attach a guard before any transition is declared. Call .tr(...) first"
  | nothingDeclared .action =>
    "Cannot attach an action before any transition is declared. Call .tr(...) first"
  | guardTaken state trigger =>
    s!"Transition from state '{name state}' on trigger '{name trigger}' already has a guard. " ++
      "Combine predicates into one guard"
  | actionTaken state trigger =>
    s!"Transition from state '{name state}' on trigger '{name trigger}' already has an action"
  | actionMismatch state trigger expected found =>
    s!"Action for transition from state '{name state}' on trigger '{name trigger}' must take " ++
      s!"{Argument.describe expected}, but takes {Argument.describe found}"
  | callbackTaken => "An any-transition callback is already registered"
  | noInitialState => "Initial state not specified. Call .initial(state) before .compile()"
  | noTransitions => "No transitions defined. Declare at least one with .tr(...)"

namespace Transition

variable {S T A E K : Type} [ArgumentKind A]

def attachGuard (transition : Transition S T A E K) (guard : Guard S T E) :
    Except (ConfigError S T A) (Transition S T A E K) :=
  if transition.guard.isSome then
    .error (.guardTaken transition.source transition.trigger)
  else .ok { transition with guard := some guard }

/-- Attaches an action, of which a transition has at most one. The action has to take just the kind
of argument that the transition requires, and this is checked first. -/
def attachAction [DecidableEq A] (transition : Transition S T A E K) (argument : Option A)
    (action : Action S T A E K argument) :
    Except (ConfigError S T A) (Transition S T A E K) :=
  if h : argument = transition.argument then
    if transition.action.isSome then
      .error (.actionTaken transition.source transition.trigger)
    else .ok { transition with action := some (h ▸ action) }
  else
    .error (.actionMismatch transition.source transition.trigger transition.argument
      argument)

end Transition

/-- A table of transitions in the making. -/
structure Compiler (S T A E K : Type) [ArgumentKind A] where
  initial : Option S
  table : Table S T (Transition S T A E K)
  last : Option (S × T)
  callback : Option (Callback S T A E K)

namespace Compiler

variable {S T A E K : Type} [ArgumentKind A]

def empty : Compiler S T A E K := ⟨none, .empty, none, none⟩

def setInitial (compiler : Compiler S T A E K) (state : S) : Compiler S T A E K :=
  { compiler with initial := some state }

def setCallback (compiler : Compiler S T A E K) (callback : Callback S T A E K) :
    Compiler S T A E K × Option (ConfigError S T A) :=
  if compiler.callback.isSome then (compiler, some .callbackTaken)
  else ({ compiler with callback := some callback }, none)

/-- Freezes the table into a machine, and gives the log record of that. -/
def compile [Named S] (compiler : Compiler S T A E K) :
    Except (ConfigError S T A) (Machine S T A E K × Log.Record) :=
  match compiler.initial with
  | none => .error .noInitialState
  | some initial =>
    if compiler.table.isEmpty then .error .noTransitions
    else
      .ok (⟨initial, compiler.table, compiler.callback⟩,
        .compiled (name initial) compiler.table.states.length compiler.table.size)

variable [BEq S] [BEq T]

/-- Declares a transition, with the kind of argument that it requires. A pair of source and trigger
can be declared once only. The row of the source is opened before the pair is looked up in it. -/
def declare (compiler : Compiler S T A E K) (source : S) (trigger : T) (target : S)
    (argument : Option A) : Compiler S T A E K × Option (ConfigError S T A) :=
  let table := compiler.table.openRow source
  if (table.get? source trigger).isSome then
    ({ compiler with table }, some (.alreadyDeclared source trigger))
  else
    ({ compiler with
      table := table.add source trigger (.declared source trigger target argument)
      last := some (source, trigger) }, none)

/-- Changes the transition declared last. -/
def attach (compiler : Compiler S T A E K) (what : Attachment)
    (change : Transition S T A E K → Except (ConfigError S T A) (Transition S T A E K)) :
    Compiler S T A E K × Option (ConfigError S T A) :=
  match compiler.last with
  | none => (compiler, some (.nothingDeclared what))
  | some (source, trigger) =>
    match compiler.table.get? source trigger with
    | none => (compiler, some (.nothingDeclared what))
    | some transition =>
      match change transition with
      | .error e => (compiler, some e)
      | .ok changed =>
        ({ compiler with table := compiler.table.modify source trigger fun _ => changed }, none)

def attachGuard (compiler : Compiler S T A E K) (guard : Guard S T E) :
    Compiler S T A E K × Option (ConfigError S T A) :=
  compiler.attach .guard (·.attachGuard guard)

def attachAction [DecidableEq A] (compiler : Compiler S T A E K) (argument : Option A)
    (action : Action S T A E K argument) :
    Compiler S T A E K × Option (ConfigError S T A) :=
  compiler.attach .action (·.attachAction argument action)

end Compiler

end StateMachine
