import StateMachine.Compiler
import StateMachine.Layout

namespace StateMachine

class Diagnostic (α : Type) where
  diagnostic : α → String

export Diagnostic (diagnostic)

def Layout.value {α : Type} [Diagnostic α] (value : α) : Layout := .text (diagnostic value)

def Guard.layout : Layout := .text "Guard \x7b .. \x7d"

variable {S T A E K : Type} [ArgumentKind A]

section States

variable [Diagnostic S] [Diagnostic T]

def Transition.layout (transition : Transition S T A E K) : Layout :=
  .fields "Transition" [
    ("from", .value transition.source),
    ("trigger", .value transition.trigger),
    ("to", .value transition.target),
    ("arg", .option (transition.argument.map fun kind => .text (ArgumentKind.kindName kind))),
    ("guard", .truth transition.guard.isSome),
    ("action", .truth transition.action.isSome)]

def Table.layout (table : Table S T (Transition S T A E K)) : Layout :=
  .group .map "" <| table.rows.entries.map fun (state, row) =>
    .labelled (.value state) <| .group .map "" <| row.entries.map fun (trigger, transition) =>
      .labelled (.value trigger) transition.layout

def Machine.layout (machine : Machine S T A E K) : Layout :=
  .fields "Machine" [
    ("initial", .value machine.initial),
    ("table", machine.table.layout),
    ("on_any", .truth machine.callback.isSome)]

def Compiler.layout (compiler : Compiler S T A E K) : Layout :=
  .fields "Compiler" [
    ("initial", .option (compiler.initial.map .value)),
    ("table", compiler.table.layout),
    ("last", .option (compiler.last.map fun (source, trigger) =>
      .group .tuple "" [.value source, .value trigger])),
    ("on_any", .truth compiler.callback.isSome)]

omit [ArgumentKind A] [Diagnostic T] in
def Fired.layout : Fired S → Layout
  | committed source target =>
    .fields "Transitioned" [("from", .value source), ("to", .value target)]
  | blocked state => .fields "Blocked" [("state", .value state)]

end States

def Layout.quoted (content : String) : Layout := .text (Text.shown content)

def FireError.layout [Named S] [Named T] : FireError S T A → Layout
  | deadState state =>
    .fields "NoTransitionsFromState" [("state", .quoted (name state))]
  | undeclared state trigger =>
    .fields "NoTransitionForTrigger"
      [("state", .quoted (name state)), ("trigger", .quoted (name trigger))]
  | argumentMissing state trigger expected =>
    .fields "ArgumentRequired"
      [("state", .quoted (name state)), ("trigger", .quoted (name trigger)),
        ("expected", .quoted (ArgumentKind.kindName expected))]
  | argumentUnwanted state trigger found =>
    .fields "UnexpectedArgument"
      [("state", .quoted (name state)), ("trigger", .quoted (name trigger)),
        ("found", .quoted (ArgumentKind.kindName found))]
  | argumentMismatch state trigger expected found =>
    .fields "ArgumentTypeMismatch"
      [("state", .quoted (name state)), ("trigger", .quoted (name trigger)),
        ("expected", .quoted (ArgumentKind.kindName expected)),
        ("found", .quoted (ArgumentKind.kindName found))]
  | deadTarget state => .fields "UnknownState" [("state", .quoted (name state))]

end StateMachine
