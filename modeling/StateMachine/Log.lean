namespace StateMachine

inductive Log.Level where
  | trace
  | debug
  deriving DecidableEq, Repr

def Log.Level.name : Log.Level → String
  | .trace => "TRACE"
  | .debug => "DEBUG"

inductive Log.Field where
  | text (value : String)
  | count (value : Nat)
  deriving DecidableEq, Repr

/-- One record, with the names of the states and triggers concerned. -/
inductive Log.Record where
  | compiled (initial : String) (states transitions : Nat)
  | committed (source trigger target : String)
  | rejected (state trigger : String)
  | reset (target : String)
  | forced (target : String)
  | restored (id state : String)
  deriving DecidableEq, Repr

namespace Log.Record

def level : Record → Level
  | rejected .. => .trace
  | _ => .debug

def message : Record → String
  | compiled .. => "compiled transition table"
  | committed .. => "transition committed"
  | rejected .. => "guard rejected transition"
  | reset .. => "reset to initial state"
  | forced .. => "reset to explicit state"
  | restored .. => "restored instance from checkpoint"

def fields : Record → List (String × Field)
  | compiled initial states transitions =>
    [("initial", .text initial), ("states", .count states), ("transitions", .count transitions)]
  | committed source trigger target =>
    [("from", .text source), ("trigger", .text trigger), ("to", .text target)]
  | rejected state trigger => [("state", .text state), ("trigger", .text trigger)]
  | reset target => [("to", .text target)]
  | forced target => [("to", .text target)]
  | restored id state => [("id", .text id), ("state", .text state)]

end Log.Record

end StateMachine
