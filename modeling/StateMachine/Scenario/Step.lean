import StateMachine.Compiler
import StateMachine.Scenario.Condition
import StateMachine.Scenario.Effect

namespace StateMachine.Scenario

inductive LinkSpec (S T : Type) where
  | guard (spec : GuardSpec S T)
  | action (spec : ActionSpec S T)

inductive CompilerStep (S T : Type) where
  | setInitial (state : S)
  | declare (kind : Option Kind) (source : S) (trigger : T) (target : S)
    (chain : List (LinkSpec S T))
  | guard (spec : GuardSpec S T)
  | action (kind : Option Kind) (spec : ActionSpec S T)
  | callback (spec : ActionSpec S T)
  /-- Freezes the compiler into a machine in a slot. The compiler is used up in any case. -/
  | compile (machine : String)
  | layout (pretty : Bool)

inductive MachineStep (S T : Type) where
  | create (target : String)
  | initial
  | count
  | states
  | permitted (state : S)
  | configured (state : S)
  | layout (pretty : Bool)
  | transition (state : S) (trigger : T)
  | verdict (state : S) (trigger : T)

inductive InstanceStep (S T : Type) where
  | fire (trigger : T) (argument : Argument Kind)
  | fireLayout (trigger : T)
  | reset
  | force (state : S)
  | enabled (trigger : T)
  | state
  | unknown

inductive Step (S T : Type) where
  | newCompiler (compiler : String)
  | compiler (slot : String) (step : CompilerStep S T)
  | machine (slot : String) (step : MachineStep S T)
  | inst (machine slot : String) (step : InstanceStep S T)
  | inspect (slot : String)
  | memoryJson (slot : String)
  | clone (source target : String)
  | same (first second : String)
  | setFlag (name : String) (value : Bool)
  | capture (slot checkpoint id : String) (seconds : Int) (nanos : Nat)
  | ofJson (checkpoint text : String)
  | ofBinary (checkpoint : String) (bytes : List UInt8)
  | toJson (checkpoint : String)
  | toBinary (checkpoint : String)
  | checkpoint (slot : String)
  | setVersion (checkpoint : String) (version : UInt32)
  | restore (checkpoint machine slot : String)
  | unreadable (field : String)

inductive Slot where
  | compiler
  | machine
  | inst
  | checkpoint
  deriving DecidableEq, Repr

def Slot.missing : Slot → String
  | compiler => "no such compiler"
  | machine => "no such machine"
  | inst => "no such instance"
  | checkpoint => "no such checkpoint"

structure TransitionReport (S T : Type) where
  source : S
  trigger : T
  target : S
  argument : Option Kind
  hasGuard : Bool
  hasAction : Bool
  layout : String

inductive Answer (S T : Type) where
  | done
  | truth (value : Bool)
  | count (value : Nat)
  | text (value : String)
  | texts (values : List String)
  | bytes (values : List UInt8)
  | fired (outcome : Fired S)
  | transition (report : Option (TransitionReport S T))
  | verdict (value : Option Bool)
  | inspected (state : S) (notes : Option (Notes S))
  | checkpoint (value : Checkpoint S) (captured : Bool)
  | configError (error : ConfigError S T Kind)
  | fireError (error : FireError S T Kind)
  | checkpointError (error : CheckpointError S)
  | notSerialized (reason : String)
  | missing (slot : Slot)
  | unreadable (field : String)

/-- What a step reports: its answer, the state of the instance concerned, and what was traced and
logged meanwhile. -/
structure Report (S T : Type) where
  answer : Answer S T
  state : Option S
  trace : List (Entry S T)
  logs : List Log.Record

end StateMachine.Scenario
