import StateMachine.Checkpoint.Binary
import StateMachine.Checkpoint.JsonWriter
import StateMachine.Compiler.Handle
import StateMachine.Machine.Run
import StateMachine.Scenario.Step

namespace StateMachine.Scenario

def nestingLimit : Nat := 5

/-- What a scenario has made so far. -/
structure Session (S T K : Type) where
  compilers : Keyed String (Compiler S T Kind (Surroundings S T) K)
  machines : Keyed String (Machine S T Kind (Surroundings S T) K)
  instances : Keyed String K
  checkpoints : Keyed String (Checkpoint S)
  surroundings : Surroundings S T
  guards : Nat

namespace Session

variable {S T K : Type}

def start (flags : Keyed String Bool) : Session S T K :=
  ⟨.empty, .empty, .empty, .empty, .start flags, 0⟩

structure Progress (S T K : Type) where
  session : Session S T K
  answer : Answer S T
  state : Option S
  logs : List Log.Record

def answering (session : Session S T K) (answer : Answer S T) : Progress S T K :=
  ⟨session, answer, none, []⟩

def withSlot {α : Type} (session : Session S T K) (slots : Keyed String α) (slot : String)
    (kind : Slot) (use : α → Progress S T K) : Progress S T K :=
  match slots.get? slot with
  | none => session.answering (.missing kind)
  | some value => use value

def makeGuard [BEq S] [BEq T] (session : Session S T K) (spec : GuardSpec S T) :
    Session S T K × Guard S T (Surroundings S T) :=
  ({ session with guards := session.guards + 1 }, spec.guard session.guards)

variable [Vocabulary S] [Vocabulary T] [Storable S] [Subject K S]

def makeLinks (session : Session S T K) (kind : Option Kind) :
    List (LinkSpec S T) → Session S T K × List (Link S T Kind (Surroundings S T) K kind)
  | [] => (session, [])
  | .guard spec :: rest =>
    let (session, guard) := session.makeGuard spec
    let (session, links) := session.makeLinks kind rest
    (session, .guard guard :: links)
  | .action spec :: rest =>
    let (session, links) := session.makeLinks kind rest
    (session, .action (spec.action kind) :: links)

def reconfigure (session : Session S T K) (slot : String)
    (result : Compiler S T Kind (Surroundings S T) K × Option (ConfigError S T Kind)) :
    Progress S T K :=
  { session with compilers := session.compilers.put slot result.1 }.answering <|
    match result.2 with
    | none => .done
    | some e => .configError e

def declare (session : Session S T K) (slot : String)
    (compiler : Compiler S T Kind (Surroundings S T) K) (kind : Option Kind)
    (source : S) (trigger : T) (target : S) (chain : List (LinkSpec S T)) : Progress S T K :=
  let (session, links) := session.makeLinks kind chain
  session.reconfigure slot (compiler.declareChain source trigger target kind links)

def layoutText (pretty : Bool) (layout : Layout) : String :=
  if pretty then layout.spread else layout.inline

def compilerStep (session : Session S T K) (slot : String)
    (compiler : Compiler S T Kind (Surroundings S T) K) : CompilerStep S T → Progress S T K
  | .setInitial state => session.reconfigure slot (compiler.setInitial state, none)
  | .declare kind source trigger target chain =>
    session.declare slot compiler kind source trigger target chain
  | .guard spec =>
    let (session, guard) := session.makeGuard spec
    session.reconfigure slot (compiler.attachGuard guard)
  | .action kind spec => session.reconfigure slot (compiler.attachAction kind (spec.action kind))
  | .callback spec => session.reconfigure slot (compiler.setCallback spec.callback)
  | .compile machine =>
    let session := { session with compilers := session.compilers.erase slot }
    match compiler.compile with
    | .error e => session.answering (.configError e)
    | .ok (compiled, record) =>
      ⟨{ session with machines := session.machines.put machine compiled }, .done, none, [record]⟩
  | .layout pretty => session.answering (.text (layoutText pretty compiler.layout))

def enter (session : Session S T K) (slot : String) (token : K) (answer : Answer S T)
    (logs : List Log.Record) : Progress S T K :=
  ⟨{ session with instances := session.instances.put slot token }, answer,
    some (Token.state token), logs⟩

def sorted {α : Type} [Diagnostic α] (values : List α) : List String :=
  (values.map diagnostic).mergeSort fun a b => !(b < a)

def reportTransition (transition : Transition S T Kind (Surroundings S T) K) :
    TransitionReport S T :=
  ⟨transition.source, transition.trigger, transition.target, transition.argument,
    transition.guard.isSome, transition.action.isSome, transition.layout.inline⟩

def machineStep (session : Session S T K) (machine : Machine S T Kind (Surroundings S T) K) :
    MachineStep S T → Progress S T K
  | .create target => session.enter target (Subject.enroll machine.newMemory) .done []
  | .initial => session.answering (.text (diagnostic machine.initial))
  | .count => session.answering (.count machine.size)
  | .states => session.answering (.texts (sorted machine.states))
  | .permitted state => session.answering (.texts (sorted (machine.triggersFrom state)))
  | .configured state => session.answering (.truth (machine.hasTransitions state))
  | .layout pretty => session.answering (.text (layoutText pretty machine.layout))
  | .transition state trigger =>
    session.answering (.transition ((machine.transition? state trigger).map reportTransition))
  | .verdict state trigger =>
    match machine.transition? state trigger with
    | none => session.answering (.verdict none)
    | some transition =>
      let verdict := transition.verdict session.surroundings
      { session with surroundings := verdict.world }.answering (.verdict (some verdict.value))

def fire (session : Session S T K) (machine : Machine S T Kind (Surroundings S T) K)
    (slot : String) (token : K) (trigger : T) (argument : Argument Kind)
    (answer : Except (FireError S T Kind) (Fired S) → Answer S T) : Progress S T K :=
  let result := machine.fire nestingLimit trigger argument ⟨session.surroundings, token⟩
  { session with surroundings := result.world.environment }.enter slot result.world.token
    (answer result.value) (result.events.filterMap Event.record?)

def instanceStep (session : Session S T K) (machine : Machine S T Kind (Surroundings S T) K)
    (slot : String) (token : K) : InstanceStep S T → Progress S T K
  | .fire trigger argument =>
    session.fire machine slot token trigger argument fun
      | .ok outcome => .fired outcome
      | .error e => .fireError e
  | .fireLayout trigger =>
    session.fire machine slot token trigger .absent fun
      | .ok outcome => .text outcome.layout.inline
      | .error e => .text e.layout.inline
  | .reset =>
    let (token, record) := machine.reset token
    session.enter slot token .done [record]
  | .force state =>
    match machine.force state token with
    | .error e => session.enter slot token (.fireError e) []
    | .ok (token, record) => session.enter slot token .done [record]
  | .enabled trigger =>
    let verdict := machine.enabled trigger token session.surroundings
    { session with surroundings := verdict.world }.enter slot token (.truth verdict.value) []
  | .state => session.enter slot token (.text (diagnostic (Token.state token))) []
  | .unknown => session.answering (.unreadable "do")

def keep (session : Session S T K) (slot : String) (checkpoint : Checkpoint S)
    (captured : Bool) : Progress S T K :=
  { session with checkpoints := session.checkpoints.put slot checkpoint }.answering
    (.checkpoint checkpoint captured)

def keepResult (session : Session S T K) (slot : String)
    (result : Except (CheckpointError S) (Checkpoint S)) : Progress S T K :=
  match result with
  | .error e => session.answering (.checkpointError e)
  | .ok checkpoint => session.keep slot checkpoint false

def perform (session : Session S T K) : Step S T → Progress S T K
  | .newCompiler slot =>
    { session with compilers := session.compilers.put slot .empty }.answering .done
  | .compiler slot step =>
    session.withSlot session.compilers slot .compiler (session.compilerStep slot · step)
  | .machine slot step =>
    session.withSlot session.machines slot .machine (session.machineStep · step)
  | .inst machine slot step =>
    session.withSlot session.machines machine .machine fun machine =>
      session.withSlot session.instances slot .inst (session.instanceStep machine slot · step)
  | .inspect slot =>
    session.withSlot session.instances slot .inst fun token =>
      session.answering (.inspected (Token.state token) (Subject.notes? token))
  | .memoryJson slot =>
    session.withSlot session.instances slot .inst fun token =>
      session.answering <|
        match (Token.memory token).toJson with
        | .error reason => .notSerialized reason
        | .ok text => .text text
  | .clone source target =>
    session.withSlot session.instances source .inst fun token =>
      { session with instances := session.instances.put target token }.answering .done
  | .same first second =>
    session.withSlot session.instances first .inst fun a =>
      session.withSlot session.instances second .inst fun b =>
        session.answering (.truth ((Token.memory a).same (Token.memory b)))
  | .setFlag name value =>
    { session with surroundings := session.surroundings.setFlag name value }.answering .done
  | .capture slot checkpoint id seconds nanos =>
    session.withSlot session.instances slot .inst fun token =>
      match Timestamp.ofUnix? seconds nanos with
      | none => session.answering (.unreadable "secs")
      | some timestamp => session.keep checkpoint (.capture token id timestamp) true
  | .ofJson slot text => session.keepResult slot (Checkpoint.ofJson text)
  | .ofBinary slot bytes => session.keepResult slot (Checkpoint.ofBinary bytes)
  | .toJson slot =>
    session.withSlot session.checkpoints slot .checkpoint fun checkpoint =>
      session.answering <|
        match checkpoint.toJson with
        | .error e => .checkpointError e
        | .ok text => .text text
  | .toBinary slot =>
    session.withSlot session.checkpoints slot .checkpoint fun checkpoint =>
      session.answering <|
        match checkpoint.toBinary with
        | .error e => .checkpointError e
        | .ok bytes => .bytes bytes
  | .checkpoint slot =>
    session.withSlot session.checkpoints slot .checkpoint fun checkpoint =>
      session.answering (.checkpoint checkpoint false)
  | .setVersion slot version =>
    session.withSlot session.checkpoints slot .checkpoint fun checkpoint =>
      session.keep slot { checkpoint with version } false
  | .restore checkpoint machine slot =>
    session.withSlot session.checkpoints checkpoint .checkpoint fun checkpoint =>
      session.withSlot session.machines machine .machine fun machine =>
        match machine.restore checkpoint with
        | .error e => session.answering (.checkpointError e)
        | .ok (memory, record) => session.enter slot (Subject.enroll memory) .done [record]
  | .unreadable field => session.answering (.unreadable field)

/-- Performs a step on an empty trace and reports on it. -/
def step (session : Session S T K) (step : Step S T) : Session S T K × Report S T :=
  let fresh := { session with surroundings := { session.surroundings with trace := [] } }
  let progress := fresh.perform step
  (progress.session,
    ⟨progress.answer, progress.state, progress.session.surroundings.trace, progress.logs⟩)

def reports (session : Session S T K) : List (Step S T) → List (Report S T)
  | [] => []
  | next :: rest =>
    let (session, report) := session.step next
    report :: session.reports rest

end Session

end StateMachine.Scenario
