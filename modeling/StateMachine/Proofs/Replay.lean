import StateMachine.Machine.Use
import StateMachine.Proofs.Reachability
import StateMachine.Scenario.Effect

namespace StateMachine

namespace Log

abbrev Entry := Level × List (String × Field)

def Record.entry (record : Record) : Entry := (record.level, record.fields)

/-- The name of the state after an entry, by the field that tells where an instance went. -/
def follow (before : String) (entry : Entry) : String :=
  match entry.2.lookup "to" with
  | some (.text target) => target
  | _ => before

def replay (start : String) (entries : List Entry) : String := entries.foldl follow start

theorem replay_append (start : String) (earlier later : List Entry) :
    replay start (earlier ++ later) = replay (replay start earlier) later :=
  List.foldl_append

end Log

variable {S T A E K : Type} [ArgumentKind A]

def Event.entry? (event : Event S T A) : Option Log.Entry := event.record?.map Log.Record.entry

def Event.entries (events : List (Event S T A)) : List Log.Entry := events.filterMap entry?

theorem Event.entries_append (earlier later : List (Event S T A)) :
    entries (earlier ++ later) = entries earlier ++ entries later :=
  List.filterMap_append

theorem Event.entries_stored (state : S) (later : List (Event S T A)) :
    entries (.stored state :: later) = entries later :=
  rfl

theorem Transition.entries_guardCall (transition : Transition S T A E K) (passed : Bool) :
    Event.entries (transition.guardCall passed) = [] := by
  rw [guardCall]
  cases transition.guard <;> rfl

theorem Transition.entries_actionCall (transition : Transition S T A E K) (argument : Argument A)
    (current : S) : Event.entries (transition.actionCall argument current) = [] := by
  rw [actionCall]
  cases transition.action <;> rfl

theorem Machine.entries_callbackCall (machine : Machine S T A E K) (source : S) (trigger : T)
    (target current : S) :
    Event.entries (machine.callbackCall source trigger target current) = [] := by
  rw [callbackCall]
  cases machine.callback <;> rfl

theorem Transition.entries_verdict (transition : Transition S T A E K) (environment : E) :
    Event.entries (transition.verdict environment).events = [] := by
  rw [events_verdict, entries_guardCall]

section Scripts

variable [Token K S]

/-- A script that puts no requests and, where the instance has this memory, leaves it alone. -/
inductive Script.Keeps (memory : Memory S) : Script S T A E K → Prop where
  | done : Keeps memory .done
  | observe {next : E → K → Script S T A E K}
      (later : ∀ environment token, Token.memory token = memory →
        Keeps memory (next environment token)) : Keeps memory (.observe next)
  | update {environment : E} {token : K} {next : Script S T A E K}
      (kept : Token.memory token = memory) (later : Keeps memory next) :
    Keeps memory (.update environment token next)

theorem Script.Keeps.run {memory : Memory S} {script : Script S T A E K} (h : script.Keeps memory)
    (handler : Handler S T A E K) {world : World E K} (hw : Token.memory world.token = memory) :
    (script.run handler world).events = [] ∧
      Token.memory (script.run handler world).world.token = memory := by
  induction h generalizing world with
  | done => exact ⟨rfl, hw⟩
  | observe _ ih => exact ih _ _ hw hw
  | update kept _ ih => exact ih kept

/-- A machine whose actions and callback put no requests and leave every memory alone. -/
structure Machine.Quiet [BEq S] [BEq T] (machine : Machine S T A E K) : Prop where
  action : ∀ {state trigger transition}, machine.transition? state trigger = some transition →
    ∀ payload memory, (transition.script payload).Keeps memory
  callback : ∀ source trigger target memory,
    (machine.callbackScript source trigger target).Keeps memory

end Scripts

def Use.Result.blocked? : Use.Result S T A E K → Option S
  | .operation (.fired (.ok (.blocked found))) => some found
  | _ => none

namespace Machine

section Questions

variable [BEq S] [BEq T]

theorem entries_enabled [Token K S] (machine : Machine S T A E K) (trigger : T) (token : K)
    (environment : E) :
    Event.entries (machine.enabled trigger token environment).events = [] := by
  rw [enabled]
  cases machine.select (Token.state token) trigger with
  | error e => rfl
  | ok transition => exact transition.entries_verdict environment

theorem entries_permits (machine : Machine S T A E K) (state : S) (trigger : T) (environment : E) :
    Event.entries (machine.permits state trigger environment).events = [] := by
  rw [permits]
  cases machine.transition? state trigger with
  | none => rfl
  | some transition => exact transition.entries_verdict environment

end Questions

variable [Named S] [Named T]

/-- The entries that a use leaves by what it gives back. Refusals, questions and answers leave
none. -/
def dueEntries (machine : Machine S T A E K) :
    Use S T A → Use.Result S T A E K → List Log.Entry
  | .operation (.fire trigger _), .operation (.fired (.ok (.committed source target))) =>
    [(.debug, [("from", .text (name source)), ("trigger", .text (name trigger)),
      ("to", .text (name target))])]
  | .operation (.fire trigger _), .operation (.fired (.ok (.blocked state))) =>
    [(.trace, [("state", .text (name state)), ("trigger", .text (name trigger))])]
  | .operation .reset, _ => [(.debug, [("to", .text (name machine.initial))])]
  | .operation (.force state), .operation (.forced (.ok ())) =>
    [(.debug, [("to", .text (name state))])]
  | .restore checkpoint, .restored (.ok memory) =>
    [(.debug, [("id", .text checkpoint.id), ("state", .text (name memory.state))])]
  | _, _ => []

variable [Token K S]

/-- The log is kept by a use of an instance: the entries are those that are due, they lead from the
state before to the state after, and what is left by a commit is the state before. -/
structure Logs (machine : Machine S T A E K) (use : Use S T A) (world : World E K)
    (step : Traced (Event S T A) (World E K) (Use.Result S T A E K)) : Prop where
  due : Event.entries step.events = machine.dueEntries use step.value
  follow : Log.replay (name (Token.state world.token)) (Event.entries step.events) =
    name (Token.state step.world.token)
  source : ∀ entry ∈ Event.entries step.events, ∀ source,
    entry.2.lookup "from" = some (.text source) → source = name (Token.state world.token)
  blocked : ∀ state, step.value.blocked? = some state →
    state = Token.state world.token ∧ step.world.token = world.token

variable {machine : Machine S T A E K} {use : Use S T A} {world : World E K}

theorem Logs.of_silent {step : Traced (Event S T A) (World E K) (Use.Result S T A E K)}
    (hentries : Event.entries step.events = []) (hdue : machine.dueEntries use step.value = [])
    (htoken : step.world.token = world.token) (hblocked : step.value.blocked? = none) :
    machine.Logs use world step where
  due := by rw [hentries, hdue]
  follow := by
    rw [hentries, htoken]
    rfl
  source := by
    rw [hentries]
    rintro _ ⟨⟩
  blocked state h := by
    rw [hblocked] at h
    cases h

theorem Logs.of_entry {step : Traced (Event S T A) (World E K) (Use.Result S T A E K)}
    {entry : Log.Entry} (hentries : Event.entries step.events = [entry])
    (hdue : machine.dueEntries use step.value = [entry])
    (hfollow : Log.follow (name (Token.state world.token)) entry =
      name (Token.state step.world.token))
    (hsource : ∀ source, entry.2.lookup "from" = some (.text source) →
      source = name (Token.state world.token))
    (hblocked : ∀ state, step.value.blocked? = some state →
      state = Token.state world.token ∧ step.world.token = world.token) :
    machine.Logs use world step where
  due := by rw [hentries, hdue]
  follow := by
    rw [hentries]
    exact hfollow
  source found hfound := by
    rw [hentries] at hfound
    rw [List.mem_singleton.1 hfound]
    exact hsource
  blocked := hblocked

variable [BEq S] [BEq T] [DecidableEq A] [LawfulToken K]

/-- A commit whose scripts leave the target alone writes no other record than its own and leaves the
instance in the target. -/
theorem run_of_keeps {d : Dispatch T A E K} (c : d.Commit machine)
    (haction : (c.transition.script c.payload).Keeps ⟨c.transition.target⟩)
    (hcallback : (machine.callbackScript (Token.state d.world.token) d.trigger
      c.transition.target).Keeps ⟨c.transition.target⟩) :
    Token.memory (d.run machine).world.token = ⟨c.transition.target⟩ ∧
      Event.entries (d.run machine).events = [Log.Record.entry (.committed
        (name (Token.state d.world.token)) (name d.trigger) (name c.transition.target))] := by
  have hmoved : Token.memory c.moved.token = ⟨c.transition.target⟩ :=
    LawfulToken.memory_setMemory d.world.token ⟨c.transition.target⟩
  obtain ⟨hacted, hleft⟩ := haction.run (machine.answer d.depth) hmoved
  obtain ⟨hcalled, hend⟩ := hcallback.run (machine.answer d.depth) hleft
  have hrun := fireUnder_of_permitted (machine.answer d.depth) c.selected c.accepted c.permitted
  constructor
  · rw [world_run c]
    exact hend
  · rw [Dispatch.run, fire, hrun]
    dsimp only [Dispatch.Commit.moved] at hacted hcalled ⊢
    rw [hacted, hcalled]
    simp only [Event.entries_append, Event.entries_stored, c.transition.entries_guardCall,
      c.transition.entries_actionCall, machine.entries_callbackCall, List.append_nil]
    rfl

theorem Quiet.run_commit (h : machine.Quiet) {d : Dispatch T A E K} (c : d.Commit machine) :
    Token.memory (d.run machine).world.token = ⟨c.transition.target⟩ ∧
      Event.entries (d.run machine).events = [Log.Record.entry (.committed
        (name (Token.state d.world.token)) (name d.trigger) (name c.transition.target))] :=
  run_of_keeps c (h.action (select_eq_ok_iff.1 c.selected) _ _) (h.callback _ _ _ _)

theorem Quiet.logs_fire (h : machine.Quiet) (d : Dispatch T A E K) :
    machine.Logs (.operation (.fire d.trigger d.argument)) d.world
      ((d.run machine).map fun outcome => .operation (.fired outcome)) := by
  cases hs : machine.select (Token.state d.world.token) d.trigger with
  | error e =>
    rw [Dispatch.run, fire, fireUnder_of_select hs]
    exact .of_silent rfl rfl rfl rfl
  | ok transition =>
    cases ha : transition.accept d.argument with
    | error e =>
      rw [Dispatch.run, fire, fireUnder_of_accept hs ha]
      exact .of_silent rfl rfl rfl rfl
    | ok payload =>
      cases hv : (transition.verdict d.world.environment).value with
      | false =>
        rw [Dispatch.run, fire, fireUnder_of_rejected hs ha hv]
        refine .of_entry ?_ rfl rfl ?_ ?_
        · exact (Event.entries_append _ _).trans
            (congrArg (· ++ _) (transition.entries_guardCall false))
        · rintro _ ⟨⟩
        · rintro _ ⟨⟩
          exact ⟨rfl, rfl⟩
      | true =>
        let c : d.Commit machine := ⟨transition, payload, hs, ha, hv⟩
        obtain ⟨hmemory, hentries⟩ := h.run_commit c
        refine .of_entry hentries ?_ ?_ ?_ ?_
        · simp only [Traced.map, c.value_run]
          rfl
        · simp only [Traced.map, Token.state, hmemory]
          rfl
        · rintro _ ⟨⟩
          rfl
        · simp only [Traced.map, c.value_run]
          rintro _ ⟨⟩

theorem logs_reset (machine : Machine S T A E K) (depth : Nat) (world : World E K) :
    machine.Logs (.operation .reset) world
      ((machine.perform depth .reset world).map .operation) := by
  have hanswer : machine.answer depth .reset world = ⟨(), { world with
      token := Token.move world.token machine.initial },
      [.log (.reset (name machine.initial)), .stored machine.initial]⟩ := by
    simp only [answer, reset]
  rw [perform, hanswer]
  refine .of_entry rfl rfl ?_ (by rintro _ ⟨⟩) (by rintro _ ⟨⟩)
  simp only [Traced.map, Token.state_move]
  rfl

theorem logs_force (machine : Machine S T A E K) (depth : Nat) (state : S) (world : World E K) :
    machine.Logs (.operation (.force state)) world
      ((machine.perform depth (.force state) world).map .operation) := by
  rw [perform]
  cases hs : machine.hasTransitions state with
  | true =>
    rw [answer_force_of_hasTransitions hs]
    refine .of_entry rfl rfl ?_ (by rintro _ ⟨⟩) (by rintro _ ⟨⟩)
    simp only [Traced.map, Token.state_move]
    rfl
  | false =>
    rw [answer_force_of_not_hasTransitions hs]
    exact .of_silent rfl rfl rfl rfl

omit [LawfulToken K] in
theorem logs_restore (machine : Machine S T A E K) [Storable S] (depth : Nat)
    (checkpoint : Checkpoint S) (world : World E K) :
    machine.Logs (.restore checkpoint) world (machine.use depth (.restore checkpoint) world) := by
  rw [Machine.use]
  cases hr : machine.restore checkpoint with
  | error e =>
    rw [answer_restore_of_error hr]
    exact .of_silent rfl rfl rfl rfl
  | ok restored =>
    obtain ⟨memory, record⟩ := restored
    obtain ⟨-, -, rfl, rfl⟩ := restore_eq_ok_iff.1 hr
    rw [answer_restore_of_ok hr]
    exact .of_entry rfl rfl rfl (by rintro _ ⟨⟩) (by rintro _ ⟨⟩)

variable [Storable S]

theorem Quiet.logs_use (h : machine.Quiet) (depth : Nat) (use : Use S T A)
    (hu : ∀ memory, use ≠ .adopt memory) (world : World E K) :
    machine.Logs use world (machine.use depth use world) := by
  cases use with
  | operation operation =>
    cases operation with
    | fire trigger argument => exact h.logs_fire ⟨depth, trigger, argument, world⟩
    | reset => exact machine.logs_reset depth world
    | force state => exact machine.logs_force depth state world
    | enabled trigger =>
      refine .of_silent ?_ rfl ?_ rfl
      · simp only [Machine.use, perform, answer]
        exact machine.entries_enabled trigger world.token world.environment
      · simp only [Machine.use, perform, answer]
        rfl
    | capture id timestamp => exact .of_silent rfl rfl rfl rfl
  | permits state trigger =>
    exact .of_silent (machine.entries_permits state trigger world.environment) rfl rfl rfl
  | restore checkpoint => exact machine.logs_restore depth checkpoint world
  | adopt memory => exact (hu memory rfl).elim
  | query query => exact .of_silent rfl rfl rfl rfl
  | state => exact .of_silent rfl rfl rfl rfl
  | encode checkpoint format => exact .of_silent rfl rfl rfl rfl
  | decode encoded => exact .of_silent rfl rfl rfl rfl

omit [LawfulToken K] in
theorem useAll_append (machine : Machine S T A E K) (depth : Nat) (earlier later : List (Use S T A))
    (world : World E K) :
    machine.useAll depth (earlier ++ later) world =
      (machine.useAll depth earlier world).bind fun results left =>
        (machine.useAll depth later left).map (results ++ ·) := by
  induction earlier generalizing world with
  | nil => rfl
  | cons next rest ih =>
    simp only [List.cons_append, useAll, ih, Traced.bind, Traced.map, List.append_assoc]

omit [LawfulToken K] in
theorem useAll_snoc (machine : Machine S T A E K) (depth : Nat) (earlier : List (Use S T A))
    (next : Use S T A) (world : World E K) :
    let before := machine.useAll depth earlier world
    let step := machine.use depth next before.world
    machine.useAll depth (earlier ++ [next]) world =
      ⟨before.value ++ [step.value], step.world, before.events ++ step.events⟩ := by
  rw [useAll_append]
  simp only [useAll, Traced.bind, Traced.map, Traced.pure, List.append_nil]

theorem Quiet.replay_entries (h : machine.Quiet) (depth : Nat) (uses : List (Use S T A))
    (hu : ∀ memory, .adopt memory ∉ uses) (world : World E K) :
    let run := machine.useAll depth uses world
    Log.replay (name (Token.state world.token)) (Event.entries run.events) =
      name (Token.state run.world.token) := by
  induction uses using List.reverseRecOn with
  | nil => rfl
  | append_singleton earlier next ih =>
    have hstep := h.logs_use depth next
      (fun memory he => hu memory (by simp [he])) (machine.useAll depth earlier world).world
    have hearlier := ih fun memory hmem => hu memory (List.mem_append_left _ hmem)
    rw [useAll_snoc]
    simp only [Event.entries_append, Log.replay_append, hearlier]
    exact hstep.follow

/-- Take any run of a machine whose actions and callback put no requests and leave the memory alone,
and a use that follows. It adds the entries that are due for what it gives back: one for a commit,
with the names of source, trigger and target, one of the lower level for a rejection, with the name
of the unchanged state, one for a reset and for a force that is not refused, with the name of the
target, and none for refusals, questions and answers. The entries so far, followed from the name of
the first state, lead to the name of the present state before the use and after it, and a commit
leaves the state that they lead to. -/
theorem replay_useAll (h : machine.Quiet) (depth : Nat) (earlier : List (Use S T A))
    (next : Use S T A) (hu : ∀ memory, .adopt memory ∉ earlier ++ [next]) (world : World E K) :
    let start := name (Token.state world.token)
    let before := machine.useAll depth earlier world
    let step := machine.use depth next before.world
    let after := machine.useAll depth (earlier ++ [next]) world
    after = ⟨before.value ++ [step.value], step.world, before.events ++ step.events⟩ ∧
      Event.entries step.events = machine.dueEntries next step.value ∧
      Log.replay start (Event.entries before.events) = name (Token.state before.world.token) ∧
      Log.replay start (Event.entries after.events) = name (Token.state after.world.token) ∧
      (∀ entry ∈ Event.entries step.events, ∀ source,
        entry.2.lookup "from" = some (.text source) →
          source = Log.replay start (Event.entries before.events)) ∧
      ∀ state, step.value.blocked? = some state →
        state = Token.state before.world.token ∧ step.world.token = before.world.token := by
  intro start before step after
  have hearlier : ∀ memory, .adopt memory ∉ earlier :=
    fun memory hmem => hu memory (List.mem_append_left _ hmem)
  have hnext : ∀ memory, next ≠ .adopt memory := by
    rintro memory rfl
    exact hu memory (List.mem_append_right _ List.mem_cons_self)
  have hstep := h.logs_use depth next hnext before.world
  have hbefore := h.replay_entries depth earlier hearlier world
  refine ⟨machine.useAll_snoc depth earlier next world, hstep.due, hbefore,
    h.replay_entries depth _ hu world, ?_, hstep.blocked⟩
  rw [hbefore]
  exact hstep.source

open Scenario in
def notingCalls : List (Call Door DoorInput Kind Nat (Probe Door)) :=
  [.setInitial .closed,
    .declare .closed .opening .opened none,
    .guard fun _ _ _ count => (count == 0, count + 1),
    .action none fun _ _ _ _ => .observe fun count probe =>
      .update count { probe with notes := { probe.notes with log := ["opened"] } } .done,
    .declare .opened .closing .closed none,
    .callback fun _ _ _ => .observe fun count probe => .update (count + 1) probe .done]

def notingMachine : Machine Scenario.Door Scenario.DoorInput Scenario.Kind Nat
    (Scenario.Probe Scenario.Door) :=
  ⟨.closed, (Compiler.after notingCalls).table, (Compiler.after notingCalls).callback⟩

theorem quiet_notingMachine : notingMachine.Quiet where
  action := by
    intro state trigger transition ht payload memory
    cases state <;> cases trigger <;> cases ht
    · exact .observe fun _ _ h => .update h .done
    · exact .done
  callback _ _ _ _ := .observe fun _ _ h => .update h .done

open Scenario in
theorem replay_useAll_doors :
    let uses : List (Use Door DoorInput Kind) := [.operation (.fire .opening .absent),
      .operation (.fire .locking .absent), .operation (.fire .closing .absent)]
    let run := notingMachine.useAll 0 (uses ++ [.operation (.fire .opening .absent)])
      ⟨0, ⟨⟨.closed⟩, .none⟩⟩
    Event.entries run.events =
        [(.debug, [("from", .text "Closed"), ("trigger", .text "Open"), ("to", .text "Open")]),
          (.debug, [("from", .text "Open"), ("trigger", .text "Close"), ("to", .text "Closed")]),
          (.trace, [("state", .text "Closed"), ("trigger", .text "Open")])] ∧
      Log.replay "Closed" (Event.entries run.events) = name (Token.state run.world.token) := by
  intro uses run
  obtain ⟨-, -, -, hafter, -⟩ := replay_useAll quiet_notingMachine 0 uses
    (.operation (.fire .opening .absent)) (by simp [uses]) ⟨0, ⟨⟨.closed⟩, .none⟩⟩
  exact ⟨rfl, hafter⟩

end Machine

end StateMachine
