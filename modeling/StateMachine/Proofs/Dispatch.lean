import StateMachine.Machine.Run
import StateMachine.Proofs.Compilation

namespace StateMachine

variable {S T A E K : Type} [ArgumentKind A]

/-- A handler that replies alike and leaves no events. -/
def Handler.muted (handler : Handler S T A E K) : Handler S T A E K :=
  fun request world => { handler request world with events := [] }

theorem Script.run_muted (handler : Handler S T A E K) (script : Script S T A E K)
    (world : World E K) :
    script.run handler.muted world = ⟨(), (script.run handler world).world, []⟩ := by
  induction script generalizing world with
  | done => rfl
  | observe next ih => exact ih _ _ _
  | update environment token next ih => exact ih _
  | ask request next ih => simp only [run, Traced.bind, Handler.muted, ih, List.append_nil]

namespace Transition

def script (transition : Transition S T A E K) (payload : Payload transition.argument) :
    Script S T A E K :=
  match transition.action with
  | none => .done
  | some action => action transition.source transition.trigger transition.target payload

def actionCall (transition : Transition S T A E K) (argument : Argument A) (current : S) :
    List (Event S T A) :=
  (transition.action.map fun _ =>
    .action transition.source transition.trigger transition.target argument current).toList

def guardCall (transition : Transition S T A E K) (passed : Bool) : List (Event S T A) :=
  (transition.guard.map fun _ =>
    .guard transition.source transition.trigger transition.target passed).toList

def Permits (transition : Transition S T A E K) (environment : E) : Prop :=
  ∀ guard, transition.guard = some guard →
    (guard transition.source transition.trigger transition.target environment).1 = true

theorem permits_iff (transition : Transition S T A E K) (environment : E) :
    transition.Permits environment ↔ (transition.verdict environment).value = true := by
  cases hg : transition.guard with
  | none => simp [Permits, verdict, hg, Traced.pure]
  | some guard => simp [Permits, verdict, hg]

theorem events_verdict (transition : Transition S T A E K) (environment : E) :
    (transition.verdict environment).events =
      transition.guardCall (transition.verdict environment).value := by
  cases hg : transition.guard with
  | none => simp [verdict, guardCall, hg, Traced.pure]
  | some guard => simp [verdict, guardCall, hg]

theorem eq_of_accept [DecidableEq A] {transition : Transition S T A E K} {argument : Argument A}
    {payload : Payload transition.argument} (h : transition.accept argument = .ok payload) :
    (⟨transition.argument, payload⟩ : Argument A) = argument := by
  obtain ⟨source, trigger, target, required, guard, action⟩ := transition
  obtain ⟨kind, value⟩ := argument
  cases required with
  | none =>
    cases kind with
    | none =>
      cases h
      rfl
    | some found => cases h
  | some expected =>
    cases kind with
    | none => cases h
    | some found =>
      simp only [accept] at h
      split at h
      · next he =>
        subst he
        cases h
        rfl
      · cases h

theorem accept_of_unwanted [DecidableEq A] {transition : Transition S T A E K}
    {argument : Argument A} {found : A} (hr : transition.argument = none)
    (hg : argument.kind = some found) : transition.accept argument =
      .error (.argumentUnwanted transition.source transition.trigger found) := by
  obtain ⟨source, trigger, target, required, guard, action⟩ := transition
  obtain ⟨kind, value⟩ := argument
  cases hr
  cases hg
  rfl

theorem accept_of_missing [DecidableEq A] {transition : Transition S T A E K}
    {argument : Argument A} {expected : A} (hr : transition.argument = some expected)
    (hg : argument.kind = none) : transition.accept argument =
      .error (.argumentMissing transition.source transition.trigger expected) := by
  obtain ⟨source, trigger, target, required, guard, action⟩ := transition
  obtain ⟨kind, value⟩ := argument
  cases hr
  cases hg
  rfl

theorem accept_of_mismatch [DecidableEq A] {transition : Transition S T A E K}
    {argument : Argument A} {expected found : A} (hr : transition.argument = some expected)
    (hg : argument.kind = some found) (hne : expected ≠ found) : transition.accept argument =
      .error (.argumentMismatch transition.source transition.trigger expected found) := by
  obtain ⟨source, trigger, target, required, guard, action⟩ := transition
  obtain ⟨kind, value⟩ := argument
  cases hr
  cases hg
  exact dif_neg (Ne.symm hne)

theorem accept_isOk_iff [DecidableEq A] (transition : Transition S T A E K)
    (argument : Argument A) :
    (∃ payload, transition.accept argument = .ok payload) ↔
      argument.kind = transition.argument := by
  constructor
  · rintro ⟨payload, h⟩
    rw [← eq_of_accept h]
  · intro h
    obtain ⟨source, trigger, target, required, guard, action⟩ := transition
    obtain ⟨kind, value⟩ := argument
    cases h
    cases required with
    | none => exact ⟨value, rfl⟩
    | some found => exact ⟨value, by simp [accept]⟩

end Transition

namespace Machine

def callbackScript (machine : Machine S T A E K) (source : S) (trigger : T) (target : S) :
    Script S T A E K :=
  match machine.callback with
  | none => .done
  | some callback => callback source trigger target

def callbackCall (machine : Machine S T A E K) (source : S) (trigger : T) (target current : S) :
    List (Event S T A) :=
  (machine.callback.map fun _ => .callback source trigger target current).toList

variable [Token K S]

theorem act_eq (handler : Handler S T A E K) (transition : Transition S T A E K)
    (payload : Payload transition.argument) (world : World E K) :
    act handler transition payload world =
      ⟨(), ((transition.script payload).run handler world).world,
        transition.actionCall ⟨transition.argument, payload⟩ (Token.state world.token) ++
          ((transition.script payload).run handler world).events⟩ := by
  obtain ⟨source, trigger, target, argument, guard, action⟩ := transition
  cases action <;> rfl

theorem notify_eq (machine : Machine S T A E K) (handler : Handler S T A E K) (source : S)
    (trigger : T) (target : S) (world : World E K) :
    machine.notify handler source trigger target world =
      ⟨(), ((machine.callbackScript source trigger target).run handler world).world,
        machine.callbackCall source trigger target (Token.state world.token) ++
          ((machine.callbackScript source trigger target).run handler world).events⟩ := by
  obtain ⟨initial, table, callback⟩ := machine
  cases callback <;> rfl

variable [Named S] [Named T] [BEq S] [BEq T] [DecidableEq A]

/-- The events that a fire causes itself, without those of the requests that its scripts put. -/
def ownEvents (machine : Machine S T A E K) (handler : Handler S T A E K) (trigger : T)
    (argument : Argument A) (world : World E K) : List (Event S T A) :=
  (machine.fireUnder handler.muted trigger argument world).events

variable {machine : Machine S T A E K} {handler : Handler S T A E K} {trigger : T}
  {argument : Argument A} {world : World E K} {transition : Transition S T A E K}
  {payload : Payload transition.argument}

theorem fireUnder_of_select {e : FireError S T A}
    (hs : machine.select (Token.state world.token) trigger = .error e) :
    machine.fireUnder handler trigger argument world =
      ⟨.error e, world, [.returned (.error e)]⟩ := by
  simp only [fireUnder, attempt, hs]
  rfl

theorem fireUnder_of_accept {e : FireError S T A}
    (hs : machine.select (Token.state world.token) trigger = .ok transition)
    (ha : transition.accept argument = .error e) :
    machine.fireUnder handler trigger argument world =
      ⟨.error e, world, [.returned (.error e)]⟩ := by
  simp only [fireUnder, attempt, hs, ha]
  rfl

theorem fireUnder_of_rejected
    (hs : machine.select (Token.state world.token) trigger = .ok transition)
    (ha : transition.accept argument = .ok payload)
    (hv : (transition.verdict world.environment).value = false) :
    machine.fireUnder handler trigger argument world =
      ⟨.ok (.blocked (Token.state world.token)),
        ⟨(transition.verdict world.environment).world, world.token⟩,
        transition.guardCall false ++
          [.log (.rejected (name (Token.state world.token)) (name trigger)),
            .returned (.ok (.blocked (Token.state world.token)))]⟩ := by
  rw [← hv, ← transition.events_verdict]
  simp only [fireUnder, attempt, hs, ha, Traced.bind, Traced.mapWorld, hv]
  simp [block, Traced.map, Traced.record]

variable (handler) in
theorem fireUnder_of_permitted
    (hs : machine.select (Token.state world.token) trigger = .ok transition)
    (ha : transition.accept argument = .ok payload)
    (hv : (transition.verdict world.environment).value = true) :
    let source := Token.state world.token
    let moved : World E K := ⟨(transition.verdict world.environment).world,
      Token.move world.token transition.target⟩
    let acted := (transition.script payload).run handler moved
    let called := (machine.callbackScript source trigger transition.target).run handler acted.world
    machine.fireUnder handler trigger argument world =
      ⟨.ok (.committed source transition.target), called.world,
        transition.guardCall true ++ .stored transition.target ::
          (transition.actionCall argument (Token.state moved.token) ++ acted.events ++
            (machine.callbackCall source trigger transition.target
                (Token.state acted.world.token) ++
              called.events) ++
            [.log (.committed (name source) (name trigger) (name transition.target)),
              .returned (.ok (.committed source transition.target))])⟩ := by
  intro source moved acted called
  rw [← hv, ← transition.events_verdict]
  simp only [fireUnder, attempt, hs, ha, Traced.bind, Traced.mapWorld, hv, if_true]
  simp [commit, store, act_eq, notify_eq, Traced.bind, Traced.map, Traced.record,
    Transition.eq_of_accept ha, source, moved, acted, called]

end Machine

variable [BEq S] [BEq T] [DecidableEq A]

omit [DecidableEq A] in
theorem Machine.select_eq_ok_iff {machine : Machine S T A E K} {state : S} {trigger : T}
    {transition : Transition S T A E K} : machine.select state trigger = .ok transition ↔
      machine.transition? state trigger = some transition := by
  rw [select, transition?, Table.get?]
  cases machine.table.rows.get? state with
  | none => simp
  | some row => cases hr : row.get? trigger <;> simp [hr]

omit [DecidableEq A] in
theorem Machine.select_eq (machine : Machine S T A E K) (state : S) (trigger : T) :
    machine.select state trigger =
      if machine.hasTransitions state then
        match machine.transition? state trigger with
        | none => .error (.undeclared state trigger)
        | some transition => .ok transition
      else .error (.deadState state) := by
  rw [hasTransitions, Table.hasRow, Keyed.contains, transition?, Table.get?, select]
  cases machine.table.rows.get? state with
  | none => rfl
  | some row => cases hr : row.get? trigger <;> simp [hr]

theorem Call.Describes.select {calls : List (Call S T A E K)} {machine : Machine S T A E K}
    (h : Call.Describes calls machine) (state : S) (trigger : T) :
    machine.select state trigger =
      if calls.any (·.leaves state) then
        match Call.transition? calls state trigger with
        | none => .error (.undeclared state trigger)
        | some transition => .ok transition
      else .error (.deadState state) := by
  rw [machine.select_eq, h.row, h.transition]

/-- What becomes of a fire by the calls that made the machine. -/
inductive Call.Outcome (calls : List (Call S T A E K)) (state : S) (trigger : T)
    (argument : Argument A) (environment : E) : Except (FireError S T A) (Fired S) → Prop where
  | deadState (leaves : calls.any (·.leaves state) = false) :
    Outcome calls state trigger argument environment (.error (.deadState state))
  | undeclared (leaves : calls.any (·.leaves state) = true)
      (declares : calls.any (·.declares state trigger) = false) :
    Outcome calls state trigger argument environment (.error (.undeclared state trigger))
  | argumentUnwanted {transition : Transition S T A E K} {found : A}
      (declared : Call.transition? calls state trigger = some transition)
      (required : transition.argument = none) (given : argument.kind = some found) :
    Outcome calls state trigger argument environment
      (.error (.argumentUnwanted transition.source transition.trigger found))
  | argumentMissing {transition : Transition S T A E K} {expected : A}
      (declared : Call.transition? calls state trigger = some transition)
      (required : transition.argument = some expected) (given : argument.kind = none) :
    Outcome calls state trigger argument environment
      (.error (.argumentMissing transition.source transition.trigger expected))
  | argumentMismatch {transition : Transition S T A E K} {expected found : A}
      (declared : Call.transition? calls state trigger = some transition)
      (required : transition.argument = some expected) (given : argument.kind = some found)
      (differ : expected ≠ found) :
    Outcome calls state trigger argument environment
      (.error (.argumentMismatch transition.source transition.trigger expected found))
  | blocked {transition : Transition S T A E K} {guard : Guard S T E}
      (declared : Call.transition? calls state trigger = some transition)
      (given : argument.kind = transition.argument) (present : transition.guard = some guard)
      (rejects : (guard transition.source transition.trigger transition.target environment).1 =
        false) :
    Outcome calls state trigger argument environment (.ok (.blocked state))
  | committed {transition : Transition S T A E K}
      (declared : Call.transition? calls state trigger = some transition)
      (given : argument.kind = transition.argument) (permits : transition.Permits environment) :
    Outcome calls state trigger argument environment (.ok (.committed state transition.target))

namespace Call

variable {calls : List (Call S T A E K)} {state : S} {trigger : T} {argument : Argument A}
  {environment : E}

theorem exists_outcome (calls : List (Call S T A E K)) (state : S) (trigger : T)
    (argument : Argument A) (environment : E) :
    ∃ outcome, Outcome calls state trigger argument environment outcome := by
  cases hl : calls.any (·.leaves state) with
  | false => exact ⟨_, .deadState hl⟩
  | true =>
    cases hd : transition? calls state trigger with
    | none =>
      have hn := isSome_transition? calls state trigger
      rw [hd] at hn
      exact ⟨_, .undeclared hl hn.symm⟩
    | some transition =>
      by_cases hk : argument.kind = transition.argument
      · by_cases hp : transition.Permits environment
        · exact ⟨_, .committed hd hk hp⟩
        · simp only [Transition.Permits, not_forall, Bool.not_eq_true] at hp
          obtain ⟨guard, hg, hr⟩ := hp
          exact ⟨_, .blocked hd hk hg hr⟩
      · cases hr : transition.argument with
        | none =>
          cases hg : argument.kind with
          | none => exact absurd (hg.trans hr.symm) hk
          | some found => exact ⟨_, .argumentUnwanted hd hr hg⟩
        | some expected =>
          cases hg : argument.kind with
          | none => exact ⟨_, .argumentMissing hd hr hg⟩
          | some found =>
            refine ⟨_, .argumentMismatch hd hr hg ?_⟩
            rintro rfl
            exact hk (hg.trans hr.symm)

variable {machine : Machine S T A E K}

theorem Describes.select_of_some (h : Describes calls machine) {transition : Transition S T A E K}
    (hd : transition? calls state trigger = some transition) :
    machine.select state trigger = .ok transition := by
  rw [← h.transition] at hd
  exact Machine.select_eq_ok_iff.2 hd

variable [Token K S] [Named S] [Named T] {world : World E K}

theorem Describes.fireUnder_of_refused (h : Describes calls machine) (handler : Handler S T A E K)
    {e : FireError S T A}
    (ho : Outcome calls (Token.state world.token) trigger argument world.environment (.error e)) :
    machine.fireUnder handler trigger argument world =
      ⟨.error e, world, [.returned (.error e)]⟩ := by
  cases ho with
  | deadState hl =>
    apply Machine.fireUnder_of_select
    rw [h.select, hl]
    rfl
  | undeclared hl hd =>
    have hn : transition? calls (Token.state world.token) trigger = none := by
      rw [← Option.not_isSome_iff_eq_none, isSome_transition?, hd]
      decide
    apply Machine.fireUnder_of_select
    rw [h.select, hl, if_pos rfl, hn]
  | argumentUnwanted hd hr hg =>
    exact Machine.fireUnder_of_accept (h.select_of_some hd) (Transition.accept_of_unwanted hr hg)
  | argumentMissing hd hr hg =>
    exact Machine.fireUnder_of_accept (h.select_of_some hd) (Transition.accept_of_missing hr hg)
  | argumentMismatch hd hr hg hne =>
    exact Machine.fireUnder_of_accept (h.select_of_some hd)
      (Transition.accept_of_mismatch hr hg hne)

theorem Describes.fireUnder_of_rejected (h : Describes calls machine) (handler : Handler S T A E K)
    {transition : Transition S T A E K} {guard : Guard S T E}
    (hd : transition? calls (Token.state world.token) trigger = some transition)
    (hk : argument.kind = transition.argument) (hg : transition.guard = some guard)
    (hr : (guard transition.source transition.trigger transition.target
      world.environment).1 = false) :
    machine.fireUnder handler trigger argument world =
      ⟨.ok (.blocked (Token.state world.token)),
        ⟨(guard transition.source transition.trigger transition.target world.environment).2,
          world.token⟩,
        [.guard transition.source transition.trigger transition.target false,
          .log (.rejected (name (Token.state world.token)) (name trigger)),
          .returned (.ok (.blocked (Token.state world.token)))]⟩ := by
  obtain ⟨payload, ha⟩ := (transition.accept_isOk_iff argument).2 hk
  have hv : transition.verdict world.environment =
      ⟨false, (guard transition.source transition.trigger transition.target world.environment).2,
        [.guard transition.source transition.trigger transition.target false]⟩ := by
    simp only [Transition.verdict, hg, hr]
  rw [Machine.fireUnder_of_rejected (h.select_of_some hd) ha (by rw [hv]), hv]
  simp [Transition.guardCall, hg]

/-- The result of a fire is the outcome whose conditions hold. -/
theorem Describes.value_fireUnder_iff (h : Describes calls machine) (handler : Handler S T A E K)
    (trigger : T) (argument : Argument A) (world : World E K)
    (outcome : Except (FireError S T A) (Fired S)) :
    (machine.fireUnder handler trigger argument world).value = outcome ↔
      Outcome calls (Token.state world.token) trigger argument world.environment outcome := by
  have hsound : ∀ outcome,
      Outcome calls (Token.state world.token) trigger argument world.environment outcome →
      (machine.fireUnder handler trigger argument world).value = outcome := by
    intro outcome ho
    cases outcome with
    | error e => rw [h.fireUnder_of_refused handler ho]
    | ok fired =>
      cases ho with
      | blocked hd hk hg hr => rw [h.fireUnder_of_rejected handler hd hk hg hr]
      | @committed transition hd hk hp =>
        obtain ⟨payload, ha⟩ := (transition.accept_isOk_iff argument).2 hk
        rw [Machine.fireUnder_of_permitted _ (h.select_of_some hd) ha
          ((transition.permits_iff _).1 hp)]
  refine ⟨fun hv => ?_, hsound outcome⟩
  obtain ⟨actual, ho⟩ := exists_outcome calls (Token.state world.token) trigger argument
    world.environment
  rw [← hv, hsound actual ho]
  exact ho

end Call

def Event.isGuard : Event S T A → Bool
  | guard .. => true
  | _ => false

namespace Machine

variable [Token K S] [Named S] [Named T] [EquivBEq S] [EquivBEq T]

/-- A fire that passes all checks stores the declared target, calls the action and the callback, and
writes its record, each once and in this order, whatever the scripts of both do. -/
theorem fire_commits [LawfulToken K] {calls : List (Call S T A E K)} {machine : Machine S T A E K}
    {record : Log.Record} (hc : (Compiler.after calls).compile = .ok (machine, record))
    (depth : Nat) (trigger : T) (argument : Argument A) (world : World E K)
    (transition : Transition S T A E K) (payload : Payload transition.argument)
    (hs : machine.select (Token.state world.token) trigger = .ok transition)
    (ha : transition.accept argument = .ok payload)
    (hv : (transition.verdict world.environment).value = true) :
    let handler := machine.answer depth
    let source := Token.state world.token
    let moved : World E K := ⟨(transition.verdict world.environment).world,
      Token.move world.token transition.target⟩
    let acted := (transition.script payload).run handler moved
    let called := (machine.callbackScript source trigger transition.target).run handler acted.world
    let committed := Log.Record.committed (name source) (name trigger) (name transition.target)
    let result := machine.fire depth trigger argument world
    Call.transition? calls source trigger = some transition ∧
    (⟨transition.argument, payload⟩ : Argument A) = argument ∧
    result.value = .ok (.committed source transition.target) ∧
    result.world = called.world ∧
    result.events = transition.guardCall true ++ .stored transition.target ::
      (transition.actionCall argument transition.target ++ acted.events ++
        (machine.callbackCall source trigger transition.target (Token.state acted.world.token) ++
          called.events) ++
        [.log committed, .returned (.ok (.committed source transition.target))]) ∧
    machine.ownEvents handler trigger argument world =
      transition.guardCall true ++ .stored transition.target ::
        (transition.actionCall argument transition.target ++
          machine.callbackCall source trigger transition.target (Token.state acted.world.token) ++
          [.log committed, .returned (.ok (.committed source transition.target))]) ∧
    committed.level = .debug ∧ committed.message = "transition committed" := by
  intro handler source moved acted called committed result
  have h := (Compiler.reflects_after calls).describes hc
  have hd : Call.transition? calls source trigger = some transition := by
    have hselect := h.select source trigger
    rw [hs] at hselect
    split at hselect
    · cases ht : Call.transition? calls source trigger with
      | none => rw [ht] at hselect; cases hselect
      | some found =>
        rw [ht] at hselect
        cases hselect
        rfl
    · cases hselect
  have hrun := fireUnder_of_permitted handler hs ha hv
  have hown := fireUnder_of_permitted handler.muted hs ha hv
  simp only [Token.state_move] at hrun
  simp only [Token.state_move, Script.run_muted, List.append_nil] at hown
  exact ⟨hd, Transition.eq_of_accept ha, congrArg (·.value) hrun, congrArg (·.world) hrun,
    congrArg (·.events) hrun, congrArg (·.events) hown, rfl, rfl⟩

open Scenario in
/-- Calls whose machine fires from `a` to `b`; the action fires back and the callback resets. -/
def reentrantCalls :
    List (Call (Label .folded) (Label .folded) Kind Nat (Memory (Label .folded))) :=
  [.setInitial ⟨"a"⟩,
    .declare ⟨"a"⟩ ⟨"go"⟩ ⟨"b"⟩ (some .bool),
    .guard fun _ _ _ count => (true, count + 1),
    .action (some .bool) fun _ _ _ _ => .ask (.fire ⟨"BACK"⟩ .absent) fun _ => .done,
    .declare ⟨"b"⟩ ⟨"back"⟩ ⟨"a"⟩ none,
    .callback fun _ _ _ => .ask .reset fun _ => .done]

def reentrantMachine : Machine (Scenario.Label .folded) (Scenario.Label .folded) Scenario.Kind Nat
    (Memory (Scenario.Label .folded)) :=
  ⟨⟨"a"⟩, (Compiler.after reentrantCalls).table, (Compiler.after reentrantCalls).callback⟩

theorem compile_reentrantCalls :
    (Compiler.after reentrantCalls).compile = .ok (reentrantMachine, .compiled "a" 2 2) :=
  rfl

theorem fire_commits_reentrant :
    (reentrantMachine.fire 1 ⟨"GO"⟩ (.of .bool true) ⟨0, ⟨⟨"A"⟩⟩⟩).value =
        .ok (.committed ⟨"A"⟩ ⟨"b"⟩) ∧
      (reentrantMachine.ownEvents (reentrantMachine.answer 1) ⟨"GO"⟩ (.of .bool true)
        ⟨0, ⟨⟨"A"⟩⟩⟩).length = 6 := by
  obtain ⟨-, -, hvalue, -, -, hown, -⟩ := fire_commits compile_reentrantCalls 1 ⟨"GO"⟩
    (.of .bool true) ⟨0, ⟨⟨"A"⟩⟩⟩ ((reentrantMachine.transition? ⟨"A"⟩ ⟨"GO"⟩).get rfl) true
    rfl rfl rfl
  exact ⟨hvalue, hown ▸ rfl⟩

/-- The outcomes of a fire and the conditions that they have. A fire that is refused only returns,
one that is blocked evaluates the guard and writes one record, and one that is committed evaluates
the guard once before it stores the target. -/
theorem fire_outcome {calls : List (Call S T A E K)} {machine : Machine S T A E K}
    {record : Log.Record} (hc : (Compiler.after calls).compile = .ok (machine, record))
    (depth : Nat) (trigger : T) (argument : Argument A) (world : World E K) :
    let state := Token.state world.token
    let result := machine.fire depth trigger argument world
    (∀ outcome, result.value = outcome ↔
      Call.Outcome calls state trigger argument world.environment outcome) ∧
    (∀ e, result.value = .error e →
      result.world = world ∧ result.events = [.returned (.error e)]) ∧
    (∀ s, result.value = .ok (.blocked s) →
      ∃ transition guard, Call.transition? calls state trigger = some transition ∧
        transition.guard = some guard ∧
        let asked := guard transition.source transition.trigger transition.target world.environment
        let rejected := Log.Record.rejected (name state) (name trigger)
        result.world = ⟨asked.2, world.token⟩ ∧
        result.events = [.guard transition.source transition.trigger transition.target asked.1,
          .log rejected, .returned (.ok (.blocked state))] ∧
        rejected.level = .trace) ∧
    ∀ source target, result.value = .ok (.committed source target) →
      ∃ transition later, Call.transition? calls state trigger = some transition ∧
        result.events = transition.guardCall true ++ .stored transition.target :: later ∧
        (machine.ownEvents (machine.answer depth) trigger argument world).filter Event.isGuard =
          transition.guardCall true := by
  intro state result
  have h := (Compiler.reflects_after calls).describes hc
  have hiff := h.value_fireUnder_iff (machine.answer depth) trigger argument world
  refine ⟨hiff, fun e he => ?_, fun s hb => ?_, fun source target ht => ?_⟩
  · have hrun := h.fireUnder_of_refused (machine.answer depth) ((hiff _).1 he)
    exact ⟨congrArg (·.world) hrun, congrArg (·.events) hrun⟩
  · cases (hiff _).1 hb with
    | @blocked transition guard hd hk hg hr =>
      have hrun := h.fireUnder_of_rejected (machine.answer depth) hd hk hg hr
      refine ⟨transition, guard, hd, hg, congrArg (·.world) hrun, ?_, rfl⟩
      rw [hr]
      exact congrArg (·.events) hrun
  · cases (hiff _).1 ht with
    | @committed transition hd hk hp =>
      obtain ⟨payload, ha⟩ := (transition.accept_isOk_iff argument).2 hk
      have hv := (transition.permits_iff world.environment).1 hp
      have hrun := fireUnder_of_permitted (machine.answer depth) (h.select_of_some hd) ha hv
      have hown := fireUnder_of_permitted (machine.answer depth).muted (h.select_of_some hd) ha hv
      refine ⟨transition, _, hd, congrArg (·.events) hrun, ?_⟩
      rw [ownEvents, hown]
      simp only [Script.run_muted, List.filter_append, List.filter_cons, Event.isGuard,
        Transition.guardCall, Transition.actionCall, callbackCall]
      cases transition.guard <;> cases transition.action <;> cases machine.callback <;>
        simp [Event.isGuard]

theorem fire_outcome_reentrant :
    (reentrantMachine.fire 1 ⟨"GO"⟩ .absent ⟨0, ⟨⟨"A"⟩⟩⟩).events =
      [.returned (.error (.argumentMissing ⟨"a"⟩ ⟨"go"⟩ .bool))] := by
  obtain ⟨hvalue, hrefused, -, -⟩ := fire_outcome compile_reentrantCalls 1 ⟨"GO"⟩ .absent
    ⟨0, ⟨⟨"A"⟩⟩⟩
  have hd : Call.transition? reentrantCalls ⟨"A"⟩ ⟨"GO"⟩ =
      some ((reentrantMachine.transition? ⟨"A"⟩ ⟨"GO"⟩).get rfl) := rfl
  exact (hrefused _ ((hvalue _).2 (.argumentMissing hd rfl rfl))).2

end Machine

end StateMachine
