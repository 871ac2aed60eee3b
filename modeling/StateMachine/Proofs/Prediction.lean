import StateMachine.Machine.Use
import StateMachine.Proofs.Dispatch

namespace StateMachine

variable {S T A E K : Type} [ArgumentKind A] [BEq S] [BEq T] [DecidableEq A]

/-- An argument is of the kind that the calls require for a pair. Where they declare no transition,
every argument is as good. -/
def Call.Suits (calls : List (Call S T A E K)) (state : S) (trigger : T) (argument : Argument A) :
    Prop :=
  ∀ transition, transition? calls state trigger = some transition →
    argument.kind = transition.argument

omit [BEq S] [BEq T] [DecidableEq A] in
theorem Transition.isGuard_of_mem_guardCall {transition : Transition S T A E K} {passed : Bool}
    {event : Event S T A} (h : event ∈ transition.guardCall passed) : event.isGuard = true := by
  obtain ⟨guard, -, rfl⟩ := Option.map_eq_some_iff.1 (Option.mem_toList.1 h)
  rfl

omit [BEq S] [BEq T] [DecidableEq A] in
theorem Transition.length_guardCall_le (transition : Transition S T A E K) (passed : Bool) :
    (transition.guardCall passed).length ≤ 1 :=
  Option.length_toList_le

namespace Machine

omit [DecidableEq A] in
theorem exists_select_eq_error {machine : Machine S T A E K} {state : S} {trigger : T}
    (h : machine.transition? state trigger = none) :
    ∃ e, machine.select state trigger = .error e := by
  cases hs : machine.select state trigger with
  | error e => exact ⟨e, rfl⟩
  | ok transition =>
    rw [select_eq_ok_iff.1 hs] at h
    cases h

variable [Token K S] [Named S] [Named T] {machine : Machine S T A E K} {trigger : T}
  {argument : Argument A} {world : World E K} {transition : Transition S T A E K}

theorem answer_enabled_of_none
    (h : machine.transition? (Token.state world.token) trigger = none) (depth : Nat) :
    machine.answer depth (.enabled trigger) world = .pure false world := by
  obtain ⟨e, hs⟩ := exists_select_eq_error h
  simp only [answer, enabled, hs]
  rfl

theorem answer_enabled_of_some
    (h : machine.transition? (Token.state world.token) trigger = some transition) (depth : Nat) :
    machine.answer depth (.enabled trigger) world =
      ⟨(transition.verdict world.environment).value,
        ⟨(transition.verdict world.environment).world, world.token⟩,
        transition.guardCall (transition.verdict world.environment).value⟩ := by
  simp only [answer, enabled, select_eq_ok_iff.2 h, ← transition.events_verdict]
  rfl

/-- A fire with a suitable argument asks first, and goes on by the answer in what is left of the
environment. -/
theorem attempt_eq_bind_enabled {payload : Payload transition.argument}
    (h : machine.transition? (Token.state world.token) trigger = some transition)
    (ha : transition.accept argument = .ok payload) (handler : Handler S T A E K) (depth : Nat) :
    machine.attempt handler trigger argument world =
      (machine.answer depth (.enabled trigger) world).bind fun passed left =>
        (if passed then
          machine.commit handler (Token.state world.token) trigger transition payload left
        else block (Token.state world.token) trigger left).map .ok := by
  simp only [attempt, answer, enabled, select_eq_ok_iff.2 h, ha]

theorem filter_isGuard_ownEvents {payload : Payload transition.argument}
    (h : machine.transition? (Token.state world.token) trigger = some transition)
    (ha : transition.accept argument = .ok payload) (handler : Handler S T A E K) (depth : Nat) :
    (machine.ownEvents handler trigger argument world).filter Event.isGuard =
      (machine.answer depth (.enabled trigger) world).events := by
  have hguards : ∀ passed, (transition.guardCall passed).filter Event.isGuard =
      transition.guardCall passed := by
    intro passed
    exact List.filter_eq_self.2 fun _ => Transition.isGuard_of_mem_guardCall
  have hs := select_eq_ok_iff.2 h
  rw [answer_enabled_of_some h, ownEvents]
  cases hv : (transition.verdict world.environment).value with
  | false =>
    rw [fireUnder_of_rejected hs ha hv, List.filter_append, hguards]
    exact List.append_nil _
  | true =>
    rw [fireUnder_of_permitted _ hs ha hv]
    simp only [Script.run_muted, List.filter_append, hguards]
    simp only [Transition.actionCall, callbackCall]
    cases transition.action <;> cases machine.callback <;> simp [Event.isGuard]

theorem answer_enabled_frame (machine : Machine S T A E K) (depth : Nat) (trigger : T)
    (world : World E K) :
    let asked := machine.answer depth (.enabled trigger) world
    asked.world.token = world.token ∧ asked.events.length ≤ 1 ∧
      ∀ event ∈ asked.events, event.isGuard = true := by
  cases h : machine.transition? (Token.state world.token) trigger with
  | none =>
    rw [answer_enabled_of_none h]
    exact ⟨rfl, Nat.zero_le 1, List.forall_mem_nil _⟩
  | some transition =>
    rw [answer_enabled_of_some h]
    exact ⟨rfl, transition.length_guardCall_le _, fun _ => Transition.isGuard_of_mem_guardCall⟩

theorem permits_eq (machine : Machine S T A E K) (trigger : T) (world : World E K) (depth : Nat) :
    machine.permits (Token.state world.token) trigger world.environment =
      ((machine.answer depth (.enabled trigger) world).mapWorld (·.environment)).map fun answer =>
        (machine.transition? (Token.state world.token) trigger).map fun _ => answer := by
  cases h : machine.transition? (Token.state world.token) trigger with
  | none =>
    simp only [permits, h, answer_enabled_of_none h]
    rfl
  | some transition =>
    simp only [permits, h, answer_enabled_of_some h, ← transition.events_verdict]
    rfl

theorem value_fire_of_enabled {payload : Payload transition.argument}
    (h : machine.transition? (Token.state world.token) trigger = some transition)
    (ha : transition.accept argument = .ok payload) (depth : Nat) :
    (machine.fire depth trigger argument world).value =
      .ok (if (machine.answer depth (.enabled trigger) world).value then
        .committed (Token.state world.token) transition.target
      else .blocked (Token.state world.token)) := by
  have hs := select_eq_ok_iff.2 h
  rw [answer_enabled_of_some h, fire]
  cases hv : (transition.verdict world.environment).value with
  | false =>
    rw [fireUnder_of_rejected hs ha hv]
    rfl
  | true =>
    rw [fireUnder_of_permitted _ hs ha hv]
    rfl

theorem exists_fire_eq_error_of_kind
    (h : machine.transition? (Token.state world.token) trigger = some transition)
    (hk : argument.kind ≠ transition.argument) (depth : Nat) :
    ∃ e, (machine.fire depth trigger argument world).value = .error e := by
  cases ha : transition.accept argument with
  | error e => exact ⟨e, by rw [fire, fireUnder_of_accept (select_eq_ok_iff.2 h) ha]⟩
  | ok payload => exact (hk ((transition.accept_isOk_iff argument).1 ⟨payload, ha⟩)).elim

variable [EquivBEq S] [EquivBEq T]

/-- The question whether a trigger can be fired touches nothing but the environment, by way of the
guard, which is evaluated at most once, and the transition answers it alike. A fire with a suitable
argument commits where the answer is yes, and is blocked where it is no and the pair is declared. It
evaluates the guard as the question does and goes on from the environment that the question leaves.
A fire with an argument that does not suit is refused whatever the answer. -/
theorem enabled_fire {calls : List (Call S T A E K)} {machine : Machine S T A E K}
    {record : Log.Record} (hc : (Compiler.after calls).compile = .ok (machine, record))
    (depth : Nat) (trigger : T) (world : World E K) :
    let state := Token.state world.token
    let declared := calls.any (·.declares state trigger)
    let handler := machine.answer depth
    let asked := machine.answer depth (.enabled trigger) world
    let permitted := machine.permits state trigger world.environment
    (asked.world.token = world.token ∧ asked.events.length ≤ 1 ∧
      ∀ event ∈ asked.events, event.isGuard = true) ∧
    (permitted.value = (if declared then some asked.value else none) ∧
      permitted.world = asked.world.environment ∧ permitted.events = asked.events) ∧
    (∀ argument, Call.Suits calls state trigger argument →
      let fired := machine.fire depth trigger argument world
      (asked.value = true ↔ ∃ source target, fired.value = .ok (.committed source target)) ∧
      (asked.value = false ↔
        (∃ source, fired.value = .ok (.blocked source)) ∨ declared = false) ∧
      (machine.ownEvents handler trigger argument world).filter Event.isGuard = asked.events ∧
      (declared = true → ∃ transition payload,
        Call.transition? calls state trigger = some transition ∧
        transition.accept argument = .ok payload ∧
        machine.attempt handler trigger argument world = asked.bind fun passed left =>
          (if passed then machine.commit handler state trigger transition payload left
          else block state trigger left).map .ok)) ∧
    ∀ argument, ¬Call.Suits calls state trigger argument →
      ∃ e, (machine.fire depth trigger argument world).value = .error e := by
  intro state declared handler asked permitted
  have h := (Compiler.reflects_after calls).describes hc
  have hdeclared : declared = (machine.transition? state trigger).isSome :=
    (h.declared state trigger).symm
  have hpermits := machine.permits_eq trigger world depth
  have hsuits : ∀ argument, Call.Suits calls state trigger argument ↔
      ∀ transition, machine.transition? state trigger = some transition →
        argument.kind = transition.argument := by
    intro argument
    rw [h.transition]
    rfl
  refine ⟨machine.answer_enabled_frame depth trigger world, ?_, fun argument hsuit => ?_,
    fun argument hsuit => ?_⟩
  · refine ⟨?_, congrArg (·.world) hpermits, congrArg (·.events) hpermits⟩
    rw [congrArg (·.value) hpermits, hdeclared]
    cases machine.transition? state trigger <;> rfl
  · cases ht : machine.transition? state trigger with
    | none =>
      have hasked : asked = .pure false world := answer_enabled_of_none ht depth
      obtain ⟨e, hs⟩ := exists_select_eq_error ht
      rw [ht, Option.isSome_none] at hdeclared
      simp only [hasked, hdeclared, fire, ownEvents, fireUnder_of_select hs]
      simp [Traced.pure, Event.isGuard]
    | some transition =>
      obtain ⟨payload, ha⟩ := (transition.accept_isOk_iff argument).2 ((hsuits _).1 hsuit _ ht)
      have hfired := value_fire_of_enabled ht ha depth
      rw [ht, Option.isSome_some] at hdeclared
      refine ⟨?_, ?_, filter_isGuard_ownEvents ht ha handler depth, fun _ => ?_⟩
      · rw [hfired]
        cases asked.value <;> simp
      · rw [hfired, hdeclared]
        cases asked.value <;> simp
      · exact ⟨transition, payload, (h.transition _ _).symm.trans ht, ha,
          attempt_eq_bind_enabled ht ha handler depth⟩
  · rw [hsuits, not_forall] at hsuit
    obtain ⟨transition, hsuit⟩ := hsuit
    obtain ⟨ht, hkind⟩ := Classical.not_imp.1 hsuit
    exact exists_fire_eq_error_of_kind ht hkind depth

theorem enabled_fire_reentrant :
    let asked := reentrantMachine.answer 1 (.enabled ⟨"GO"⟩) ⟨0, ⟨⟨"A"⟩⟩⟩
    asked.value = true ∧ asked.world.environment = 1 ∧ asked.events.length ≤ 1 ∧
      (∃ source target, (reentrantMachine.fire 1 ⟨"GO"⟩ (.of .bool true) ⟨0, ⟨⟨"A"⟩⟩⟩).value =
        .ok (.committed source target)) ∧
      (∃ e, (reentrantMachine.fire 1 ⟨"GO"⟩ .absent ⟨0, ⟨⟨"A"⟩⟩⟩).value = .error e) ∧
      (reentrantMachine.answer 1 (.enabled ⟨"stop"⟩) ⟨0, ⟨⟨"A"⟩⟩⟩).value = false := by
  intro asked
  have hd : Call.transition? reentrantCalls ⟨"A"⟩ ⟨"GO"⟩ =
      some ((reentrantMachine.transition? ⟨"A"⟩ ⟨"GO"⟩).get rfl) := rfl
  have hsuits : Call.Suits reentrantCalls ⟨"A"⟩ ⟨"GO"⟩ (.of .bool true) := by
    intro transition h
    rw [hd] at h
    cases h
    rfl
  have hmissing : ¬Call.Suits reentrantCalls ⟨"A"⟩ ⟨"GO"⟩ .absent := fun h => nomatch h _ hd
  obtain ⟨⟨-, hlength, -⟩, -, hsuited, hrefused⟩ :=
    enabled_fire compile_reentrantCalls 1 ⟨"GO"⟩ ⟨0, ⟨⟨"A"⟩⟩⟩
  obtain ⟨-, -, hundeclared, -⟩ := enabled_fire compile_reentrantCalls 1 ⟨"stop"⟩ ⟨0, ⟨⟨"A"⟩⟩⟩
  have hvacuous : Call.Suits reentrantCalls ⟨"A"⟩ ⟨"stop"⟩ .absent := nofun
  exact ⟨rfl, rfl, hlength, (hsuited _ hsuits).1.1 rfl, hrefused _ hmissing,
    (hundeclared _ hvacuous).2.1.2 (.inr rfl)⟩

end Machine

end StateMachine
