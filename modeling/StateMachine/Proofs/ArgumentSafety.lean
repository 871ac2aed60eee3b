import StateMachine.Proofs.Nesting

namespace StateMachine

variable {S T A E K : Type} [ArgumentKind A]

def Argument.cast? [DecidableEq A] (argument : Argument A) (kind : A) :
    Option (ArgumentKind.Value kind) :=
  match argument with
  | ⟨none, _⟩ => none
  | ⟨some found, value⟩ => if h : found = kind then some (h ▸ value) else none

theorem Argument.cast?_of [DecidableEq A] (kind : A) (value : ArgumentKind.Value kind) :
    (Argument.of kind value).cast? kind = some value :=
  dif_pos rfl

/-- What a transition would run for an argument whose kind was never compared: an action without
argument in any case, another one for a value of its kind only, and else nothing. -/
def Transition.uncheckedScript? [DecidableEq A] (transition : Transition S T A E K)
    (argument : Argument A) : Option (Script S T A E K) :=
  match transition with
  | ⟨_, _, _, _, _, none⟩ => none
  | ⟨source, trigger, target, none, _, some action⟩ => some (action source trigger target ())
  | ⟨source, trigger, target, some kind, _, some action⟩ =>
    (argument.cast? kind).map (action source trigger target)

theorem Transition.uncheckedScript?_of_accept [DecidableEq A] {transition : Transition S T A E K}
    {argument : Argument A} {payload : Payload transition.argument}
    (h : transition.accept argument = .ok payload) :
    transition.uncheckedScript? argument = transition.action.map fun action =>
      action transition.source transition.trigger transition.target payload := by
  have hargument := eq_of_accept h
  obtain ⟨source, trigger, target, required, guard, action⟩ := transition
  subst hargument
  cases action with
  | none => cases required <;> rfl
  | some action =>
    cases required with
    | none => rfl
    | some kind =>
      have hcast := Argument.cast?_of kind payload
      simp only [uncheckedScript?]
      rw [show (⟨some kind, payload⟩ : Argument A) = .of kind payload from rfl, hcast]
      rfl

namespace Call

variable [BEq S] [BEq T] [DecidableEq A]

omit [BEq S] [BEq T] in
theorem action?_eq_some_iff {call : Call S T A E K} {argument : Option A}
    {action : Action S T A E K argument} :
    call.action? argument = some action ↔
      call = .action argument action ∨ call = .link argument (.action action) := by
  constructor
  · intro h
    match call with
    | .action kind given =>
      simp only [action?] at h
      split at h
      · next he =>
        subst he
        cases h
        exact .inl rfl
      · cases h
    | .link kind (.action given) =>
      simp only [action?] at h
      split at h
      · next he =>
        subst he
        cases h
        exact .inr rfl
      · cases h
    | .link kind (.guard given) => cases h
    | .setInitial state => cases h
    | .declare source trigger target argument => cases h
    | .guard given => cases h
    | .callback given => cases h
  · rintro (rfl | rfl) <;> simp [action?]

theorem mem_of_transition? {calls : List (Call S T A E K)} {state : S} {trigger : T}
    {transition : Transition S T A E K} (h : transition? calls state trigger = some transition) :
    .declare transition.source transition.trigger transition.target transition.argument ∈ calls ∧
      ∀ action, transition.action = some action →
        .action transition.argument action ∈ calls ∨
          .link transition.argument (.action action) ∈ calls := by
  cases hf : fromFirst calls state trigger with
  | nil =>
    rw [transition?, hf] at h
    cases h
  | cons first later =>
    have hsub : ∀ call ∈ first :: later, call ∈ calls := by
      intro call hcall
      rw [← hf] at hcall
      exact (List.dropWhile_sublist _).subset hcall
    rw [transition?, hf] at h
    cases first with
    | declare source input target argument =>
      cases h
      refine ⟨hsub _ List.mem_cons_self, fun action haction => ?_⟩
      obtain ⟨call, hcall, hoffer⟩ := List.mem_filterMap.1 (List.mem_of_head? haction)
      have hmem := hsub call (List.mem_cons_of_mem _ ((List.takeWhile_sublist _).subset hcall))
      rcases action?_eq_some_iff.1 hoffer with rfl | rfl
      · exact .inl hmem
      · exact .inr hmem
    | _ => cases h

end Call

def Event.isAction : Event S T A → Bool
  | action .. => true
  | _ => false

theorem Event.isAction_eq_false_of_isPlain {e : Event S T A} (h : e.isPlain = true) :
    e.isAction = false := by
  cases e with
  | action => cases h
  | _ => rfl

theorem Event.filter_isAction_of_all_isPlain {events : List (Event S T A)}
    (h : events.all Event.isPlain = true) : events.filter Event.isAction = [] := by
  rw [List.filter_eq_nil_iff]
  exact not_of_all_isPlain (fun _ => isAction_eq_false_of_isPlain) h

variable [BEq S] [BEq T] [DecidableEq A] [Token K S] [Named S] [Named T]

namespace Dispatch

variable {machine : Machine S T A E K} {d : Dispatch T A E K}

/-- A commit runs the action of its transition once, on just what its argument hands over. The
action was offered for the kind of argument that was declared, which is the kind that is given. -/
structure Commit.Acts (calls : List (Call S T A E K)) (c : d.Commit machine)
    (action : Action S T A E K c.transition.argument) : Prop where
  described : Call.transition? calls (Token.state d.world.token) d.trigger = some c.transition
  attached : c.transition.action = some action
  declared : .declare c.transition.source c.transition.trigger c.transition.target
    c.transition.argument ∈ calls
  offered : .action c.transition.argument action ∈ calls ∨
    .link c.transition.argument (.action action) ∈ calls
  kind : d.argument.kind = c.transition.argument
  given : (⟨c.transition.argument, c.payload⟩ : Argument A) = d.argument
  unchecked : c.transition.uncheckedScript? d.argument =
    some (action c.transition.source c.transition.trigger c.transition.target c.payload)
  called : (d.own machine).filter Event.isAction =
    [.action c.transition.source c.transition.trigger c.transition.target d.argument
      c.transition.target]
  asked : c.actionAsked =
    (action c.transition.source c.transition.trigger c.transition.target c.payload).asked
      (machine.answer d.depth) c.moved

omit [Named S] [Named T] in
theorem Commit.described {calls : List (Call S T A E K)} (h : Call.Describes calls machine)
    (c : d.Commit machine) :
    Call.transition? calls (Token.state d.world.token) d.trigger = some c.transition := by
  rw [← h.transition]
  exact Machine.select_eq_ok_iff.1 c.selected

variable [LawfulToken K]

theorem Commit.filter_own (c : d.Commit machine) : (d.own machine).filter Event.isAction =
    c.transition.actionCall d.argument c.transition.target := by
  have hguard := Event.filter_isAction_of_all_isPlain (c.transition.all_isPlain_guardCall true)
  have haction : (c.transition.actionCall d.argument c.transition.target).filter Event.isAction =
      c.transition.actionCall d.argument c.transition.target := by
    rw [Transition.actionCall]
    cases c.transition.action <;> rfl
  have hcallback : (machine.callbackCall (Token.state d.world.token) d.trigger c.transition.target
      (Token.state c.acted.token)).filter Event.isAction = [] := by
    rw [Machine.callbackCall]
    cases machine.callback <;> rfl
  rw [c.own_eq, List.filter_append, hguard, List.nil_append, List.filter_cons, List.filter_append,
    List.filter_append, haction, hcallback]
  simp [Event.isAction]

theorem Commit.acts {calls : List (Call S T A E K)} (h : Call.Describes calls machine)
    (c : d.Commit machine) {action : Action S T A E K c.transition.argument}
    (ha : c.transition.action = some action) : c.Acts calls action where
  described := c.described h
  attached := ha
  declared := (Call.mem_of_transition? (c.described h)).1
  offered := (Call.mem_of_transition? (c.described h)).2 action ha
  kind := (c.transition.accept_isOk_iff d.argument).1 ⟨c.payload, c.accepted⟩
  given := Transition.eq_of_accept c.accepted
  unchecked := by
    rw [Transition.uncheckedScript?_of_accept c.accepted, ha]
    rfl
  called := by
    rw [c.filter_own, Transition.actionCall, ha]
    rfl
  asked := by
    rw [Commit.actionAsked, Transition.script, ha]

theorem exists_acts {calls : List (Call S T A E K)} (h : Call.Describes calls machine)
    {e : Event S T A} (he : e ∈ d.own machine) (haction : e.isAction = true) :
    ∃ (c : d.Commit machine) (action : Action S T A E K c.transition.argument),
      c.Acts calls action ∧
        e = .action c.transition.source c.transition.trigger c.transition.target d.argument
          c.transition.target := by
  have hfilter : e ∈ (d.own machine).filter Event.isAction := List.mem_filter.2 ⟨he, haction⟩
  cases hc : d.commit? machine with
  | none =>
    obtain ⟨outcome, environment, plain, hplain, -, hfire⟩ := exists_fireUnder hc
    rw [own, Machine.ownEvents, hfire, List.filter_append,
      Event.filter_isAction_of_all_isPlain hplain] at hfilter
    cases hfilter
  | some c =>
    cases ha : c.transition.action with
    | none =>
      rw [c.filter_own, Transition.actionCall, ha] at hfilter
      cases hfilter
    | some action =>
      have hacts := c.acts h ha
      rw [hacts.called] at hfilter
      exact ⟨c, action, hacts, List.mem_singleton.1 hfilter⟩

end Dispatch

namespace Machine

variable [EquivBEq S] [EquivBEq T] [LawfulToken K]

/-- In every run on a compiled machine an action is called by commits only, and a commit of a
transition with an action calls it. An argument of another kind than the declared one is refused
before anything is run. -/
theorem run_action_typed {calls : List (Call S T A E K)} {machine : Machine S T A E K}
    {record : Log.Record} (hc : (Compiler.after calls).compile = .ok (machine, record))
    (depth : Nat) (program : Script S T A E K) (world : World E K) :
    let run := program.run (machine.answer depth) world
    let dispatches := machine.dispatches depth (program.asked (machine.answer depth) world)
    (∀ e ∈ run.events, e.isAction = true → ∃ d ∈ dispatches, e ∈ d.own machine ∧
      ∃ (c : d.Commit machine) (action : Action S T A E K c.transition.argument),
        c.Acts calls action ∧
          e = .action c.transition.source c.transition.trigger c.transition.target d.argument
            c.transition.target) ∧
    ∀ d ∈ dispatches, ∀ transition,
      Call.transition? calls (Token.state d.world.token) d.trigger = some transition →
      (d.commits machine = true → transition.action.isSome = true →
        ∃ (c : d.Commit machine) (action : Action S T A E K c.transition.argument),
          c.transition = transition ∧ c.Acts calls action) ∧
      (d.argument.kind ≠ transition.argument →
        ∃ e, d.run machine = ⟨.error e, d.world, [.returned (.error e)]⟩) := by
  intro run dispatches
  have h := (Compiler.reflects_after calls).describes hc
  constructor
  · intro e he haction
    rw [program.events_run] at he
    have hplain : e.isPlain = false := by
      cases e with
      | action => rfl
      | _ => cases haction
    obtain ⟨d, hd, hown⟩ := exists_own_of_mem_eventsOf he hplain
    exact ⟨d, hd, hown, d.exists_acts h hown haction⟩
  · intro d _ transition hdescribed
    constructor
    · intro hcommits hsome
      obtain ⟨c⟩ := Dispatch.nonempty_commit hcommits
      have htransition : c.transition = transition :=
        Option.some.inj ((c.described h).symm.trans hdescribed)
      rw [← htransition] at hsome
      obtain ⟨action, ha⟩ := Option.isSome_iff_exists.1 hsome
      exact ⟨c, action, htransition, c.acts h ha⟩
    · intro hkind
      cases ha : transition.accept d.argument with
      | error e => exact ⟨e, fireUnder_of_accept (h.select_of_some hdescribed) ha⟩
      | ok payload =>
        exact (hkind ((transition.accept_isOk_iff d.argument).1 ⟨payload, ha⟩)).elim

def repeatedProgram : Script (Scenario.Label .folded) (Scenario.Label .folded) Scenario.Kind Nat
    (Memory (Scenario.Label .folded)) :=
  .ask (.fire ⟨"GO"⟩ .absent) fun _ => reentrantProgram

theorem run_action_typed_repeated :
    let run := repeatedProgram.run (reentrantMachine.answer 2) ⟨0, ⟨⟨"A"⟩⟩⟩
    (∃ d, .action ⟨"a"⟩ ⟨"go"⟩ ⟨"b"⟩ (.of .bool true) ⟨"b"⟩ ∈ run.events.filter Event.isAction ∧
      .action ⟨"a"⟩ ⟨"go"⟩ ⟨"b"⟩ (.of .bool true) ⟨"b"⟩ ∈ Dispatch.own reentrantMachine d) ∧
    (∃ (c : reentrantDispatch.Commit reentrantMachine)
      (action : Action _ _ _ _ _ c.transition.argument), c.Acts reentrantCalls action) ∧
    ∃ e, Dispatch.run reentrantMachine ⟨1, ⟨"GO"⟩, .absent, ⟨0, ⟨⟨"A"⟩⟩⟩⟩ =
      ⟨.error e, ⟨0, ⟨⟨"A"⟩⟩⟩, [.returned (.error e)]⟩ := by
  intro run
  obtain ⟨hcalled, hdispatches⟩ :=
    run_action_typed compile_reentrantCalls 2 repeatedProgram ⟨0, ⟨⟨"A"⟩⟩⟩
  have hevent : .action ⟨"a"⟩ ⟨"go"⟩ ⟨"b"⟩ (.of .bool true) ⟨"b"⟩ ∈
      run.events.filter Event.isAction := List.mem_cons_self
  obtain ⟨d, -, hown, -⟩ := hcalled _ (List.mem_of_mem_filter hevent) rfl
  have hrefused : (⟨1, ⟨"GO"⟩, .absent, ⟨0, ⟨⟨"A"⟩⟩⟩⟩ : Dispatch _ _ _ _) ∈
      reentrantMachine.dispatches 2
        (repeatedProgram.asked (reentrantMachine.answer 2) ⟨0, ⟨⟨"A"⟩⟩⟩) := List.mem_cons_self
  have hcommitted : reentrantDispatch ∈ reentrantMachine.dispatches 2
      (repeatedProgram.asked (reentrantMachine.answer 2) ⟨0, ⟨⟨"A"⟩⟩⟩) :=
    List.mem_cons_of_mem _ List.mem_cons_self
  have hgo : Call.transition? reentrantCalls ⟨"A"⟩ ⟨"GO"⟩ =
      some ((reentrantMachine.transition? ⟨"A"⟩ ⟨"GO"⟩).get rfl) := rfl
  obtain ⟨c, action, -, hacts⟩ := (hdispatches _ hcommitted _ hgo).1 rfl rfl
  exact ⟨⟨d, hevent, hown⟩, ⟨c, action, hacts⟩, (hdispatches _ hrefused _ hgo).2 (by decide)⟩

end Machine

end StateMachine
