import StateMachine.Proofs.Matching
import StateMachine.Proofs.Representation

namespace StateMachine

variable {S T A E K : Type} [ArgumentKind A]

section Runs

variable [BEq S] [BEq T] [Token K S] {alike : E → E → Prop}

namespace Machine

/-- Guards answer alike in environments that are alike, whether these are the same or differ in
what no guard looks at. Actions do the same on matching tokens, and the callback does the same for
equal states and triggers. -/
structure Respects (alike : E → E → Prop) (machine : Machine S T A E K) : Prop where
  guard : ∀ {state trigger transition guard}, machine.transition? state trigger = some transition →
    transition.guard = some guard → ∀ {environment environment'}, alike environment environment' →
      let asked := guard transition.source transition.trigger transition.target environment
      let asked' := guard transition.source transition.trigger transition.target environment'
      asked.1 = asked'.1 ∧ alike asked.2 asked'.2
  action : ∀ {state trigger transition}, machine.transition? state trigger = some transition →
    ∀ payload, (transition.script payload).Matches alike (transition.script payload)
  callback : ∀ {source source' trigger trigger'} target, (source == source') = true →
    (trigger == trigger') = true → (machine.callbackScript source trigger target).Matches alike
      (machine.callbackScript source' trigger' target)

variable {machine : Machine S T A E K} {handler : Handler S T A E K} {world world' : World E K}
  {state state' : S} {trigger trigger' : T} {transition : Transition S T A E K}

theorem Respects.verdict (h : machine.Respects alike)
    (ht : machine.transition? state trigger = some transition)
    (hw : world.Matches alike world') :
    ((transition.verdict world.environment).mapWorld fun environment =>
        ({ world with environment } : World E K)).Matches alike Eq
      ((transition.verdict world'.environment).mapWorld fun environment =>
        { world' with environment }) := by
  cases hg : transition.guard with
  | none =>
    simp only [Transition.verdict, hg]
    exact .pure rfl hw
  | some guard =>
    obtain ⟨hpassed, he⟩ := h.guard ht hg hw.environment
    simp only [Transition.verdict, hg, Traced.mapWorld]
    refine ⟨hpassed, ⟨he, hw.token⟩, ?_⟩
    rw [hpassed]
    exact .cons (.guard _ _ _ _) .nil

theorem Respects.act (h : machine.Respects alike) (hh : handler.Respects alike)
    (ht : machine.transition? state trigger = some transition)
    (payload : Payload transition.argument) (hw : world.Matches alike world') :
    (Machine.act handler transition payload world).Matches alike Eq
      (Machine.act handler transition payload world') := by
  have hscript := (h.action ht payload).run hh hw
  rw [act_eq, act_eq]
  refine ⟨rfl, hscript.world, List.rel_append ?_ hscript.events⟩
  rw [Transition.actionCall, Transition.actionCall]
  cases transition.action with
  | none => exact .nil
  | some action => exact .cons (.action _ _ _ _ hw.token.state) .nil

theorem Respects.notify (h : machine.Respects alike) (hh : handler.Respects alike)
    (hs : (state == state') = true) (ht : (trigger == trigger') = true) (target : S)
    (hw : world.Matches alike world') :
    (machine.notify handler state trigger target world).Matches alike Eq
      (machine.notify handler state' trigger' target world') := by
  have hscript := (h.callback target hs ht).run hh hw
  rw [notify_eq, notify_eq]
  refine ⟨rfl, hscript.world, List.rel_append ?_ hscript.events⟩
  rw [callbackCall, callbackCall]
  cases machine.callback with
  | none => exact .nil
  | some callback => exact .cons (.callback target hs ht hw.token.state) .nil

section Lookup

variable [EquivBEq S] [EquivBEq T]

omit [Token K S] [BEq T] [EquivBEq T] in
theorem hasTransitions_congr (machine : Machine S T A E K) (hs : (state == state') = true) :
    machine.hasTransitions state = machine.hasTransitions state' := by
  rw [hasTransitions, hasTransitions, Table.hasRow, Table.hasRow, Keyed.contains, Keyed.contains,
    Keyed.get?_congr _ hs]

omit [Token K S] [BEq T] [EquivBEq T] in
theorem triggersFrom_congr (machine : Machine S T A E K) (hs : (state == state') = true) :
    machine.triggersFrom state = machine.triggersFrom state' := by
  rw [triggersFrom, triggersFrom, Table.triggers, Table.triggers, Keyed.get?_congr _ hs]

omit [Token K S] in
theorem transition?_congr (machine : Machine S T A E K) (hs : (state == state') = true)
    (ht : (trigger == trigger') = true) :
    machine.transition? state trigger = machine.transition? state' trigger' :=
  machine.table.get?_congr hs ht

omit [Token K S] in
theorem select_matches (machine : Machine S T A E K) (hs : (state == state') = true)
    (ht : (trigger == trigger') = true) :
    (∃ e e', machine.select state trigger = .error e ∧ machine.select state' trigger' = .error e' ∧
      e.Matches e') ∨
    ∃ transition, machine.select state trigger = .ok transition ∧
      machine.select state' trigger' = .ok transition := by
  rw [machine.select_eq, machine.select_eq, machine.hasTransitions_congr hs,
    machine.transition?_congr hs ht]
  cases machine.hasTransitions state' with
  | false => exact .inl ⟨_, _, rfl, rfl, .deadState hs⟩
  | true =>
    cases machine.transition? state' trigger' with
    | none => exact .inl ⟨_, _, rfl, rfl, .undeclared hs ht⟩
    | some transition => exact .inr ⟨transition, rfl, rfl⟩

theorem Respects.enabled (h : machine.Respects alike) (ht : (trigger == trigger') = true)
    (hw : world.Matches alike world') :
    ((machine.enabled trigger world.token world.environment).mapWorld fun environment =>
        ({ world with environment } : World E K)).Matches alike Eq
      ((machine.enabled trigger' world'.token world'.environment).mapWorld fun environment =>
        { world' with environment }) := by
  obtain ⟨e, e', hs, hs', he⟩ | ⟨transition, hs, hs'⟩ := machine.select_matches hw.token.state ht
  · simp only [Machine.enabled, hs, hs']
    exact .pure rfl hw
  · simp only [Machine.enabled, hs, hs']
    exact h.verdict (select_eq_ok_iff.1 hs) hw

omit [Token K S] [BEq T] [EquivBEq T] in
theorem restore_matches [Named S] (machine : Machine S T A E K)
    {checkpoint checkpoint' : Checkpoint S} (hc : checkpoint.Matches checkpoint') :
    SameVariant CheckpointError.Matches (fun restored restored' =>
      restored.1.same restored'.1 = true ∧ restored.2.anonymous = restored'.2.anonymous)
      (machine.restore checkpoint) (machine.restore checkpoint') := by
  rw [restore, restore, hc.version, machine.hasTransitions_congr hc.state]
  split_ifs
  · exact .error (.same _)
  · refine .ok ⟨hc.state, ?_⟩
    rw [Log.Record.anonymous, Log.Record.anonymous, hc.id]
  · exact .error (.deadState hc.state)

theorem Respects.permits (h : machine.Respects alike) (hs : (state == state') = true)
    (ht : (trigger == trigger') = true) (hw : world.Matches alike world') :
    ((machine.permits state trigger world.environment).mapWorld fun environment =>
        ({ world with environment } : World E K)).Matches alike Eq
      ((machine.permits state' trigger' world'.environment).mapWorld fun environment =>
        { world' with environment }) := by
  rw [Machine.permits, Machine.permits, machine.transition?_congr hs ht]
  cases hd : machine.transition? state' trigger' with
  | none => exact .pure rfl hw
  | some transition => exact (h.verdict hd hw).map fun _ _ => congrArg some

omit [Token K S] in
theorem reply_congr (machine : Machine S T A E K) {query query' : Query S T}
    (hq : query.Matches query') : machine.reply query = machine.reply query' := by
  cases hq with
  | same query => rfl
  | hasTransitions hs => rw [reply, reply, machine.hasTransitions_congr hs]
  | triggersFrom hs => rw [reply, reply, machine.triggersFrom_congr hs]
  | transition hs ht => rw [reply, reply, machine.transition?_congr hs ht]

end Lookup

section Fires

variable [Named S] [Named T] [LawfulToken K] [EquivBEq S]

theorem Respects.commit (h : machine.Respects alike) (hh : handler.Respects alike)
    (hs : (state == state') = true) (ht : (trigger == trigger') = true)
    (hd : machine.transition? state trigger = some transition)
    (payload : Payload transition.argument) (hw : world.Matches alike world') :
    (machine.commit handler state trigger transition payload world).Matches alike Fired.Matches
      (machine.commit handler state' trigger' transition payload world') := by
  have hstored : (store transition.target world :
      Traced (Event S T A) (World E K) Unit).Matches alike Eq (store transition.target world') :=
    .record (.stored BEq.rfl) ⟨hw.environment, hw.token.move BEq.rfl⟩
  refine hstored.bind fun _ _ _ _ _ hw => ?_
  refine (h.act hh hd payload hw).bind fun _ _ _ _ _ hw => ?_
  refine (h.notify hh hs ht transition.target hw).bind fun _ _ _ _ _ hw => ?_
  refine .map (.record ?_ hw) fun _ _ _ => .committed transition.target hs
  exact .log rfl

omit [LawfulToken K] [EquivBEq S] in
theorem block_matches (hs : (state == state') = true) (trigger trigger' : T)
    (hw : world.Matches alike world') :
    (block state trigger world : Traced (Event S T A) (World E K) (Fired S)).Matches alike
      Fired.Matches (block state' trigger' world') := by
  refine .map (.record ?_ hw) fun _ _ _ => .blocked hs
  exact .log rfl

variable [EquivBEq T] [DecidableEq A]

theorem Respects.attempt (h : machine.Respects alike) (hh : handler.Respects alike)
    (ht : (trigger == trigger') = true) (argument : Argument A) (hw : world.Matches alike world') :
    (machine.attempt handler trigger argument world).Matches alike
      (SameVariant FireError.Matches Fired.Matches)
      (machine.attempt handler trigger' argument world') := by
  have hstate := hw.token.state
  obtain ⟨e, e', hs, hs', he⟩ | ⟨transition, hs, hs'⟩ := machine.select_matches hstate ht
  · simp only [Machine.attempt, hs, hs']
    exact .pure (.error he) hw
  · simp only [Machine.attempt, hs, hs']
    cases transition.accept argument with
    -- A refusal of the argument names the declared copies.
    | error e => exact .pure (.error (.same e)) hw
    | ok payload =>
      have hd := select_eq_ok_iff.1 hs
      refine (h.verdict hd hw).bind fun passed _ later later' hp hlater => ?_
      subst hp
      cases passed with
      | true => exact (h.commit hh hstate ht hd payload hlater).map fun _ _ => .ok
      | false => exact (block_matches hstate trigger trigger' hlater).map fun _ _ => .ok

theorem Respects.fireUnder (h : machine.Respects alike) (hh : handler.Respects alike)
    (ht : (trigger == trigger') = true) (argument : Argument A) (hw : world.Matches alike world') :
    (machine.fireUnder handler trigger argument world).Matches alike
      (SameVariant FireError.Matches Fired.Matches)
      (machine.fireUnder handler trigger' argument world') :=
  (h.attempt hh ht argument hw).bind fun _ _ _ _ ho hw =>
    ⟨ho, hw, .cons (.returned ho) .nil⟩

theorem Respects.answer_of_fire (h : machine.Respects alike) {depth : Nat}
    (hfire : ∀ {trigger trigger'}, (trigger == trigger') = true → ∀ argument {world world'},
      world.Matches alike world' →
      (machine.answer depth (.fire trigger argument) world).Matches alike
        (Option.Rel (SameVariant FireError.Matches Fired.Matches))
        (machine.answer depth (.fire trigger' argument) world')) :
    (machine.answer depth).Respects alike := by
  intro request request' hr world world' hw
  cases hr with
  | fire argument ht => exact hfire ht argument hw
  | reset =>
    simp only [Machine.answer, reset]
    exact ⟨trivial, ⟨hw.environment, hw.token.move BEq.rfl⟩,
      .cons (.log rfl) (.cons (.stored BEq.rfl) .nil)⟩
  | @force state state' hs =>
    simp only [Machine.answer, force, machine.hasTransitions_congr hs]
    cases machine.hasTransitions state' with
    | false => exact .pure (.error (.deadTarget hs)) hw
    | true =>
      exact ⟨.ok rfl, ⟨hw.environment, hw.token.move hs⟩,
        .cons (.log rfl) (.cons (.stored hs) .nil)⟩
  | enabled ht =>
    simp only [Machine.answer]
    exact h.enabled ht hw
  | newMemory =>
    simp only [Machine.answer]
    exact .pure rfl hw
  | @restore checkpoint checkpoint' hc =>
    have hrestore := machine.restore_matches hc
    simp only [Machine.answer]
    generalize machine.restore checkpoint = restored at hrestore
    generalize machine.restore checkpoint' = restored' at hrestore
    cases hrestore with
    | error he => exact .pure (.error he) hw
    | ok hr => exact ⟨.ok hr.1, hw, .cons (.log hr.2) .nil⟩

theorem Respects.answer (h : machine.Respects alike) (depth : Nat) :
    (machine.answer depth).Respects alike := by
  induction depth with
  | zero => exact h.answer_of_fire fun _ _ _ _ hw => .pure .none hw
  | succ depth ih =>
    refine h.answer_of_fire fun ht argument _ _ hw => ?_
    exact (h.fireUnder ih ht argument hw).map fun _ _ ho => .some ho

theorem Respects.perform (h : machine.Respects alike) (depth : Nat)
    {operation operation' : Operation S T A} (ho : operation.Matches operation')
    (hw : world.Matches alike world') :
    (machine.perform depth operation world).Matches alike Operation.Result.Matches
      (machine.perform depth operation' world') := by
  have hanswer := h.answer depth
  cases ho with
  | fire argument ht => exact (h.fireUnder hanswer ht argument hw).map fun _ _ => .fired
  | reset => exact (hanswer .reset hw).map fun _ _ _ => Operation.Result.Matches.reset
  | force hs => exact (hanswer (.force hs) hw).map fun _ _ => .forced
  | enabled ht =>
    refine (hanswer (.enabled ht) hw).map fun answer answer' he => ?_
    cases he
    exact .enabled answer
  | capture id timestamp => exact .pure (.captured ⟨rfl, rfl, rfl, hw.token.state⟩) hw

variable [Storable S]

theorem Respects.use (h : machine.Respects alike) (depth : Nat) {use use' : Use S T A}
    (hu : use.Matches use') (hw : world.Matches alike world') :
    (machine.use depth use world).Matches alike Use.Result.Matches
      (machine.use depth use' world') := by
  cases hu with
  | operation ho => exact (h.perform depth ho hw).map fun _ _ => .operation
  | query hq =>
    simp only [Machine.use, machine.reply_congr hq]
    exact .pure (.same _) hw
  | state => exact .pure (.state hw.token.state) hw
  | permits hs ht =>
    simp only [Machine.use]
    refine (h.permits hs ht hw).map fun answer answer' he => ?_
    cases he
    exact .same _
  | encode checkpoint format => exact .pure (.same _) hw
  | decode encoded => exact .pure (.same _) hw
  | restore hc => exact (h.answer depth (.restore hc) hw).map fun _ _ => .restored
  | adopt hm => exact .pure (.same _) ⟨hw.environment, hw.token.setMemory hm⟩

theorem Respects.useAll (h : machine.Respects alike) (depth : Nat) {uses uses' : List (Use S T A)}
    (hu : List.Forall₂ Use.Matches uses uses') (hw : world.Matches alike world') :
    (machine.useAll depth uses world).Matches alike (List.Forall₂ Use.Result.Matches)
      (machine.useAll depth uses' world') := by
  induction hu generalizing world world' with
  | nil => exact .pure .nil hw
  | cons hnext _ ih =>
    exact (h.use depth hnext hw).bind fun _ _ _ _ hr hw =>
      (ih hw).map fun _ _ hrest => .cons hr hrest

/-- Uses with equal states and triggers, of tokens that differ in the copies of equal states, give
results of the same variants that differ in copies only and leave such tokens. Guards are evaluated
equally often, on the same copies with the same answers, and actions are called on the same copies
and arguments. -/
theorem useAll_matches (h : machine.Respects alike) (depth : Nat) {uses uses' : List (Use S T A)}
    (hu : List.Forall₂ Use.Matches uses uses') (hw : world.Matches alike world') :
    let first := machine.useAll depth uses world
    let second := machine.useAll depth uses' world'
    List.Forall₂ Use.Result.Matches first.value second.value ∧
      first.events.filterMap Event.handed? = second.events.filterMap Event.handed? ∧
      List.Forall₂ Event.Matches first.events second.events ∧
      alike first.world.environment second.world.environment ∧
      Token.SameApart first.world.token second.world.token ∧
      (Token.state first.world.token == Token.state second.world.token) = true := by
  intro first second
  have hruns := h.useAll depth hu hw
  exact ⟨hruns.value, Event.filterMap_handed hruns.events, hruns.events, hruns.world.environment,
    hruns.world.token.apart, hruns.world.token.state⟩

end Fires

end Machine

end Runs

namespace Machine

open Scenario in
/-- Calls whose machine goes from `a` to `b` as long as nothing was noted down, and right back. The
callback notes the states down that were left. -/
def notedCalls :
    List (Call (Label .folded) (Label .folded) Kind (List (Label .folded))
      (Memory (Label .folded))) :=
  [.setInitial ⟨"a"⟩,
    .declare ⟨"a"⟩ ⟨"go"⟩ ⟨"b"⟩ (some .bool),
    .guard fun _ _ _ noted => (noted.isEmpty, noted),
    .action (some .bool) fun _ _ _ _ => .ask (.fire ⟨"back"⟩ .absent) fun _ => .done,
    .declare ⟨"b"⟩ ⟨"back"⟩ ⟨"a"⟩ none,
    .callback fun source _ _ => .observe fun noted token => .update (source :: noted) token .done]

def notedMachine : Machine (Scenario.Label .folded) (Scenario.Label .folded) Scenario.Kind
    (List (Scenario.Label .folded)) (Memory (Scenario.Label .folded)) :=
  ⟨⟨"a"⟩, (Compiler.after notedCalls).table, (Compiler.after notedCalls).callback⟩

theorem eq_of_transition?_notedMachine {state trigger : Scenario.Label .folded}
    {transition : Transition (Scenario.Label .folded) (Scenario.Label .folded) Scenario.Kind
      (List (Scenario.Label .folded)) (Memory (Scenario.Label .folded))}
    (ht : notedMachine.transition? state trigger = some transition) :
    transition = (notedMachine.transition? ⟨"a"⟩ ⟨"go"⟩).get rfl ∨
      transition = (notedMachine.transition? ⟨"b"⟩ ⟨"back"⟩).get rfl := by
  obtain ⟨row, hrow, hentry⟩ := Option.bind_eq_some_iff.1 ht
  obtain ⟨_, -, hrow⟩ := Keyed.exists_mem_of_get? hrow
  obtain ⟨_, -, hentry⟩ := Keyed.exists_mem_of_get? hentry
  cases hrow with
  | head =>
    cases hentry with
    | head => exact .inl rfl
    | tail _ hmem => cases hmem
  | tail _ hrow =>
    cases hrow with
    | head =>
      cases hentry with
      | head => exact .inr rfl
      | tail _ hmem => cases hmem
    | tail _ hmem => cases hmem

theorem respects_notedMachine :
    notedMachine.Respects (List.Forall₂ fun noted noted' => (noted == noted') = true) := by
  refine ⟨fun ht hg _ _ he => ?_, fun ht payload => ?_, fun _ hs _ => ?_⟩
  · rcases eq_of_transition?_notedMachine ht with rfl | rfl
    · cases hg
      refine ⟨?_, he⟩
      cases he <;> rfl
    · cases hg
  · rcases eq_of_transition?_notedMachine ht with rfl | rfl
    · exact .ask (.fire _ BEq.rfl) fun _ _ _ => .done
    · exact .done
  · exact .observe fun _ _ _ _ he ht => .update (.cons hs he) ht .done

open Scenario in
theorem useAll_matches_noted :
    let uses : String → List (Use (Label .folded) (Label .folded) Kind) := fun go =>
      [.operation (.fire ⟨go⟩ (.of .bool true)), .operation (.fire ⟨go⟩ (.of .bool true)), .state]
    let lower := notedMachine.useAll 1 (uses "go") ⟨[], ⟨⟨"a"⟩⟩⟩
    let upper := notedMachine.useAll 1 (uses "GO") ⟨[], ⟨⟨"A"⟩⟩⟩
    upper.value = [.operation (.fired (.ok (.committed ⟨"A"⟩ ⟨"b"⟩))),
        .operation (.fired (.ok (.blocked ⟨"a"⟩))), .state ⟨"a"⟩] ∧
      List.Forall₂ Use.Result.Matches lower.value upper.value ∧
      lower.events.filterMap Event.handed? = upper.events.filterMap Event.handed? := by
  intro uses lower upper
  have hfire : Use.Matches
      (.operation (.fire ⟨"go"⟩ (.of .bool true)) : Use (Label .folded) (Label .folded) Kind)
      (.operation (.fire ⟨"GO"⟩ (.of .bool true))) := .operation (.fire _ rfl)
  have huses : List.Forall₂ Use.Matches (uses "go") (uses "GO") :=
    .cons hfire (.cons hfire (.cons .state .nil))
  have hworlds : World.Matches (List.Forall₂ fun noted noted' => (noted == noted') = true)
      (⟨[], ⟨⟨"a"⟩⟩⟩ : World (List (Label .folded)) (Memory (Label .folded))) ⟨[], ⟨⟨"A"⟩⟩⟩ :=
    ⟨.nil, ⟨fun _ => rfl, rfl⟩⟩
  obtain ⟨hresults, hhanded, -⟩ := useAll_matches respects_notedMachine 1 huses hworlds
  exact ⟨rfl, hresults, hhanded⟩

end Machine

end StateMachine
