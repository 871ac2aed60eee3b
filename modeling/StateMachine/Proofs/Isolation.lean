import Mathlib.Logic.Function.Basic
import StateMachine.Machine.Operation
import StateMachine.Proofs.Dispatch

namespace StateMachine

variable {S T A E K : Type} [ArgumentKind A]

/-- Two results with the same value, events and token, in whatever environments. -/
structure Traced.Agrees {ε α : Type} (first second : Traced ε (World E K) α) : Prop where
  value : first.value = second.value
  token : first.world.token = second.world.token
  events : first.events = second.events

namespace Traced.Agrees

variable {ε α β : Type} {first second : Traced ε (World E K) α}

theorem pure (value : α) (token : K) (environment environment' : E) :
    (Traced.pure value ⟨environment, token⟩ : Traced ε (World E K) α).Agrees
      (.pure value ⟨environment', token⟩) :=
  ⟨rfl, rfl, rfl⟩

theorem map (h : first.Agrees second) (f : α → β) : (first.map f).Agrees (second.map f) :=
  ⟨congrArg f h.value, h.token, h.events⟩

theorem bind {next next' : α → World E K → Traced ε (World E K) β} (h : first.Agrees second)
    (hnext : ∀ value token environment environment',
      (next value ⟨environment, token⟩).Agrees (next' value ⟨environment', token⟩)) :
    (first.bind next).Agrees (second.bind next') := by
  obtain ⟨value, ⟨environment, token⟩, events⟩ := first
  obtain ⟨value', ⟨environment', token'⟩, events'⟩ := second
  obtain ⟨rfl, rfl, rfl⟩ := h
  have hlater := hnext value token environment environment'
  exact ⟨hlater.value, hlater.token, congrArg (events ++ ·) hlater.events⟩

end Traced.Agrees

/-- Two scripts that write the same tokens and put the same requests, whatever environments they
observe. -/
inductive Script.Alike : Script S T A E K → Script S T A E K → Prop where
  | done : Alike .done .done
  | observe {next next' : E → K → Script S T A E K}
      (later : ∀ environment environment' token,
        Alike (next environment token) (next' environment' token)) :
    Alike (.observe next) (.observe next')
  | update {environment environment' : E} {token : K} {next next' : Script S T A E K}
      (later : Alike next next') :
    Alike (.update environment token next) (.update environment' token next')
  | ask {request : Request S T A} {next next' : request.Reply → Script S T A E K}
      (later : ∀ reply, Alike (next reply) (next' reply)) :
    Alike (.ask request next) (.ask request next')

/-- A script that touches its token only: the environment has no part in what it does. -/
def Script.Confined (script : Script S T A E K) : Prop := script.Alike script

def Handler.Confined (handler : Handler S T A E K) : Prop :=
  ∀ request token environment environment',
    (handler request ⟨environment, token⟩).Agrees (handler request ⟨environment', token⟩)

theorem Script.Alike.run {script script' : Script S T A E K} (h : script.Alike script')
    {handler : Handler S T A E K} (hh : handler.Confined) (token : K)
    (environment environment' : E) :
    (script.run handler ⟨environment, token⟩).Agrees
      (script'.run handler ⟨environment', token⟩) := by
  induction h generalizing token environment environment' with
  | done => exact .pure () token environment environment'
  | observe _ ih => exact ih _ _ token token _ _
  | update _ ih => exact ih _ _ _
  | ask _ ih => exact (hh _ token environment environment').bind ih

namespace Machine

/-- A machine whose guards depend on their arguments only, and whose actions and callback touch
their token only. -/
structure Isolated [BEq S] [BEq T] (machine : Machine S T A E K) : Prop where
  guard : ∀ {state trigger transition guard}, machine.transition? state trigger = some transition →
    transition.guard = some guard → ∀ environment environment',
      (guard transition.source transition.trigger transition.target environment).1 =
        (guard transition.source transition.trigger transition.target environment').1
  action : ∀ {state trigger transition}, machine.transition? state trigger = some transition →
    ∀ payload, (transition.script payload).Confined
  callback : ∀ source trigger target, (machine.callbackScript source trigger target).Confined

variable [Token K S] [Named S] [Named T] [BEq S] [BEq T] [DecidableEq A]
  {machine : Machine S T A E K}

omit [Token K S] [Named S] [Named T] [DecidableEq A] in
theorem Isolated.verdict (h : machine.Isolated) {state : S} {trigger : T}
    {transition : Transition S T A E K} (hs : machine.select state trigger = .ok transition)
    (environment environment' : E) :
    (transition.verdict environment).value = (transition.verdict environment').value := by
  cases hg : transition.guard with
  | none => simp only [Transition.verdict, hg, Traced.pure]
  | some guard =>
    simp only [Transition.verdict, hg]
    exact h.guard (select_eq_ok_iff.1 hs) hg environment environment'

omit [Named S] [Named T] [DecidableEq A] in
theorem Isolated.act (h : machine.Isolated) {handler : Handler S T A E K} (hh : handler.Confined)
    {state : S} {trigger : T} {transition : Transition S T A E K}
    (hs : machine.select state trigger = .ok transition) (payload : Payload transition.argument)
    (token : K) (environment environment' : E) :
    (Machine.act handler transition payload ⟨environment, token⟩).Agrees
      (Machine.act handler transition payload ⟨environment', token⟩) := by
  have hscript := (h.action (select_eq_ok_iff.1 hs) payload).run hh token environment environment'
  rw [act_eq, act_eq]
  exact ⟨rfl, hscript.token, congrArg (_ ++ ·) hscript.events⟩

omit [Named S] [Named T] [DecidableEq A] in
theorem Isolated.notify (h : machine.Isolated) {handler : Handler S T A E K}
    (hh : handler.Confined) (source : S) (trigger : T) (target : S) (token : K)
    (environment environment' : E) :
    (machine.notify handler source trigger target ⟨environment, token⟩).Agrees
      (machine.notify handler source trigger target ⟨environment', token⟩) := by
  have hscript := (h.callback source trigger target).run hh token environment environment'
  rw [notify_eq, notify_eq]
  exact ⟨rfl, hscript.token, congrArg (_ ++ ·) hscript.events⟩

omit [DecidableEq A] in
theorem Isolated.commit (h : machine.Isolated) {handler : Handler S T A E K}
    (hh : handler.Confined) {source : S} {trigger : T} {transition : Transition S T A E K}
    (hs : machine.select source trigger = .ok transition) (payload : Payload transition.argument)
    (token : K) (environment environment' : E) :
    (machine.commit handler source trigger transition payload ⟨environment, token⟩).Agrees
      (machine.commit handler source trigger transition payload ⟨environment', token⟩) := by
  refine Traced.Agrees.bind ⟨rfl, rfl, rfl⟩ fun _ token environment environment' => ?_
  refine (h.act hh hs payload token environment environment').bind ?_
  intro _ token environment environment'
  refine (h.notify hh source trigger transition.target token environment environment').bind ?_
  intro _ token environment environment'
  exact ⟨rfl, rfl, rfl⟩

theorem Isolated.fireUnder (h : machine.Isolated) {handler : Handler S T A E K}
    (hh : handler.Confined) (trigger : T) (argument : Argument A) (token : K)
    (environment environment' : E) :
    (machine.fireUnder handler trigger argument ⟨environment, token⟩).Agrees
      (machine.fireUnder handler trigger argument ⟨environment', token⟩) := by
  refine Traced.Agrees.bind ?_ fun outcome token _ _ => ⟨rfl, rfl, rfl⟩
  simp only [attempt]
  cases hs : machine.select (Token.state token) trigger with
  | error e => exact .pure _ token environment environment'
  | ok transition =>
    dsimp only
    cases transition.accept argument with
    | error e => exact .pure _ token environment environment'
    | ok payload =>
      have hverdict := h.verdict hs environment environment'
      refine Traced.Agrees.bind ⟨hverdict, rfl, ?_⟩ fun passed token environment environment' => ?_
      · simp only [Traced.mapWorld, transition.events_verdict, hverdict]
      · refine Traced.Agrees.map ?_ Except.ok
        cases passed with
        | false => exact ⟨rfl, rfl, rfl⟩
        | true => exact h.commit hh hs payload token environment environment'

theorem Isolated.answer_of_fire (h : machine.Isolated) {depth : Nat}
    (hfire : ∀ trigger argument token environment environment',
      (machine.answer depth (.fire trigger argument) ⟨environment, token⟩).Agrees
        (machine.answer depth (.fire trigger argument) ⟨environment', token⟩)) :
    (machine.answer depth).Confined := by
  intro request token environment environment'
  cases request with
  | fire trigger argument => exact hfire trigger argument token environment environment'
  | reset =>
    simp only [Machine.answer]
    exact ⟨rfl, rfl, rfl⟩
  | force state =>
    simp only [Machine.answer]
    cases machine.force state token <;> exact ⟨rfl, rfl, rfl⟩
  | enabled trigger =>
    simp only [Machine.answer, Machine.enabled]
    cases hs : machine.select (Token.state token) trigger with
    | error e => exact ⟨rfl, rfl, rfl⟩
    | ok transition =>
      have hverdict := h.verdict hs environment environment'
      refine ⟨hverdict, rfl, ?_⟩
      simp only [Traced.mapWorld, transition.events_verdict, hverdict]
  | newMemory =>
    simp only [Machine.answer]
    exact ⟨rfl, rfl, rfl⟩
  | restore checkpoint =>
    simp only [Machine.answer]
    cases machine.restore checkpoint <;> exact ⟨rfl, rfl, rfl⟩

theorem Isolated.answer (h : machine.Isolated) (depth : Nat) :
    (machine.answer depth).Confined := by
  induction depth with
  | zero => exact h.answer_of_fire fun _ _ token _ _ => .pure none token _ _
  | succ depth ih =>
    refine h.answer_of_fire fun trigger argument token environment environment' => ?_
    exact (h.fireUnder ih trigger argument token environment environment').map some

/-- An operation on an instance depends on its token only. -/
theorem agrees_perform (h : machine.Isolated) (depth : Nat) (operation : Operation S T A)
    (token : K) (environment environment' : E) :
    (machine.perform depth operation ⟨environment, token⟩).Agrees
      (machine.perform depth operation ⟨environment', token⟩) := by
  have hanswer := h.answer depth
  cases operation with
  | fire trigger argument =>
    simp only [perform, Machine.fire]
    exact (h.fireUnder hanswer trigger argument token environment environment').map _
  | reset =>
    simp only [perform]
    exact (hanswer .reset token environment environment').map _
  | force state =>
    simp only [perform]
    exact (hanswer (.force state) token environment environment').map _
  | enabled trigger =>
    simp only [perform]
    exact (hanswer (.enabled trigger) token environment environment').map _
  | capture id timestamp =>
    simp only [perform]
    exact .pure _ token environment environment'

section Fleet

variable {ι : Type} [DecidableEq ι]

def performOn (machine : Machine S T A E K) (depth : Nat) (i : ι) (operation : Operation S T A)
    (world : World E (ι → K)) :
    Traced (ι × Event S T A) (World E (ι → K)) (ι × Operation.Result S T A) :=
  let own := machine.perform depth operation ⟨world.environment, world.token i⟩
  ⟨(i, own.value), ⟨own.world.environment, Function.update world.token i own.world.token⟩,
    own.events.map (i, ·)⟩

def performEach (machine : Machine S T A E K) (depth : Nat) :
    List (ι × Operation S T A) → World E (ι → K) →
      Traced (ι × Event S T A) (World E (ι → K)) (List (ι × Operation.Result S T A))
  | [], world => .pure [] world
  | (i, operation) :: rest, world =>
    (machine.performOn depth i operation world).bind fun result world =>
      (machine.performEach depth rest world).map (result :: ·)

def share {α : Type} (i : ι) (all : List (ι × α)) : List α :=
  all.filterMap fun one => if one.1 = i then some one.2 else none

theorem share_cons_self {α : Type} (i : ι) (one : α) (rest : List (ι × α)) :
    share i ((i, one) :: rest) = one :: share i rest :=
  List.filterMap_cons_some (if_pos rfl)

theorem share_cons_of_ne {α : Type} {i j : ι} (h : j ≠ i) (one : α) (rest : List (ι × α)) :
    share i ((j, one) :: rest) = share i rest :=
  List.filterMap_cons_none (if_neg h)

theorem share_append {α : Type} (i : ι) (earlier later : List (ι × α)) :
    share i (earlier ++ later) = share i earlier ++ share i later :=
  List.filterMap_append

theorem share_map_self {α : Type} (i : ι) (own : List α) : share i (own.map (i, ·)) = own := by
  induction own with
  | nil => rfl
  | cons one rest ih => rw [List.map_cons, share_cons_self, ih]

theorem share_map_of_ne {α : Type} {i j : ι} (h : j ≠ i) (other : List α) :
    share i (other.map (j, ·)) = [] := by
  induction other with
  | nil => rfl
  | cons one rest ih => rw [List.map_cons, share_cons_of_ne h, ih]

/-- Whatever operations on other instances take place in between, an instance gives the results,
goes through the events and comes to the end that its own operations alone bring about. -/
theorem performEach_isolated (h : machine.Isolated) (depth : Nat)
    (operations : List (ι × Operation S T A)) (world : World E (ι → K)) (i : ι)
    (environment : E) :
    let whole := machine.performEach depth operations world
    let alone := machine.performAll depth (share i operations) ⟨environment, world.token i⟩
    whole.value.map Prod.fst = operations.map Prod.fst ∧ share i whole.value = alone.value ∧
      share i whole.events = alone.events ∧ whole.world.token i = alone.world.token := by
  induction operations generalizing world environment with
  | nil => exact ⟨rfl, rfl, rfl, rfl⟩
  | cons next rest ih =>
    obtain ⟨j, operation⟩ := next
    by_cases hj : j = i
    · subst hj
      have hown := agrees_perform h depth operation (world.token j) world.environment environment
      have hleft : (machine.performOn depth j operation world).world.token j =
          (machine.perform depth operation ⟨environment, world.token j⟩).world.token :=
        (Function.update_self ..).trans hown.token
      have hlater := ih (machine.performOn depth j operation world).world
        (machine.perform depth operation ⟨environment, world.token j⟩).world.environment
      rw [hleft] at hlater
      obtain ⟨hkeys, hvalue, hevents, htoken⟩ := hlater
      rw [share_cons_self]
      refine ⟨congrArg (j :: ·) hkeys, ?_, ?_, htoken⟩
      · exact (share_cons_self ..).trans (congrArg₂ List.cons hown.value hvalue)
      · refine (share_append ..).trans (congrArg₂ (· ++ ·) ?_ hevents)
        exact (share_map_self ..).trans hown.events
    · have hleft : (machine.performOn depth j operation world).world.token i = world.token i :=
        Function.update_of_ne (Ne.symm hj) ..
      have hlater := ih (machine.performOn depth j operation world).world environment
      rw [hleft] at hlater
      obtain ⟨hkeys, hvalue, hevents, htoken⟩ := hlater
      rw [share_cons_of_ne hj]
      refine ⟨congrArg (j :: ·) hkeys, (share_cons_of_ne hj ..).trans hvalue, ?_, htoken⟩
      refine (share_append ..).trans (congrArg₂ (· ++ ·) (share_map_of_ne hj _) hevents)

end Fleet

open Scenario in
/-- Calls whose machine opens and closes doors. The guard counts its evaluations, the action takes
them down to nothing, and the callback fires again. -/
def countingCalls : List (Call Door DoorInput Kind Nat (Memory Door)) :=
  [.setInitial .closed,
    .declare .closed .opening .opened none,
    .guard fun _ _ _ count => (true, count + 1),
    .action none fun _ _ _ _ => .observe fun _ door => .update 0 door .done,
    .declare .opened .closing .closed none,
    .callback fun _ _ _ => .ask (.fire .closing .absent) fun _ => .done]

def countingMachine : Machine Scenario.Door Scenario.DoorInput Scenario.Kind Nat
    (Memory Scenario.Door) :=
  ⟨.closed, (Compiler.after countingCalls).table, (Compiler.after countingCalls).callback⟩

theorem isolated_countingMachine : countingMachine.Isolated where
  guard := by
    intro state trigger transition guard ht hg environment environment'
    cases state <;> cases trigger <;> cases ht <;> cases hg
    rfl
  action := by
    intro state trigger transition ht payload
    cases state <;> cases trigger <;> cases ht
    · exact .observe fun _ _ door => .update .done
    · exact .done
  callback _ _ _ := .ask fun _ => .done

open Scenario in
def doorOperations : List (Bool × Operation Door DoorInput Kind) :=
  [(true, .fire .opening .absent), (false, .force .opened), (true, .enabled .opening),
    (false, .fire .closing .absent), (true, .reset)]

theorem performEach_isolated_doors :
    countingMachine.Isolated ∧
      share true (countingMachine.performEach 1 doorOperations ⟨0, fun _ => ⟨.closed⟩⟩).events =
        (countingMachine.performAll 1 [.fire .opening .absent, .enabled .opening, .reset]
          ⟨7, ⟨.closed⟩⟩).events := by
  refine ⟨isolated_countingMachine, ?_⟩
  exact (performEach_isolated isolated_countingMachine 1 doorOperations
    ⟨0, fun _ => ⟨.closed⟩⟩ true 7).2.2.1

end Machine

end StateMachine
