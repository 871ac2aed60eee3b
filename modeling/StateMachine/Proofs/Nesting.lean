import Mathlib.Data.List.Infix
import StateMachine.Proofs.Dispatch

namespace StateMachine

variable {S T A E K : Type} [ArgumentKind A]

/-- The requests that a script puts when it is run, each with the world that it is put in. -/
def Script.asked (handler : Handler S T A E K) :
    Script S T A E K → World E K → List (Request S T A × World E K)
  | done, _ => []
  | observe next, world => (next world.environment world.token).asked handler world
  | update environment token next, _ => next.asked handler ⟨environment, token⟩
  | ask request next, world =>
    (request, world) ::
      (next (handler request world).value).asked handler (handler request world).world

theorem Script.events_run (handler : Handler S T A E K) (script : Script S T A E K)
    (world : World E K) :
    (script.run handler world).events =
      (script.asked handler world).flatMap fun put => (handler put.1 put.2).events := by
  induction script generalizing world with
  | done => rfl
  | observe next ih => exact ih _ _ _
  | update environment token next ih => exact ih _
  | ask request next ih =>
    simp only [asked, List.flatMap_cons, ← ih]
    rfl

namespace Event

/-- Whether a request other than a fire can leave an event. -/
def isPlain : Event S T A → Bool
  | guard .. | stored _ => true
  | log record =>
    match record with
    | .committed .. => false
    | _ => true
  | _ => false

def isCommit : Event S T A → Bool
  | log (.committed ..) => true
  | _ => false

def isCallback : Event S T A → Bool
  | callback .. => true
  | _ => false

def isCommittedReturn : Event S T A → Bool
  | returned (.ok outcome) => outcome.isCommitted
  | _ => false

theorem not_of_all_isPlain {p : Event S T A → Bool} (hp : ∀ e, e.isPlain = true → p e = false)
    {events : List (Event S T A)} (h : events.all isPlain = true) :
    ∀ e ∈ events, ¬p e = true := by
  intro e he
  rw [hp e (List.all_eq_true.1 h e he)]
  exact Bool.false_ne_true

end Event

theorem Transition.all_isPlain_guardCall (transition : Transition S T A E K) (passed : Bool) :
    (transition.guardCall passed).all Event.isPlain = true := by
  rw [guardCall]
  cases transition.guard <;> rfl

namespace Machine

variable [Named S] [Named T]

/-- Events that mark a commit: each commit has one of them as its own, in the call of the callback,
the record or the return, and nothing else leaves any. -/
structure Marks (machine : Machine S T A E K) (p : Event S T A → Bool) : Prop where
  plain : ∀ e, e.isPlain = true → p e = false
  action : ∀ source trigger target argument current,
    p (.action source trigger target argument current) = false
  returned : ∀ outcome, (∀ source target, outcome ≠ .ok (.committed source target)) →
    p (.returned outcome) = false
  commit : ∀ source trigger target current,
    (machine.callbackCall source trigger target current ++
      ([.log (.committed (name source) (name trigger) (name target)),
        .returned (.ok (.committed source target))] : List (Event S T A))).countP p = 1

theorem marks_isCommit (machine : Machine S T A E K) : machine.Marks Event.isCommit where
  plain e he := by
    cases e with
    | log record =>
      cases record with
      | committed => cases he
      | _ => rfl
    | _ => rfl
  action _ _ _ _ _ := rfl
  returned _ _ := rfl
  commit _ _ _ _ := by
    rw [callbackCall]
    cases machine.callback <;> rfl

theorem marks_isCommittedReturn (machine : Machine S T A E K) :
    machine.Marks Event.isCommittedReturn where
  plain e he := by
    cases e with
    | returned outcome => cases he
    | _ => rfl
  action _ _ _ _ _ := rfl
  returned outcome hne := by
    match outcome with
    | .error e => rfl
    | .ok (.blocked state) => rfl
    | .ok (.committed source target) => exact (hne source target rfl).elim
  commit _ _ _ _ := by
    rw [callbackCall]
    cases machine.callback <;> rfl

theorem marks_isCallback {machine : Machine S T A E K} (h : machine.callback.isSome = true) :
    machine.Marks Event.isCallback where
  plain e he := by
    cases e with
    | callback => cases he
    | _ => rfl
  action _ _ _ _ _ := rfl
  returned _ _ := rfl
  commit _ _ _ _ := by
    obtain ⟨callback, hcallback⟩ := Option.isSome_iff_exists.1 h
    rw [callbackCall, hcallback]
    rfl

end Machine

/-- One fire of a run: what is fired in which world, and how deep its scripts may fire again. -/
structure Dispatch (T A E K : Type) [ArgumentKind A] where
  depth : Nat
  trigger : T
  argument : Argument A
  world : World E K

variable [Token K S] [Named S] [Named T] [BEq S] [BEq T] [DecidableEq A]

def Machine.eventsOf (machine : Machine S T A E K) (depth : Nat)
    (asked : List (Request S T A × World E K)) : List (Event S T A) :=
  asked.flatMap fun put => (machine.answer depth put.1 put.2).events

namespace Dispatch

def run (machine : Machine S T A E K) (d : Dispatch T A E K) :
    Traced (Event S T A) (World E K) (Except (FireError S T A) (Fired S)) :=
  machine.fire d.depth d.trigger d.argument d.world

/-- The events of a dispatch without those of the requests of its scripts. -/
def own (machine : Machine S T A E K) (d : Dispatch T A E K) : List (Event S T A) :=
  machine.ownEvents (machine.answer d.depth) d.trigger d.argument d.world

def commits (machine : Machine S T A E K) (d : Dispatch T A E K) : Bool :=
  match (d.run machine).value with
  | .ok outcome => outcome.isCommitted
  | .error _ => false

/-- The transition that a dispatch commits: it was selected, takes the argument and is permitted. -/
structure Commit (machine : Machine S T A E K) (d : Dispatch T A E K) where
  transition : Transition S T A E K
  payload : Payload transition.argument
  selected : machine.select (Token.state d.world.token) d.trigger = .ok transition
  accepted : transition.accept d.argument = .ok payload
  permitted : (transition.verdict d.world.environment).value = true

def commit? (machine : Machine S T A E K) (d : Dispatch T A E K) : Option (d.Commit machine) :=
  match hs : machine.select (Token.state d.world.token) d.trigger with
  | .error _ => none
  | .ok transition =>
    match ha : transition.accept d.argument with
    | .error _ => none
    | .ok payload =>
      if hv : (transition.verdict d.world.environment).value = true then
        some ⟨transition, payload, hs, ha, hv⟩
      else none

namespace Commit

variable {machine : Machine S T A E K} {d : Dispatch T A E K}

def moved (c : d.Commit machine) : World E K :=
  ⟨(c.transition.verdict d.world.environment).world,
    Token.move d.world.token c.transition.target⟩

def acted (c : d.Commit machine) : World E K :=
  ((c.transition.script c.payload).run (machine.answer d.depth) c.moved).world

def actionAsked (c : d.Commit machine) : List (Request S T A × World E K) :=
  (c.transition.script c.payload).asked (machine.answer d.depth) c.moved

def callbackAsked (c : d.Commit machine) : List (Request S T A × World E K) :=
  (machine.callbackScript (Token.state d.world.token) d.trigger c.transition.target).asked
    (machine.answer d.depth) c.acted

end Commit

def asked (machine : Machine S T A E K) (d : Dispatch T A E K) :
    List (Request S T A × World E K) :=
  match d.commit? machine with
  | none => []
  | some c => c.actionAsked ++ c.callbackAsked

end Dispatch

/-- All dispatches that come of some requests, each followed by those inside it. -/
def Machine.dispatches (machine : Machine S T A E K) :
    Nat → List (Request S T A × World E K) → List (Dispatch T A E K)
  | 0, _ => []
  | depth + 1, asked => asked.flatMap fun
    | (.fire trigger argument, world) =>
      ⟨depth, trigger, argument, world⟩ ::
        machine.dispatches depth
          ((⟨depth, trigger, argument, world⟩ : Dispatch T A E K).asked machine)
    | _ => []

theorem Machine.eventsOf_append (machine : Machine S T A E K) (depth : Nat)
    (first second : List (Request S T A × World E K)) :
    machine.eventsOf depth (first ++ second) =
      machine.eventsOf depth first ++ machine.eventsOf depth second :=
  List.flatMap_append

theorem Machine.dispatches_append (machine : Machine S T A E K) (depth : Nat)
    (first second : List (Request S T A × World E K)) :
    machine.dispatches depth (first ++ second) =
      machine.dispatches depth first ++ machine.dispatches depth second := by
  cases depth with
  | zero => rfl
  | succ depth => exact List.flatMap_append

theorem Machine.infix_eventsOf (machine : Machine S T A E K) (depth : Nat)
    {asked : List (Request S T A × World E K)} {put : Request S T A × World E K}
    (h : put ∈ asked) :
    (machine.answer depth put.1 put.2).events <:+: machine.eventsOf depth asked := by
  apply List.infix_of_mem_flatten
  exact List.mem_map_of_mem (f := fun put => (machine.answer depth put.1 put.2).events) h

theorem Machine.all_isPlain_answer {machine : Machine S T A E K} {depth : Nat}
    {request : Request S T A} {world : World E K}
    (h : depth = 0 ∨ ∀ trigger argument, request ≠ .fire trigger argument) :
    (machine.answer depth request world).events.all Event.isPlain = true := by
  cases request with
  | fire trigger argument =>
    rcases h with rfl | h
    · rfl
    · exact (h trigger argument rfl).elim
  | reset => simp only [answer, List.all_cons, reset]; rfl
  | force state =>
    simp only [answer, force]
    cases machine.hasTransitions state <;> rfl
  | enabled trigger =>
    simp only [answer, enabled, Traced.mapWorld]
    cases machine.select (Token.state world.token) trigger with
    | error e => rfl
    | ok transition =>
      simp only [transition.events_verdict]
      exact transition.all_isPlain_guardCall _
  | newMemory => simp only [answer]; rfl
  | restore checkpoint =>
    simp only [answer, restore]
    split_ifs <;> rfl

namespace Dispatch

variable {machine : Machine S T A E K} {d : Dispatch T A E K}

omit [Named S] [Named T] in
theorem commit?_eq_some (c : d.Commit machine) : d.commit? machine = some c := by
  obtain ⟨transition, payload, hs, ha, hv⟩ := c
  unfold commit?
  split
  · next he => rw [hs] at he; cases he
  · next he =>
    rw [hs] at he
    cases he
    split
    · next he => rw [ha] at he; cases he
    · next he =>
      rw [ha] at he
      cases he
      rw [dif_pos hv]

/-- A dispatch that commits nothing is the same under every handler. It leaves the token alone, and
its events are plain up to its return. -/
theorem exists_fireUnder (h : d.commit? machine = none) :
    ∃ outcome environment plain, plain.all Event.isPlain = true ∧
      (∀ source target, outcome ≠ .ok (.committed source target)) ∧
      ∀ handler, machine.fireUnder handler d.trigger d.argument d.world =
        ⟨outcome, ⟨environment, d.world.token⟩, plain ++ [.returned outcome]⟩ := by
  cases hs : machine.select (Token.state d.world.token) d.trigger with
  | error e =>
    refine ⟨.error e, d.world.environment, [], rfl, by simp, fun handler => ?_⟩
    exact Machine.fireUnder_of_select hs
  | ok transition =>
    cases ha : transition.accept d.argument with
    | error e =>
      refine ⟨.error e, d.world.environment, [], rfl, by simp, fun handler => ?_⟩
      exact Machine.fireUnder_of_accept hs ha
    | ok payload =>
      cases hv : (transition.verdict d.world.environment).value with
      | true =>
        rw [commit?_eq_some ⟨transition, payload, hs, ha, hv⟩] at h
        cases h
      | false =>
        refine ⟨.ok (.blocked (Token.state d.world.token)),
          (transition.verdict d.world.environment).world,
          transition.guardCall false ++
            [.log (.rejected (name (Token.state d.world.token)) (name d.trigger))],
          ?_, by simp, fun handler => ?_⟩
        · rw [List.all_append, transition.all_isPlain_guardCall]
          rfl
        · rw [Machine.fireUnder_of_rejected hs ha hv, List.append_assoc]
          rfl

namespace Commit

variable (c : d.Commit machine)

include c

theorem value_run : (d.run machine).value =
    .ok (.committed (Token.state d.world.token) c.transition.target) := by
  rw [run, Machine.fire, Machine.fireUnder_of_permitted _ c.selected c.accepted c.permitted]

theorem commits_eq_true : d.commits machine = true := by
  rw [commits, c.value_run]
  rfl

theorem asked_eq : d.asked machine = c.actionAsked ++ c.callbackAsked := by
  rw [asked, commit?_eq_some c]

variable [LawfulToken K]

/-- The events of a commit: those of its action's requests stand before the callback, and those of
its callback's requests before the record. -/
theorem events_run : (d.run machine).events =
    c.transition.guardCall true ++ .stored c.transition.target ::
      (c.transition.actionCall d.argument c.transition.target ++
        machine.eventsOf d.depth c.actionAsked ++
        (machine.callbackCall (Token.state d.world.token) d.trigger c.transition.target
            (Token.state c.acted.token) ++
          machine.eventsOf d.depth c.callbackAsked) ++
        [.log (.committed (name (Token.state d.world.token)) (name d.trigger)
            (name c.transition.target)),
          .returned (.ok (.committed (Token.state d.world.token) c.transition.target))]) := by
  rw [run, Machine.fire, Machine.fireUnder_of_permitted _ c.selected c.accepted c.permitted]
  simp only [Script.events_run, Token.state_move]
  rfl

theorem own_eq : d.own machine =
    c.transition.guardCall true ++ .stored c.transition.target ::
      (c.transition.actionCall d.argument c.transition.target ++
        machine.callbackCall (Token.state d.world.token) d.trigger c.transition.target
          (Token.state c.acted.token) ++
        [.log (.committed (name (Token.state d.world.token)) (name d.trigger)
            (name c.transition.target)),
          .returned (.ok (.committed (Token.state d.world.token) c.transition.target))]) := by
  rw [own, Machine.ownEvents,
    Machine.fireUnder_of_permitted _ c.selected c.accepted c.permitted]
  simp only [Script.run_muted, Token.state_move, List.append_nil]
  rfl

theorem infix_actionAsked :
    machine.eventsOf d.depth c.actionAsked <:+: (d.run machine).events := by
  rw [c.events_run]
  exact ⟨c.transition.guardCall true ++ .stored c.transition.target ::
    c.transition.actionCall d.argument c.transition.target, _, by
      simp only [List.append_assoc, List.cons_append]; rfl⟩

theorem infix_callbackAsked :
    machine.eventsOf d.depth c.callbackAsked <:+: (d.run machine).events := by
  rw [c.events_run]
  exact ⟨c.transition.guardCall true ++ .stored c.transition.target ::
    (c.transition.actionCall d.argument c.transition.target ++
      machine.eventsOf d.depth c.actionAsked ++
      machine.callbackCall (Token.state d.world.token) d.trigger c.transition.target
        (Token.state c.acted.token)), _, by
      simp only [List.append_assoc, List.cons_append]; rfl⟩

end Commit

theorem commits_eq_false (h : d.commit? machine = none) : d.commits machine = false := by
  obtain ⟨outcome, environment, plain, -, hne, hfire⟩ := exists_fireUnder h
  rw [commits, run, Machine.fire, hfire]
  match outcome with
  | .error e => rfl
  | .ok (.blocked state) => rfl
  | .ok (.committed source target) => exact (hne source target rfl).elim

theorem nonempty_commit (h : d.commits machine = true) : Nonempty (d.Commit machine) := by
  cases hc : d.commit? machine with
  | none =>
    rw [commits_eq_false hc] at h
    cases h
  | some c => exact ⟨c⟩

theorem exists_commit {source target : S}
    (h : (d.run machine).value = .ok (.committed source target)) :
    ∃ c : d.Commit machine, source = Token.state d.world.token ∧ target = c.transition.target := by
  have hcommits : d.commits machine = true := by
    rw [commits, h]
    rfl
  obtain ⟨c⟩ := nonempty_commit hcommits
  rw [c.value_run] at h
  cases h
  exact ⟨c, rfl, rfl⟩

variable [LawfulToken K]

theorem countP_run (machine : Machine S T A E K) (d : Dispatch T A E K) (p : Event S T A → Bool) :
    (d.run machine).events.countP p =
      (d.own machine).countP p + (machine.eventsOf d.depth (d.asked machine)).countP p := by
  cases hc : d.commit? machine with
  | none =>
    obtain ⟨outcome, environment, plain, -, -, hfire⟩ := exists_fireUnder hc
    rw [run, own, asked, hc, Machine.fire, Machine.ownEvents, hfire, hfire]
    rfl
  | some c =>
    rw [c.events_run, c.own_eq, c.asked_eq, Machine.eventsOf_append]
    simp only [List.countP_append, List.countP_cons]
    omega

theorem countP_own {p : Event S T A → Bool} (h : machine.Marks p) (d : Dispatch T A E K) :
    (d.own machine).countP p = if d.commits machine then 1 else 0 := by
  cases hc : d.commit? machine with
  | none =>
    obtain ⟨outcome, environment, plain, hplain, hne, hfire⟩ := exists_fireUnder hc
    rw [own, Machine.ownEvents, hfire, List.countP_append,
      List.countP_eq_zero.2 (Event.not_of_all_isPlain h.plain hplain), List.countP_singleton,
      h.returned outcome hne, commits_eq_false hc]
    rfl
  | some c =>
    have hguard : (c.transition.guardCall true).countP p = 0 :=
      List.countP_eq_zero.2
        (Event.not_of_all_isPlain h.plain (c.transition.all_isPlain_guardCall true))
    have haction : (c.transition.actionCall d.argument c.transition.target).countP p = 0 := by
      rw [Transition.actionCall]
      cases c.transition.action with
      | none => rfl
      | some action => simp [h.action]
    rw [c.own_eq, c.commits_eq_true, List.append_assoc, List.countP_append, List.countP_cons,
      List.countP_append, hguard, haction, h.plain _ rfl, h.commit]
    rfl

end Dispatch

namespace Machine

variable [LawfulToken K] {machine : Machine S T A E K}

omit [LawfulToken K] in
theorem dispatches_fire (depth : Nat) (trigger : T) (argument : Argument A) (world : World E K) :
    machine.dispatches (depth + 1) [(.fire trigger argument, world)] =
      ⟨depth, trigger, argument, world⟩ ::
        machine.dispatches depth
          ((⟨depth, trigger, argument, world⟩ : Dispatch T A E K).asked machine) := by
  rw [dispatches, List.flatMap_singleton]

theorem countP_eventsOf {p : Event S T A → Bool} (hp : ∀ e, e.isPlain = true → p e = false)
    (depth : Nat) (asked : List (Request S T A × World E K)) :
    (machine.eventsOf depth asked).countP p =
      ((machine.dispatches depth asked).flatMap (·.own machine)).countP p := by
  have hplain : ∀ {events : List (Event S T A)}, events.all Event.isPlain = true →
      events.countP p = 0 :=
    fun h => List.countP_eq_zero.2 (Event.not_of_all_isPlain hp h)
  -- A dispatch puts its requests one level deeper, so the depth is the outer induction; the inner
  -- one goes along the requests of one level.
  induction depth generalizing asked with
  | zero =>
    apply hplain
    rw [eventsOf, List.all_flatMap, List.all_eq_true]
    intro put _
    exact all_isPlain_answer (.inl rfl)
  | succ depth ih =>
    induction asked with
    | nil => rfl
    | cons put rest ihrest =>
      have hsplit : put :: rest = [put] ++ rest := rfl
      rw [hsplit, eventsOf_append, dispatches_append, List.flatMap_append, List.countP_append,
        List.countP_append, ihrest]
      congr 1
      rw [eventsOf, List.flatMap_singleton]
      obtain ⟨request, world⟩ := put
      cases request with
      | fire trigger argument =>
        have hstep := Dispatch.countP_run machine ⟨depth, trigger, argument, world⟩ p
        rw [ih] at hstep
        rw [dispatches_fire, List.flatMap_cons, List.countP_append]
        exact hstep
      | _ => exact hplain (all_isPlain_answer (.inr (by simp)))

theorem exists_own_of_mem_eventsOf {depth : Nat} {asked : List (Request S T A × World E K)}
    {e : Event S T A} (he : e ∈ machine.eventsOf depth asked) (hplain : e.isPlain = false) :
    ∃ d ∈ machine.dispatches depth asked, e ∈ d.own machine := by
  classical
  -- The count of the event itself, which is positive just where it occurs.
  have hp : ∀ x : Event S T A, x.isPlain = true → decide (x = e) = false := by
    intro x hx
    rw [decide_eq_false_iff_not]
    rintro rfl
    rw [hplain] at hx
    cases hx
  have hpos : 0 < (machine.eventsOf depth asked).countP fun x => decide (x = e) :=
    List.countP_pos_iff.2 ⟨e, he, decide_eq_true rfl⟩
  rw [countP_eventsOf hp, List.countP_pos_iff] at hpos
  obtain ⟨x, hx, hxe⟩ := hpos
  obtain rfl := of_decide_eq_true hxe
  exact List.mem_flatMap.1 hx

theorem countP_eventsOf_of_marks {p : Event S T A → Bool} (h : machine.Marks p)
    (depth : Nat) (asked : List (Request S T A × World E K)) :
    (machine.eventsOf depth asked).countP p =
      (machine.dispatches depth asked).countP (·.commits machine) := by
  rw [countP_eventsOf h.plain]
  generalize machine.dispatches depth asked = dispatches
  induction dispatches with
  | nil => rfl
  | cons d rest ih =>
    rw [List.flatMap_cons, List.countP_append, ih, Dispatch.countP_own h, List.countP_cons,
      Nat.add_comm]

omit [LawfulToken K] in
theorem mem_dispatches_succ {depth : Nat} {asked : List (Request S T A × World E K)}
    {d : Dispatch T A E K} : d ∈ machine.dispatches (depth + 1) asked ↔
      ∃ trigger argument world, (.fire trigger argument, world) ∈ asked ∧
        (d = ⟨depth, trigger, argument, world⟩ ∨
          d ∈ machine.dispatches depth
            ((⟨depth, trigger, argument, world⟩ : Dispatch T A E K).asked machine)) := by
  rw [dispatches, List.mem_flatMap]
  constructor
  · rintro ⟨⟨request, world⟩, hmem, hd⟩
    cases request with
    | fire trigger argument => exact ⟨trigger, argument, world, hmem, List.mem_cons.1 hd⟩
    | _ => cases hd
  · rintro ⟨trigger, argument, world, hmem, hd⟩
    exact ⟨_, hmem, List.mem_cons.2 hd⟩

theorem infix_of_mem_dispatches {depth : Nat} {asked : List (Request S T A × World E K)}
    {d : Dispatch T A E K} (h : d ∈ machine.dispatches depth asked) :
    (d.run machine).events <:+: machine.eventsOf depth asked := by
  induction depth generalizing asked with
  | zero => cases h
  | succ depth ih =>
    obtain ⟨trigger, argument, world, hmem, hd⟩ := mem_dispatches_succ.1 h
    have houter : (Dispatch.run machine ⟨depth, trigger, argument, world⟩).events <:+:
        machine.eventsOf (depth + 1) asked := machine.infix_eventsOf (depth + 1) hmem
    rcases hd with rfl | hd
    · exact houter
    · -- The inner dispatch comes of a request of the outer one, which has then committed.
      apply List.IsInfix.trans _ houter
      cases hc : Dispatch.commit? machine ⟨depth, trigger, argument, world⟩ with
      | none =>
        rw [Dispatch.asked, hc] at hd
        cases depth <;> cases hd
      | some c =>
        rw [c.asked_eq, dispatches_append] at hd
        rcases List.mem_append.1 hd with hd | hd
        · exact (ih hd).trans c.infix_actionAsked
        · exact (ih hd).trans c.infix_callbackAsked

/-- In every run of a program that has the machine fire, force or reset an instance, the events of a
committed dispatch lie together: the evaluation of its guard, the storing of its target, the call of
its action with all that this causes, the call of the callback with all that this causes, its record
and its return. Over the run there are as many records of commits, as many returns from them and, if
there is a callback, as many calls of it as there are dispatches that commit. -/
theorem run_nested (machine : Machine S T A E K) (depth : Nat) (program : Script S T A E K)
    (world : World E K) :
    let run := program.run (machine.answer depth) world
    let dispatches := machine.dispatches depth (program.asked (machine.answer depth) world)
    (∀ d ∈ dispatches, (d.run machine).events <:+: run.events ∧
      ∀ source target, (d.run machine).value = .ok (.committed source target) →
        ∃ c : d.Commit machine,
          source = Token.state d.world.token ∧ target = c.transition.target ∧
          (d.run machine).events =
            c.transition.guardCall true ++ .stored target ::
              (c.transition.actionCall d.argument target ++
                machine.eventsOf d.depth c.actionAsked ++
                (machine.callbackCall source d.trigger target (Token.state c.acted.token) ++
                  machine.eventsOf d.depth c.callbackAsked) ++
                [.log (.committed (name source) (name d.trigger) (name target)),
                  .returned (.ok (.committed source target))])) ∧
    run.events.countP Event.isCommit = dispatches.countP (·.commits machine) ∧
    run.events.countP Event.isCommittedReturn = dispatches.countP (·.commits machine) ∧
    (machine.callback.isSome = true →
      run.events.countP Event.isCallback = dispatches.countP (·.commits machine)) := by
  intro run dispatches
  have hrun : run.events =
      machine.eventsOf depth (program.asked (machine.answer depth) world) :=
    program.events_run (machine.answer depth) world
  refine ⟨fun d hd => ⟨?_, fun source target hvalue => ?_⟩, ?_, ?_, fun hcallback => ?_⟩
  · rw [hrun]
    exact infix_of_mem_dispatches hd
  · obtain ⟨c, rfl, rfl⟩ := Dispatch.exists_commit hvalue
    exact ⟨c, rfl, rfl, c.events_run⟩
  · rw [hrun]
    exact countP_eventsOf_of_marks machine.marks_isCommit depth _
  · rw [hrun]
    exact countP_eventsOf_of_marks machine.marks_isCommittedReturn depth _
  · rw [hrun]
    exact countP_eventsOf_of_marks (marks_isCallback hcallback) depth _

def reentrantProgram : Script (Scenario.Label .folded) (Scenario.Label .folded) Scenario.Kind Nat
    (Memory (Scenario.Label .folded)) :=
  .ask (.fire ⟨"GO"⟩ (.of .bool true)) fun _ => .done

def reentrantDispatch : Dispatch (Scenario.Label .folded) Scenario.Kind Nat
    (Memory (Scenario.Label .folded)) :=
  ⟨1, ⟨"GO"⟩, .of .bool true, ⟨0, ⟨⟨"A"⟩⟩⟩⟩

theorem run_nested_reentrant :
    let run := reentrantProgram.run (reentrantMachine.answer 2) ⟨0, ⟨⟨"A"⟩⟩⟩
    (reentrantDispatch.run reentrantMachine).events <:+: run.events ∧
      (∃ c : reentrantDispatch.Commit reentrantMachine, ⟨"b"⟩ = c.transition.target) ∧
      run.events.countP Event.isCommit = 2 ∧ run.events.countP Event.isCallback = 2 := by
  intro run
  obtain ⟨hnested, hcommits, -, hcallbacks⟩ :=
    run_nested reentrantMachine 2 reentrantProgram ⟨0, ⟨⟨"A"⟩⟩⟩
  have hmem : reentrantDispatch ∈ reentrantMachine.dispatches 2
      (reentrantProgram.asked (reentrantMachine.answer 2) ⟨0, ⟨⟨"A"⟩⟩⟩) := List.mem_cons_self
  have hvalue : (reentrantDispatch.run reentrantMachine).value =
      .ok (.committed ⟨"A"⟩ ⟨"b"⟩) := rfl
  obtain ⟨htogether, hcommitted⟩ := hnested reentrantDispatch hmem
  obtain ⟨c, -, htarget, -⟩ := hcommitted _ _ hvalue
  exact ⟨htogether, ⟨c, htarget⟩, hcommits.trans rfl, (hcallbacks rfl).trans rfl⟩

end Machine

end StateMachine
