import StateMachine.Proofs.Replay

namespace StateMachine.Machine

variable {S T A E K : Type} [ArgumentKind A] [Token K S] [Named S] [Named T] [BEq S] [BEq T]
  [DecidableEq A]

theorem eq_of_blocked {machine : Machine S T A E K} {d : Dispatch T A E K} {state : S}
    (h : (d.run machine).value = .ok (.blocked state)) :
    state = Token.state d.world.token ∧ (d.run machine).world.token = d.world.token := by
  rw [Dispatch.run, fire] at h ⊢
  cases hs : machine.select (Token.state d.world.token) d.trigger with
  | error e =>
    rw [fireUnder_of_select hs] at h
    cases h
  | ok transition =>
    cases ha : transition.accept d.argument with
    | error e =>
      rw [fireUnder_of_accept hs ha] at h
      cases h
    | ok payload =>
      cases hv : (transition.verdict d.world.environment).value with
      | true =>
        rw [fireUnder_of_permitted _ hs ha hv] at h
        cases h
      | false =>
        rw [fireUnder_of_rejected hs ha hv] at h ⊢
        cases h
        exact ⟨rfl, rfl⟩

/-- A fire that is blocked reports the state that the instance is still in. One that commits reports
the state that the instance is in when the action is called. At its end the instance is in the state
that is reported, if the action and the callback leave the memory alone. -/
theorem state_fired [LawfulToken K] (machine : Machine S T A E K) (d : Dispatch T A E K)
    {fired : Fired S} (h : (d.run machine).value = .ok fired) :
    let result := d.run machine
    (fired.isCommitted = false →
      fired.state = Token.state d.world.token ∧ result.world.token = d.world.token) ∧
    (∀ c : d.Commit machine, fired.state = Token.state c.moved.token ∧
      ((c.transition.script c.payload).Keeps ⟨fired.state⟩ →
        (machine.callbackScript (Token.state d.world.token) d.trigger fired.state).Keeps
          ⟨fired.state⟩ → Token.state result.world.token = fired.state)) ∧
    (machine.Quiet → Token.state result.world.token = fired.state) := by
  intro result
  cases fired with
  | blocked state =>
    obtain ⟨hstate, htoken⟩ := eq_of_blocked h
    have hleft : Token.state result.world.token = state := by rw [htoken, hstate]
    refine ⟨fun _ => ⟨hstate, htoken⟩, fun c => ?_, fun _ => hleft⟩
    rw [c.value_run] at h
    cases h
  | committed source target =>
    have htarget : ∀ c : d.Commit machine, target = c.transition.target := by
      intro c
      rw [c.value_run] at h
      cases h
      rfl
    refine ⟨nofun, fun c => ?_, fun hquiet => ?_⟩
    · obtain rfl := htarget c
      refine ⟨(Token.state_move _ _).symm, fun haction hcallback => ?_⟩
      exact congrArg Memory.state (run_of_keeps c haction hcallback).1
    · obtain ⟨c, -, rfl⟩ := Dispatch.exists_commit h
      exact congrArg Memory.state (hquiet.run_commit c).1

def openingDispatch : Dispatch Scenario.DoorInput Scenario.Kind Nat
    (Scenario.Probe Scenario.Door) :=
  ⟨0, .opening, .absent, ⟨0, ⟨⟨.closed⟩, .none⟩⟩⟩

theorem state_fired_opening :
    (openingDispatch.run notingMachine).value = .ok (.committed .closed .opened) ∧
      Token.state (openingDispatch.run notingMachine).world.token = .opened := by
  have hvalue : (openingDispatch.run notingMachine).value = .ok (.committed .closed .opened) := rfl
  obtain ⟨-, -, hleft⟩ := state_fired notingMachine openingDispatch hvalue
  exact ⟨hvalue, hleft quiet_notingMachine⟩

open Scenario in
def resettingCalls :
    List (Call (Label .exact) (Label .exact) Kind Unit (Memory (Label .exact))) :=
  [.setInitial ⟨"a"⟩, .declare ⟨"a"⟩ ⟨"go"⟩ ⟨"b"⟩ none,
    .action none fun _ _ _ _ => .ask .reset fun _ => .done]

open Scenario in
/-- The fire reports the state `b`, and leaves the instance in `a`. -/
theorem state_fired_resetting :
    ∃ machine record, (Compiler.after resettingCalls).compile = .ok (machine, record) ∧
      let result := machine.fire 0 ⟨"go"⟩ .absent ⟨(), ⟨⟨"a"⟩⟩⟩
      result.value = .ok (.committed ⟨"a"⟩ ⟨"b"⟩) ∧
        ¬ ∀ fired, result.value = .ok fired →
          (fired.state == Token.state result.world.token) = true := by
  refine ⟨_, _, rfl, rfl, fun hall => ?_⟩
  have hstate := hall (.committed ⟨"a"⟩ ⟨"b"⟩) rfl
  exact absurd hstate (by decide)

end StateMachine.Machine
