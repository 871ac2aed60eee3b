import StateMachine.Proofs.Acceptance
import StateMachine.Proofs.Dispatch

namespace StateMachine

variable {S T A E K : Type} [ArgumentKind A] [Named S] [BEq S]

namespace Machine

section Entry

variable {machine : Machine S T A E K} {checkpoint : Checkpoint S} {state : S}

theorem restore_of_version (h : checkpoint.version ≠ Checkpoint.currentVersion) :
    machine.restore checkpoint =
      .error (.foreignVersion checkpoint.version Checkpoint.currentVersion) :=
  if_pos h

theorem restore_of_hasTransitions (hv : checkpoint.version = Checkpoint.currentVersion)
    (h : machine.hasTransitions checkpoint.state = true) :
    machine.restore checkpoint =
      .ok (⟨checkpoint.state⟩, .restored checkpoint.id (name checkpoint.state)) := by
  rw [restore, if_neg (not_not.2 hv), if_pos h]

theorem restore_of_not_hasTransitions (hv : checkpoint.version = Checkpoint.currentVersion)
    (h : machine.hasTransitions checkpoint.state = false) :
    machine.restore checkpoint = .error (.deadState checkpoint.state) := by
  rw [restore, if_neg (not_not.2 hv), if_neg (Bool.eq_false_iff.1 h)]

theorem restore_eq_ok_iff {memory : Memory S} {record : Log.Record} :
    machine.restore checkpoint = .ok (memory, record) ↔
      checkpoint.version = Checkpoint.currentVersion ∧
        machine.hasTransitions checkpoint.state = true ∧ memory = ⟨checkpoint.state⟩ ∧
        record = .restored checkpoint.id (name checkpoint.state) := by
  constructor
  · intro h
    by_cases hv : checkpoint.version = Checkpoint.currentVersion
    · cases hrow : machine.hasTransitions checkpoint.state with
      | true =>
        rw [restore_of_hasTransitions hv hrow] at h
        cases h
        exact ⟨hv, rfl, rfl, rfl⟩
      | false =>
        rw [restore_of_not_hasTransitions hv hrow] at h
        cases h
    · rw [restore_of_version hv] at h
      cases h
  · rintro ⟨hv, hrow, rfl, rfl⟩
    exact restore_of_hasTransitions hv hrow

theorem exists_restore_iff :
    (∃ memory record, machine.restore checkpoint = .ok (memory, record)) ↔
      checkpoint.version = Checkpoint.currentVersion ∧
        machine.hasTransitions checkpoint.state = true := by
  constructor
  · rintro ⟨memory, record, h⟩
    obtain ⟨hv, hrow, -⟩ := restore_eq_ok_iff.1 h
    exact ⟨hv, hrow⟩
  · rintro ⟨hv, hrow⟩
    exact ⟨_, _, restore_of_hasTransitions hv hrow⟩

variable [Token K S] {token : K}

theorem force_of_hasTransitions (h : machine.hasTransitions state = true) :
    machine.force state token = .ok (Token.move token state, .forced (name state)) :=
  if_pos h

theorem force_of_not_hasTransitions (h : machine.hasTransitions state = false) :
    machine.force state token = .error (.deadTarget state) :=
  if_neg (Bool.eq_false_iff.1 h)

theorem exists_force_iff :
    (∃ left record, machine.force state token = .ok (left, record)) ↔
      machine.hasTransitions state = true := by
  constructor
  · rintro ⟨left, record, h⟩
    cases hrow : machine.hasTransitions state with
    | true => rfl
    | false =>
      rw [force_of_not_hasTransitions hrow] at h
      cases h
  · intro h
    exact ⟨_, _, force_of_hasTransitions h⟩

end Entry

variable [Token K S] [Named T] [BEq T] [DecidableEq A]

theorem answer_force_of_hasTransitions {machine : Machine S T A E K} {state : S}
    (h : machine.hasTransitions state = true) (depth : Nat) (world : World E K) :
    machine.answer depth (.force state) world =
      ⟨.ok (), ⟨world.environment, Token.move world.token state⟩,
        [.log (.forced (name state)), .stored state]⟩ := by
  simp only [answer, force_of_hasTransitions h]

theorem answer_force_of_not_hasTransitions {machine : Machine S T A E K} {state : S}
    (h : machine.hasTransitions state = false) (depth : Nat) (world : World E K) :
    machine.answer depth (.force state) world = .pure (.error (.deadTarget state)) world := by
  simp only [answer, force_of_not_hasTransitions h]

theorem hasTransitions_of_answer_force {machine : Machine S T A E K} {state : S} {depth : Nat}
    {world : World E K} (h : (machine.answer depth (.force state) world).value = .ok ()) :
    machine.hasTransitions state = true := by
  cases hrow : machine.hasTransitions state with
  | true => rfl
  | false =>
    rw [answer_force_of_not_hasTransitions hrow] at h
    cases h

theorem not_hasTransitions_of_answer_force {machine : Machine S T A E K} {state : S}
    {depth : Nat} {world : World E K} {e : FireError S T A}
    (h : (machine.answer depth (.force state) world).value = .error e) :
    machine.hasTransitions state = false := by
  cases hrow : machine.hasTransitions state with
  | true =>
    rw [answer_force_of_hasTransitions hrow] at h
    cases h
  | false => rfl

theorem answer_restore_of_ok {machine : Machine S T A E K} {checkpoint : Checkpoint S}
    {memory : Memory S} {record : Log.Record}
    (h : machine.restore checkpoint = .ok (memory, record)) (depth : Nat) (world : World E K) :
    machine.answer depth (.restore checkpoint) world = ⟨.ok memory, world, [.log record]⟩ := by
  simp only [answer, h]

theorem answer_restore_of_error {machine : Machine S T A E K} {checkpoint : Checkpoint S}
    {e : CheckpointError S} (h : machine.restore checkpoint = .error e) (depth : Nat)
    (world : World E K) :
    machine.answer depth (.restore checkpoint) world = .pure (.error e) world := by
  simp only [answer, h]

theorem exists_restore_of_answer {machine : Machine S T A E K} {checkpoint : Checkpoint S}
    {depth : Nat} {world : World E K} {memory : Memory S}
    (h : (machine.answer depth (.restore checkpoint) world).value = .ok memory) :
    ∃ record, machine.restore checkpoint = .ok (memory, record) := by
  cases hr : machine.restore checkpoint with
  | ok found =>
    rw [answer_restore_of_ok hr] at h
    cases h
    exact ⟨_, rfl⟩
  | error e =>
    rw [answer_restore_of_error hr] at h
    cases h

theorem restore_of_answer {machine : Machine S T A E K} {checkpoint : Checkpoint S} {depth : Nat}
    {world : World E K} {e : CheckpointError S}
    (h : (machine.answer depth (.restore checkpoint) world).value = .error e) :
    machine.restore checkpoint = .error e := by
  cases hr : machine.restore checkpoint with
  | ok found =>
    rw [answer_restore_of_ok hr] at h
    cases h
  | error found =>
    rw [answer_restore_of_error hr] at h
    cases h
    rfl

theorem fire_ne_deadState {calls : List (Call S T A E K)} {machine : Machine S T A E K}
    (h : Call.Describes calls machine) {world : World E K}
    (hrow : machine.hasTransitions (Token.state world.token) = true) (depth : Nat) (trigger : T)
    (argument : Argument A) (state : S) :
    (machine.fire depth trigger argument world).value ≠ .error (.deadState state) := by
  intro hv
  cases (h.value_fireUnder_iff _ _ _ _ _).1 hv with
  | deadState hleaves =>
    rw [h.row, hleaves] at hrow
    cases hrow

/-- Restoring a checkpoint and forcing its state follow one rule: the state needs a transition out
of it that was accepted when the machine was made. A checkpoint of another version is refused
whatever its state. What is entered is the very state given, and neither evaluates a guard nor calls
an action or the callback; a refusal does nothing. In the state entered no fire is refused for the
lack of transitions. Putting an instance back is forcing it into the initial state, where this is
permitted. -/
theorem restore_force [LawfulToken K] [EquivBEq S] [EquivBEq T] {calls : List (Call S T A E K)}
    {machine : Machine S T A E K} {record : Log.Record}
    (hc : (Compiler.after calls).compile = .ok (machine, record)) (checkpoint : Checkpoint S)
    (token : K) :
    ((∃ memory log, machine.restore checkpoint = .ok (memory, log)) ↔
      checkpoint.version = Checkpoint.currentVersion ∧
        ∃ left log, machine.force checkpoint.state token = .ok (left, log)) ∧
    ((∃ left log, machine.force checkpoint.state token = .ok (left, log)) ↔
      (Call.accepted calls).any (·.leaves checkpoint.state) = true) ∧
    (checkpoint.version ≠ Checkpoint.currentVersion → machine.restore checkpoint =
      .error (.foreignVersion checkpoint.version Checkpoint.currentVersion)) ∧
    (checkpoint.version = Checkpoint.currentVersion →
      (Call.accepted calls).any (·.leaves checkpoint.state) = false →
        machine.restore checkpoint = .error (.deadState checkpoint.state)) ∧
    ∀ depth environment,
      let world : World E K := ⟨environment, token⟩
      let forced := machine.answer depth (.force checkpoint.state) world
      let restored := machine.answer depth (.restore checkpoint) world
      (forced.value = .ok () →
        Token.memory forced.world.token = ⟨checkpoint.state⟩ ∧
        forced.world.environment = environment ∧
        forced.events = [.log (.forced (name checkpoint.state)), .stored checkpoint.state] ∧
        ∀ deep around trigger argument state,
          (machine.fire deep trigger argument ⟨around, forced.world.token⟩).value ≠
            .error (.deadState state)) ∧
      (∀ memory, restored.value = .ok memory →
        memory = ⟨checkpoint.state⟩ ∧ restored.world = world ∧
        restored.events = [.log (.restored checkpoint.id (name checkpoint.state))] ∧
        ∀ (other : K) deep around trigger argument state,
          (machine.fire deep trigger argument ⟨around, Token.setMemory other memory⟩).value ≠
            .error (.deadState state)) ∧
      (∀ e, forced.value = .error e →
        e = .deadTarget checkpoint.state ∧ forced.world = world ∧ forced.events = []) ∧
      (∀ e, restored.value = .error e → restored.world = world ∧ restored.events = []) ∧
      ((machine.answer depth (.force machine.initial) world).value = .ok () →
        (machine.answer depth .reset world).world =
          (machine.answer depth (.force machine.initial) world).world) := by
  have h := (Compiler.reflects_after calls).describes hc
  have hrow : ∀ state, machine.hasTransitions state =
      (Call.accepted calls).any (·.leaves state) := by
    intro state
    rw [h.row, Call.any_leaves_accepted]
  rw [exists_restore_iff, exists_force_iff, ← hrow]
  refine ⟨Iff.rfl, Iff.rfl, restore_of_version, restore_of_not_hasTransitions, ?_⟩
  intro depth environment world forced restored
  refine ⟨fun hok => ?_, fun memory hok => ?_, fun e he => ?_, fun e he => ?_, fun hok => ?_⟩
  · have hstate := hasTransitions_of_answer_force hok
    have hforced := answer_force_of_hasTransitions hstate depth world
    refine ⟨?_, congrArg (·.world.environment) hforced, congrArg (·.events) hforced, ?_⟩
    · simp only [forced, hforced]
      exact LawfulToken.memory_setMemory token ⟨checkpoint.state⟩
    · intro deep around trigger argument state
      apply fire_ne_deadState h
      simp only [forced, hforced, Token.state_move]
      exact hstate
  · obtain ⟨log, hrestore⟩ := exists_restore_of_answer hok
    have hrestored := answer_restore_of_ok hrestore depth world
    obtain ⟨-, hstate, rfl, rfl⟩ := restore_eq_ok_iff.1 hrestore
    refine ⟨rfl, congrArg (·.world) hrestored, congrArg (·.events) hrestored, ?_⟩
    intro other deep around trigger argument state
    apply fire_ne_deadState h
    simp only [Token.state, LawfulToken.memory_setMemory]
    exact hstate
  · have hforced :=
      answer_force_of_not_hasTransitions (not_hasTransitions_of_answer_force he) depth world
    have hvalue := (congrArg (·.value) hforced).symm.trans he
    exact ⟨(Except.error.inj hvalue).symm, congrArg (·.world) hforced,
      congrArg (·.events) hforced⟩
  · have hrestored := answer_restore_of_error (restore_of_answer he) depth world
    exact ⟨congrArg (·.world) hrestored, congrArg (·.events) hrestored⟩
  · rw [answer_force_of_hasTransitions (hasTransitions_of_answer_force hok)]
    simp only [answer, reset]

open Scenario in
def keptCheckpoint : Checkpoint (Label .folded) :=
  ⟨1, "id", ⟨0, 0, by decide, by decide, by decide⟩, ⟨"A"⟩⟩

theorem restore_force_reentrant :
    (∃ memory log, reentrantMachine.restore keptCheckpoint = .ok (memory, log)) ∧
      (reentrantMachine.fire 1 ⟨"stop"⟩ .absent ⟨7, ⟨⟨"A"⟩⟩⟩).value ≠
        .error (.deadState ⟨"A"⟩) ∧
      reentrantMachine.restore { keptCheckpoint with version := 2 } =
        .error (.foreignVersion 2 1) ∧
      reentrantMachine.restore { keptCheckpoint with state := ⟨"c"⟩ } = .error (.deadState ⟨"c"⟩) ∧
      (reentrantMachine.answer 0 .reset ⟨0, ⟨⟨"b"⟩⟩⟩).world.token = ⟨⟨"a"⟩⟩ := by
  obtain ⟨hrestore, hforce, -, -, hruns⟩ :=
    restore_force compile_reentrantCalls keptCheckpoint ⟨⟨"b"⟩⟩
  obtain ⟨-, -, hforeign, -, -⟩ := restore_force compile_reentrantCalls
    { keptCheckpoint with version := 2 } ⟨⟨"b"⟩⟩
  obtain ⟨-, -, -, hdead, -⟩ := restore_force compile_reentrantCalls
    { keptCheckpoint with state := ⟨"c"⟩ } ⟨⟨"b"⟩⟩
  obtain ⟨hforced, -, -, -, hreset⟩ := hruns 0 0
  obtain ⟨-, -, -, hnext⟩ := hforced rfl
  refine ⟨hrestore.2 ⟨rfl, hforce.2 rfl⟩, hnext 1 7 ⟨"stop"⟩ .absent ⟨"A"⟩, ?_, hdead rfl rfl, ?_⟩
  · exact hforeign (by decide)
  · rw [hreset rfl]
    rfl

end Machine

end StateMachine
