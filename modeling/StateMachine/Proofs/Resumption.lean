import StateMachine.Machine.Operation
import StateMachine.Proofs.BinaryRoundTrip
import StateMachine.Proofs.Dispatch
import StateMachine.Scenario.Effect

namespace StateMachine

variable {S T A E K : Type} [ArgumentKind A]

/-- Two tokens are the same apart from their memories. -/
def Token.SameApart [Token K S] (a b : K) : Prop :=
  ∀ memory, Token.setMemory a memory = Token.setMemory b memory

theorem Token.SameApart.setMemory_memory [Token K S] [LawfulToken K] {a b : K}
    (h : Token.SameApart a b) : Token.setMemory a (Token.memory b) = b := by
  rw [h, LawfulToken.setMemory_memory]

theorem Token.sameApart_setMemory [Token K S] [LawfulToken K] (token : K) (memory : Memory S) :
    Token.SameApart (Token.setMemory token memory) token := by
  intro later
  exact LawfulToken.setMemory_setMemory token memory later

namespace Checkpoint

variable [Storable S] [LawfulStorable S]

theorem decode_encode {checkpoint : Checkpoint S} {format : Format} {encoded : Encoded}
    (h : checkpoint.encode format = .ok encoded) (hf : encoded.Fits) :
    encoded.decode = .ok checkpoint.carried := by
  cases format with
  | json =>
    cases hj : checkpoint.toJson with
    | error error =>
      rw [encode, hj] at h
      cases h
    | ok text =>
      rw [encode, hj] at h
      cases h
      exact ofJson_of_toJson hj
  | binary =>
    cases hb : checkpoint.toBinary with
    | error error =>
      rw [encode, hb] at h
      cases h
    | ok bytes =>
      rw [encode, hb] at h
      cases h
      exact ofBinary_of_toBinary hb hf

end Checkpoint

variable [BEq S] [BEq T]

namespace Machine

omit [BEq T] in
theorem restore_capture [Token K S] [Named S] (machine : Machine S T A E K) (token : K)
    (id : String) (timestamp : Timestamp) :
    machine.restore (.capture token id timestamp) =
      if machine.hasTransitions (Token.state token) then
        .ok (Token.memory token, .restored id (name (Token.state token)))
      else .error (.deadState (Token.state token)) := by
  rw [restore, if_neg (by simp [Checkpoint.capture])]
  rfl

variable [Token K S] [Named S] [Named T] [DecidableEq A]

theorem performAll_append (machine : Machine S T A E K) (depth : Nat)
    (earlier later : List (Operation S T A)) (world : World E K) :
    machine.performAll depth (earlier ++ later) world =
      (machine.performAll depth earlier world).bind fun results left =>
        (machine.performAll depth later left).map (results ++ ·) := by
  induction earlier generalizing world with
  | nil => rfl
  | cons next rest ih =>
    simp only [List.cons_append, performAll, ih, Traced.bind, Traced.map, List.append_assoc]

/-- A checkpoint of an instance restores its memory just where a transition leads out of its state.
An instance with this memory then takes the place of the one captured, and a run that is interrupted
in this way gives the results and the events of the run without the interruption. -/
theorem resume_capture [Storable S] [LawfulStorable S] [LawfulToken K] [EquivBEq S] [EquivBEq T]
    {calls : List (Call S T A E K)} {machine : Machine S T A E K} {record : Log.Record}
    (hc : (Compiler.after calls).compile = .ok (machine, record)) (token : K) (id : String)
    (timestamp : Timestamp) {format : Checkpoint.Format} {encoded : Checkpoint.Encoded}
    (he : (Checkpoint.capture token id timestamp).encode format = .ok encoded)
    (hf : encoded.Fits) :
    ((∃ memory log, machine.resume encoded = .ok (memory, log)) ↔
      ∃ trigger, (machine.transition? (Token.state token) trigger).isSome = true) ∧
    ∀ memory log, machine.resume encoded = .ok (memory, log) →
      memory = Token.memory token ∧ log = .restored id (name (Token.state token)) ∧
      ∀ other : K, Token.SameApart other token → ∀ depth later,
        (∀ environment,
          machine.performAll depth later ⟨environment, Token.setMemory other memory⟩ =
            machine.performAll depth later ⟨environment, token⟩) ∧
        ∀ earlier start, (machine.performAll depth earlier start).world.token = token →
          machine.performAll depth (earlier ++ later) start =
            (machine.performAll depth earlier start).bind fun results left =>
              (machine.performAll depth later
                ⟨left.environment, Token.setMemory other memory⟩).map (results ++ ·) := by
  have hresume : machine.resume encoded =
      machine.restore (.capture token id timestamp.carried) := by
    rw [resume, Checkpoint.decode_encode he hf]
    rfl
  have hrestore := machine.restore_capture token id timestamp.carried
  have hout := ((Compiler.reflects_after calls).describes hc).hasTransitions_iff (Token.state token)
  rw [hresume, hrestore, ← hout]
  constructor
  · cases machine.hasTransitions (Token.state token) <;> simp
  · intro memory log hok
    split at hok
    · cases hok
      refine ⟨rfl, rfl, fun other hother depth later => ⟨fun environment => ?_, ?_⟩⟩
      · rw [hother.setMemory_memory]
      · rintro earlier start rfl
        rw [hother.setMemory_memory]
        exact machine.performAll_append depth earlier later start
    · cases hok

open Scenario in
def probeCalls : List (Call (Label .folded) (Label .folded) Kind Nat (Probe (Label .folded))) :=
  [.setInitial ⟨"a"⟩, .declare ⟨"a"⟩ ⟨"go"⟩ ⟨"b"⟩ none]

def probeMachine : Machine (Scenario.Label .folded) (Scenario.Label .folded) Scenario.Kind Nat
    (Scenario.Probe (Scenario.Label .folded)) :=
  ⟨⟨"a"⟩, (Compiler.after probeCalls).table, none⟩

def startedProbe : Scenario.Probe (Scenario.Label .folded) := ⟨⟨⟨"A"⟩⟩, ⟨["note"], 3, none⟩⟩

def startedBytes : List UInt8 :=
  [1, 0, 0, 0] ++ Octets.writeText "id" ++ Octets.writeText "1970-01-01T23:56:05.333333333Z" ++
    Octets.writeText "A"

theorem resume_startedProbe :
    (∃ memory log, probeMachine.resume (.binary startedBytes) = .ok (memory, log)) ∧
      ∀ depth later, probeMachine.performAll depth later
          ⟨0, Token.setMemory ⟨probeMachine.newMemory, startedProbe.notes⟩ ⟨⟨"A"⟩⟩⟩ =
        probeMachine.performAll depth later ⟨0, startedProbe⟩ := by
  have hc : (Compiler.after probeCalls).compile = .ok (probeMachine, .compiled "a" 1 1) := rfl
  have he : (Checkpoint.capture startedProbe "id"
      ⟨86164, 1333333333, by decide, by decide, by decide⟩).encode .binary =
        .ok (.binary startedBytes) := rfl
  have hf : (Checkpoint.Encoded.binary startedBytes).Fits := by
    show startedBytes.length < UInt64.size
    decide
  obtain ⟨hiff, hresumed⟩ := resume_capture hc startedProbe "id" _ he hf
  obtain ⟨memory, log, hok⟩ := hiff.2 ⟨⟨"GO"⟩, rfl⟩
  obtain ⟨rfl, -, hruns⟩ := hresumed memory log hok
  refine ⟨⟨_, log, hok⟩, fun depth later => ?_⟩
  exact (hruns _ (Token.sameApart_setMemory startedProbe _) depth later).1 0

end Machine

end StateMachine
