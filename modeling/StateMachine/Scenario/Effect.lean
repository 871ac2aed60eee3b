import StateMachine.Checkpoint.JsonReader
import StateMachine.Scenario.Surroundings
import StateMachine.Transition

namespace StateMachine.Scenario

/-- What a probe carries besides its memory. -/
structure Notes (S : Type) where
  log : List String
  sum : Int64
  stash : Option (Memory S)

def Notes.none {S : Type} : Notes S := ⟨[], 0, .none⟩

structure Probe (S : Type) where
  memory : Memory S
  notes : Notes S

/-- Tokens that a scenario can start from a memory, with notes or without. -/
class Subject (K : Type) (S : outParam Type) extends Token K S where
  enroll : Memory S → K
  notes? : K → Option (Notes S)
  setNotes : K → Notes S → K

instance (S : Type) : Subject (Memory S) S where
  enroll := id
  notes? _ := none
  setNotes memory _ := memory

instance (S : Type) : Subject (Probe S) S where
  memory := Probe.memory
  setMemory probe memory := { probe with memory }
  enroll memory := ⟨memory, .none⟩
  notes? probe := some probe.notes
  setNotes probe notes := { probe with notes }

instance (S : Type) : LawfulToken (Probe S) where
  memory_setMemory _ _ := rfl
  setMemory_setMemory _ _ _ := rfl
  setMemory_memory _ := rfl

inductive Effect (S T : Type) where
  | setFlag (name : String) (value : Bool)
  | log (text : String)
  | add (amount : Int64)
  | stash
  | unstash
  | renew
  | reset
  | force (state : S)
  | restore (json : String)
  | enabled (trigger : T)
  | fire (trigger : T) (argument : Argument Kind)
  | nothing

variable {S T K : Type}

abbrev Play (S T K : Type) := Script S T Kind (Surroundings S T) K

namespace Play

def alter (change : K → K) (rest : Play S T K) : Play S T K :=
  .observe fun surroundings token => .update surroundings (change token) rest

def report (result : Nested S T) (rest : Play S T K) : Play S T K :=
  .observe fun surroundings token => .update (surroundings.note (.nested result)) token rest

variable [Subject K S]

def withNotes (use : Notes S → Play S T K) (rest : Play S T K) : Play S T K :=
  .observe fun _ token =>
    match Subject.notes? token with
    | none => rest
    | some notes => use notes

end Play

variable [Subject K S] [Storable S]

def Effect.play (effect : Effect S T) (rest : Play S T K) : Play S T K :=
  match effect with
  | .nothing => rest
  | .setFlag name value =>
    .observe fun surroundings token => .update (surroundings.setFlag name value) token rest
  | .log text =>
    Play.withNotes (fun notes =>
      Play.alter (Subject.setNotes · { notes with log := notes.log ++ [text] }) rest) rest
  | .add amount =>
    Play.withNotes (fun notes =>
      Play.alter (Subject.setNotes · { notes with sum := notes.sum + amount }) rest) rest
  | .stash =>
    Play.withNotes (fun notes =>
      Play.alter (fun token =>
        Subject.setNotes token { notes with stash := some (Token.memory token) }) rest) rest
  | .unstash =>
    Play.withNotes (fun notes =>
      match notes.stash with
      | none => rest
      | some memory =>
        Play.alter (fun token =>
          Subject.setNotes (Token.setMemory token memory) { notes with stash := none }) rest) rest
  | .renew =>
    Play.withNotes (fun _ =>
      .ask .newMemory fun memory => Play.alter (Token.setMemory · memory) rest) rest
  | .reset => Play.withNotes (fun _ => .ask .reset fun _ => rest) rest
  | .force state =>
    Play.withNotes (fun _ =>
      .ask (.force state) fun outcome => Play.report (.forced outcome) rest) rest
  | .restore json =>
    Play.withNotes (fun _ =>
      match Checkpoint.ofJson json with
      | .error e => Play.report (.restored (.error e)) rest
      | .ok checkpoint =>
        .ask (.restore checkpoint) fun
          | .error e => Play.report (.restored (.error e)) rest
          | .ok memory =>
            Play.alter (Token.setMemory · memory) (Play.report (.restored (.ok ())) rest)) rest
  | .enabled trigger =>
    Play.withNotes (fun _ =>
      .ask (.enabled trigger) fun answer => Play.report (.permitted answer) rest) rest
  | .fire trigger argument =>
    Play.withNotes (fun _ =>
      .ask (.fire trigger argument) fun
        | none => Play.report .tooDeep rest
        | some outcome => Play.report (.fired outcome) rest) rest

structure ActionSpec (S T : Type) where
  id : String
  effects : List (Effect S T)

namespace ActionSpec

def play (spec : ActionSpec S T) (forAny : Bool) (source : S) (trigger : T) (target : S)
    (argument : Option String) : Play S T K :=
  .observe fun surroundings token =>
    .update
      (surroundings.note
        (.action forAny spec.id source trigger target (Token.state token) argument))
      token (spec.effects.foldr Effect.play .done)

def action (spec : ActionSpec S T) (kind : Option Kind) :
    Action S T Kind (Surroundings S T) K kind :=
  fun source trigger target payload =>
    spec.play false source trigger target (Kind.showPayload kind payload)

def callback (spec : ActionSpec S T) : Callback S T Kind (Surroundings S T) K :=
  fun source trigger target => spec.play true source trigger target none

end ActionSpec

end StateMachine.Scenario
