import StateMachine.Checkpoint
import StateMachine.Json.Skip
import StateMachine.Json.Typed

namespace StateMachine.Checkpoint

variable {S : Type}

def Field.ofKey? (key : List Char) : Option Field :=
  if key = "version".toList then some .version
  else if key = "id".toList then some .id
  else if key = "timestamp".toList then some .timestamp
  else if key = "state".toList then some .state
  else none

/-- The parts of a checkpoint read so far. -/
structure Parts (S : Type) where
  version : Option UInt32
  id : Option String
  timestamp : Option Timestamp
  state : Option S

namespace Parts

def none : Parts S := ⟨.none, .none, .none, .none⟩

def has (parts : Parts S) : Field → Bool
  | .version => parts.version.isSome
  | .id => parts.id.isSome
  | .timestamp => parts.timestamp.isSome
  | .state => parts.state.isSome

def complete : Parts S → Except DecodeError (Checkpoint S)
  | ⟨some version, some id, some timestamp, some state⟩ =>
    .ok ⟨version, id, timestamp, state⟩
  | ⟨.none, _, _, _⟩ => .error (.missingField .version)
  | ⟨_, .none, _, _⟩ => .error (.missingField .id)
  | ⟨_, _, .none, _⟩ => .error (.missingField .timestamp)
  | ⟨_, _, _, .none⟩ => .error (.missingField .state)

end Parts

variable [Storable S]

def readPart (parts : Parts S) (field : Field) (tokens : List Json.Token) :
    Except DecodeError (Parts S × List Json.Token) :=
  match field with
  | .version => (Json.readWord tokens).map fun (v, rest) => ({ parts with version := some v }, rest)
  | .id =>
    (Json.readString .string tokens).map fun (text, rest) =>
      ({ parts with id := some (String.ofList text) }, rest)
  | .timestamp =>
    (Json.readTimestamp tokens).map fun (time, rest) =>
      ({ parts with timestamp := some time }, rest)
  | .state =>
    (Json.readState tokens).map fun (state, rest) => ({ parts with state := some state }, rest)

/-- Reads one member of an object: a part not yet read, or a member of no concern, which is passed
over. -/
def readMember (parts : Parts S) :
    List Json.Token → Except DecodeError (Parts S × List Json.Token)
  | .string (some key) :: rest =>
    match Field.ofKey? key, rest with
    | some field, rest =>
      if parts.has field then .error (.duplicateField field)
      else
        match rest with
        | .colon :: rest => readPart parts field rest
        | _ => .error .malformed
    | .none, .colon :: rest =>
      match Json.skip rest with
      | .none => .error .malformed
      | some rest => .ok (parts, rest)
    | .none, _ => .error .malformed
  | _ => .error .malformed

theorem properSuffix_of_readPart {parts parts' : Parts S} {field : Field}
    {tokens rest : List Json.Token} (h : readPart parts field tokens = .ok (parts', rest)) :
    Json.ProperSuffix rest tokens := by
  cases field <;> simp only [readPart, Except.map] at h <;> split at h <;> cases h <;>
    rename_i hr
  · exact Json.properSuffix_of_readWord hr
  · exact Json.properSuffix_of_readString hr
  · exact Json.properSuffix_of_readTimestamp hr
  · exact Json.properSuffix_of_readState hr

theorem properSuffix_of_readMember {parts parts' : Parts S} {tokens rest : List Json.Token}
    (h : readMember parts tokens = .ok (parts', rest)) : Json.ProperSuffix rest tokens := by
  unfold readMember at h
  split at h
  · split at h
    · split at h
      · cases h
      · split at h
        · exact .cons ((properSuffix_of_readPart h).suffix.trans (List.suffix_cons _ _))
        · cases h
    · split at h
      · cases h
      · next hs =>
        cases h
        exact .cons ((Json.properSuffix_of_skipFrom hs).suffix.trans (List.suffix_cons _ _))
    · cases h
  · cases h

def readMembers (parts : Parts S) (tokens : List Json.Token) :
    Except DecodeError (Checkpoint S × List Json.Token) :=
  match h : readMember parts tokens with
  | .error e => .error e
  | .ok (parts, .comma :: rest) =>
    have := (properSuffix_of_readMember h).length_lt
    readMembers parts rest
  | .ok (parts, .closeBrace :: rest) => parts.complete.map fun checkpoint => (checkpoint, rest)
  | .ok _ => .error .malformed
termination_by tokens.length
decreasing_by
  simp only [List.length_cons] at this
  omega

def readObject : List Json.Token → Except DecodeError (Checkpoint S × List Json.Token)
  | .closeBrace :: rest => Parts.none.complete.map fun checkpoint => (checkpoint, rest)
  | tokens => readMembers .none tokens

def nextElement (count : Nat) : List Json.Token → Except DecodeError (List Json.Token)
  | .comma :: rest => .ok rest
  | .closeBracket :: _ => .error (.invalidLength count)
  | _ => .error .malformed

def readSequence (tokens : List Json.Token) :
    Except DecodeError (Checkpoint S × List Json.Token) :=
  match tokens with
  | .closeBracket :: _ => .error (.invalidLength 0)
  | tokens => do
    let (version, tokens) ← Json.readWord tokens
    let tokens ← nextElement 1 tokens
    let (id, tokens) ← Json.readString .string tokens
    let tokens ← nextElement 2 tokens
    let (timestamp, tokens) ← Json.readTimestamp tokens
    let tokens ← nextElement 3 tokens
    let (state, tokens) ← Json.readState tokens
    match tokens with
    | .closeBracket :: rest => .ok (⟨version, String.ofList id, timestamp, state⟩, rest)
    | _ => .error .malformed

def ofTokens (tokens : List Json.Token) : Except DecodeError (Checkpoint S) := do
  let (checkpoint, rest) ←
    match tokens with
    | .openBrace :: rest => readObject rest
    | .openBracket :: rest => readSequence rest
    | token :: _ => .error (Json.mismatch .checkpoint token)
    | [] => .error .malformed
  if rest.isEmpty then .ok checkpoint else .error .malformed

def readJson (text : List Char) : Except DecodeError (Checkpoint S) :=
  ofTokens (Json.tokens text)

def ofJson (text : String) : Except (CheckpointError S) (Checkpoint S) :=
  (readJson text.toList).mapError .notRead

end StateMachine.Checkpoint
