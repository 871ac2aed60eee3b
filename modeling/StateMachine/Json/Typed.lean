import StateMachine.Checkpoint.Error
import StateMachine.Json.Lexer
import StateMachine.Storable
import StateMachine.Timestamp.Reader

namespace StateMachine.Json

variable {S : Type}

/-- What a token amounts to where another kind of value was wanted; none if it is defective itself
or begins no value. -/
def found? : Token → Option DecodeError.Found
  | .null => some .null
  | .boolean value => some (.boolean value)
  | .number numeral =>
    numeral.number?.map fun
      | .integer value => .integer value
      | .float value => .float value
  | .string content => content.map fun text => .string (String.ofList text)
  | .openBracket => some .sequence
  | .openBrace => some .map
  | _ => none

def mismatch (wanted : DecodeError.Wanted) (token : Token) : DecodeError :=
  match found? token with
  | none => .malformed
  | some found => .invalidType found wanted

def readWord : List Token → Except DecodeError (UInt32 × List Token)
  | [] => .error .malformed
  | .number numeral :: rest =>
    match numeral.number? with
    | none => .error .malformed
    | some (.float value) => .error (.invalidType (.float value) .word)
    | some (.integer value) =>
      if 0 ≤ value ∧ value.toNat < UInt32.size then .ok (UInt32.ofNat value.toNat, rest)
      else .error (.invalidValue value .word)
  | token :: _ => .error (mismatch .word token)

def readString (wanted : DecodeError.Wanted) :
    List Token → Except DecodeError (List Char × List Token)
  | [] => .error .malformed
  | .string (some text) :: rest => .ok (text, rest)
  | token :: _ => .error (mismatch wanted token)

def readTimestamp (tokens : List Token) : Except DecodeError (Timestamp × List Token) :=
  match readString .timestamp tokens with
  | .error e => .error e
  | .ok (text, rest) =>
    match Timestamp.read? text with
    | none => .error .malformed
    | some time => .ok (time, rest)

def variantNamed (values : List S) (name : S → String) (given : List Char) :
    Except DecodeError S :=
  match values.find? fun value => (name value).toList == given with
  | none => .error (.unknownVariant (String.ofList given) (values.map name))
  | some value => .ok value

def readUnitMember (value : S) : List Token → Except DecodeError (S × List Token)
  | .colon :: .null :: .closeBrace :: rest => .ok (value, rest)
  | .colon :: .null :: _ => .error .malformed
  | .colon :: token :: _ => .error (mismatch .unit token)
  | _ => .error .malformed

/-- A variant: its name, or a map from its name to `null`. What has neither form is malformed, a map
with a key that is no string too. -/
def readVariant (values : List S) (name : S → String) :
    List Token → Except DecodeError (S × List Token)
  | .string (some given) :: rest =>
    match variantNamed values name given with
    | .error e => .error e
    | .ok value => .ok (value, rest)
  | .openBrace :: .string (some given) :: rest =>
    match variantNamed values name given with
    | .error e => .error e
    | .ok value => readUnitMember value rest
  | _ => .error .malformed

def readState [Storable S] (tokens : List Token) : Except DecodeError (S × List Token) :=
  match (Storable.form : StoredForm S) with
  | .text _ read =>
    match readString .string tokens with
    | .error e => .error e
    | .ok (text, rest) => .ok (read (String.ofList text), rest)
  | .variants values name _ => readVariant values name tokens

variable {tokens rest : List Token}

theorem properSuffix_of_readWord {value : UInt32} (h : readWord tokens = .ok (value, rest)) :
    ProperSuffix rest tokens := by
  unfold readWord at h
  split at h
  · cases h
  · split at h
    · cases h
    · cases h
    · split at h
      · cases h
        exact .cons List.suffix_rfl
      · cases h
  · cases h

theorem properSuffix_of_readString {wanted : DecodeError.Wanted} {text : List Char}
    (h : readString wanted tokens = .ok (text, rest)) : ProperSuffix rest tokens := by
  unfold readString at h
  split at h
  · cases h
  · cases h
    exact .cons List.suffix_rfl
  · cases h

theorem properSuffix_of_readTimestamp {time : Timestamp}
    (h : readTimestamp tokens = .ok (time, rest)) : ProperSuffix rest tokens := by
  unfold readTimestamp at h
  split at h
  · cases h
  · next hs =>
    split at h
    · cases h
    · cases h
      exact properSuffix_of_readString hs

theorem suffix_of_readUnitMember {value state : S}
    (h : readUnitMember value tokens = .ok (state, rest)) : rest <:+ tokens := by
  unfold readUnitMember at h
  split at h
  · cases h
    exact List.suffix_append [_, _, _] rest
  all_goals cases h

theorem properSuffix_of_readVariant {values : List S} {name : S → String} {state : S}
    (h : readVariant values name tokens = .ok (state, rest)) : ProperSuffix rest tokens := by
  unfold readVariant at h
  split at h
  · split at h
    · cases h
    · cases h
      exact .cons List.suffix_rfl
  · split at h
    · cases h
    · exact .cons ((suffix_of_readUnitMember h).trans (List.suffix_cons _ _))
  · cases h

theorem properSuffix_of_readState [Storable S] {state : S}
    (h : readState tokens = .ok (state, rest)) : ProperSuffix rest tokens := by
  unfold readState at h
  split at h
  · split at h
    · cases h
    · next hs =>
      cases h
      exact properSuffix_of_readString hs
  · exact properSuffix_of_readVariant h

end StateMachine.Json
