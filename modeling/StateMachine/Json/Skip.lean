import StateMachine.Json.Token

namespace StateMachine.Json

inductive Frame where
  | sequence
  | map
  deriving DecidableEq, Repr

inductive Expected where
  | value
  | firstElement
  | firstKey
  | key
  | colon
  | separator
  deriving DecidableEq, Repr

def beginValue? (frames : List Frame) : Token → Option (Expected × List Frame)
  | .null | .boolean _ | .number _ | .string _ => some (.separator, frames)
  | .openBracket => some (.firstElement, .sequence :: frames)
  | .openBrace => some (.firstKey, .map :: frames)
  | _ => none

def advance? : Expected → List Frame → Token → Option (Expected × List Frame)
  | .value, frames, token => beginValue? frames token
  | .firstElement, .sequence :: frames, .closeBracket => some (.separator, frames)
  | .firstElement, frames, token => beginValue? frames token
  | .firstKey, .map :: frames, .closeBrace => some (.separator, frames)
  | .firstKey, frames, .string _ => some (.colon, frames)
  | .key, frames, .string _ => some (.colon, frames)
  | .colon, frames, .colon => some (.value, frames)
  | .separator, .sequence :: frames, .comma => some (.value, .sequence :: frames)
  | .separator, .sequence :: frames, .closeBracket => some (.separator, frames)
  | .separator, .map :: frames, .comma => some (.key, .map :: frames)
  | .separator, .map :: frames, .closeBrace => some (.separator, frames)
  | _, _, _ => none

/-- The tokens behind the value whose remainder is expected. The stack of frames takes the place of
recursion, so that values may be nested to any depth. -/
def skipFrom : Expected → List Frame → List Token → Option (List Token)
  | _, _, [] => none
  | expected, frames, token :: rest =>
    match advance? expected frames token with
    | none => none
    | some (.separator, []) => some rest
    | some (expected, frames) => skipFrom expected frames rest

def skip (tokens : List Token) : Option (List Token) := skipFrom .value [] tokens

theorem properSuffix_of_skipFrom {tokens rest : List Token} {expected : Expected}
    {frames : List Frame} (h : skipFrom expected frames tokens = some rest) :
    ProperSuffix rest tokens := by
  induction tokens generalizing expected frames with
  | nil => cases expected <;> cases h
  | cons token tokens ih =>
    simp only [skipFrom] at h
    split at h
    · cases h
    · cases h
      exact .cons List.suffix_rfl
    · exact .cons (ih h).suffix

end StateMachine.Json
