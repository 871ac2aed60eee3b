import StateMachine.Checkpoint.JsonReader
import StateMachine.Checkpoint.JsonWriter
import StateMachine.Proofs.Tokens
import StateMachine.Scenario.Vocabulary

namespace StateMachine

variable {S : Type}

/-- The states that a stored form refuses to write, with the reason. -/
def StoredForm.Refuses : StoredForm S → S → String → Prop
  | .text write _, state, reason => write state = .error reason
  | .variants .., _, _ => False

namespace Json

theorem readWord_ofNat (value : UInt32) (rest : List Token) :
    readWord (.number (.ofNat value.toNat) :: rest) = .ok (value, rest) := by
  have hlt : value.toNat < UInt32.size := value.toNat_lt_size
  have hnumber := Numeral.number?_ofNat (n := value.toNat) (Nat.lt_trans hlt (by decide))
  simp only [readWord, hnumber]
  rw [if_pos ⟨Int.natCast_nonneg _, by rw [Int.toNat_natCast]; exact hlt⟩, Int.toNat_natCast,
    UInt32.ofNat_toNat]

theorem readTimestamp_write (time : Timestamp) (rest : List Token) :
    readTimestamp (.string (some time.write) :: rest) = .ok (time.carried, rest) := by
  simp only [readTimestamp, readString, Timestamp.read?_write]

theorem variantNamed_name {values : List S} {name : S → String} {state : S}
    (hmem : state ∈ values) (hnodup : (values.map name).Nodup) :
    variantNamed values name (name state).toList = .ok state := by
  have hfind : (values.find? fun value => (name value).toList == (name state).toList) =
      some state := by
    induction values with
    | nil => cases hmem
    | cons value values ih =>
      rw [List.map_cons, List.nodup_cons] at hnodup
      by_cases heq : (name value).toList = (name state).toList
      · rw [List.find?_cons_of_pos (by rw [heq, beq_self_eq_true])]
        rcases List.mem_cons.1 hmem with rfl | hmem
        · rfl
        · have hname : name value = name state := String.toList_inj.1 heq
          rw [hname] at hnodup
          exact (hnodup.1 (List.mem_map_of_mem hmem)).elim
      · rcases List.mem_cons.1 hmem with rfl | hmem
        · exact (heq rfl).elim
        · rw [List.find?_cons_of_neg (by rw [beq_iff_eq]; exact heq)]
          exact ih hmem hnodup.2
  simp only [variantNamed, hfind]

variable [Storable S]

theorem writeState_eq_error {state : S} {reason : String} :
    writeState state = .error reason ↔ StoredForm.Refuses Storable.form state reason := by
  unfold writeState
  cases (Storable.form : StoredForm S) with
  | text write read =>
    simp only [StoredForm.Refuses]
    cases write state with
    | error e => simp [Except.map]
    | ok text => simp [Except.map]
  | variants values name index => simp [StoredForm.Refuses]

/-- A state is written as a string, and that string is read as the same state. -/
theorem exists_readState_of_writeState [LawfulStorable S] {state : S} {written : List Char}
    (h : writeState state = .ok written) :
    ∃ text, written = quote text ∧
      ∀ rest, readState (.string (some text) :: rest) = .ok (state, rest) := by
  have hlawful := LawfulStorable.lawful (S := S)
  unfold writeState at h
  unfold readState
  cases hform : (Storable.form : StoredForm S) with
  | text write read =>
    rw [hform] at h hlawful
    simp only at h ⊢
    cases hw : write state with
    | error e =>
      rw [hw] at h
      cases h
    | ok text =>
      rw [hw] at h
      cases h
      refine ⟨text.toList, rfl, fun rest => ?_⟩
      simp only [readString, String.ofList_toList, hlawful state text hw]
  | variants values name index =>
    rw [hform] at h hlawful
    cases h
    have hmem := List.mem_of_getElem? (hlawful.1 state)
    refine ⟨(name state).toList, rfl, fun rest => ?_⟩
    simp only [readVariant, variantNamed_name hmem hlawful.2.1]

end Json

namespace Checkpoint

/-- The checkpoint with its timestamp as it is read from text. -/
def carried (checkpoint : Checkpoint S) : Checkpoint S :=
  { checkpoint with timestamp := checkpoint.timestamp.carried }

theorem carried_eq_self_iff {checkpoint : Checkpoint S} :
    checkpoint.carried = checkpoint ↔ checkpoint.timestamp.LeapsAtEnd := by
  rw [← Timestamp.carried_eq_self_iff]
  cases checkpoint
  simp [carried]

theorem eq_ok_iff_leapsAtEnd {ε : Type} {checkpoint : Checkpoint S}
    {result : Except ε (Checkpoint S)} (h : result = .ok checkpoint.carried) :
    result = .ok checkpoint ↔ checkpoint.timestamp.LeapsAtEnd := by
  rw [h, Except.ok.injEq, carried_eq_self_iff]

theorem Field.ofKey?_key (field : Field) : ofKey? field.key.toList = some field := by
  cases field <;> decide

def memberTokens (field : Field) (value : Json.Token) (rest : List Json.Token) :
    List Json.Token :=
  .string (some field.key.toList) :: .colon :: value :: rest

theorem tokens_writeMember {value rest behind : List Char} {token : Json.Token} (field : Field)
    (h : Json.tokens (value ++ rest) = token :: Json.tokens behind) :
    Json.tokens (Json.writeMember field value ++ rest) =
      memberTokens field token (Json.tokens behind) := by
  rw [Json.writeMember, List.append_assoc, Json.tokens_quote, List.cons_append, Json.tokens_colon,
    h, memberTokens]

def jsonTokens (checkpoint : Checkpoint S) (state : List Char) : List Json.Token :=
  .openBrace :: memberTokens .version (.number (.ofNat checkpoint.version.toNat))
    (.comma :: memberTokens .id (.string (some checkpoint.id.toList))
      (.comma :: memberTokens .timestamp (.string (some checkpoint.timestamp.write))
        (.comma :: memberTokens .state (.string (some state)) [.closeBrace])))

theorem tokens_writeJson (checkpoint : Checkpoint S) (state : List Char) :
    Json.tokens (checkpoint.writeJson (Json.quote state)) = checkpoint.jsonTokens state := by
  have hcomma : Json.EndsNumber ',' := by decide
  simp only [writeJson, List.cons_append, List.append_assoc, Json.tokens_openBrace,
    tokens_writeMember .version (Json.tokens_toDigits _ hcomma _),
    tokens_writeMember .id (Json.tokens_quote _ _),
    tokens_writeMember .timestamp (Json.tokens_quote _ _),
    tokens_writeMember .state (Json.tokens_quote _ _),
    Json.tokens_comma, Json.tokens_closeBrace, Json.tokens_nil, jsonTokens]

variable [Storable S]

theorem readMember_key {parts : Parts S} {field : Field} (h : parts.has field = false)
    (tokens : List Json.Token) :
    readMember parts (.string (some field.key.toList) :: .colon :: tokens) =
      readPart parts field tokens := by
  simp only [readMember, Field.ofKey?_key, h]
  rfl

theorem readMember_memberTokens {parts : Parts S} {field : Field} (h : parts.has field = false)
    (value : Json.Token) (rest : List Json.Token) :
    readMember parts (memberTokens field value rest) = readPart parts field (value :: rest) :=
  readMember_key h (value :: rest)

theorem readObject_memberTokens (field : Field) (value : Json.Token) (rest : List Json.Token) :
    readObject (S := S) (memberTokens field value rest) =
      readMembers .none (memberTokens field value rest) := by
  simp only [memberTokens, readObject]

theorem readMembers_of_comma {parts parts' : Parts S} {tokens rest : List Json.Token}
    (h : readMember parts tokens = .ok (parts', .comma :: rest)) :
    readMembers parts tokens = readMembers parts' rest := by
  rw [readMembers]
  split
  · next he =>
    rw [h] at he
    cases he
  · next he =>
    rw [h] at he
    cases he
    rfl
  · next he =>
    rw [h] at he
    cases he
  · next hcomma _ he =>
    rw [h] at he
    cases he
    exact (hcomma _ _ rfl).elim

theorem readMembers_of_closeBrace {parts parts' : Parts S} {tokens rest : List Json.Token}
    (h : readMember parts tokens = .ok (parts', .closeBrace :: rest)) :
    readMembers parts tokens = parts'.complete.map fun checkpoint => (checkpoint, rest) := by
  rw [readMembers]
  split
  · next he =>
    rw [h] at he
    cases he
  · next he =>
    rw [h] at he
    cases he
  · next he =>
    rw [h] at he
    cases he
    rfl
  · next _ hclose he =>
    rw [h] at he
    cases he
    exact (hclose _ _ rfl).elim

theorem ofTokens_jsonTokens {checkpoint : Checkpoint S} {state : List Char}
    (hstate : ∀ rest,
      Json.readState (.string (some state) :: rest) = .ok (checkpoint.state, rest)) :
    ofTokens (checkpoint.jsonTokens state) = .ok checkpoint.carried := by
  obtain ⟨version, id, timestamp, current⟩ := checkpoint
  have hversion : ∀ rest, readMember (S := S) ⟨none, none, none, none⟩
      (memberTokens .version (.number (.ofNat version.toNat)) rest) =
        .ok (⟨some version, none, none, none⟩, rest) := by
    intro rest
    rw [readMember_memberTokens rfl, readPart, Json.readWord_ofNat]
    rfl
  have hid : ∀ rest, readMember (S := S) ⟨some version, none, none, none⟩
      (memberTokens .id (.string (some id.toList)) rest) =
        .ok (⟨some version, some id, none, none⟩, rest) := by
    intro rest
    rw [readMember_memberTokens rfl, readPart, Json.readString]
    simp only [Except.map, String.ofList_toList]
  have htimestamp : ∀ rest, readMember (S := S) ⟨some version, some id, none, none⟩
      (memberTokens .timestamp (.string (some timestamp.write)) rest) =
        .ok (⟨some version, some id, some timestamp.carried, none⟩, rest) := by
    intro rest
    rw [readMember_memberTokens rfl, readPart, Json.readTimestamp_write]
    rfl
  have hlast : ∀ rest, readMember ⟨some version, some id, some timestamp.carried, none⟩
      (memberTokens .state (.string (some state)) rest) =
        .ok (⟨some version, some id, some timestamp.carried, some current⟩, rest) := by
    intro rest
    rw [readMember_memberTokens rfl, readPart, hstate]
    rfl
  simp only [ofTokens, jsonTokens, readObject_memberTokens, Parts.none]
  rw [readMembers_of_comma (hversion _), readMembers_of_comma (hid _),
    readMembers_of_comma (htimestamp _), readMembers_of_closeBrace (hlast _)]
  rfl

theorem toJson_eq_ok_iff (checkpoint : Checkpoint S) (text : String) :
    checkpoint.toJson = .ok text ↔ ∃ written,
      Json.writeState checkpoint.state = .ok written ∧
        text = String.ofList (checkpoint.writeJson written) := by
  unfold toJson
  cases Json.writeState checkpoint.state with
  | error reason => simp
  | ok written => simp [eq_comm]

theorem toJson_eq_error_iff (checkpoint : Checkpoint S) (error : CheckpointError S) :
    checkpoint.toJson = .error error ↔
      ∃ reason, StoredForm.Refuses Storable.form checkpoint.state reason ∧
        error = .notWritten reason := by
  simp only [← Json.writeState_eq_error]
  unfold toJson
  cases Json.writeState checkpoint.state with
  | error reason => simp [eq_comm]
  | ok written => simp

variable [LawfulStorable S]

theorem readJson_writeJson {checkpoint : Checkpoint S} {written : List Char}
    (h : Json.writeState checkpoint.state = .ok written) :
    readJson (checkpoint.writeJson written) = .ok checkpoint.carried := by
  obtain ⟨state, rfl, hstate⟩ := Json.exists_readState_of_writeState h
  rw [readJson, tokens_writeJson]
  exact ofTokens_jsonTokens hstate

theorem ofJson_of_toJson {checkpoint : Checkpoint S} {text : String}
    (h : checkpoint.toJson = .ok text) : ofJson text = .ok checkpoint.carried := by
  obtain ⟨written, hwritten, rfl⟩ := (checkpoint.toJson_eq_ok_iff text).1 h
  rw [ofJson, String.toList_ofList, readJson_writeJson hwritten]
  rfl

/-- A checkpoint that is written as JSON text is read back from it, just as it was if its timestamp
leaps at the end of a minute or not at all, and one that is not written has a state that refuses. -/
theorem ofJson_toJson (checkpoint : Checkpoint S) :
    (∀ text, checkpoint.toJson = .ok text →
      ofJson text = .ok checkpoint.carried ∧
      (ofJson text = .ok checkpoint ↔ checkpoint.timestamp.LeapsAtEnd)) ∧
      ∀ error, checkpoint.toJson = .error error ↔
        ∃ reason, StoredForm.Refuses Storable.form checkpoint.state reason ∧
          error = .notWritten reason := by
  refine ⟨?_, toJson_eq_error_iff checkpoint⟩
  intro text h
  have hread := ofJson_of_toJson h
  exact ⟨hread, eq_ok_iff_leapsAtEnd hread⟩

open Scenario in
/-- A checkpoint of a leap second before year 0, under an identifier with escapes. -/
def leapCheckpoint : Checkpoint Door where
  version := 4294967295
  id := "a\"b\\c\x0b\n😀"
  timestamp := ⟨-450000000001, 1000000001, by decide, by decide, by decide⟩
  state := .locked

def leapText : String :=
  "\x7b\"version\":4294967295,\"id\":\"a\\\"b\\\\c\\u000b\\n😀\"," ++
    "\"timestamp\":\"-12290-01-25T15:59:60.000000001Z\",\"state\":\"Locked\"\x7d"

theorem ofJson_leapText :
    leapCheckpoint.toJson = .ok leapText ∧ ofJson leapText = .ok leapCheckpoint := by
  have hwritten : leapCheckpoint.toJson = .ok leapText := by cbv
  exact ⟨hwritten, ((ofJson_toJson leapCheckpoint).1 leapText hwritten).2.2 (by decide)⟩

/-- A checkpoint that leaps 55 seconds before the end of a minute. -/
def earlyLeap : Checkpoint (Scenario.Label .exact) where
  version := 1
  id := "k"
  timestamp := ⟨86164, 1333333333, by decide, by decide, by decide⟩
  state := ⟨"a"⟩

def earlyLeapText : String :=
  "\x7b\"version\":1,\"id\":\"k\",\"timestamp\":\"1970-01-01T23:56:05.333333333Z\"," ++
    "\"state\":\"a\"\x7d"

theorem not_leapsAtEnd_earlyLeap : ¬earlyLeap.timestamp.LeapsAtEnd := by decide

theorem ofJson_earlyLeapText :
    earlyLeap.toJson = .ok earlyLeapText ∧ ofJson earlyLeapText ≠ .ok earlyLeap := by
  have hwritten : earlyLeap.toJson = .ok earlyLeapText := by cbv
  have hread := eq_ok_iff_leapsAtEnd (ofJson_of_toJson hwritten)
  exact ⟨hwritten, fun h => not_leapsAtEnd_earlyLeap (hread.1 h)⟩

end Checkpoint

end StateMachine
