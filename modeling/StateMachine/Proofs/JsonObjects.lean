import StateMachine.Proofs.JsonRoundTrip
import StateMachine.Proofs.JsonSyntax

namespace StateMachine

variable {S : Type}

/-- The tokens that a stored form takes for a state: its text, the name of its variant, or a map
from this name to `null`. -/
inductive StoredForm.SpelledBy : StoredForm S → S → List Json.Token → Prop where
  | text {write : S → Except String String} {read : String → S} (text : List Char) :
    SpelledBy (.text write read) (read (String.ofList text)) [.string (some text)]
  | name {values : List S} {name : S → String} {index : S → Nat} {state : S}
      (listed : state ∈ values) :
    SpelledBy (.variants values name index) state [.string (some (name state).toList)]
  | map {values : List S} {name : S → String} {index : S → Nat} {state : S}
      (listed : state ∈ values) :
    SpelledBy (.variants values name index) state
      [.openBrace, .string (some (name state).toList), .colon, .null, .closeBrace]

theorem StoredForm.SpelledBy.separate {form : StoredForm S} {state : S} {tokens : List Json.Token}
    (h : form.SpelledBy state tokens) : Json.Separate tokens := by
  cases h with
  | text | name => exact .singleton _
  | map => exact .cons rfl (.cons rfl (.cons rfl (.cons rfl (.singleton _))))

namespace Checkpoint

def Field.inOrder : List Field := [.version, .id, .timestamp, .state]

inductive Member (S : Type) where
  | version (value : UInt32)
  | id (value : String)
  | timestamp (value : Timestamp)
  | state (value : S)
  | other

namespace Member

def field? : Member S → Option Field
  | version _ => some .version
  | id _ => some .id
  | timestamp _ => some .timestamp
  | state _ => some .state
  | other => none

def fields (members : List (Member S)) : List Field := members.filterMap field?

/-- The tokens of a member. A version is written in decimal digits, a timestamp as any text that is
read as such, and the value under another key is any value. -/
inductive SpelledBy [Storable S] : Member S → List Json.Token → Prop where
  | version (value : UInt32) :
    SpelledBy (.version value)
      [.string (some Field.version.key.toList), .colon, .number (.ofNat value.toNat)]
  | id (value : String) :
    SpelledBy (.id value)
      [.string (some Field.id.key.toList), .colon, .string (some value.toList)]
  | timestamp {text : List Char} {value : Timestamp} (read : Timestamp.read? text = some value) :
    SpelledBy (.timestamp value)
      [.string (some Field.timestamp.key.toList), .colon, .string (some text)]
  | state {value : S} {tokens : List Json.Token}
      (spelled : (Storable.form : StoredForm S).SpelledBy value tokens) :
    SpelledBy (.state value) (.string (some Field.state.key.toList) :: .colon :: tokens)
  | other {key : List Char} {tokens : List Json.Token}
      (foreign : ∀ field : Field, key ≠ field.key.toList) (value : Json.Phrase .value tokens) :
    SpelledBy .other (.string (some key) :: .colon :: tokens)

/-- The tokens of at least one member and of the brace behind the last. -/
inductive Run [Storable S] : List (Member S) → List Json.Token → Prop where
  | last {member : Member S} {tokens : List Json.Token} (spelled : member.SpelledBy tokens) :
    Run [member] (tokens ++ [.closeBrace])
  | cons {member : Member S} {members : List (Member S)} {tokens rest : List Json.Token}
      (spelled : member.SpelledBy tokens) (later : Run members rest) :
    Run (member :: members) (tokens ++ .comma :: rest)

inductive Object [Storable S] : List (Member S) → List Json.Token → Prop where
  | empty : Object [] [.openBrace, .closeBrace]
  | run {members : List (Member S)} {tokens : List Json.Token} (inner : Run members tokens) :
    Object members (.openBrace :: tokens)

/-- What an object with the given members is read as. A part given twice is reported where it is
given again for the first time, and only then a part that is not given, in the order of parts. -/
inductive Outcome (members : List (Member S)) : Except DecodeError (Checkpoint S) → Prop where
  | repeated {earlier later : List (Member S)} {member : Member S} {field : Field}
      (split : members = earlier ++ member :: later) (gives : member.field? = some field)
      (distinct : (fields earlier).Nodup) (again : field ∈ fields earlier) :
    Outcome members (.error (.duplicateField field))
  | missing {field : Field} (distinct : (fields members).Nodup)
      (first : Field.inOrder.find? (fun field => field ∉ fields members) = some field) :
    Outcome members (.error (.missingField field))
  | complete {checkpoint : Checkpoint S} (distinct : (fields members).Nodup)
      (version : .version checkpoint.version ∈ members) (id : .id checkpoint.id ∈ members)
      (timestamp : .timestamp checkpoint.timestamp ∈ members)
      (state : .state checkpoint.state ∈ members) :
    Outcome members (.ok checkpoint)

theorem fields_append (earlier later : List (Member S)) :
    fields (earlier ++ later) = fields earlier ++ fields later :=
  List.filterMap_append

theorem mem_fields {members : List (Member S)} {field : Field} :
    field ∈ fields members ↔ ∃ member ∈ members, member.field? = some field :=
  List.mem_filterMap

theorem exists_first_repeated {members : List (Member S)} (h : ¬(fields members).Nodup) :
    ∃ earlier member later field, members = earlier ++ member :: later ∧
      member.field? = some field ∧ (fields earlier).Nodup ∧ field ∈ fields earlier := by
  induction members using List.reverseRecOn with
  | nil => exact (h List.nodup_nil).elim
  | append_singleton members last ih =>
    by_cases hd : (fields members).Nodup
    · cases hf : last.field? with
      | none =>
        have hlast : fields [last] = [] := by simp [fields, hf]
        rw [fields_append, hlast, List.append_nil] at h
        exact (h hd).elim
      | some field =>
        have hlast : fields [last] = [field] := by simp [fields, hf]
        refine ⟨members, last, [], field, rfl, hf, hd, ?_⟩
        by_contra hnew
        rw [fields_append, hlast] at h
        refine h (List.nodup_append.2 ⟨hd, List.pairwise_singleton _ field, ?_⟩)
        rintro given hgiven again hagain rfl
        exact hnew (List.mem_singleton.1 hagain ▸ hgiven)
    · obtain ⟨earlier, member, later, field, rfl, hrest⟩ := ih hd
      exact ⟨earlier, member, later ++ [last], field, by simp, hrest⟩

theorem exists_outcome (members : List (Member S)) : ∃ outcome, Outcome members outcome := by
  by_cases hdistinct : (fields members).Nodup
  · cases hfirst : Field.inOrder.find? fun field => field ∉ fields members with
    | some field => exact ⟨_, .missing hdistinct hfirst⟩
    | none =>
      have hgiven : ∀ field : Field, ∃ member ∈ members, field? member = some field := by
        intro field
        have hno := List.find?_eq_none.1 hfirst field (by cases field <;> decide)
        rw [decide_eq_true_eq, not_not] at hno
        exact mem_fields.1 hno
      obtain ⟨version, hversion, hv⟩ := hgiven .version
      obtain ⟨id, hid, hi⟩ := hgiven .id
      obtain ⟨timestamp, htimestamp, ht⟩ := hgiven .timestamp
      obtain ⟨state, hstate, hs⟩ := hgiven .state
      cases version <;> cases hv
      cases id <;> cases hi
      cases timestamp <;> cases ht
      cases state <;> cases hs
      have hcomplete : Outcome members (.ok ⟨_, _, _, _⟩) :=
        .complete hdistinct hversion hid htimestamp hstate
      exact ⟨_, hcomplete⟩
  · obtain ⟨earlier, member, later, field, hsplit, hgives, hd, hagain⟩ :=
      exists_first_repeated hdistinct
    exact ⟨_, .repeated hsplit hgives hd hagain⟩

end Member

namespace Parts

def add (parts : Parts S) : Member S → Parts S
  | .version value => { parts with version := some value }
  | .id value => { parts with id := some value }
  | .timestamp value => { parts with timestamp := some value }
  | .state value => { parts with state := some value }
  | .other => parts

theorem has_none (field : Field) : (none : Parts S).has field = false := by
  cases field <;> rfl

theorem has_add (parts : Parts S) (member : Member S) (field : Field) :
    (parts.add member).has field = (parts.has field || member.field? == some field) := by
  cases member <;> cases field <;> simp [add, has, Member.field?]

theorem add_self (parts : Parts S) (member : Member S) :
    (parts.add member).add member = parts.add member := by
  cases member <;> rfl

theorem add_comm (parts : Parts S) {first second : Member S}
    (h : ∀ field, first.field? = some field → second.field? ≠ some field) :
    (parts.add first).add second = (parts.add second).add first := by
  cases first <;> cases second <;> first | rfl | exact (h _ rfl rfl).elim

theorem has_foldl_add {parts : Parts S} {members : List (Member S)} {field : Field} :
    (members.foldl add parts).has field = true ↔
      parts.has field = true ∨ field ∈ Member.fields members := by
  induction members generalizing parts with
  | nil => simp [Member.fields]
  | cons member rest ih =>
    rw [List.foldl_cons, ih, has_add, Bool.or_eq_true, or_assoc, beq_iff_eq]
    cases hf : member.field? with
    | none => simp [Member.fields, hf]
    | some given =>
      have hfields : Member.fields (member :: rest) = given :: Member.fields rest :=
        List.filterMap_cons_some hf
      rw [hfields, List.mem_cons, Option.some.injEq, @eq_comm _ given field]

theorem foldl_add_comm {members : List (Member S)} {member : Member S}
    (h : ∀ field, member.field? = some field → field ∉ Member.fields members) (parts : Parts S) :
    (members.foldl add parts).add member = members.foldl add (parts.add member) := by
  induction members generalizing parts with
  | nil => rfl
  | cons next rest ih =>
    have hnext : ∀ field, member.field? = some field → next.field? ≠ some field := by
      intro field hfield hgives
      exact h field hfield (Member.mem_fields.2 ⟨next, List.mem_cons_self, hgives⟩)
    have hrest : ∀ field, member.field? = some field → field ∉ Member.fields rest := by
      intro field hfield hmem
      obtain ⟨later, hlater, hgives⟩ := Member.mem_fields.1 hmem
      exact h field hfield (Member.mem_fields.2 ⟨later, List.mem_cons_of_mem _ hlater, hgives⟩)
    rw [List.foldl_cons, List.foldl_cons, ih hrest, add_comm parts hnext]

theorem foldl_add_of_mem {members : List (Member S)} (hdistinct : (Member.fields members).Nodup)
    {member : Member S} (hmem : member ∈ members) (parts : Parts S) :
    (members.foldl add parts).add member = members.foldl add parts := by
  induction members generalizing parts with
  | nil => cases hmem
  | cons next rest ih =>
    rw [List.foldl_cons]
    rcases List.mem_cons.1 hmem with rfl | hmem
    · rw [foldl_add_comm, add_self]
      intro field hfield
      rw [Member.fields, List.filterMap_cons_some hfield] at hdistinct
      exact (List.nodup_cons.1 hdistinct).1
    · apply ih _ hmem
      exact hdistinct.sublist ((List.sublist_cons_self next rest).filterMap _)

/-- Whether members can be added one after the other without giving a part again. -/
def Admits (parts : Parts S) : List (Member S) → Prop
  | [] => True
  | member :: rest =>
    (∀ field, member.field? = some field → parts.has field = false) ∧ (parts.add member).Admits rest

theorem admits_of_nodup {parts : Parts S} {members : List (Member S)}
    (hdistinct : (Member.fields members).Nodup)
    (hnew : ∀ field ∈ Member.fields members, parts.has field = false) : parts.Admits members := by
  induction members generalizing parts with
  | nil => trivial
  | cons member rest ih =>
    have hrest := hdistinct.sublist ((List.sublist_cons_self member rest).filterMap _)
    refine ⟨fun field hf => hnew field (Member.mem_fields.2 ⟨member, List.mem_cons_self, hf⟩), ?_⟩
    refine ih hrest fun field hmem => ?_
    rw [has_add, hnew field, Bool.false_or]
    · rw [beq_eq_false_iff_ne]
      intro hf
      rw [Member.fields, List.filterMap_cons_some hf] at hdistinct
      exact (List.nodup_cons.1 hdistinct).1 hmem
    · exact ((List.sublist_cons_self member rest).filterMap _).subset hmem

theorem admits_none {members : List (Member S)} (h : (Member.fields members).Nodup) :
    none.Admits members :=
  admits_of_nodup h fun field _ => has_none field

theorem complete_of_missing {parts : Parts S} {field : Field}
    (h : Field.inOrder.find? (fun field => !parts.has field) = some field) :
    parts.complete = .error (.missingField field) := by
  obtain ⟨version, id, timestamp, state⟩ := parts
  cases version with
  | none => cases h; rfl
  | some version =>
    cases id with
    | none => cases h; rfl
    | some id =>
      cases timestamp with
      | none => cases h; rfl
      | some timestamp =>
        cases state with
        | none => cases h; rfl
        | some state => cases h

theorem complete_of_members {parts : Parts S} {checkpoint : Checkpoint S}
    (version : parts.add (.version checkpoint.version) = parts)
    (id : parts.add (.id checkpoint.id) = parts)
    (timestamp : parts.add (.timestamp checkpoint.timestamp) = parts)
    (state : parts.add (.state checkpoint.state) = parts) :
    parts.complete = .ok checkpoint := by
  rw [← version, ← id, ← timestamp, ← state]
  rfl

end Parts

section Reading

variable [Storable S] {parts : Parts S} {member : Member S} {members : List (Member S)}
  {tokens rest : List Json.Token}

theorem Field.ofKey?_eq_none {key : List Char} (h : ∀ field : Field, key ≠ field.key.toList) :
    ofKey? key = none := by
  have hversion : key ≠ "version".toList := h .version
  have hid : key ≠ "id".toList := h .id
  have htimestamp : key ≠ "timestamp".toList := h .timestamp
  have hstate : key ≠ "state".toList := h .state
  rw [ofKey?, if_neg hversion, if_neg hid, if_neg htimestamp, if_neg hstate]

theorem Member.SpelledBy.separate (h : member.SpelledBy tokens) : Json.Separate tokens := by
  cases h with
  | version | id | timestamp => exact .cons rfl (.cons rfl (.singleton _))
  | state spelled => exact .cons rfl (.cons rfl spelled.separate)
  | other _ value => exact .cons rfl (.cons rfl value.separate)

theorem Member.Run.separate (h : Member.Run members tokens) : Json.Separate tokens := by
  induction h with
  | last spelled => exact spelled.separate.append_cons rfl .nil
  | cons spelled _ ih => exact spelled.separate.append_cons rfl ih

theorem Member.Object.separate (h : Member.Object members tokens) : Json.Separate tokens := by
  cases h with
  | empty => exact .cons rfl (.singleton _)
  | run inner => exact .cons rfl inner.separate

theorem Member.SpelledBy.exists_cons (h : member.SpelledBy tokens) :
    ∃ key tail, tokens = .string (some key) :: .colon :: tail ∧
      ∀ field, member.field? = some field → key = field.key.toList := by
  cases h with
  | other => exact ⟨_, _, rfl, nofun⟩
  | _ =>
    refine ⟨_, _, rfl, ?_⟩
    rintro _ ⟨⟩
    rfl

theorem readMember_of_repeated {field : Field} (h : member.SpelledBy tokens)
    (hgives : member.field? = some field) (hhas : parts.has field = true)
    (rest : List Json.Token) :
    readMember parts (tokens ++ rest) = .error (.duplicateField field) := by
  obtain ⟨key, tail, rfl, hkey⟩ := h.exists_cons
  obtain rfl := hkey field hgives
  simp only [List.cons_append, readMember, Field.ofKey?_key, hhas, if_true]

variable [LawfulStorable S]

theorem readState_of_spelledBy {state : S}
    (h : (Storable.form : StoredForm S).SpelledBy state tokens) (rest : List Json.Token) :
    Json.readState (tokens ++ rest) = .ok (state, rest) := by
  have hlawful := LawfulStorable.lawful (S := S)
  unfold Json.readState
  generalize (Storable.form : StoredForm S) = form at h hlawful ⊢
  cases h with
  | text text => rfl
  | name listed =>
    simp only [List.cons_append, List.nil_append, Json.readVariant,
      Json.variantNamed_name listed hlawful.2.1]
  | map listed =>
    simp only [List.cons_append, List.nil_append, Json.readVariant,
      Json.variantNamed_name listed hlawful.2.1, Json.readUnitMember]

theorem readMember_of_spelledBy (h : member.SpelledBy tokens)
    (hnew : ∀ field, member.field? = some field → parts.has field = false)
    (rest : List Json.Token) :
    readMember parts (tokens ++ rest) = .ok (parts.add member, rest) := by
  cases h with
  | version value =>
    refine (readMember_key (hnew _ rfl) (.number (.ofNat value.toNat) :: rest)).trans ?_
    rw [readPart, Json.readWord_ofNat]
    rfl
  | id value =>
    refine (readMember_key (hnew _ rfl) (.string (some value.toList) :: rest)).trans ?_
    simp only [readPart, Json.readString, Except.map, String.ofList_toList, Parts.add]
  | @timestamp text value read =>
    refine (readMember_key (hnew _ rfl) (.string (some text) :: rest)).trans ?_
    simp only [readPart, Json.readTimestamp, Json.readString, read, Except.map, Parts.add]
  | @state value tokens spelled =>
    refine (readMember_key (hnew _ rfl) (tokens ++ rest)).trans ?_
    rw [readPart, readState_of_spelledBy spelled]
    rfl
  | other foreign value =>
    simp only [List.cons_append, readMember, Field.ofKey?_eq_none foreign,
      Json.skip_of_phrase value]
    rfl

theorem readMembers_of_admits (h : Member.Run members tokens) (hadmits : parts.Admits members)
    (rest : List Json.Token) :
    readMembers parts (tokens ++ rest) =
      (members.foldl Parts.add parts).complete.map fun checkpoint => (checkpoint, rest) := by
  induction h generalizing parts with
  | last spelled =>
    rw [List.append_assoc]
    exact readMembers_of_closeBrace (readMember_of_spelledBy spelled hadmits.1 _)
  | cons spelled _ ih =>
    rw [List.append_assoc]
    exact (readMembers_of_comma (readMember_of_spelledBy spelled hadmits.1 _)).trans (ih hadmits.2)

omit [LawfulStorable S] in
theorem readMembers_of_error {e : DecodeError} (h : readMember parts tokens = .error e) :
    readMembers parts tokens = .error e := by
  rw [readMembers]
  split <;> rename_i he <;> rw [h] at he <;> cases he
  rfl

/-- Members are read up to the first that gives a part again. -/
theorem readMembers_of_repeated {earlier later : List (Member S)} {field : Field}
    (h : Member.Run (earlier ++ member :: later) tokens) (hadmits : parts.Admits earlier)
    (hgives : member.field? = some field)
    (hhas : (earlier.foldl Parts.add parts).has field = true) (rest : List Json.Token) :
    readMembers parts (tokens ++ rest) = .error (.duplicateField field) := by
  induction earlier generalizing parts tokens with
  | nil =>
    cases h with
    | last spelled =>
      rw [List.append_assoc]
      exact readMembers_of_error (readMember_of_repeated spelled hgives hhas _)
    | cons spelled =>
      rw [List.append_assoc]
      exact readMembers_of_error (readMember_of_repeated spelled hgives hhas _)
  | cons next earlier ih =>
    generalize hmembers : next :: earlier ++ member :: later = members at h
    cases h with
    | last => simp at hmembers
    | cons spelled run =>
      obtain ⟨rfl, rfl⟩ := List.cons.inj hmembers
      rw [List.append_assoc]
      refine (readMembers_of_comma (readMember_of_spelledBy spelled hadmits.1 _)).trans ?_
      exact ih run hadmits.2 hhas

omit [LawfulStorable S] in
theorem readObject_of_run (h : Member.Run members tokens) (rest : List Json.Token) :
    readObject (S := S) (tokens ++ rest) = readMembers .none (tokens ++ rest) := by
  cases h with
  | last spelled | cons spelled =>
    obtain ⟨key, tail, rfl, -⟩ := spelled.exists_cons
    simp only [List.cons_append, readObject]

theorem readObject_of_nodup (h : Member.Object members (.openBrace :: tokens))
    (hdistinct : (Member.fields members).Nodup) (rest : List Json.Token) :
    readObject (tokens ++ rest) =
      (members.foldl Parts.add Parts.none).complete.map fun checkpoint => (checkpoint, rest) := by
  cases h with
  | empty => rfl
  | run inner =>
    rw [readObject_of_run inner]
    exact readMembers_of_admits inner (Parts.admits_none hdistinct) rest

theorem readObject_of_outcome {outcome : Except DecodeError (Checkpoint S)}
    (h : Member.Object members (.openBrace :: tokens)) (ho : Member.Outcome members outcome)
    (rest : List Json.Token) :
    readObject (tokens ++ rest) = outcome.map fun checkpoint => (checkpoint, rest) := by
  cases ho with
  | repeated split gives distinct again =>
    cases h with
    | empty => simp at split
    | run inner =>
      subst split
      rw [readObject_of_run inner]
      exact readMembers_of_repeated inner (Parts.admits_none distinct) gives
        (Parts.has_foldl_add.2 (.inr again)) rest
  | missing distinct first =>
    have hmissing : ∀ field, (!(members.foldl Parts.add Parts.none).has field) =
        decide (field ∉ Member.fields members) := by
      intro field
      rw [Bool.eq_iff_iff, Bool.not_eq_true', ← Bool.not_eq_true, Parts.has_foldl_add,
        Parts.has_none, decide_eq_true_eq]
      simp
    simp only [← hmissing] at first
    rw [readObject_of_nodup h distinct, Parts.complete_of_missing first]
  | complete distinct version id timestamp state =>
    rw [readObject_of_nodup h distinct, Parts.complete_of_members
      (Parts.foldl_add_of_mem distinct version _) (Parts.foldl_add_of_mem distinct id _)
      (Parts.foldl_add_of_mem distinct timestamp _) (Parts.foldl_add_of_mem distinct state _)]

theorem ofTokens_append_of_outcome {outcome : Except DecodeError (Checkpoint S)}
    (h : Member.Object members tokens) (ho : Member.Outcome members outcome)
    (rest : List Json.Token) :
    ofTokens (tokens ++ rest) =
      outcome.bind fun checkpoint => if rest.isEmpty then .ok checkpoint else .error .malformed := by
  have hbrace : ∃ inner, tokens = .openBrace :: inner := by
    cases h with
    | empty | run => exact ⟨_, rfl⟩
  obtain ⟨inner, rfl⟩ := hbrace
  simp only [ofTokens, List.cons_append, readObject_of_outcome h ho rest]
  cases outcome <;> rfl

theorem ofTokens_of_outcome {outcome : Except DecodeError (Checkpoint S)}
    (h : Member.Object members tokens) (ho : Member.Outcome members outcome) :
    ofTokens tokens = outcome := by
  have hread := ofTokens_append_of_outcome h ho []
  rw [List.append_nil] at hread
  rw [hread]
  cases outcome <;> rfl

/-- A JSON object is read as its members say, however it is laid out. A part given twice is reported
by its key, and so is a part not given. -/
theorem ofJson_object {text : String} (hobject : Member.Object members tokens)
    (htext : Json.Spells text.toList tokens) :
    (∀ outcome : Except DecodeError (Checkpoint S),
      ofJson text = outcome.mapError .notRead ↔ Member.Outcome members outcome) ∧
    ∀ field : Field,
      (DecodeError.duplicateField field).message? = some s!"duplicate field `{field.key}`" ∧
        (DecodeError.missingField field).message? = some s!"missing field `{field.key}`" := by
  have htokens := Json.tokens_of_spells htext hobject.separate
  have hread : ∀ {outcome : Except DecodeError (Checkpoint S)}, Member.Outcome members outcome →
      ofJson text = outcome.mapError .notRead := by
    intro outcome ho
    rw [ofJson, readJson, htokens, ofTokens_of_outcome hobject ho]
  refine ⟨fun outcome => ⟨fun h => ?_, hread⟩, fun _ => ⟨rfl, rfl⟩⟩
  obtain ⟨actual, hactual⟩ := Member.exists_outcome members
  have hsame : outcome = actual := by
    rw [hread hactual] at h
    cases outcome <;> cases actual <;> cases h <;> rfl
  rw [hsame]
  exact hactual

open Scenario in
def looseCheckpoint : Checkpoint Door where
  version := 7
  id := "a"
  timestamp := ⟨1, 500000000, by decide, by decide, by decide⟩
  state := .locked

open Scenario in
def looseMembers : List (Member Door) :=
  [.state looseCheckpoint.state, .other, .id looseCheckpoint.id,
    .timestamp looseCheckpoint.timestamp, .version looseCheckpoint.version]

def looseTokens : List Json.Token :=
  [.openBrace, .string (some "state".toList), .colon, .openBrace, .string (some "Locked".toList),
    .colon, .null, .closeBrace, .comma, .string (some "note".toList), .colon, .openBracket,
    .openBrace, .closeBrace, .closeBracket, .comma, .string (some "id".toList), .colon,
    .string (some "a".toList), .comma, .string (some "timestamp".toList), .colon,
    .string (some "1970-01-01T00:00:01.5Z".toList), .comma, .string (some "version".toList), .colon,
    .number (.ofNat 7), .closeBrace]

def looseText : String :=
  " \x7b\"state\":\x7b\"Locked\":null\x7d,\n\"note\":[\x7b\x7d],\"id\":\"\\u0061\"," ++
    "\"timestamp\":\"1970-01-01T00:00:01.5Z\",\"version\":7\x7d"

theorem object_looseTokens : Member.Object looseMembers looseTokens := by
  have hstate : Member.SpelledBy (.state looseCheckpoint.state) _ := .state (.map (by decide))
  have hother : Member.SpelledBy (S := Scenario.Door) .other _ :=
    .other (fun field => show "note".toList ≠ field.key.toList by cases field <;> decide)
      (.sequence (.lastElement .emptyMap))
  have hid : Member.SpelledBy (S := Scenario.Door) (.id looseCheckpoint.id) _ := .id _
  have htimestamp : Timestamp.read? "1970-01-01T00:00:01.5Z".toList =
      some looseCheckpoint.timestamp := rfl
  have hversion : Member.SpelledBy (S := Scenario.Door) (.version looseCheckpoint.version) _ :=
    .version _
  have hrun : Member.Run looseMembers _ :=
    .cons hstate (.cons hother (.cons hid (.cons (.timestamp htimestamp) (.last hversion))))
  exact .run hrun

open Json in
theorem spells_looseText : Spells looseText.toList looseTokens := by
  have hescape : (Token.string (some ['a'])).SpelledBy _ :=
    .string (.cons (.unit (a := '0') (b := '0') (c := '6') (d := '1') rfl) .nil)
      (.unit rfl rfl .nil)
  have hspace : ∀ c ∈ [' '], isSpace c = true := List.forall_mem_singleton.2 rfl
  have hline : ∀ c ∈ ['\n'], isSpace c = true := List.forall_mem_singleton.2 rfl
  have hversion : Spells _ _ :=
    .quote "version".toList (.next .colon (.next (.number (Numeral.spelledBy_toDigits 7))
      (.next .closeBrace (.nil (List.forall_mem_nil _)))))
  have htimestamp : Spells _ _ :=
    .quote "timestamp".toList (.next .colon (.quote "1970-01-01T00:00:01.5Z".toList
      (.next .comma hversion)))
  have hid : Spells _ _ :=
    .quote "id".toList (.next .colon (.next hescape (.next .comma htimestamp)))
  have hnote : Spells _ _ :=
    .cons hline (spelledBy_quote "note".toList) (.next .colon (.next .openBracket (.next .openBrace
      (.next .closeBrace (.next .closeBracket (.next .comma hid))))))
  have hstate : Spells _ _ :=
    .quote "state".toList (.next .colon (.next .openBrace (.quote "Locked".toList
      (.next .colon (.next .null (.next .closeBrace (.next .comma hnote)))))))
  have hall : Spells _ looseTokens := .cons hspace .openBrace hstate
  refine Eq.subst (motive := fun text => Spells text looseTokens) ?_ hall
  cbv

theorem ofJson_looseText :
    Member.Object looseMembers looseTokens ∧ Json.Spells looseText.toList looseTokens ∧
      ofJson looseText = .ok looseCheckpoint := by
  refine ⟨object_looseTokens, spells_looseText, ?_⟩
  have houtcome : Member.Outcome looseMembers (.ok looseCheckpoint) :=
    .complete (by decide) (by simp [looseMembers]) (by simp [looseMembers])
      (by simp [looseMembers]) (by simp [looseMembers])
  exact ((ofJson_object object_looseTokens spells_looseText).1 (.ok looseCheckpoint)).2 houtcome

end Reading

end Checkpoint

end StateMachine
