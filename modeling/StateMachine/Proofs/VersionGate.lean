import StateMachine.Machine.Operation
import StateMachine.Proofs.JsonObjects
import StateMachine.Proofs.Restoration

namespace StateMachine

namespace Json

/-- A numeral without a fraction and an exponent, and the integer that it denotes. -/
structure Numeral.Denotes (numeral : Numeral) (value : Int) : Prop where
  fraction : numeral.fraction = none
  exponent : numeral.exponent = none
  value : value = if numeral.negative then -(natural numeral.whole : Int) else natural numeral.whole

theorem Numeral.Denotes.ofNat (n : Nat) : (Numeral.ofNat n).Denotes n := by
  refine ⟨rfl, rfl, ?_⟩
  rw [Numeral.ofNat, natural, Nat.ofDigitChars_ten_toDigits]
  rfl

def Numeral.NegativeZero (numeral : Numeral) : Prop :=
  numeral.negative = true ∧ natural numeral.whole = 0

def Numeral.word (numeral : Numeral) : Except DecodeError UInt32 :=
  (readWord [.number numeral]).map Prod.fst

variable {numeral : Numeral} {value : Int}

theorem readWord_number (numeral : Numeral) (rest : List Token) :
    readWord (.number numeral :: rest) = numeral.word.map fun word => (word, rest) := by
  simp only [Numeral.word, readWord]
  cases numeral.number? with
  | none => rfl
  | some number =>
    cases number with
    | float value => rfl
    | integer value =>
      simp only
      split <;> rfl

namespace Numeral

theorem NegativeZero.eq_zero (h : numeral.NegativeZero) (hvalue : numeral.Denotes value) :
    value = 0 := by
  rw [hvalue.value, if_pos h.1, h.2]
  rfl

/-- Beyond 64 bits, and at zero with a minus sign, a numeral is no integer but a double. -/
theorem number?_eq_integer_iff {found : Int} (h : numeral.Denotes value) :
    numeral.number? = some (.integer found) ↔
      found = value ∧ -(Int64.size / 2 : Nat) ≤ value ∧ value < UInt64.size ∧
        ¬numeral.NegativeZero := by
  have hsigned : Int64.size = 18446744073709551616 := rfl
  have hunsigned : UInt64.size = 18446744073709551616 := rfl
  have hdouble : ∀ magnitude? : Option Float,
      magnitude?.map Number.float ≠ some (.integer found) := by
    rintro (_ | magnitude) <;> exact nofun
  obtain ⟨hfraction, hexponent, rfl⟩ := h
  simp only [number?, hfraction, hexponent, Option.isNone_none, true_and, NegativeZero]
  cases hnegative : numeral.negative with
  | true =>
    simp only [if_true, true_and]
    split
    · next hfits =>
      rw [Option.some.injEq, Number.integer.injEq]
      omega
    · next hlarge =>
      refine iff_of_false (hdouble _) ?_
      omega
  | false =>
    simp only [Bool.false_eq_true, if_false, false_and, not_false_eq_true, and_true]
    split
    · next hfits =>
      rw [Option.some.injEq, Number.integer.injEq]
      omega
    · next hlarge =>
      refine iff_of_false (hdouble _) ?_
      omega

/-- A numeral is read as a word if its very integer is one; zero with a minus sign is not read. -/
theorem word_eq_ok_iff {word : UInt32} (h : numeral.Denotes value) :
    numeral.word = .ok word ↔ (word.toNat : Int) = value ∧ ¬numeral.NegativeZero := by
  have hword := word.toNat_lt_size
  have hsize : UInt32.size < UInt64.size := by decide
  constructor
  · intro hok
    simp only [Numeral.word, readWord] at hok
    split at hok
    · cases hok
    · cases hok
    · next found hnumber =>
      obtain ⟨rfl, -, -, hzero⟩ := (number?_eq_integer_iff h).1 hnumber
      split at hok
      · next hfits =>
        cases hok
        refine ⟨?_, hzero⟩
        rw [UInt32.toNat_ofNat_of_lt' hfits.2]
        exact Int.toNat_of_nonneg hfits.1
      · cases hok
  · rintro ⟨rfl, hzero⟩
    have hnumber := (number?_eq_integer_iff h).2 ⟨rfl, by omega, by omega, hzero⟩
    simp only [Numeral.word, readWord, hnumber]
    rw [if_pos ⟨Int.natCast_nonneg _, by rw [Int.toNat_natCast]; exact hword⟩, Int.toNat_natCast,
      UInt32.ofNat_toNat]
    rfl

theorem exists_word_iff (h : numeral.Denotes value) :
    (∃ word, numeral.word = .ok word) ↔
      0 ≤ value ∧ value < UInt32.size ∧ ¬numeral.NegativeZero := by
  simp only [word_eq_ok_iff h]
  constructor
  · rintro ⟨word, rfl, hzero⟩
    have hword := word.toNat_lt_size
    exact ⟨Int.natCast_nonneg _, by omega, hzero⟩
  · rintro ⟨hnonneg, hlt, hzero⟩
    obtain ⟨n, rfl⟩ := Int.eq_ofNat_of_zero_le hnonneg
    have hn : n < UInt32.size := by omega
    exact ⟨UInt32.ofNat n, by rw [UInt32.toNat_ofNat_of_lt' hn], hzero⟩

end Numeral

theorem Separate.number_cons {token : Token} {tokens : List Token} (numeral : Numeral)
    (h : token.isNumber = false) (later : Separate tokens) :
    Separate (.number numeral :: token :: tokens) :=
  (singleton (.number numeral)).append_cons h later

end Json

namespace Checkpoint

variable {S : Type} [Storable S]

inductive Member.Lead : List (Member S) → List Json.Token → Prop where
  | nil : Lead [] []
  | cons {member : Member S} {members : List (Member S)} {tokens rest : List Json.Token}
      (spelled : member.SpelledBy tokens) (later : Lead members rest) :
    Lead (member :: members) (tokens ++ .comma :: rest)

inductive Member.Remainder : List (Member S) → List Json.Token → Prop where
  | close : Remainder [] [.closeBrace]
  | more {members : List (Member S)} {tokens : List Json.Token} (later : Run members tokens) :
    Remainder members (.comma :: tokens)

/-- The tokens in front of a version and behind it, where they give the other parts of a checkpoint:
in an object, with other members anywhere, or in a sequence. -/
inductive VersionGap (id : String) (timestamp : Timestamp) (state : S) :
    List Json.Token → List Json.Token → Prop where
  | object {earlier later : List (Member S)} {front behind : List Json.Token}
      (lead : Member.Lead earlier front) (remainder : Member.Remainder later behind)
      (distinct : (Field.version :: Member.fields (earlier ++ later)).Nodup)
      (givesId : .id id ∈ earlier ++ later) (givesTime : .timestamp timestamp ∈ earlier ++ later)
      (givesState : .state state ∈ earlier ++ later) :
    VersionGap id timestamp state
      (.openBrace :: (front ++ [.string (some Field.version.key.toList), .colon])) behind
  | sequence {time : List Char} {tokens : List Json.Token}
      (read : Timestamp.read? time = some timestamp)
      (spelled : (Storable.form : StoredForm S).SpelledBy state tokens) :
    VersionGap id timestamp state [.openBracket]
      (.comma :: .string (some id.toList) :: .comma :: .string (some time) :: .comma ::
        (tokens ++ [.closeBracket]))

variable {id : String} {timestamp : Timestamp} {state : S} {front behind : List Json.Token}

theorem Member.Lead.separate_append {members : List (Member S)} {tail : List Json.Token}
    (h : Member.Lead members front) (later : Json.Separate tail) :
    Json.Separate (front ++ tail) := by
  induction h with
  | nil => exact later
  | cons spelled _ ih =>
    rw [List.append_assoc]
    exact spelled.separate.append_cons rfl ih

theorem VersionGap.separate (h : VersionGap id timestamp state front behind)
    (numeral : Json.Numeral) : Json.Separate (front ++ .number numeral :: behind) := by
  cases h with
  | object lead remainder =>
    have hbehind : Json.Separate (.number numeral :: behind) := by
      cases remainder with
      | close => exact .number_cons numeral rfl .nil
      | more later => exact .number_cons numeral rfl later.separate
    rw [List.cons_append, List.append_assoc]
    exact .cons rfl (lead.separate_append (.cons rfl (.cons rfl hbehind)))
  | sequence read spelled =>
    exact .cons rfl (.number_cons numeral rfl (.cons rfl (.cons rfl (.cons rfl (.cons rfl
      (spelled.separate.append_cons rfl .nil))))))

variable [LawfulStorable S]

omit [Storable S] [LawfulStorable S] in
theorem Parts.admits_append {parts : Parts S} {earlier later : List (Member S)} :
    parts.Admits (earlier ++ later) ↔
      parts.Admits earlier ∧ (earlier.foldl add parts).Admits later := by
  induction earlier generalizing parts with
  | nil => simp [Admits]
  | cons member rest ih => simp only [List.cons_append, Admits, ih, List.foldl_cons, and_assoc]

theorem readMembers_of_lead {parts : Parts S} {members : List (Member S)}
    (h : Member.Lead members front) (hadmits : parts.Admits members) (rest : List Json.Token) :
    readMembers parts (front ++ rest) = readMembers (members.foldl Parts.add parts) rest := by
  induction h generalizing parts with
  | nil => rfl
  | cons spelled _ ih =>
    rw [List.append_assoc]
    exact (readMembers_of_comma (readMember_of_spelledBy spelled hadmits.1 _)).trans (ih hadmits.2)

theorem readMembers_of_remainder {parts parts' : Parts S} {members : List (Member S)}
    {tokens : List Json.Token} (h : Member.Remainder members behind)
    (hread : readMember parts tokens = .ok (parts', behind)) (hadmits : parts'.Admits members) :
    readMembers parts tokens =
      (members.foldl Parts.add parts').complete.map fun checkpoint => (checkpoint, []) := by
  cases h with
  | close => exact readMembers_of_closeBrace hread
  | more later =>
    have hlater := readMembers_of_admits later hadmits []
    rw [List.append_nil] at hlater
    exact (readMembers_of_comma hread).trans hlater

omit [LawfulStorable S] in
theorem readObject_of_lead {members : List (Member S)} (h : Member.Lead members front)
    (key : Option (List Char)) (rest : List Json.Token) :
    readObject (S := S) (front ++ .string key :: rest) =
      readMembers .none (front ++ .string key :: rest) := by
  cases h with
  | nil => simp only [List.nil_append, readObject]
  | cons spelled =>
    obtain ⟨key, tail, rfl, -⟩ := spelled.exists_cons
    simp only [List.cons_append, readObject]

/-- The members in front of the version are read, then the version, and the other members only if it
is one. -/
theorem readObject_of_gap {earlier later : List (Member S)} (lead : Member.Lead earlier front)
    (remainder : Member.Remainder later behind)
    (distinct : (Field.version :: Member.fields (earlier ++ later)).Nodup)
    (givesId : .id id ∈ earlier ++ later) (givesTime : .timestamp timestamp ∈ earlier ++ later)
    (givesState : .state state ∈ earlier ++ later) (numeral : Json.Numeral) :
    readObject (front ++
        .string (some Field.version.key.toList) :: .colon :: .number numeral :: behind) =
      numeral.word.map fun version => ((⟨version, id, timestamp, state⟩ : Checkpoint S), []) := by
  -- All members, with the one that gives the version in its place.
  let whole (version : UInt32) : List (Member S) := earlier ++ .version version :: later
  have hdistinct : ∀ version, (Member.fields (whole version)).Nodup := by
    intro version
    rw [Member.fields_append] at distinct ⊢
    exact List.perm_middle.nodup_iff.2 distinct
  have hadmits : ∀ version, (Parts.none : Parts S).Admits (whole version) :=
    fun version => Parts.admits_none (hdistinct version)
  have hmem : ∀ {member} version, member ∈ earlier ++ later → member ∈ whole version := by
    intro member version h
    exact List.perm_middle.mem_iff.2 (List.mem_cons_of_mem _ h)
  obtain ⟨hearlier, hversion⟩ := Parts.admits_append.1 (hadmits 0)
  have hmember := readMember_key (hversion.1 .version rfl) (.number numeral :: behind)
  rw [readPart, Json.readWord_number] at hmember
  rw [readObject_of_lead lead, readMembers_of_lead lead hearlier]
  cases hword : numeral.word with
  | error e =>
    rw [hword] at hmember
    exact readMembers_of_error hmember
  | ok version =>
    rw [hword] at hmember
    obtain ⟨-, hlater⟩ := Parts.admits_append.1 (hadmits version)
    have hgives : ∀ {member}, member ∈ whole version →
        ((whole version).foldl Parts.add Parts.none).add member =
          (whole version).foldl Parts.add Parts.none :=
      fun h => Parts.foldl_add_of_mem (hdistinct version) h _
    have hcomplete : ((whole version).foldl Parts.add Parts.none).complete =
        .ok ⟨version, id, timestamp, state⟩ :=
      Parts.complete_of_members (hgives (List.mem_append_right _ List.mem_cons_self))
        (hgives (hmem version givesId)) (hgives (hmem version givesTime))
        (hgives (hmem version givesState))
    simp only [whole, List.foldl_append, List.foldl_cons] at hcomplete
    exact (readMembers_of_remainder remainder hmember hlater.2).trans
      (congrArg (Except.map fun checkpoint => (checkpoint, [])) hcomplete)

/-- What is read depends on the numeral for the version alone. -/
theorem VersionGap.ofTokens_eq (h : VersionGap id timestamp state front behind)
    (numeral : Json.Numeral) :
    ofTokens (front ++ .number numeral :: behind) =
      numeral.word.map fun version => (⟨version, id, timestamp, state⟩ : Checkpoint S) := by
  cases h with
  | object lead remainder distinct givesId givesTime givesState =>
    have hread :=
      readObject_of_gap lead remainder distinct givesId givesTime givesState numeral
    simp only [List.cons_append, List.nil_append, List.append_assoc, ofTokens, hread]
    cases numeral.word <;> rfl
  | sequence read spelled =>
    simp only [List.cons_append, List.nil_append, ofTokens, readSequence, Json.readWord_number]
    cases numeral.word with
    | error e => rfl
    | ok version =>
      simp only [Except.map, nextElement, Json.readString, Json.readTimestamp, read,
        readState_of_spelledBy spelled, bind, Except.bind, String.ofList_toList]
      rfl

theorem VersionGap.ofJson_eq (h : VersionGap id timestamp state front behind)
    {numeral : Json.Numeral} {text : String}
    (htext : Json.Spells text.toList (front ++ .number numeral :: behind)) :
    ofJson text = (numeral.word.mapError .notRead).map
      fun version => (⟨version, id, timestamp, state⟩ : Checkpoint S) := by
  rw [ofJson, readJson, Json.tokens_of_spells htext (h.separate numeral), h.ofTokens_eq]
  cases numeral.word <;> rfl

theorem VersionGap.ofJson_eq_ok_iff (h : VersionGap id timestamp state front behind)
    {numeral : Json.Numeral} {value : Int} (hvalue : numeral.Denotes value) {text : String}
    (htext : Json.Spells text.toList (front ++ .number numeral :: behind))
    {checkpoint : Checkpoint S} :
    ofJson text = .ok checkpoint ↔
      ((checkpoint.version.toNat : Int) = value ∧ ¬numeral.NegativeZero) ∧
        checkpoint.id = id ∧ checkpoint.timestamp = timestamp ∧ checkpoint.state = state := by
  rw [h.ofJson_eq htext, ← Json.Numeral.word_eq_ok_iff hvalue]
  obtain ⟨version, id', timestamp', state'⟩ := checkpoint
  cases numeral.word with
  | error e => simp [Except.mapError, Except.map]
  | ok word => simp [Except.mapError, Except.map, eq_comm]

end Checkpoint

open Checkpoint Json

theorem Machine.resume_json_eq_ok_iff {S T A E K : Type} [ArgumentKind A] [Named S] [BEq S]
    [Storable S] {machine : Machine S T A E K} {text : String} {result : Memory S × Log.Record} :
    machine.resume (.json text) = .ok result ↔
      ∃ checkpoint, ofJson text = .ok checkpoint ∧ machine.restore checkpoint = .ok result := by
  rw [Machine.resume, Encoded.decode]
  cases ofJson (S := S) text with
  | error e => simp [Except.bind]
  | ok checkpoint => simp [Except.bind]

/-- In a text that gives the other parts of a checkpoint, an integer is read as the version just if
it fits into 32 bits without a sign, and it is then the version itself; only zero with a minus sign
is refused. The state that the text gives is entered just if the integer is the current version and
a transition leads out of the state. -/
theorem Machine.version_gate {S T A E K : Type} [ArgumentKind A] [Named S] [BEq S] [BEq T]
    [DecidableEq A] [Token K S] [EquivBEq S] [EquivBEq T] [Storable S] [LawfulStorable S]
    {calls : List (Call S T A E K)} {machine : Machine S T A E K} {record : Log.Record}
    (hc : (Compiler.after calls).compile = .ok (machine, record)) {id : String}
    {timestamp : Timestamp} {state : S} {front behind : List Json.Token}
    (h : VersionGap id timestamp state front behind) {numeral : Numeral} {value : Int}
    (hvalue : numeral.Denotes value) {text : String}
    (htext : Spells text.toList (front ++ .number numeral :: behind)) :
    ((∃ checkpoint : Checkpoint S, ofJson text = .ok checkpoint) ↔
      0 ≤ value ∧ value < UInt32.size ∧ ¬numeral.NegativeZero) ∧
    (∀ checkpoint : Checkpoint S, ofJson text = .ok checkpoint →
      (checkpoint.version.toNat : Int) = value ∧ checkpoint.id = id ∧
        checkpoint.timestamp = timestamp ∧ checkpoint.state = state) ∧
    ((∃ memory log, machine.resume (.json text) = .ok (memory, log)) ↔
      value = Checkpoint.currentVersion.toNat ∧
        ∃ trigger, (machine.transition? state trigger).isSome = true) ∧
    ∀ memory log, machine.resume (.json text) = .ok (memory, log) → memory = ⟨state⟩ := by
  have hread : ∀ checkpoint : Checkpoint S, ofJson text = .ok checkpoint ↔ _ :=
    fun _ => h.ofJson_eq_ok_iff hvalue htext
  have hout := ((Compiler.reflects_after calls).describes hc).hasTransitions_iff state
  refine ⟨?read, fun checkpoint hok => ?kept, ?resumed, fun memory log hok => ?memory⟩
  case read =>
    rw [← Numeral.exists_word_iff hvalue]
    constructor
    · rintro ⟨checkpoint, hok⟩
      exact ⟨checkpoint.version, (Numeral.word_eq_ok_iff hvalue).2 ((hread _).1 hok).1⟩
    · rintro ⟨word, hok⟩
      have hword := (Numeral.word_eq_ok_iff hvalue).1 hok
      exact ⟨⟨word, id, timestamp, state⟩, (hread _).2 ⟨hword, rfl, rfl, rfl⟩⟩
  case kept =>
    obtain ⟨⟨hversion, -⟩, hparts⟩ := (hread _).1 hok
    exact ⟨hversion, hparts⟩
  case resumed =>
    rw [← hout]
    constructor
    · rintro ⟨memory, log, hok⟩
      obtain ⟨checkpoint, hdecoded, hrestored⟩ := resume_json_eq_ok_iff.1 hok
      obtain ⟨⟨hversion, -⟩, -, -, rfl⟩ := (hread _).1 hdecoded
      obtain ⟨hcurrent, hleaves, -⟩ := restore_eq_ok_iff.1 hrestored
      rw [hcurrent] at hversion
      exact ⟨hversion.symm, hleaves⟩
    · rintro ⟨rfl, hleaves⟩
      have hzero : ¬numeral.NegativeZero := by
        intro hnegative
        cases hnegative.eq_zero hvalue
      have hdecoded := (hread ⟨Checkpoint.currentVersion, id, timestamp, state⟩).2
        ⟨⟨rfl, hzero⟩, rfl, rfl, rfl⟩
      exact ⟨_, _, resume_json_eq_ok_iff.2 ⟨_, hdecoded, restore_of_hasTransitions rfl hleaves⟩⟩
  case memory =>
    obtain ⟨checkpoint, hdecoded, hrestored⟩ := resume_json_eq_ok_iff.1 hok
    obtain ⟨-, -, -, rfl⟩ := (hread _).1 hdecoded
    exact (restore_eq_ok_iff.1 hrestored).2.2.1

namespace Checkpoint

def gatedText (version : List Char) : String :=
  String.ofList ('{' :: (quote "version".toList ++ ':' :: (version ++ ',' ::
    (quote "id".toList ++ ':' :: (quote "k".toList ++ ',' ::
      (quote "timestamp".toList ++ ':' :: (quote "1970-01-01T00:00:00Z".toList ++ ',' ::
        (quote "state".toList ++ ':' :: (quote "a".toList ++ ['}'])))))))))

def gatedFront : List Json.Token := [.openBrace, .string (some "version".toList), .colon]

def gatedBehind : List Json.Token :=
  [.comma, .string (some "id".toList), .colon, .string (some "k".toList),
    .comma, .string (some "timestamp".toList), .colon,
    .string (some "1970-01-01T00:00:00Z".toList),
    .comma, .string (some "state".toList), .colon, .string (some "a".toList), .closeBrace]

theorem spells_gatedText {numeral : Numeral} {version : List Char}
    (h : numeral.SpelledBy version) :
    Spells (gatedText version).toList (gatedFront ++ .number numeral :: gatedBehind) := by
  have hstate : Spells _ _ :=
    .quote "state".toList (.mark .colon (.quote "a".toList
      (.mark .closeBrace (.nil (List.forall_mem_nil _)))))
  have htime : Spells _ _ :=
    .quote "timestamp".toList (.mark .colon (.quote "1970-01-01T00:00:00Z".toList
      (.mark .comma hstate)))
  have hid : Spells _ _ :=
    .quote "id".toList (.mark .colon (.quote "k".toList (.mark .comma htime)))
  rw [gatedText, String.toList_ofList]
  exact .mark .openBrace (.quote "version".toList (.mark .colon (.next (.number h)
    (.mark .comma hid))))

def gatedTime : Timestamp := (Timestamp.ofUnix? 0 0).get rfl

theorem versionGap_gated (rule : Scenario.LabelRule) :
    VersionGap "k" gatedTime (⟨"a"⟩ : Scenario.Label rule) gatedFront gatedBehind := by
  have hread : Timestamp.read? "1970-01-01T00:00:00Z".toList = some gatedTime := rfl
  have hstate : Member.SpelledBy (.state (⟨"a"⟩ : Scenario.Label rule)) _ :=
    .state (.text "a".toList)
  have hrun : Member.Run [.id "k", .timestamp gatedTime, .state (⟨"a"⟩ : Scenario.Label rule)] _ :=
    .cons (.id "k") (.cons (.timestamp hread) (.last hstate))
  have hdistinct : [Field.version, .id, .timestamp, .state].Nodup := by decide
  exact .object .nil (.more hrun) hdistinct (by simp) (by simp) (by simp)

def negativeZero : Numeral := ⟨true, ['0'], none, none⟩

theorem spells_negativeZero :
    Spells (gatedText ['-', '0']).toList (gatedFront ++ .number negativeZero :: gatedBehind) := by
  have hzero : IsNumber ['0'] := .toDigits 0
  have hspelled : negativeZero.SpelledBy ['-', '0'] :=
    .intro (n := negativeZero) hzero (fun _ => rfl) .absent .absent
  exact spells_gatedText hspelled

/-- Zero with a minus sign is zero, which has 32 bits and no sign, but it is refused. -/
theorem ofJson_negativeZero :
    negativeZero.Denotes 0 ∧
      VersionGap "k" gatedTime (⟨"a"⟩ : Scenario.Label .exact) gatedFront gatedBehind ∧
      Spells (gatedText ['-', '0']).toList (gatedFront ++ .number negativeZero :: gatedBehind) ∧
      ¬((∃ checkpoint : Checkpoint (Scenario.Label .exact),
          ofJson (gatedText ['-', '0']) = .ok checkpoint) ↔
        (0 : Int) ≤ 0 ∧ (0 : Int) < UInt32.size) := by
  have hvalue : negativeZero.Denotes 0 := ⟨rfl, rfl, rfl⟩
  refine ⟨hvalue, versionGap_gated .exact, spells_negativeZero, fun hiff => ?_⟩
  obtain ⟨checkpoint, hok⟩ := hiff.2 (by decide)
  obtain ⟨⟨-, hnot⟩, -⟩ :=
    ((versionGap_gated .exact).ofJson_eq_ok_iff hvalue spells_negativeZero).1 hok
  exact hnot ⟨rfl, rfl⟩

end Checkpoint

namespace Machine

theorem version_gate_gatedText :
    (∃ memory log, reentrantMachine.resume (.json (gatedText (Nat.toDigits 10 1))) =
      .ok (memory, log)) ∧
      ¬∃ checkpoint : Checkpoint (Scenario.Label .folded),
        ofJson (gatedText (Nat.toDigits 10 4294967297)) = .ok checkpoint := by
  have hgap := versionGap_gated .folded
  obtain ⟨-, -, hresumed, -⟩ := version_gate compile_reentrantCalls hgap (.ofNat 1)
    (spells_gatedText (Numeral.spelledBy_toDigits 1))
  obtain ⟨hread, -⟩ := version_gate compile_reentrantCalls hgap (.ofNat 4294967297)
    (spells_gatedText (Numeral.spelledBy_toDigits 4294967297))
  refine ⟨hresumed.2 ⟨rfl, ⟨"GO"⟩, rfl⟩, fun h => ?_⟩
  have hbound := (hread.1 h).2.1
  revert hbound
  decide

end Machine

end StateMachine
