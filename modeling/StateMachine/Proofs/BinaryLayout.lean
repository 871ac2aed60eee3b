import Mathlib.Data.List.Nodup
import StateMachine.Proofs.BinaryRoundTrip
import StateMachine.Scenario.Vocabulary

namespace StateMachine

variable {S : Type} [Storable S]

/-- Stored forms in which no state has two spellings: a text that is read as a state is what the
state is written as, if it is written at all. -/
def StoredForm.Exact {S : Type} : StoredForm S → Prop
  | .text write read => ∀ text written, write (read text) = .ok written → written = text
  | .variants values _ _ => values.Nodup

class ExactStorable (S : Type) [Storable S] : Prop extends LawfulStorable S where
  exact : (Storable.form : StoredForm S).Exact

instance (α : Type) [Variants α] [BEq α] [LawfulBEq α] [LawfulVariants α] : ExactStorable α where
  exact := List.Nodup.of_map Variants.variantName LawfulVariants.nodup_names

instance (rule : Scenario.LabelRule) : ExactStorable (Scenario.Label rule) where
  exact := by
    intro text written h
    have hread := LawfulStorable.lawful (S := Scenario.Label rule) ⟨text⟩ written h
    exact Scenario.Label.mk.inj hread

namespace Octets

variable {bytes front rest : List UInt8} {text : String}

theorem toNat_lt (bytes : List UInt8) : toNat bytes < 256 ^ bytes.length := by
  induction bytes with
  | nil => decide
  | cons byte bytes ih =>
    have hbyte := byte.toNat_lt
    rw [toNat, List.length_cons, Nat.pow_succ]
    omega

theorem ofNat_toNat (bytes : List UInt8) : ofNat bytes.length (toNat bytes) = bytes := by
  induction bytes with
  | nil => rfl
  | cons byte bytes ih =>
    have hbyte := byte.toNat_lt
    have hlow : UInt8.ofNat (byte.toNat + 256 * toNat bytes) = byte := by
      apply UInt8.toNat.inj
      rw [UInt8.toNat_ofNat']
      omega
    have hhigh : (byte.toNat + 256 * toNat bytes) / 256 = toNat bytes := by omega
    rw [List.length_cons, toNat, ofNat, hlow, hhigh, ih]

theorem split?_eq_some_iff {count : Nat} :
    split? count bytes = some (front, rest) ↔ front.length = count ∧ bytes = front ++ rest := by
  constructor
  · intro h
    unfold split? at h
    split at h
    · next hle =>
      cases h
      exact ⟨List.length_take_of_le hle, (List.take_append_drop count bytes).symm⟩
    · cases h
  · rintro ⟨rfl, rfl⟩
    exact split?_append front rest

theorem readNat?_eq_some_iff {width number : Nat} :
    readNat? width bytes = some (number, rest) ↔
      ∃ front, front.length = width ∧ toNat front = number ∧ bytes = front ++ rest := by
  simp only [readNat?, Option.map_eq_some_iff, Prod.exists, split?_eq_some_iff, Prod.mk.injEq]
  constructor
  · rintro ⟨front, _, ⟨hlength, rfl⟩, hnumber, rfl⟩
    exact ⟨front, hlength, hnumber, rfl⟩
  · rintro ⟨front, hlength, hnumber, rfl⟩
    exact ⟨front, rest, ⟨hlength, rfl⟩, hnumber, rfl⟩

theorem toText?_eq_some_iff : toText? bytes = some text ↔ bytes = ofText text := by
  constructor
  · intro h
    unfold toText? String.fromUTF8? at h
    split at h
    · cases h
      rw [ofText, String.toUTF8_eq_toByteArray]
      simp [String.fromUTF8, List.data_toByteArray]
    · cases h
  · rintro rfl
    exact toText?_ofText text

/-- The bytes of a text: eight for its length, and its characters in UTF-8. -/
def TextBytes (text : String) (bytes : List UInt8) : Prop :=
  ∃ length : List UInt8, length.length = 8 ∧ toNat length = (ofText text).length ∧
    bytes = length ++ ofText text

theorem textBytes_iff :
    TextBytes text bytes ↔ (ofText text).length < 256 ^ 8 ∧ bytes = writeText text := by
  constructor
  · rintro ⟨length, hwidth, hlength, rfl⟩
    have hlt := toNat_lt length
    have hwritten := ofNat_toNat length
    rw [hwidth, hlength] at hlt hwritten
    exact ⟨hlt, by rw [writeText, hwritten]⟩
  · rintro ⟨hlt, rfl⟩
    exact ⟨ofNat 8 (ofText text).length, length_ofNat 8 _, toNat_ofNat hlt, rfl⟩

theorem readText?_eq_some_iff :
    readText? bytes = some (text, rest) ↔
      ∃ front, TextBytes text front ∧ bytes = front ++ rest := by
  constructor
  · intro h
    simp only [readText?, Option.bind_eq_bind, Option.bind_eq_some_iff, Prod.exists,
      Option.pure_def, Option.some.injEq, Prod.mk.injEq, readNat?_eq_some_iff,
      split?_eq_some_iff, toText?_eq_some_iff] at h
    obtain ⟨_, _, ⟨length, hwidth, rfl, rfl⟩, _, _, ⟨hlength, rfl⟩, _, rfl, rfl, rfl⟩ := h
    exact ⟨_, ⟨length, hwidth, hlength.symm, rfl⟩, (List.append_assoc _ _ _).symm⟩
  · rintro ⟨front, hfront, rfl⟩
    obtain ⟨hlt, rfl⟩ := textBytes_iff.1 hfront
    exact readText?_writeText hlt rest

theorem readText?_of_lt {length behind : List UInt8} (hwidth : length.length = 8)
    (h : behind.length < toNat length) : readText? (length ++ behind) = none := by
  have hlength : readNat? 8 (length ++ behind) = some (toNat length, behind) :=
    readNat?_eq_some_iff.2 ⟨length, hwidth, rfl, rfl⟩
  simp only [readText?, hlength, split?, if_neg (Nat.not_le.2 h), Option.bind_eq_bind,
    Option.bind_some, Option.bind_none]

theorem TextBytes.unique {text' : String} {front' rest' : List UInt8} (h : TextBytes text front)
    (h' : TextBytes text' front') (heq : front ++ rest = front' ++ rest') :
    text = text' ∧ front = front' ∧ rest = rest' := by
  have hread : readText? (front ++ rest) = some (text, rest) :=
    readText?_eq_some_iff.2 ⟨front, h, rfl⟩
  rw [readText?_eq_some_iff.2 ⟨front', h', heq⟩] at hread
  cases hread
  exact ⟨rfl, List.append_cancel_right heq, rfl⟩

/-- The bytes of a state: those of a text that it is read from, or its place among the variants in
four bytes. -/
def StateBytes (state : S) (bytes : List UInt8) : Prop :=
  match (Storable.form : StoredForm S) with
  | .text _ read => ∃ text, TextBytes text bytes ∧ read text = state
  | .variants values _ _ => bytes.length = 4 ∧ values[toNat bytes]? = some state

theorem readState_eq_ok_iff {state : S} :
    readState bytes = .ok (state, rest) ↔
      ∃ front, StateBytes state front ∧ bytes = front ++ rest := by
  unfold readState StateBytes
  cases (Storable.form : StoredForm S) with
  | text write read =>
    simp only
    constructor
    · intro h
      cases hread : readText? bytes with
      | none =>
        rw [hread] at h
        cases h
      | some found =>
        rw [hread] at h
        cases h
        obtain ⟨front, hfront, rfl⟩ := readText?_eq_some_iff.1 hread
        exact ⟨front, ⟨_, hfront, rfl⟩, rfl⟩
    · rintro ⟨front, ⟨text, hfront, rfl⟩, rfl⟩
      rw [readText?_eq_some_iff.2 ⟨front, hfront, rfl⟩]
  | variants values name index =>
    simp only
    constructor
    · intro h
      cases hread : readNat? 4 bytes with
      | none =>
        rw [hread] at h
        cases h
      | some found =>
        obtain ⟨place, behind⟩ := found
        obtain ⟨front, hlength, rfl, rfl⟩ := readNat?_eq_some_iff.1 hread
        simp only [hread] at h
        cases hvalue : values[toNat front]? with
        | none =>
          rw [hvalue] at h
          cases h
        | some value =>
          rw [hvalue] at h
          cases h
          exact ⟨front, ⟨hlength, hvalue⟩, rfl⟩
    · rintro ⟨front, ⟨hlength, hvalue⟩, rfl⟩
      rw [readNat?_eq_some_iff.2 ⟨front, hlength, rfl, rfl⟩]
      simp only [hvalue]

theorem StateBytes.unique {state state' : S} {front' rest' : List UInt8}
    (h : StateBytes state front) (h' : StateBytes state' front')
    (heq : front ++ rest = front' ++ rest') : state = state' ∧ front = front' ∧ rest = rest' := by
  have hread : readState (front ++ rest) = .ok (state, rest) :=
    readState_eq_ok_iff.2 ⟨front, h, rfl⟩
  rw [readState_eq_ok_iff.2 ⟨front', h', heq⟩] at hread
  cases hread
  exact ⟨rfl, List.append_cancel_right heq, rfl⟩

theorem StateBytes.eq_of_writeState [ExactStorable S] {state : S} {written : List UInt8}
    (h : StateBytes state bytes) (hwritten : writeState state = .ok written) : written = bytes := by
  have hlawful := LawfulStorable.lawful (S := S)
  have hexact := ExactStorable.exact (S := S)
  unfold StateBytes at h
  unfold writeState at hwritten
  cases hform : (Storable.form : StoredForm S) with
  | text write read =>
    rw [hform] at h hwritten hlawful hexact
    obtain ⟨text, hbytes, rfl⟩ := h
    obtain ⟨-, rfl⟩ := textBytes_iff.1 hbytes
    simp only at hwritten
    cases hw : write (read text) with
    | error e =>
      rw [hw] at hwritten
      cases hwritten
    | ok again =>
      rw [hw] at hwritten
      cases hwritten
      rw [hexact text again hw]
  | variants values name index =>
    rw [hform] at h hwritten hlawful hexact
    cases hwritten
    obtain ⟨hwidth, hfound⟩ := h
    obtain ⟨hplace, hvalue⟩ := List.getElem?_eq_some_iff.1 hfound
    -- no variant is listed twice, so the state is at one place only
    have hsame : index state = toNat bytes := by
      obtain ⟨hindex, hstate⟩ := List.getElem?_eq_some_iff.1 (hlawful.1 state)
      exact (List.Nodup.getElem_inj_iff (l := values) hexact).1 (hstate.trans hvalue.symm)
    rw [hsame, ← hwidth, ofNat_toNat]

theorem ofText_ofList (text : List Char) :
    ofText (String.ofList text) = text.flatMap String.utf8EncodeChar := by
  rw [ofText, String.toUTF8_eq_toByteArray, String.toByteArray_ofList, List.utf8Encode,
    List.data_toByteArray]

theorem length_ofText_le (text : List Char) :
    (ofText (String.ofList text)).length ≤ 4 * text.length := by
  rw [ofText_ofList]
  induction text with
  | nil => exact Nat.le_refl 0
  | cons c text ih =>
    have hc := c.utf8Size_le_four
    rw [List.flatMap_cons, List.length_append, String.length_utf8EncodeChar, List.length_cons]
    omega

end Octets

namespace Timestamp

theorem length_padded_le {width limit n : Nat} (hw : width ≤ limit) (hpos : 0 < limit)
    (hn : n < 10 ^ limit) : (padded width n).length ≤ limit := by
  have hl := (Nat.length_toDigits_le_iff (b := 10) (by decide) hpos).2 hn
  simp only [padded, List.leftpad, List.length_append, List.length_replicate]
  omega

theorem length_writeYear_le {year : Int} (h : yearHeld year) : (writeYear year).length ≤ 7 := by
  have hyear : year.natAbs < 10 ^ 6 := by
    simp only [yearHeld] at h
    omega
  have hl : (padded 4 year.natAbs).length ≤ 6 := length_padded_le (by decide) (by decide) hyear
  unfold writeYear
  split
  · rw [List.length_cons]
    omega
  · split
    · rw [List.length_cons]
      omega
    · omega

theorem length_writeFraction_le {nanos : Nat} (hn : nanos < 1000000000) :
    (writeFraction nanos).length ≤ 10 := by
  unfold writeFraction
  split
  · exact Nat.zero_le 10
  · split
    · rw [List.length_cons, length_padded (by decide) (by omega)]
      decide
    · split
      · rw [List.length_cons, length_padded (by decide) (by omega)]
        decide
      · rw [List.length_cons, length_padded (by decide) (by omega)]

theorem length_write_le (time : Timestamp) : time.write.length ≤ 33 := by
  have hfirst := time.first_le
  have hlast := time.le_last
  have hnanos := time.nanos_lt
  simp only [firstSecond, lastSecond] at hfirst hlast
  have hvalid := Date.valid_ofDay (time.seconds / 86400)
  have hdays := Date.monthLength_le (Date.ofDay (time.seconds / 86400)).year
    (Date.ofDay (time.seconds / 86400)).month
  have hheld : yearHeld (Date.ofDay (time.seconds / 86400)).year :=
    Date.yearHeld_ofDay (by omega) (by omega)
  have hyear := length_writeYear_le hheld
  have hrest : time.nanos % 1000000000 < 1000000000 := Nat.mod_lt _ (by decide)
  have hfraction := length_writeFraction_le hrest
  obtain ⟨-, hmonth, -, hday⟩ := hvalid
  have two : ∀ {n : Nat}, n < 10 ^ 2 → (padded 2 n).length = 2 := length_padded (by decide)
  simp only [write, writeDate, writeClock, List.length_append, List.length_cons, List.length_nil]
  rw [two (by omega), two (by omega), two (by omega), two (by omega), two (by omega)]
  omega

theorem textBytes_toText (time : Timestamp) :
    Octets.TextBytes time.toText (Octets.writeText time.toText) := by
  have hchars := length_write_le time
  have hbytes := Octets.length_ofText_le time.write
  exact Octets.textBytes_iff.2 ⟨by rw [toText]; omega, rfl⟩

end Timestamp

/-- The parts that the bytes of a checkpoint fall into. -/
structure BinaryParts where
  version : List UInt8
  id : List UInt8
  time : List UInt8
  state : List UInt8
  rest : List UInt8

namespace BinaryParts

def bytes (parts : BinaryParts) : List UInt8 :=
  parts.version ++ parts.id ++ parts.time ++ parts.state ++ parts.rest

/-- The parts are those of a checkpoint, with the given text for its timestamp. -/
structure Hold (parts : BinaryParts) (checkpoint : Checkpoint S) (spelling : String) : Prop where
  width : parts.version.length = 4
  version : Octets.toNat parts.version = checkpoint.version.toNat
  id : Octets.TextBytes checkpoint.id parts.id
  time : Octets.TextBytes spelling parts.time
  denotes : Timestamp.ofText? spelling = some checkpoint.timestamp
  state : Octets.StateBytes checkpoint.state parts.state

variable {parts parts' : BinaryParts} {checkpoint checkpoint' : Checkpoint S}
  {spelling spelling' : String}

theorem Hold.unique (h : parts.Hold checkpoint spelling) (h' : parts'.Hold checkpoint' spelling')
    (heq : parts.bytes = parts'.bytes) :
    parts = parts' ∧ checkpoint = checkpoint' ∧ spelling = spelling' := by
  simp only [bytes, List.append_assoc] at heq
  obtain ⟨hversion, heq⟩ := List.append_inj heq (h.width.trans h'.width.symm)
  obtain ⟨hidText, hid, heq⟩ := h.id.unique h'.id heq
  obtain ⟨hspelling, htime, heq⟩ := h.time.unique h'.time heq
  obtain ⟨hvalue, hstate, hrest⟩ := h.state.unique h'.state heq
  have hnumber : checkpoint.version = checkpoint'.version := by
    apply UInt32.toNat.inj
    rw [← h.version, ← h'.version, hversion]
  have htimestamp : checkpoint.timestamp = checkpoint'.timestamp := by
    apply Option.some.inj
    rw [← h.denotes, ← h'.denotes, hspelling]
  refine ⟨?_, ?_, hspelling⟩
  · cases parts
    cases parts'
    simp only at hversion hid htime hstate hrest
    rw [hversion, hid, htime, hstate, hrest]
  · cases checkpoint
    cases checkpoint'
    simp only at hnumber hidText htimestamp hvalue
    rw [hnumber, hidText, htimestamp, hvalue]

/-- Written again, a checkpoint keeps its parts except for the spelling of its timestamp. -/
theorem Hold.of_toBinary [ExactStorable S] (h : parts.Hold checkpoint spelling)
    {written : List UInt8} (hwritten : checkpoint.toBinary = .ok written) (rest : List UInt8) :
    let again := { parts with time := Octets.writeText checkpoint.timestamp.toText, rest := rest }
    again.bytes = written ++ rest ∧ again.Hold checkpoint checkpoint.timestamp.toText := by
  obtain ⟨state, hstate, rfl⟩ := (checkpoint.toBinary_eq_ok_iff written).1 hwritten
  have hversion := Octets.ofNat_toNat parts.version
  rw [h.width, h.version] at hversion
  have hid := (Octets.textBytes_iff.1 h.id).2
  -- What was read from a text has nothing to carry.
  have hread := Timestamp.ofText?_toText checkpoint.timestamp
  rw [Timestamp.carried_of_leapsAtEnd (Timestamp.leapsAtEnd_of_read? h.denotes)] at hread
  refine ⟨?_, h.width, h.version, h.id, Timestamp.textBytes_toText _, hread, h.state⟩
  rw [bytes, Checkpoint.writeBinary, hversion, hid, h.state.eq_of_writeState hstate]

end BinaryParts

namespace Checkpoint

theorem readHead?_eq_some_iff {bytes rest : List UInt8} {version : UInt32} {id : String}
    {timestamp : Timestamp} :
    readHead? bytes = some ((version, id, timestamp), rest) ↔
      ∃ number idBytes time spelling, number.length = 4 ∧ Octets.toNat number = version.toNat ∧
        Octets.TextBytes id idBytes ∧ Octets.TextBytes spelling time ∧
        Timestamp.ofText? spelling = some timestamp ∧
        bytes = number ++ idBytes ++ time ++ rest := by
  simp only [readHead?, Option.bind_eq_bind, Option.bind_eq_some_iff, Prod.exists, Option.pure_def,
    Option.some.injEq, Prod.mk.injEq, Octets.readNat?_eq_some_iff, Octets.readText?_eq_some_iff]
  constructor
  · rintro ⟨_, _, ⟨number, hwidth, rfl, rfl⟩, _, _, ⟨idBytes, hid, rfl⟩, spelling, _,
      ⟨time, htime, rfl⟩, _, hdenotes, ⟨rfl, rfl, rfl⟩, rfl⟩
    have hlt := Octets.toNat_lt number
    rw [hwidth] at hlt
    refine ⟨number, idBytes, time, spelling, hwidth, ?_, hid, htime, hdenotes, ?_⟩
    · exact (UInt32.toNat_ofNat_of_lt' hlt).symm
    · simp only [List.append_assoc]
  · rintro ⟨number, idBytes, time, spelling, hwidth, hversion, hid, htime, hdenotes, rfl⟩
    simp only [List.append_assoc]
    refine ⟨_, _, ⟨number, hwidth, rfl, rfl⟩, _, _, ⟨idBytes, hid, rfl⟩, spelling, _,
      ⟨time, htime, rfl⟩, _, hdenotes, ⟨?_, rfl, rfl⟩, rfl⟩
    rw [hversion, UInt32.ofNat_toNat]

/-- Just the bytes that fall into the parts of a checkpoint are read as it. -/
theorem readBinary_eq_ok_iff {bytes : List UInt8} {checkpoint : Checkpoint S} :
    readBinary bytes = .ok checkpoint ↔
      ∃ parts spelling, BinaryParts.bytes parts = bytes ∧ parts.Hold checkpoint spelling := by
  constructor
  · intro h
    unfold readBinary at h
    cases hhead : readHead? bytes with
    | none =>
      rw [hhead] at h
      cases h
    | some head =>
      obtain ⟨⟨version, id, timestamp⟩, behind⟩ := head
      simp only [hhead] at h
      cases hstate : Octets.readState (S := S) behind with
      | error e =>
        rw [hstate] at h
        cases h
      | ok found =>
        rw [hstate] at h
        cases h
        obtain ⟨number, idBytes, time, spelling, hwidth, hversion, hid, htime, hdenotes, rfl⟩ :=
          readHead?_eq_some_iff.1 hhead
        obtain ⟨bytes, hbytes, rfl⟩ := Octets.readState_eq_ok_iff.1 hstate
        refine ⟨⟨number, idBytes, time, bytes, found.2⟩, spelling, ?_,
          ⟨hwidth, hversion, hid, htime, hdenotes, hbytes⟩⟩
        simp only [BinaryParts.bytes, List.append_assoc]
  · rintro ⟨parts, spelling, rfl, h⟩
    have hhead : readHead? parts.bytes = some ((checkpoint.version, checkpoint.id,
        checkpoint.timestamp), parts.state ++ parts.rest) := by
      refine readHead?_eq_some_iff.2 ⟨parts.version, parts.id, parts.time, spelling, h.width,
        h.version, h.id, h.time, h.denotes, ?_⟩
      simp only [BinaryParts.bytes, List.append_assoc]
    have hstate : Octets.readState (parts.state ++ parts.rest) =
        .ok (checkpoint.state, parts.rest) := Octets.readState_eq_ok_iff.2 ⟨_, h.state, rfl⟩
    simp only [readBinary, hhead, hstate]

theorem ofBinary_eq_ok_iff {bytes : List UInt8} {checkpoint : Checkpoint S} :
    ofBinary bytes = .ok checkpoint ↔
      ∃ parts spelling, BinaryParts.bytes parts = bytes ∧ parts.Hold checkpoint spelling := by
  rw [← readBinary_eq_ok_iff, ofBinary]
  cases readBinary (S := S) bytes with
  | error e => simp [Except.mapError]
  | ok found => simp [Except.mapError]

/-- The bytes after which the length of a text is due: those of the version, those up to the
identifier and, if states are stored as texts, those up to the timestamp. -/
inductive LengthDue (S : Type) [Storable S] : List UInt8 → Prop
  | id {version : List UInt8} (width : version.length = 4) : LengthDue S version
  | time {version idBytes : List UInt8} {id : String} (width : version.length = 4)
      (hid : Octets.TextBytes id idBytes) : LengthDue S (version ++ idBytes)
  | state {version idBytes time : List UInt8} {id spelling : String}
      {write : S → Except String String} {read : String → S} (width : version.length = 4)
      (hid : Octets.TextBytes id idBytes) (htime : Octets.TextBytes spelling time)
      (form : (Storable.form : StoredForm S) = .text write read) :
      LengthDue S (version ++ idBytes ++ time)

theorem ofBinary_of_lengthDue {front length behind : List UInt8} (due : LengthDue S front)
    (width : length.length = 8) (h : behind.length < Octets.toNat length) :
    (ofBinary (front ++ length ++ behind) : Except (CheckpointError S) (Checkpoint S)) =
      .error (.notRead .malformed) := by
  have hnone := Octets.readText?_of_lt width h
  have version : ∀ {number : List UInt8}, number.length = 4 → ∀ rest,
      Octets.readNat? 4 (number ++ rest) = some (Octets.toNat number, rest) :=
    fun hwidth rest => Octets.readNat?_eq_some_iff.2 ⟨_, hwidth, rfl, rfl⟩
  have text : ∀ {text : String} {front : List UInt8}, Octets.TextBytes text front → ∀ rest,
      Octets.readText? (front ++ rest) = some (text, rest) :=
    fun hfront rest => Octets.readText?_eq_some_iff.2 ⟨_, hfront, rfl⟩
  cases due with
  | id hwidth =>
    simp only [ofBinary, readBinary, readHead?, List.append_assoc, version hwidth, hnone,
      Option.bind_eq_bind, Option.bind_some, Option.bind_none, Except.mapError]
  | time hwidth hid =>
    simp only [ofBinary, readBinary, readHead?, List.append_assoc, version hwidth, text hid, hnone,
      Option.bind_eq_bind, Option.bind_some, Option.bind_none, Except.mapError]
  | @state number _ _ _ spelling _ _ hwidth hid htime form =>
    simp only [ofBinary, readBinary, readHead?, List.append_assoc, version hwidth, text hid,
      text htime, Option.bind_eq_bind, Option.bind_some, Option.pure_def]
    cases Timestamp.ofText? spelling with
    | none => rfl
    | some timestamp => simp only [Option.bind_some, Octets.readState, form, hnone, Except.mapError]

/-- Bytes are read as a checkpoint if and only if they fall into its parts, which they do in one
way. A length that goes past the end is refused wherever it is due. Written again, a checkpoint is
still read, and what is written is the front of the bytes just if the timestamp was spelled there as
it is written. -/
theorem binary_layout (bytes : List UInt8) :
    (∀ checkpoint : Checkpoint S, ofBinary bytes = .ok checkpoint ↔
      ∃ parts spelling, BinaryParts.bytes parts = bytes ∧ parts.Hold checkpoint spelling) ∧
    (∀ (parts parts' : BinaryParts) (checkpoint checkpoint' : Checkpoint S)
        (spelling spelling' : String),
      parts.bytes = bytes → parts.Hold checkpoint spelling →
      parts'.bytes = bytes → parts'.Hold checkpoint' spelling' →
      parts = parts' ∧ checkpoint = checkpoint' ∧ spelling = spelling') ∧
    (∀ front length behind : List UInt8, LengthDue S front → length.length = 8 →
      bytes = front ++ length ++ behind → behind.length < Octets.toNat length →
      (ofBinary bytes : Except (CheckpointError S) (Checkpoint S)) =
        .error (.notRead .malformed)) ∧
    (ExactStorable S → ∀ (parts : BinaryParts) (checkpoint : Checkpoint S) (spelling : String),
      parts.bytes = bytes → parts.Hold checkpoint spelling →
      ∀ written, checkpoint.toBinary = .ok written →
        ofBinary written = .ok checkpoint ∧
        (written <+: bytes ↔ spelling = checkpoint.timestamp.toText)) := by
  refine ⟨fun checkpoint => ofBinary_eq_ok_iff, ?unique, ?length, ?written⟩
  case unique =>
    intro parts parts' checkpoint checkpoint' spelling spelling' hbytes h hbytes' h'
    exact h.unique h' (hbytes.trans hbytes'.symm)
  case length =>
    rintro front length behind due width rfl hlt
    exact ofBinary_of_lengthDue due width hlt
  case written =>
    rintro hexact parts checkpoint spelling rfl h written hwritten
    constructor
    · obtain ⟨hagain, hold⟩ := h.of_toBinary hwritten []
      rw [List.append_nil] at hagain
      exact ofBinary_eq_ok_iff.2 ⟨_, _, hagain, hold⟩
    · constructor
      · rintro ⟨more, hmore⟩
        obtain ⟨hagain, hold⟩ := h.of_toBinary hwritten more
        exact (h.unique hold (hmore.symm.trans hagain.symm)).2.2
      · rintro rfl
        obtain ⟨hagain, -⟩ := h.of_toBinary hwritten parts.rest
        have htime := (Octets.textBytes_iff.1 h.time).2
        rw [← htime] at hagain
        exact ⟨parts.rest, hagain.symm⟩

def smallParts : BinaryParts where
  version := [7, 0, 0, 0]
  id := [1, 0, 0, 0, 0, 0, 0, 0] ++ [97]
  time := [23, 0, 0, 0, 0, 0, 0, 0] ++ Octets.ofText "1970-01-01 00:00:02.25z"
  state := [1, 0, 0, 0, 0, 0, 0, 0] ++ [115]
  rest := [9, 9]

def smallCheckpoint : Checkpoint (Scenario.Label .exact) where
  version := 7
  id := "a"
  timestamp := ⟨2, 250000000, by decide, by decide, by decide⟩
  state := ⟨"s"⟩

theorem hold_smallParts : smallParts.Hold smallCheckpoint "1970-01-01 00:00:02.25z" where
  width := rfl
  version := rfl
  id := ⟨[1, 0, 0, 0, 0, 0, 0, 0], rfl, rfl, rfl⟩
  time := ⟨[23, 0, 0, 0, 0, 0, 0, 0], rfl, rfl, rfl⟩
  denotes := rfl
  state := ⟨"s", ⟨[1, 0, 0, 0, 0, 0, 0, 0], rfl, rfl, rfl⟩, rfl⟩

theorem binary_layout_smallParts :
    ofBinary smallParts.bytes = .ok smallCheckpoint ∧
      (∃ written, smallCheckpoint.toBinary = .ok written ∧
        ofBinary written = .ok smallCheckpoint ∧ ¬written <+: smallParts.bytes) ∧
      (ofBinary ([7, 0, 0, 0] ++ List.replicate 8 255 ++ [97]) :
        Except (CheckpointError (Scenario.Label .exact)) (Checkpoint (Scenario.Label .exact))) =
          .error (.notRead .malformed) := by
  obtain ⟨hread, -, -, hagain⟩ := binary_layout (S := Scenario.Label .exact) smallParts.bytes
  obtain ⟨-, -, hlength, -⟩ := binary_layout (S := Scenario.Label .exact)
    ([7, 0, 0, 0] ++ List.replicate 8 255 ++ [97])
  refine ⟨(hread smallCheckpoint).2 ⟨_, _, rfl, hold_smallParts⟩, ⟨_, rfl, ?_⟩, ?_⟩
  · obtain ⟨hwritten, hprefix⟩ :=
      hagain inferInstance smallParts smallCheckpoint _ rfl hold_smallParts _ rfl
    refine ⟨hwritten, fun h => ?_⟩
    have hcanonical := hprefix.1 h
    revert hcanonical
    decide
  · exact hlength [7, 0, 0, 0] (List.replicate 8 255) [97] (.id rfl) rfl rfl (by decide)

end Checkpoint

end StateMachine
