import StateMachine.Checkpoint.Binary
import StateMachine.Proofs.JsonRoundTrip
import StateMachine.Proofs.Octets

namespace StateMachine

variable {S : Type} [Storable S]

namespace Octets

theorem writeState_eq_error_iff {state : S} {reason : String} :
    writeState state = .error reason ↔ Json.writeState state = .error reason := by
  unfold writeState Json.writeState
  cases (Storable.form : StoredForm S) with
  | text write read =>
    simp only
    cases write state with
    | error e => simp [Except.map]
    | ok text => simp [Except.map]
  | variants values name index => simp

/-- A text is told from what stands behind it by its length, a variant by its width. -/
theorem readState_writeState [LawfulStorable S] {state : S} {written : List UInt8}
    (h : writeState state = .ok written) (hsize : written.length < UInt64.size)
    (rest : List UInt8) : readState (written ++ rest) = .ok (state, rest) := by
  have hlawful := LawfulStorable.lawful (S := S)
  unfold writeState at h
  unfold readState
  cases hform : (Storable.form : StoredForm S) with
  | text write read =>
    rw [hform] at h hlawful
    cases hw : write state with
    | error e =>
      simp only [hw] at h
      cases h
    | ok text =>
      simp only [hw] at h
      cases h
      rw [length_writeText, UInt64.size] at hsize
      have hlength : (ofText text).length < 256 ^ 8 := by omega
      simp only [readText?_writeText hlength, hlawful state text hw]
  | variants values name index =>
    rw [hform] at h hlawful
    cases h
    obtain ⟨hfound, -, hcount⟩ := hlawful
    obtain ⟨hindex, -⟩ := List.getElem?_eq_some_iff.1 (hfound state)
    have hplace : index state < 256 ^ 4 := Nat.lt_of_lt_of_le hindex hcount
    simp only [readNat?_ofNat hplace, hfound]

end Octets

namespace Checkpoint

theorem toBinary_eq_ok_iff (checkpoint : Checkpoint S) (bytes : List UInt8) :
    checkpoint.toBinary = .ok bytes ↔ ∃ written,
      Octets.writeState checkpoint.state = .ok written ∧
        bytes = checkpoint.writeBinary written := by
  unfold toBinary
  cases Octets.writeState checkpoint.state with
  | error reason => simp
  | ok written => simp [eq_comm]

theorem toBinary_eq_error_iff (checkpoint : Checkpoint S) (error : CheckpointError S) :
    checkpoint.toBinary = .error error ↔ checkpoint.toJson = .error error := by
  unfold toBinary toJson
  cases hb : Octets.writeState checkpoint.state with
  | error reason =>
    have hj := Octets.writeState_eq_error_iff.1 hb
    simp [hj]
  | ok bytes =>
    cases hj : Json.writeState checkpoint.state with
    | error reason =>
      rw [Octets.writeState_eq_error_iff.2 hj] at hb
      cases hb
    | ok text => simp

theorem exists_toBinary_iff (checkpoint : Checkpoint S) :
    (∃ bytes, checkpoint.toBinary = .ok bytes) ↔ ∃ text, checkpoint.toJson = .ok text := by
  constructor
  · rintro ⟨bytes, hb⟩
    cases hj : checkpoint.toJson with
    | error error =>
      rw [(checkpoint.toBinary_eq_error_iff error).2 hj] at hb
      cases hb
    | ok text => exact ⟨text, rfl⟩
  · rintro ⟨text, hj⟩
    cases hb : checkpoint.toBinary with
    | error error =>
      rw [(checkpoint.toBinary_eq_error_iff error).1 hb] at hj
      cases hj
    | ok bytes => exact ⟨bytes, rfl⟩

omit [Storable S] in
theorem readHead?_writeBinary {checkpoint : Checkpoint S} {state : List UInt8}
    (h : (checkpoint.writeBinary state).length < UInt64.size) (rest : List UInt8) :
    readHead? (checkpoint.writeBinary state ++ rest) =
      some ((checkpoint.version, checkpoint.id, checkpoint.timestamp.carried), state ++ rest) := by
  simp only [writeBinary, List.length_append, Octets.length_ofNat, Octets.length_writeText,
    UInt64.size] at h
  have hid : (Octets.ofText checkpoint.id).length < 256 ^ 8 := by omega
  have htime : (Octets.ofText checkpoint.timestamp.toText).length < 256 ^ 8 := by omega
  have hversion : checkpoint.version.toNat < 256 ^ 4 := checkpoint.version.toNat_lt_size
  simp only [readHead?, writeBinary, List.append_assoc, Octets.readNat?_ofNat hversion,
    Octets.readText?_writeText hid, Octets.readText?_writeText htime, Timestamp.ofText?_toText,
    UInt32.ofNat_toNat, Option.bind_eq_bind, Option.bind_some, Option.pure_def]

variable [LawfulStorable S]

theorem readBinary_writeBinary {checkpoint : Checkpoint S} {state : List UInt8}
    (hstate : Octets.writeState checkpoint.state = .ok state)
    (h : (checkpoint.writeBinary state).length < UInt64.size) (rest : List UInt8) :
    readBinary (checkpoint.writeBinary state ++ rest) = .ok checkpoint.carried := by
  have hsize : state.length < UInt64.size := by
    rw [writeBinary, List.length_append] at h
    omega
  simp only [readBinary, readHead?_writeBinary h, Octets.readState_writeState hstate hsize, carried]

theorem ofBinary_append {checkpoint : Checkpoint S} {bytes : List UInt8}
    (h : checkpoint.toBinary = .ok bytes) (hsize : bytes.length < UInt64.size)
    (tail : List UInt8) : ofBinary (bytes ++ tail) = .ok checkpoint.carried := by
  obtain ⟨state, hstate, rfl⟩ := (checkpoint.toBinary_eq_ok_iff bytes).1 h
  rw [ofBinary, readBinary_writeBinary hstate hsize]
  rfl

theorem ofBinary_of_toBinary {checkpoint : Checkpoint S} {bytes : List UInt8}
    (h : checkpoint.toBinary = .ok bytes) (hsize : bytes.length < UInt64.size) :
    ofBinary bytes = .ok checkpoint.carried := by
  have hread := ofBinary_append h hsize []
  rw [List.append_nil] at hread
  exact hread

/-- A checkpoint that is written as bytes is read back from them, just as it was if its timestamp
leaps at the end of a minute or not at all. The length of a text is kept in eight bytes, so this is
for fewer than `UInt64.size` bytes, as all are that memory holds. Just the checkpoints that are
written as JSON text are written as bytes; the others are refused for the same reason. -/
theorem ofBinary_toBinary (checkpoint : Checkpoint S) :
    (∀ bytes, checkpoint.toBinary = .ok bytes → bytes.length < UInt64.size →
      ofBinary bytes = .ok checkpoint.carried ∧
      (ofBinary bytes = .ok checkpoint ↔ checkpoint.timestamp.LeapsAtEnd)) ∧
    ((∃ bytes, checkpoint.toBinary = .ok bytes) ↔ ∃ text, checkpoint.toJson = .ok text) ∧
    ∀ error, checkpoint.toBinary = .error error ↔ checkpoint.toJson = .error error := by
  refine ⟨?_, checkpoint.exists_toBinary_iff, checkpoint.toBinary_eq_error_iff⟩
  intro bytes h hsize
  have hread := ofBinary_of_toBinary h hsize
  exact ⟨hread, eq_ok_iff_leapsAtEnd hread⟩

def leapBytes : List UInt8 :=
  [255, 255, 255, 255] ++
    ([11, 0, 0, 0, 0, 0, 0, 0] ++ [97, 34, 98, 92, 99, 11, 10, 240, 159, 152, 128]) ++
    ([32, 0, 0, 0, 0, 0, 0, 0] ++ Octets.ofText "-12290-01-25T15:59:60.000000001Z") ++ [2, 0, 0, 0]

theorem ofBinary_leapBytes :
    leapCheckpoint.toBinary = .ok leapBytes ∧ leapBytes.length < UInt64.size ∧
      ofBinary leapBytes = .ok leapCheckpoint := by
  have hwritten : leapCheckpoint.toBinary = .ok leapBytes := rfl
  have hsize : leapBytes.length < UInt64.size := by decide
  obtain ⟨-, hsame⟩ := (ofBinary_toBinary leapCheckpoint).1 leapBytes hwritten hsize
  exact ⟨hwritten, hsize, hsame.2 (by decide)⟩

def earlyLeapBytes : List UInt8 :=
  [1, 0, 0, 0] ++ ([1, 0, 0, 0, 0, 0, 0, 0] ++ [107]) ++
    ([30, 0, 0, 0, 0, 0, 0, 0] ++ Octets.ofText "1970-01-01T23:56:05.333333333Z") ++
    ([1, 0, 0, 0, 0, 0, 0, 0] ++ [97])

theorem ofBinary_earlyLeapBytes :
    earlyLeap.toBinary = .ok earlyLeapBytes ∧ ofBinary earlyLeapBytes ≠ .ok earlyLeap := by
  have hwritten : earlyLeap.toBinary = .ok earlyLeapBytes := rfl
  have hsize : earlyLeapBytes.length < UInt64.size := by decide
  have hread := eq_ok_iff_leapsAtEnd (ofBinary_of_toBinary hwritten hsize)
  exact ⟨hwritten, fun h => not_leapsAtEnd_earlyLeap (hread.1 h)⟩

end Checkpoint

end StateMachine
