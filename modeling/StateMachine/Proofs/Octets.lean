import Mathlib.Algebra.Group.Nat.Defs
import StateMachine.Octets

namespace StateMachine.Octets

@[simp] theorem length_ofNat (width number : Nat) : (ofNat width number).length = width := by
  induction width generalizing number with
  | zero => rfl
  | succ width ih => rw [ofNat, List.length_cons, ih]

theorem toNat_ofNat {width number : Nat} (h : number < 256 ^ width) :
    toNat (ofNat width number) = number := by
  induction width generalizing number with
  | zero =>
    rw [Nat.pow_zero, Nat.lt_one_iff] at h
    rw [h]
    rfl
  | succ width ih =>
    have hrest : number / 256 < 256 ^ width := by
      apply Nat.div_lt_of_lt_mul
      rw [Nat.mul_comm, ← Nat.pow_succ]
      exact h
    rw [ofNat, toNat, ih hrest, UInt8.toNat_ofNat']
    exact Nat.mod_add_div number 256

theorem split?_append (front rest : List UInt8) :
    split? front.length (front ++ rest) = some (front, rest) := by
  have hle : front.length ≤ (front ++ rest).length := by simp
  rw [split?, if_pos hle, List.take_left, List.drop_left]

theorem readNat?_ofNat {width number : Nat} (h : number < 256 ^ width) (rest : List UInt8) :
    readNat? width (ofNat width number ++ rest) = some (number, rest) := by
  have hs := split?_append (ofNat width number) rest
  rw [length_ofNat] at hs
  simp only [readNat?, hs, Option.map_some, toNat_ofNat h]

theorem toText?_ofText (text : String) : toText? (ofText text) = some text := by
  have hbytes : (ofText text).toByteArray = text.toUTF8 := by
    apply ByteArray.ext
    rw [List.data_toByteArray, ofText, Array.toArray_toList]
  rw [toText?, hbytes, String.fromUTF8?, String.toUTF8_eq_toByteArray, dif_pos text.isValidUTF8]
  rfl

theorem readText?_writeText {text : String} (h : (ofText text).length < 256 ^ 8)
    (rest : List UInt8) : readText? (writeText text ++ rest) = some (text, rest) := by
  simp only [readText?, writeText, List.append_assoc, readNat?_ofNat h, split?_append,
    toText?_ofText, Option.bind_eq_bind, Option.bind_some, Option.pure_def]

theorem length_writeText (text : String) :
    (writeText text).length = 8 + (ofText text).length := by
  rw [writeText, List.length_append, length_ofNat]

end StateMachine.Octets
