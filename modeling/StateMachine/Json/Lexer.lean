import StateMachine.Json.Token

namespace StateMachine.Json

theorem length_digits_le (text : List Char) : (digits text).2.length ≤ text.length :=
  (List.dropWhile_sublist _).length_le

theorem length_lt_of_digits {text ds rest : List Char} {d : Char}
    (h : digits text = (d :: ds, rest)) : rest.length < text.length := by
  simp only [digits, Prod.mk.injEq] at h
  have hs := congrArg List.length (List.takeWhile_append_dropWhile (p := Char.isDigit) (l := text))
  rw [List.length_append, h.1, h.2] at hs
  simp only [List.length_cons] at hs
  omega

theorem length_lt_of_whole? {text ds rest : List Char} (h : whole? text = some (ds, rest)) :
    rest.length < text.length := by
  unfold whole? at h
  split at h
  · cases h
  · next hd =>
    split at h
    · cases h
    · cases h
      exact length_lt_of_digits hd

theorem length_le_of_fraction? {text rest : List Char} {ds : Option (List Char)}
    (h : fraction? text = some (ds, rest)) : rest.length ≤ text.length := by
  unfold fraction? at h
  split at h
  · next text =>
    split at h
    · cases h
    · cases h
      have := length_digits_le text
      simp_all
      omega
  · cases h
    exact Nat.le_refl _

theorem length_exponentSign_le (text : List Char) :
    (exponentSign text).2.length ≤ text.length := by
  unfold exponentSign
  split <;> simp

theorem length_le_of_exponent? {text rest : List Char} {e : Option (Bool × List Char)}
    (h : exponent? text = some (e, rest)) : rest.length ≤ text.length := by
  unfold exponent? at h
  split at h
  · cases h
    exact Nat.le_refl _
  · next c text =>
    split at h
    · have hsign := length_exponentSign_le text
      have hdigits := length_digits_le (exponentSign text).2
      simp only at h
      split at h
      · cases h
      · cases h
        simp_all
        omega
    · cases h
      exact Nat.le_refl _

theorem length_lt_of_numeral? {negative : Bool} {text rest : List Char} {n : Numeral}
    (h : numeral? negative text = some (n, rest)) : rest.length < text.length := by
  simp only [numeral?, Option.bind_eq_bind, Option.bind_eq_some_iff, Prod.exists,
    Option.pure_def, Option.some.injEq, Prod.mk.injEq] at h
  obtain ⟨_, _, hw, _, _, hf, _, _, he, _, rfl⟩ := h
  have := length_lt_of_whole? hw
  have := length_le_of_fraction? hf
  have := length_le_of_exponent? he
  omega

theorem length_lt_of_pieces? {text rest : List Char} {ps : List Piece}
    (h : pieces? text = some (ps, rest)) : rest.length < text.length := by
  fun_induction pieces? text generalizing ps rest with
  | case1 => cases h
  | case2 =>
    cases h
    simp
  | case3 a b c d text ih =>
    simp only [Option.bind_eq_bind, Option.bind_eq_some_iff, Prod.exists, Option.pure_def,
      Option.some.injEq, Prod.mk.injEq] at h
    obtain ⟨_, _, _, _, hp, _, rfl⟩ := h
    have := ih hp
    simp only [List.length_cons]
    omega
  | case4 c text _ ih =>
    simp only [Option.bind_eq_bind, Option.bind_eq_some_iff, Prod.exists, Option.pure_def,
      Option.some.injEq, Prod.mk.injEq] at h
    obtain ⟨_, _, _, _, hp, _, rfl⟩ := h
    have := ih hp
    simp only [List.length_cons]
    omega
  | case5 => cases h
  | case6 c text _ _ _ _ ih =>
    simp only [Option.bind_eq_bind, Option.bind_eq_some_iff, Prod.exists, Option.pure_def,
      Option.some.injEq, Prod.mk.injEq] at h
    obtain ⟨_, _, hp, _, rfl⟩ := h
    have := ih hp
    simp only [List.length_cons]
    omega

theorem length_lt_of_tokenAt? {text rest : List Char} {token : Token}
    (h : tokenAt? text = some (token, rest)) : rest.length < text.length := by
  unfold tokenAt? at h
  split at h
  case h_1 => cases h
  case h_8 =>
    simp only [Option.map_eq_some_iff, Prod.mk.injEq, Prod.exists] at h
    obtain ⟨_, _, hp, _, rfl⟩ := h
    have := length_lt_of_pieces? hp
    simp only [List.length_cons]
    omega
  case h_12 =>
    simp only [Option.map_eq_some_iff, Prod.mk.injEq, Prod.exists] at h
    obtain ⟨_, _, hn, _, rfl⟩ := h
    have := length_lt_of_numeral? hn
    simp only [List.length_cons]
    omega
  case h_13 =>
    simp only [Option.map_eq_some_iff, Prod.mk.injEq, Prod.exists] at h
    obtain ⟨_, _, hn, _, rfl⟩ := h
    exact length_lt_of_numeral? hn
  all_goals
    cases h
    simp only [List.length_cons]
    omega

def skipSpace (text : List Char) : List Char := text.dropWhile isSpace

theorem length_skipSpace_le (text : List Char) : (skipSpace text).length ≤ text.length :=
  (List.dropWhile_sublist _).length_le

def tokens (text : List Char) : List Token :=
  if (skipSpace text).isEmpty then []
  else
    match h : tokenAt? (skipSpace text) with
    | none => [.broken]
    | some (token, rest) =>
      have := length_lt_of_tokenAt? h
      have := length_skipSpace_le text
      token :: tokens rest
termination_by text.length
decreasing_by omega

end StateMachine.Json
