import StateMachine.Json.Quoted
import StateMachine.Proofs.JsonSyntax

namespace StateMachine.Json

theorem hexQuad?_digitChar {n : Nat} (h : n < 32) :
    hexQuad? '0' '0' (Nat.digitChar (n / 16)) (Nat.digitChar (n % 16)) = some n := by
  have hall : ∀ m < 32,
      hexQuad? '0' '0' (Nat.digitChar (m / 16)) (Nat.digitChar (m % 16)) = some m := by decide
  exact hall n h

theorem exists_spelledBy_escapeChar (c : Char) :
    ∃ piece : Piece, piece.SpelledBy (escapeChar c) ∧
      ∀ pieces text, Piece.StandFor pieces text →
        Piece.StandFor (piece :: pieces) (c :: text) := by
  have hshort : ∀ {letter : Char}, shortEscape? letter = some c →
      ∃ piece : Piece, piece.SpelledBy ['\\', letter] ∧
        ∀ pieces text, Piece.StandFor pieces text →
          Piece.StandFor (piece :: pieces) (c :: text) := by
    intro letter he
    exact ⟨.plain c, .short he, fun _ _ => .plain⟩
  unfold escapeChar
  split
  · next h => exact hshort (by rw [h]; rfl)
  split
  · next h => exact hshort (by rw [h]; rfl)
  split
  · next h => exact hshort (by rw [h]; rfl)
  split
  · next h => exact hshort (by rw [h]; rfl)
  split
  · next h => exact hshort (by rw [h]; rfl)
  split
  · next h => exact hshort (by rw [h]; rfl)
  split
  · next h => exact hshort (by rw [h]; rfl)
  split
  · next h =>
    have hhigh : isHighSurrogate c.toNat = false := by
      simp only [isHighSurrogate, Bool.and_eq_false_iff, decide_eq_false_iff_not]
      omega
    have hlow : isLowSurrogate c.toNat = false := by
      simp only [isLowSurrogate, Bool.and_eq_false_iff, decide_eq_false_iff_not]
      omega
    refine ⟨.unit c.toNat, .unit (hexQuad?_digitChar h), fun pieces text later => ?_⟩
    have hunit := Piece.StandFor.unit hhigh hlow later
    rw [Char.ofNat_toNat] at hunit
    exact hunit
  · next hquote hback _ _ _ _ _ hc =>
    exact ⟨.plain c, .plain hquote hback (Nat.le_of_not_lt hc), fun _ _ => .plain⟩

/-- A quoted text is a string with this content. -/
theorem spelledBy_quote (text : List Char) : (Token.string (some text)).SpelledBy (quote text) := by
  have hbody : ∃ pieces, Piece.Body pieces (text.flatMap escapeChar) ∧
      Piece.StandFor pieces text := by
    induction text with
    | nil => exact ⟨[], .nil, .nil⟩
    | cons c text ih =>
      obtain ⟨pieces, hbody, hstand⟩ := ih
      obtain ⟨piece, hspelled, hc⟩ := exists_spelledBy_escapeChar c
      exact ⟨piece :: pieces, .cons hspelled hbody, hc pieces text hstand⟩
  obtain ⟨pieces, hbody, hstand⟩ := hbody
  exact .string hbody hstand

theorem Spells.quote (text : List Char) {behind : List Char} {tokens : List Token}
    (later : Spells behind tokens) :
    Spells (Json.quote text ++ behind) (.string (some text) :: tokens) :=
  .next (spelledBy_quote text) later

theorem head_toDigits {n : Nat} (h : 0 < n) : (Nat.toDigits 10 n).head? ≠ some '0' := by
  induction n using Nat.strongRecOn with
  | _ n ih =>
    by_cases hn : n < 10
    · have hall : ∀ m < 10, 0 < m → Nat.digitChar m ≠ '0' := by decide
      rw [Nat.toDigits_of_lt_base hn, List.head?_cons]
      intro he
      exact hall n hn h (Option.some.inj he)
    · have hle : 10 ≤ n := Nat.le_of_not_lt hn
      have hrest := ih (n / 10) (by omega) (by omega)
      obtain ⟨d, ds, he, -⟩ := (IsNumber.toDigits (n / 10)).exists_cons
      rw [he, List.head?_cons] at hrest
      rw [Nat.toDigits_of_base_le (by decide) hle, he, List.cons_append, List.head?_cons]
      exact hrest

theorem toDigits_of_head {n : Nat} (h : (Nat.toDigits 10 n).head? = some '0') :
    Nat.toDigits 10 n = ['0'] := by
  rcases Nat.eq_zero_or_pos n with rfl | hpos
  · rfl
  · exact (head_toDigits hpos h).elim

def Numeral.ofNat (n : Nat) : Numeral := ⟨false, Nat.toDigits 10 n, none, none⟩

theorem Numeral.number?_ofNat {n : Nat} (h : n < UInt64.size) :
    (ofNat n).number? = some (.integer n) := by
  simp only [number?, ofNat, natural, Nat.ofDigitChars_ten_toDigits]
  simp [h]

theorem Numeral.spelledBy_toDigits (n : Nat) :
    (Numeral.ofNat n).SpelledBy (Nat.toDigits 10 n) := by
  have h := Numeral.SpelledBy.intro (n := ofNat n) (.toDigits n) toDigits_of_head .absent .absent
  simpa [ofNat] using h

@[simp] theorem tokens_openBrace (rest : List Char) :
    tokens ('{' :: rest) = .openBrace :: tokens rest :=
  tokens_of_spelledBy .openBrace nofun

@[simp] theorem tokens_closeBrace (rest : List Char) :
    tokens ('}' :: rest) = .closeBrace :: tokens rest :=
  tokens_of_spelledBy .closeBrace nofun

@[simp] theorem tokens_comma (rest : List Char) : tokens (',' :: rest) = .comma :: tokens rest :=
  tokens_of_spelledBy .comma nofun

@[simp] theorem tokens_colon (rest : List Char) : tokens (':' :: rest) = .colon :: tokens rest :=
  tokens_of_spelledBy .colon nofun

@[simp] theorem tokens_quote (text rest : List Char) :
    tokens (quote text ++ rest) = .string (some text) :: tokens rest :=
  tokens_of_spelledBy (spelledBy_quote text) nofun

theorem tokens_toDigits (n : Nat) {mark : Char} (hm : EndsNumber mark) (rest : List Char) :
    tokens (Nat.toDigits 10 n ++ mark :: rest) = .number (.ofNat n) :: tokens (mark :: rest) := by
  refine tokens_of_spelledBy (.number (Numeral.spelledBy_toDigits n)) fun _ c hc => ?_
  cases hc
  exact hm

end StateMachine.Json
