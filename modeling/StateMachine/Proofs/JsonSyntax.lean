import Mathlib.Data.List.Chain
import StateMachine.Json.Lexer
import StateMachine.Json.Skip
import StateMachine.Proofs.Timestamp

namespace StateMachine.Json

inductive Piece.SpelledBy : Piece → List Char → Prop where
  | plain {c : Char} (quote : c ≠ '"') (back : c ≠ '\\') (printed : 32 ≤ c.toNat) :
    SpelledBy (.plain c) [c]
  | short {letter c : Char} (stands : shortEscape? letter = some c) :
    SpelledBy (.plain c) ['\\', letter]
  | unit {a b c d : Char} {value : Nat} (stands : hexQuad? a b c d = some value) :
    SpelledBy (.unit value) ['\\', 'u', a, b, c, d]

inductive Piece.Body : List Piece → List Char → Prop where
  | nil : Body [] []
  | cons {piece : Piece} {pieces : List Piece} {front rest : List Char}
      (first : piece.SpelledBy front) (later : Body pieces rest) :
    Body (piece :: pieces) (front ++ rest)

/-- The text that pieces stand for. Of two code units, a high surrogate before a low one, is made
one character; other surrogates stand for nothing. -/
inductive Piece.StandFor : List Piece → List Char → Prop where
  | nil : StandFor [] []
  | plain {c : Char} {pieces : List Piece} {text : List Char} (later : StandFor pieces text) :
    StandFor (.plain c :: pieces) (c :: text)
  | unit {value : Nat} {pieces : List Piece} {text : List Char}
      (high : isHighSurrogate value = false) (low : isLowSurrogate value = false)
      (later : StandFor pieces text) :
    StandFor (.unit value :: pieces) (Char.ofNat value :: text)
  | pair {first second : Nat} {pieces : List Piece} {text : List Char}
      (high : isHighSurrogate first = true) (low : isLowSurrogate second = true)
      (later : StandFor pieces text) :
    StandFor (.unit first :: .unit second :: pieces)
      (Char.ofNat (0x10000 + (first - 0xd800) * 0x400 + (second - 0xdc00)) :: text)

inductive Numeral.FractionSpelledBy : Option (List Char) → List Char → Prop where
  | absent : FractionSpelledBy none []
  | present {digits : List Char} (number : IsNumber digits) :
    FractionSpelledBy (some digits) ('.' :: digits)

inductive Numeral.ExponentSpelledBy : Option (Bool × List Char) → List Char → Prop where
  | absent : ExponentSpelledBy none []
  | present {letter : Char} {digits sign : List Char} {negative : Bool}
      (marks : letter = 'e' ∨ letter = 'E') (number : IsNumber digits)
      (signs : sign = [] ∧ negative = false ∨ sign = ['+'] ∧ negative = false ∨
        sign = ['-'] ∧ negative = true) :
    ExponentSpelledBy (some (negative, digits)) (letter :: sign ++ digits)

/-- A sign if the number is negative, digits that begin with zero only if they are one, a fraction
and an exponent. -/
inductive Numeral.SpelledBy : Numeral → List Char → Prop where
  | intro {n : Numeral} {fraction exponent : List Char} (whole : IsNumber n.whole)
      (zero : n.whole.head? = some '0' → n.whole = ['0'])
      (hasFraction : FractionSpelledBy n.fraction fraction)
      (hasExponent : ExponentSpelledBy n.exponent exponent) :
    SpelledBy n ((if n.negative then ['-'] else []) ++ (n.whole ++ (fraction ++ exponent)))

inductive Token.SpelledBy : Token → List Char → Prop where
  | openBrace : SpelledBy .openBrace ['{']
  | closeBrace : SpelledBy .closeBrace ['}']
  | openBracket : SpelledBy .openBracket ['[']
  | closeBracket : SpelledBy .closeBracket [']']
  | comma : SpelledBy .comma [',']
  | colon : SpelledBy .colon [':']
  | null : SpelledBy .null ['n', 'u', 'l', 'l']
  | yes : SpelledBy (.boolean true) ['t', 'r', 'u', 'e']
  | no : SpelledBy (.boolean false) ['f', 'a', 'l', 's', 'e']
  | number {n : Numeral} {text : List Char} (spelled : n.SpelledBy text) :
    SpelledBy (.number n) text
  | string {pieces : List Piece} {body text : List Char} (spelled : Piece.Body pieces body)
      (stands : Piece.StandFor pieces text) :
    SpelledBy (.string (some text)) ('"' :: body ++ ['"'])
  | unpaired {pieces : List Piece} {body : List Char} (spelled : Piece.Body pieces body)
      (lone : ∀ text, ¬Piece.StandFor pieces text) :
    SpelledBy (.string none) ('"' :: body ++ ['"'])

/-- A text spells tokens with any white space before them and behind the last. -/
inductive Spells : List Char → List Token → Prop where
  | nil {space : List Char} (blank : ∀ c ∈ space, isSpace c = true) : Spells space []
  | cons {space front behind : List Char} {token : Token} {tokens : List Token}
      (blank : ∀ c ∈ space, isSpace c = true) (first : token.SpelledBy front)
      (later : Spells behind tokens) :
    Spells (space ++ (front ++ behind)) (token :: tokens)

theorem Spells.next {front behind : List Char} {token : Token} {tokens : List Token}
    (first : token.SpelledBy front) (later : Spells behind tokens) :
    Spells (front ++ behind) (token :: tokens) :=
  .cons (List.forall_mem_nil _) first later

theorem Spells.mark {c : Char} {behind : List Char} {token : Token} {tokens : List Token}
    (first : token.SpelledBy [c]) (later : Spells behind tokens) :
    Spells (c :: behind) (token :: tokens) :=
  .next first later

inductive Phrase.Kind where
  | value
  | elements
  | members
  deriving DecidableEq, Repr

/-- The tokens of values, nested to any depth. -/
inductive Phrase : Phrase.Kind → List Token → Prop where
  | null : Phrase .value [.null]
  | boolean (value : Bool) : Phrase .value [.boolean value]
  | number (numeral : Numeral) : Phrase .value [.number numeral]
  | string (content : Option (List Char)) : Phrase .value [.string content]
  | emptySequence : Phrase .value [.openBracket, .closeBracket]
  | sequence {tokens : List Token} (inner : Phrase .elements tokens) :
    Phrase .value (.openBracket :: (tokens ++ [.closeBracket]))
  | emptyMap : Phrase .value [.openBrace, .closeBrace]
  | map {tokens : List Token} (inner : Phrase .members tokens) :
    Phrase .value (.openBrace :: (tokens ++ [.closeBrace]))
  | lastElement {tokens : List Token} (last : Phrase .value tokens) : Phrase .elements tokens
  | element {tokens rest : List Token} (first : Phrase .value tokens)
      (later : Phrase .elements rest) :
    Phrase .elements (tokens ++ .comma :: rest)
  | lastMember {tokens : List Token} (key : Option (List Char)) (last : Phrase .value tokens) :
    Phrase .members (.string key :: .colon :: tokens)
  | member {tokens rest : List Token} (key : Option (List Char)) (first : Phrase .value tokens)
      (later : Phrase .members rest) :
    Phrase .members (.string key :: .colon :: (tokens ++ .comma :: rest))

theorem join?_unit {value : Nat} (hhigh : isHighSurrogate value = false)
    (hlow : isLowSurrogate value = false) (rest : List Piece) :
    join? (.unit value :: rest) = (join? rest).map (Char.ofNat value :: ·) := by
  cases rest with
  | nil => simp only [join?, hhigh, hlow, Bool.or_false, Bool.false_eq_true, if_false]
  | cons next rest =>
    cases next <;> simp only [join?, hhigh, hlow, Bool.or_false, Bool.false_eq_true, if_false]

theorem Piece.join?_eq_some_iff {pieces : List Piece} {text : List Char} :
    join? pieces = some text ↔ StandFor pieces text := by
  constructor
  · intro h
    fun_induction join? pieces generalizing text with
    | case1 =>
      cases h
      exact .nil
    | case2 c rest ih =>
      obtain ⟨later, hlater, rfl⟩ := Option.map_eq_some_iff.1 h
      exact .plain (ih hlater)
    | case3 rest high low hhigh hlow ih =>
      obtain ⟨later, hlater, rfl⟩ := Option.map_eq_some_iff.1 h
      exact .pair hhigh hlow (ih hlater)
    | case4 => cases h
    | case5 => cases h
    | case6 high low rest hhigh hlow ih =>
      obtain ⟨later, hlater, rfl⟩ := Option.map_eq_some_iff.1 h
      exact .unit (Bool.eq_false_iff.2 hhigh) (Bool.eq_false_iff.2 hlow) (ih hlater)
    | case7 => cases h
    | case8 value rest _ hvalue ih =>
      obtain ⟨later, hlater, rfl⟩ := Option.map_eq_some_iff.1 h
      rw [Bool.or_eq_true, not_or] at hvalue
      exact .unit (Bool.eq_false_iff.2 hvalue.1) (Bool.eq_false_iff.2 hvalue.2) (ih hlater)
  · intro h
    induction h with
    | nil => rw [join?]
    | plain _ ih => rw [join?, ih, Option.map_some]
    | unit hhigh hlow _ ih => rw [join?_unit hhigh hlow, ih, Option.map_some]
    | pair hhigh hlow _ ih => rw [join?, if_pos hhigh, if_pos hlow, ih, Option.map_some]

theorem pieces?_cons {c : Char} (hquote : c ≠ '"') (hback : c ≠ '\\') (hc : 32 ≤ c.toNat)
    (rest : List Char) :
    pieces? (c :: rest) = (pieces? rest).map fun (pieces, rest) => (.plain c :: pieces, rest) := by
  have hplain : ¬(c.toNat < 32 ∨ c = '\\') := by
    rintro (hlt | rfl)
    · omega
    · exact hback rfl
  rw [pieces?, if_neg hplain]
  · cases pieces? rest <;> rfl
  · exact hquote
  · intro _ _ _ _ _ he
    exact (hback he).elim
  · intro _ _ he
    exact (hback he).elim

theorem pieces?_shortEscape {letter c : Char} (hu : letter ≠ 'u')
    (he : shortEscape? letter = some c) (rest : List Char) :
    pieces? ('\\' :: letter :: rest) =
      (pieces? rest).map fun (pieces, rest) => (.plain c :: pieces, rest) := by
  rw [pieces?, he]
  · cases pieces? rest <;> rfl
  · intro _ _ _ _ _ h
    exact (hu h).elim

theorem Piece.SpelledBy.pieces? {piece : Piece} {front : List Char} (h : piece.SpelledBy front)
    (rest : List Char) : Json.pieces? (front ++ rest) =
      (Json.pieces? rest).map fun (pieces, rest) => (piece :: pieces, rest) := by
  cases h with
  | plain hquote hback hprinted => exact pieces?_cons hquote hback hprinted rest
  | @short letter c hstands =>
    have hu : letter ≠ 'u' := by
      rintro rfl
      cases hstands
    exact pieces?_shortEscape hu hstands rest
  | unit hstands =>
    simp only [List.cons_append, List.nil_append]
    rw [Json.pieces?, hstands]
    cases Json.pieces? rest <;> rfl

theorem Piece.Body.pieces? {pieces : List Piece} {body : List Char} (h : Piece.Body pieces body)
    (rest : List Char) : Json.pieces? (body ++ '"' :: rest) = some (pieces, rest) := by
  induction h with
  | nil => rw [List.nil_append, Json.pieces?]
  | cons first _ ih => rw [List.append_assoc, first.pieces?, ih, Option.map_some]

def EndsNumber (mark : Char) : Prop :=
  mark.isDigit = false ∧ mark ≠ '.' ∧ mark ≠ 'e' ∧ mark ≠ 'E'

instance (mark : Char) : Decidable (EndsNumber mark) := inferInstanceAs (Decidable (_ ∧ _))

def NumberEnds (rest : List Char) : Prop := ∀ mark ∈ rest.head?, EndsNumber mark

theorem digits_append {ds rest : List Char} (h : IsNumber ds)
    (hr : ∀ mark ∈ rest.head?, mark.isDigit = false) : digits (ds ++ rest) = (ds, rest) := by
  cases rest with
  | nil =>
    rw [digits, List.append_nil, List.takeWhile_eq_self_iff.2 h.isDigit,
      List.dropWhile_eq_nil_iff.2 h.isDigit]
  | cons mark rest =>
    rw [digits, h.takeWhile_append (hr mark rfl), h.dropWhile_append (hr mark rfl)]

theorem tokenAt?_of_isDigit {c : Char} (h : c.isDigit = true) (rest : List Char) :
    tokenAt? (c :: rest) =
      (numeral? false (c :: rest)).map fun (numeral, rest) => (.number numeral, rest) := by
  rw [tokenAt?]
  · intro he
    cases he
  all_goals
    intro tail he
    cases he
    cases h

namespace Numeral

theorem whole?_append {ds rest : List Char} (h : IsNumber ds)
    (hzero : ds.head? = some '0' → ds = ['0'])
    (hr : ∀ mark ∈ rest.head?, mark.isDigit = false) : whole? (ds ++ rest) = some (ds, rest) := by
  have hdigits := digits_append h hr
  obtain ⟨d, tail, rfl, -⟩ := h.exists_cons
  rw [whole?, hdigits]
  refine if_neg ?_
  rintro ⟨rfl, hne⟩
  cases hzero rfl
  cases hne

theorem FractionSpelledBy.fraction? {value : Option (List Char)} {front rest : List Char}
    (h : FractionSpelledBy value front)
    (hr : ∀ mark ∈ rest.head?, mark.isDigit = false ∧ mark ≠ '.') :
    Json.fraction? (front ++ rest) = some (value, rest) := by
  cases h with
  | absent =>
    rw [List.nil_append, Json.fraction?]
    rintro tail rfl
    exact (hr '.' rfl).2 rfl
  | present number =>
    have hdigits := digits_append number fun mark hmark => (hr mark hmark).1
    obtain ⟨d, tail, rfl, -⟩ := number.exists_cons
    rw [List.cons_append, Json.fraction?, hdigits]

theorem ExponentSpelledBy.exponent? {value : Option (Bool × List Char)} {front rest : List Char}
    (h : ExponentSpelledBy value front) (hr : NumberEnds rest) :
    Json.exponent? (front ++ rest) = some (value, rest) := by
  cases h with
  | absent =>
    cases rest with
    | nil => rfl
    | cons mark rest =>
      obtain ⟨-, -, he, hE⟩ := hr mark rfl
      rw [List.nil_append, Json.exponent?, if_neg]
      rintro (h | h)
      · exact he h
      · exact hE h
  | @present letter digits sign negative marks number signs =>
    have hdigits := digits_append number fun mark hmark => (hr mark hmark).1
    have hsign : exponentSign (sign ++ (digits ++ rest)) = (negative, digits ++ rest) := by
      rcases signs with ⟨rfl, rfl⟩ | ⟨rfl, rfl⟩ | ⟨rfl, rfl⟩
      · obtain ⟨d, tail, rfl, hd⟩ := number.exists_cons
        rw [List.nil_append, List.cons_append, exponentSign]
        · rintro _ ⟨⟩
          cases hd
        · rintro _ ⟨⟩
          cases hd
      · rfl
      · rfl
    rw [List.cons_append, List.cons_append, List.append_assoc, Json.exponent?, if_pos marks, hsign]
    obtain ⟨d, tail, rfl, -⟩ := number.exists_cons
    simp only [hdigits]

theorem ExponentSpelledBy.head {value : Option (Bool × List Char)} {front rest : List Char}
    (h : ExponentSpelledBy value front) (hr : NumberEnds rest) :
    ∀ mark ∈ (front ++ rest).head?, mark.isDigit = false ∧ mark ≠ '.' := by
  cases h with
  | absent =>
    intro mark hmark
    exact ⟨(hr mark hmark).1, (hr mark hmark).2.1⟩
  | present marks =>
    rintro mark ⟨⟩
    rcases marks with rfl | rfl <;> decide

theorem FractionSpelledBy.head {value : Option (List Char)} {front rest : List Char}
    (h : FractionSpelledBy value front) (hr : ∀ mark ∈ rest.head?, mark.isDigit = false) :
    ∀ mark ∈ (front ++ rest).head?, mark.isDigit = false := by
  cases h with
  | absent => exact hr
  | present =>
    rintro mark ⟨⟩
    decide

theorem numeral?_parts {n : Numeral} {fraction exponent rest : List Char} (whole : IsNumber n.whole)
    (zero : n.whole.head? = some '0' → n.whole = ['0'])
    (hfraction : FractionSpelledBy n.fraction fraction)
    (hexponent : ExponentSpelledBy n.exponent exponent) (hr : NumberEnds rest) :
    numeral? n.negative (n.whole ++ (fraction ++ (exponent ++ rest))) = some (n, rest) := by
  have hend := hexponent.head hr
  have hpoint := hfraction.head fun mark hmark => (hend mark hmark).1
  simp only [numeral?, whole?_append whole zero hpoint, hfraction.fraction? hend,
    hexponent.exponent? hr, Option.bind_eq_bind, Option.bind_some, Option.pure_def]

theorem SpelledBy.tokenAt? {n : Numeral} {front rest : List Char} (h : n.SpelledBy front)
    (hr : NumberEnds rest) : Json.tokenAt? (front ++ rest) = some (.number n, rest) := by
  cases h with
  | intro whole zero hfraction hexponent =>
    have hread := numeral?_parts whole zero hfraction hexponent hr
    obtain ⟨negative, digits, fraction, exponent⟩ := n
    simp only [List.append_assoc]
    cases negative with
    | true =>
      simp only [if_true, List.cons_append, List.nil_append, Json.tokenAt?, hread, Option.map_some]
    | false =>
      obtain ⟨d, tail, rfl, hd⟩ := whole.exists_cons
      simp only [Bool.false_eq_true, if_false, List.nil_append, List.cons_append] at hread ⊢
      rw [tokenAt?_of_isDigit hd, hread, Option.map_some]

end Numeral

theorem isSpace_of_isDigit {c : Char} (h : c.isDigit = true) : isSpace c = false := by
  simp only [isSpace, Bool.or_eq_false_iff, decide_eq_false_iff_not]
  refine ⟨⟨⟨?_, ?_⟩, ?_⟩, ?_⟩ <;>
    · rintro rfl
      cases h

namespace Token

def isNumber : Token → Bool
  | number _ => true
  | _ => false

theorem SpelledBy.tokenAt? {token : Token} {front rest : List Char} (h : token.SpelledBy front)
    (hr : token.isNumber = true → NumberEnds rest) :
    Json.tokenAt? (front ++ rest) = some (token, rest) := by
  cases h with
  | number spelled => exact spelled.tokenAt? (hr rfl)
  | string spelled stands =>
    have hjoin := Piece.join?_eq_some_iff.2 stands
    simp only [List.cons_append, List.append_assoc, List.nil_append, Json.tokenAt?, spelled.pieces?,
      Option.map_some, hjoin]
  | @unpaired pieces body spelled lone =>
    have hjoin : join? pieces = none :=
      Option.eq_none_iff_forall_ne_some.2 fun text h => lone text (Piece.join?_eq_some_iff.1 h)
    simp only [List.cons_append, List.append_assoc, List.nil_append, Json.tokenAt?, spelled.pieces?,
      Option.map_some, hjoin]
  | _ => simp only [List.cons_append, List.nil_append, Json.tokenAt?]

/-- A token begins with a mark of its own; only a number can begin like the rest of one. -/
theorem SpelledBy.exists_cons {token : Token} {front : List Char} (h : token.SpelledBy front) :
    ∃ c tail, front = c :: tail ∧ isSpace c = false ∧
      (token.isNumber = false → EndsNumber c) := by
  cases h with
  | @number n front spelled =>
    cases spelled with
    | intro whole =>
      obtain ⟨negative, digits, fraction, exponent⟩ := n
      cases negative with
      | true => exact ⟨'-', _, rfl, by decide, nofun⟩
      | false =>
        obtain ⟨d, tail, rfl, hd⟩ := whole.exists_cons
        exact ⟨d, _, rfl, isSpace_of_isDigit hd, nofun⟩
  | _ => exact ⟨_, _, rfl, by decide, fun _ => by decide⟩

end Token

theorem tokens_eq (text : List Char) :
    tokens text =
      if (skipSpace text).isEmpty then []
      else
        match tokenAt? (skipSpace text) with
        | none => [.broken]
        | some (token, rest) => token :: tokens rest := by
  rw [tokens]
  congr 1
  split <;> next h => simp only [h]

theorem tokens_of_skipSpace {text front rest : List Char} {token : Token}
    (hs : skipSpace text = front) (h : tokenAt? front = some (token, rest)) :
    tokens text = token :: tokens rest := by
  rw [tokens_eq, hs, h]
  cases front with
  | nil => cases h
  | cons => rfl

theorem skipSpace_cons {c : Char} (hc : isSpace c = false) (text : List Char) :
    skipSpace (c :: text) = c :: text := by
  rw [skipSpace, List.dropWhile_cons, hc]
  rfl

theorem tokens_of_spelledBy {token : Token} {front rest : List Char} (h : token.SpelledBy front)
    (hr : token.isNumber = true → NumberEnds rest) :
    tokens (front ++ rest) = token :: tokens rest := by
  have hread := h.tokenAt? hr
  obtain ⟨c, tail, rfl, hc, -⟩ := h.exists_cons
  exact tokens_of_skipSpace (skipSpace_cons hc _) hread

theorem tokens_space {space : List Char} (blank : ∀ c ∈ space, isSpace c = true)
    (text : List Char) : tokens (space ++ text) = tokens text := by
  have hskip : skipSpace (space ++ text) = skipSpace text := List.dropWhile_append_of_pos blank
  rw [tokens_eq, hskip, ← tokens_eq]

theorem tokens_eq_nil_iff {text : List Char} :
    tokens text = [] ↔ ∀ c ∈ text, isSpace c = true := by
  rw [← List.dropWhile_eq_nil_iff, ← skipSpace, tokens_eq]
  cases skipSpace text with
  | nil => simp
  | cons c rest =>
    cases tokenAt? (c :: rest) <;> simp

@[simp] theorem tokens_nil : tokens [] = [] :=
  tokens_eq_nil_iff.2 fun _ hc => absurd hc List.not_mem_nil

theorem tokens_of_spelledBy_whole {token : Token} {text : List Char} (h : token.SpelledBy text) :
    tokens text = [token] := by
  have hread : tokens (text ++ []) = token :: tokens [] := tokens_of_spelledBy h nofun
  rw [List.append_nil, tokens_nil] at hread
  exact hread

theorem endsNumber_of_isSpace {c : Char} (h : isSpace c = true) : EndsNumber c := by
  simp only [isSpace, Bool.or_eq_true, decide_eq_true_eq] at h
  rcases h with ((rfl | rfl) | rfl) | rfl <;> decide

/-- Of two neighbours, at most one is a number. -/
def Separate (tokens : List Token) : Prop :=
  tokens.IsChain fun first second => first.isNumber = true → second.isNumber = false

/-- A text is cut into the tokens that it spells, if no number runs into the next, and the last does
not run into what stands behind the text. -/
theorem tokens_append_of_spells {text tail : List Char} {expected : List Token}
    (h : Spells text expected) (hapart : Separate expected)
    (hlast : ∀ token ∈ expected.getLast?, token.isNumber = true → NumberEnds tail) :
    tokens (text ++ tail) = expected ++ tokens tail := by
  induction h with
  | nil blank => exact tokens_space blank tail
  | @cons space front behind token rest blank first later ih =>
    have hspace : ∀ {c : Char} {space text : List Char}, (∀ d ∈ c :: space, isSpace d = true) →
        NumberEnds (c :: space ++ text) := by
      rintro c space text blank _ ⟨⟩
      exact endsNumber_of_isSpace (blank _ List.mem_cons_self)
    -- A number is ended by white space, by the token behind it, which is no number, or by the tail.
    have hends : token.isNumber = true → NumberEnds (behind ++ tail) := by
      intro hnumber
      cases later with
      | nil blank =>
        cases behind with
        | nil => exact hlast token rfl hnumber
        | cons => exact hspace blank
      | @cons space front _ next _ blank first =>
        cases space with
        | nil =>
          obtain ⟨c, text, rfl, -, hc⟩ := first.exists_cons
          rintro _ ⟨⟩
          exact hc ((List.isChain_cons_cons.1 hapart).1 hnumber)
        | cons =>
          rw [List.append_assoc]
          exact hspace blank
    have hrest : ∀ token ∈ rest.getLast?, token.isNumber = true → NumberEnds tail := by
      intro last hmem
      apply hlast
      cases rest with
      | nil => cases hmem
      | cons => exact hmem
    rw [List.append_assoc, List.append_assoc, tokens_space blank, tokens_of_spelledBy first hends,
      ih hapart.tail hrest, List.cons_append]

theorem tokens_of_spells {text : List Char} {expected : List Token} (h : Spells text expected)
    (hapart : Separate expected) : tokens text = expected := by
  have hread : tokens (text ++ []) = expected ++ tokens [] :=
    tokens_append_of_spells h hapart (by nofun)
  rw [tokens_nil, List.append_nil, List.append_nil] at hread
  exact hread

namespace Separate

theorem singleton (token : Token) : Separate [token] := List.IsChain.singleton token

theorem cons {token : Token} {tokens : List Token} (h : token.isNumber = false)
    (later : Separate tokens) : Separate (token :: tokens) := by
  refine List.IsChain.cons later fun _ _ hnumber => ?_
  rw [h] at hnumber
  cases hnumber

theorem append_cons {token : Token} {tokens rest : List Token} (first : Separate tokens)
    (h : token.isNumber = false) (later : Separate rest) :
    Separate (tokens ++ token :: rest) := by
  refine List.isChain_append.2 ⟨first, later.cons h, fun _ _ next hnext _ => ?_⟩
  cases hnext
  exact h

end Separate

theorem Phrase.separate {kind : Kind} {tokens : List Token} (h : Phrase kind tokens) :
    Separate tokens := by
  induction h with
  | null | boolean | number | string => exact .singleton _
  | emptySequence | emptyMap => exact .cons rfl (.singleton _)
  | sequence _ ih | map _ ih => exact .cons rfl (ih.append_cons rfl .nil)
  | lastElement _ ih => exact ih
  | element _ _ ih ihLater => exact ih.append_cons rfl ihLater
  | lastMember _ _ ih => exact .cons rfl (.cons rfl ih)
  | member _ _ _ ih ihLater => exact .cons rfl (.cons rfl (ih.append_cons rfl ihLater))

/-- The tokens behind a value of which so much is passed over already. -/
def resume? : Expected → List Frame → List Token → Option (List Token)
  | .separator, [], rest => some rest
  | expected, frames, rest => skipFrom expected frames rest

theorem skipFrom_cons (expected : Expected) (frames : List Frame) (token : Token)
    (rest : List Token) : skipFrom expected frames (token :: rest) =
      (advance? expected frames token).bind fun next => resume? next.1 next.2 rest := by
  rw [skipFrom]
  cases advance? expected frames token with
  | none => rfl
  | some next =>
    obtain ⟨expected, frames⟩ := next
    cases expected <;> cases frames <;> rfl

def Expected.OfValue (expected : Expected) : Prop := expected = .value ∨ expected = .firstElement

theorem skipFrom_begin {expected : Expected} (he : expected.OfValue) (frames : List Frame)
    {token : Token} (ht : token ≠ .closeBracket) (rest : List Token) :
    skipFrom expected frames (token :: rest) =
      (beginValue? frames token).bind fun next => resume? next.1 next.2 rest := by
  have hadvance : advance? expected frames token = beginValue? frames token := by
    rcases he with rfl | rfl
    · rw [advance?]
    · rw [advance?]
      intro _ _ hclose
      exact ht hclose
  rw [skipFrom_cons, hadvance]

def Expected.OfKey (expected : Expected) : Prop := expected = .key ∨ expected = .firstKey

theorem skipFrom_key {expected : Expected} (he : expected.OfKey) (frames : List Frame)
    (key : Option (List Char)) (rest : List Token) :
    skipFrom expected frames (.string key :: .colon :: rest) = skipFrom .value frames rest := by
  have hadvance : advance? expected frames (.string key) = some (.colon, frames) := by
    rcases he with rfl | rfl
    · rw [advance?]
    · rw [advance?]
  rw [skipFrom_cons, hadvance]
  exact skipFrom_cons .colon frames .colon rest

/-- What is expected when a part of the grammar has been passed over. A part between brackets is
taken with the bracket that closes it. -/
def Phrase.Kind.Skips : Kind → List Token → Prop
  | .value, tokens => ∀ expected frames rest, expected.OfValue →
    skipFrom expected frames (tokens ++ rest) = resume? .separator frames rest
  | .elements, tokens => ∀ expected frames rest, expected.OfValue →
    skipFrom expected (.sequence :: frames) (tokens ++ .closeBracket :: rest) =
      resume? .separator frames rest
  | .members, tokens => ∀ expected frames rest, expected.OfKey →
    skipFrom expected (.map :: frames) (tokens ++ .closeBrace :: rest) =
      resume? .separator frames rest

theorem Phrase.skips {kind : Kind} {tokens : List Token} (h : Phrase kind tokens) :
    kind.Skips tokens := by
  -- Every rule of the grammar leaves the frames below its own as they were.
  induction h with
  | null | boolean | number | string =>
    intro expected frames rest he
    exact skipFrom_begin he frames (by nofun) rest
  | emptySequence =>
    intro expected frames rest he
    exact (skipFrom_begin he frames (by nofun) _).trans (skipFrom_cons _ _ _ rest)
  | emptyMap =>
    intro expected frames rest he
    exact (skipFrom_begin he frames (by nofun) _).trans (skipFrom_cons _ _ _ rest)
  | sequence _ ih =>
    intro expected frames rest he
    rw [List.cons_append, List.append_assoc, skipFrom_begin he frames (by nofun)]
    exact ih .firstElement frames rest (.inr rfl)
  | map _ ih =>
    intro expected frames rest he
    rw [List.cons_append, List.append_assoc, skipFrom_begin he frames (by nofun)]
    exact ih .firstKey frames rest (.inr rfl)
  | lastElement _ ih =>
    intro expected frames rest he
    rw [ih expected _ _ he]
    exact skipFrom_cons _ _ _ rest
  | element _ _ ih ihLater =>
    intro expected frames rest he
    rw [List.append_assoc, ih expected _ _ he]
    refine Eq.trans ?_ (ihLater .value frames rest (.inl rfl))
    exact skipFrom_cons .separator (.sequence :: frames) .comma _
  | lastMember _ _ ih =>
    intro expected frames rest he
    rw [List.cons_append, List.cons_append, skipFrom_key he, ih .value _ _ (.inl rfl)]
    exact skipFrom_cons _ _ _ rest
  | member _ _ _ ih ihLater =>
    intro expected frames rest he
    rw [List.cons_append, List.cons_append, skipFrom_key he, List.append_assoc,
      ih .value _ _ (.inl rfl)]
    refine Eq.trans ?_ (ihLater .key frames rest (.inl rfl))
    exact skipFrom_cons .separator (.map :: frames) .comma _

/-- Just one value is passed over, whatever stands behind it. -/
theorem skip_of_phrase {tokens : List Token} (h : Phrase .value tokens) (rest : List Token) :
    skip (tokens ++ rest) = some rest :=
  h.skips .value [] rest (.inl rfl)

end StateMachine.Json
