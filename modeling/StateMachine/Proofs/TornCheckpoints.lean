import StateMachine.Proofs.BinaryRoundTrip
import StateMachine.Proofs.JsonObjects

namespace StateMachine

variable {S : Type}

namespace Json

theorem exists_body_of_pieces? {text rest : List Char} {pieces : List Piece}
    (h : pieces? text = some (pieces, rest)) :
    ∃ body, text = body ++ '"' :: rest ∧ Piece.Body pieces body := by
  fun_induction pieces? text generalizing pieces rest with
  | case1 => cases h
  | case2 text =>
    cases h
    exact ⟨[], rfl, .nil⟩
  | case3 a b c d text ih =>
    simp only [Option.bind_eq_bind, Option.bind_eq_some_iff, Prod.exists, Option.pure_def,
      Option.some.injEq, Prod.mk.injEq] at h
    obtain ⟨unit, hunit, later, _, hlater, rfl, rfl⟩ := h
    obtain ⟨body, rfl, hbody⟩ := ih hlater
    exact ⟨_, rfl, .cons (.unit hunit) hbody⟩
  | case4 letter text _ ih =>
    simp only [Option.bind_eq_bind, Option.bind_eq_some_iff, Prod.exists, Option.pure_def,
      Option.some.injEq, Prod.mk.injEq] at h
    obtain ⟨c, hc, later, _, hlater, rfl, rfl⟩ := h
    obtain ⟨body, rfl, hbody⟩ := ih hlater
    exact ⟨_, rfl, .cons (.short hc) hbody⟩
  | case5 => cases h
  | case6 c text hquote _ _ hplain ih =>
    simp only [Option.bind_eq_bind, Option.bind_eq_some_iff, Prod.exists, Option.pure_def,
      Option.some.injEq, Prod.mk.injEq] at h
    obtain ⟨later, _, hlater, rfl, rfl⟩ := h
    obtain ⟨body, rfl, hbody⟩ := ih hlater
    rw [not_or, Nat.not_lt] at hplain
    exact ⟨_, rfl, .cons (.plain hquote hplain.2 hplain.1) hbody⟩

/-- Cut short anywhere, the text has no token for a closing brace. -/
def Unclosed (text : List Char) : Prop :=
  ∀ cut, cut <+: text → cut ≠ text → .closeBrace ∉ tokens cut

namespace Unclosed

theorem singleton (c : Char) : Unclosed [c] := by
  intro cut hcut hne
  rcases List.prefix_concat_iff.1 (show cut <+: [] ++ [c] from hcut) with rfl | hnil
  · exact (hne rfl).elim
  · rw [List.prefix_nil.1 hnil, tokens_nil]
    exact List.not_mem_nil

/-- A string that lacks its closing quotation mark is no token. -/
theorem string {content : Option (List Char)} {front : List Char}
    (h : (Token.string content).SpelledBy front) : Unclosed front := by
  have hbody : ∃ pieces body, front = '"' :: body ++ ['"'] ∧ Piece.Body pieces body := by
    cases h with
    | string spelled | unpaired spelled => exact ⟨_, _, rfl, spelled⟩
  obtain ⟨pieces, body, rfl, hbody⟩ := hbody
  rintro cut ⟨more, hmore⟩ hne
  cases cut with
  | nil =>
    rw [tokens_nil]
    exact List.not_mem_nil
  | cons c cut =>
    obtain rfl := (List.cons.inj hmore).1
    have hcut : cut ++ more = body ++ ['"'] := (List.cons.inj hmore).2
    -- A quotation mark that ended the string early would end the whole string there too.
    have hopen : pieces? cut = none := by
      cases hread : pieces? cut with
      | none => rfl
      | some read =>
        obtain ⟨early, rfl, hearly⟩ := exists_body_of_pieces? hread
        have hends := hbody.pieces? []
        rw [← hcut, List.append_assoc, List.cons_append, hearly.pieces?, Option.some.injEq,
          Prod.mk.injEq, List.append_eq_nil_iff] at hends
        rw [hends.2.2, List.append_nil] at hmore
        exact (hne hmore).elim
    have hskip : skipSpace ('"' :: cut) = '"' :: cut := skipSpace_cons rfl cut
    rw [tokens_eq, hskip, tokenAt?, hopen]
    simp

theorem toDigits (n : Nat) : Unclosed (Nat.toDigits 10 n) := by
  intro cut hcut _
  obtain ⟨more, hmore⟩ := hcut
  cases cut with
  | nil =>
    rw [tokens_nil]
    exact List.not_mem_nil
  | cons d ds =>
    have hnumber : IsNumber (d :: ds) := by
      refine ⟨List.cons_ne_nil d ds, fun c hc => (IsNumber.toDigits n).isDigit c ?_⟩
      rw [← hmore]
      exact List.mem_append_left more hc
    have hzero : (d :: ds).head? = some '0' → d :: ds = ['0'] := by
      intro h
      have hdigits := toDigits_of_head (n := n) (by rw [← hmore]; exact h)
      rw [← hmore, List.append_eq_singleton_iff] at hdigits
      rcases hdigits with ⟨hnil, -⟩ | ⟨hcut, -⟩
      · cases hnil
      · exact hcut
    have hspelled : Numeral.SpelledBy ⟨false, d :: ds, none, none⟩ _ :=
      .intro hnumber hzero .absent .absent
    have htokens := tokens_of_spelledBy_whole (.number hspelled)
    simp only [Bool.false_eq_true, if_false, List.nil_append, List.append_nil] at htokens
    rw [htokens]
    simp

/-- A token that is cut off, or one that is whole with the rest cut short. -/
theorem append {token : Token} {front behind : List Char} (spelled : token.SpelledBy front)
    (hne : token ≠ .closeBrace) (hfront : Unclosed front)
    (hends : token.isNumber = true → NumberEnds behind) (hbehind : Unclosed behind) :
    Unclosed (front ++ behind) := by
  intro cut hcut hshort
  rcases List.prefix_or_prefix_of_prefix hcut (List.prefix_append front behind) with hpart | hwhole
  · by_cases heq : cut = front
    · rw [heq, tokens_of_spelledBy_whole spelled, List.mem_singleton]
      exact hne.symm
    · exact hfront cut hpart heq
  · obtain ⟨cut, rfl⟩ := hwhole
    have hcut : cut <+: behind := (List.prefix_append_right_inj front).1 hcut
    have hends : token.isNumber = true → NumberEnds cut := by
      intro hnumber mark hmark
      obtain ⟨more, rfl⟩ := hcut
      apply hends hnumber
      cases cut with
      | nil => cases hmark
      | cons => exact hmark
    rw [tokens_of_spelledBy spelled hends, List.mem_cons, not_or]
    refine ⟨hne.symm, hbehind cut hcut ?_⟩
    rintro rfl
    exact hshort rfl

theorem mark {token : Token} {c : Char} {behind : List Char} (spelled : token.SpelledBy [c])
    (hne : token ≠ .closeBrace) (hnumber : token.isNumber = false) (hbehind : Unclosed behind) :
    Unclosed (c :: behind) := by
  have hends : token.isNumber = true → NumberEnds behind := by simp [hnumber]
  exact append spelled hne (singleton c) hends hbehind

theorem quote (text : List Char) {behind : List Char} (hbehind : Unclosed behind) :
    Unclosed (Json.quote text ++ behind) := by
  have hends : (Token.string (some text)).isNumber = true → NumberEnds behind := by
    simp [Token.isNumber]
  exact append (spelledBy_quote text) (by simp) (string (spelledBy_quote text)) hends hbehind

end Unclosed

end Json

namespace Octets

variable {bytes rest : List UInt8}

theorem split?_extend {count : Nat} {front : List UInt8}
    (h : split? count bytes = some (front, rest)) (more : List UInt8) :
    split? count (bytes ++ more) = some (front, rest ++ more) := by
  unfold split? at h
  split at h
  · next hle =>
    cases h
    have hle' : count ≤ (bytes ++ more).length := by
      rw [List.length_append]
      omega
    rw [split?, if_pos hle', List.take_append_of_le_length hle, List.drop_append_of_le_length hle]
  · cases h

theorem readNat?_extend {width number : Nat} (h : readNat? width bytes = some (number, rest))
    (more : List UInt8) : readNat? width (bytes ++ more) = some (number, rest ++ more) := by
  obtain ⟨⟨front, _⟩, hsplit, he⟩ := Option.map_eq_some_iff.1 h
  cases he
  rw [readNat?, split?_extend hsplit, Option.map_some]

theorem readText?_extend {text : String} (h : readText? bytes = some (text, rest))
    (more : List UInt8) : readText? (bytes ++ more) = some (text, rest ++ more) := by
  simp only [readText?, Option.bind_eq_bind, Option.bind_eq_some_iff, Prod.exists, Option.pure_def,
    Option.some.injEq, Prod.mk.injEq] at h
  obtain ⟨length, _, hlength, content, _, hcontent, _, htext, rfl, rfl⟩ := h
  simp only [readText?, readNat?_extend hlength, split?_extend hcontent, htext, Option.bind_eq_bind,
    Option.bind_some, Option.pure_def]

theorem readState_extend [Storable S] {state : S} (h : readState bytes = .ok (state, rest))
    (more : List UInt8) : readState (bytes ++ more) = .ok (state, rest ++ more) := by
  unfold readState at h ⊢
  generalize (Storable.form : StoredForm S) = form at h ⊢
  cases form with
  | text write read =>
    simp only at h ⊢
    split at h
    · cases h
    · next hread =>
      cases h
      rw [readText?_extend hread]
  | variants values name index =>
    simp only at h ⊢
    split at h
    · cases h
    · next hread =>
      split at h
      · cases h
      · next hfound =>
        cases h
        rw [readNat?_extend hread]
        simp only [hfound]

end Octets

namespace Checkpoint

def members (checkpoint : Checkpoint S) : List (Member S) :=
  [.version checkpoint.version, .id checkpoint.id, .timestamp checkpoint.timestamp,
    .state checkpoint.state]

theorem outcome_members (checkpoint : Checkpoint S) :
    Member.Outcome checkpoint.members (.ok checkpoint) := by
  have hdistinct : Field.inOrder.Nodup := by decide
  refine .complete hdistinct ?_ ?_ ?_ ?_ <;> simp [members]

theorem unclosed_writeMember {token : Json.Token} {value behind : List Char} (field : Field)
    (spelled : token.SpelledBy value) (hne : token ≠ .closeBrace) (hvalue : Json.Unclosed value)
    (hends : token.isNumber = true → Json.NumberEnds behind) (hbehind : Json.Unclosed behind) :
    Json.Unclosed (Json.writeMember field value ++ behind) := by
  rw [Json.writeMember, List.append_assoc, List.cons_append]
  exact .quote _ (.mark .colon (by simp) rfl (.append spelled hne hvalue hends hbehind))

theorem unclosed_writeJson (checkpoint : Checkpoint S) (state : List Char) :
    Json.Unclosed (checkpoint.writeJson (Json.quote state)) := by
  have htext : ∀ (field : Field) (text : List Char) {behind : List Char}, Json.Unclosed behind →
      Json.Unclosed (Json.writeMember field (Json.quote text) ++ behind) := by
    intro field text behind hbehind
    have hspelled := Json.spelledBy_quote text
    have hends : (Json.Token.string (some text)).isNumber = true → Json.NumberEnds behind := by
      simp [Json.Token.isNumber]
    exact unclosed_writeMember field hspelled (by simp) (.string hspelled) hends hbehind
  have hcomma : ∀ {behind : List Char}, Json.Unclosed behind → Json.Unclosed (',' :: behind) :=
    fun hbehind => .mark .comma (by simp) rfl hbehind
  simp only [writeJson, List.cons_append, List.append_assoc]
  refine .mark .openBrace (by simp) rfl (unclosed_writeMember .version
    (.number (Json.Numeral.spelledBy_toDigits _)) (by simp) (.toDigits _) (fun _ => ?_)
    (hcomma (htext .id _ (hcomma (htext .timestamp _ (hcomma (htext .state _ (.singleton '}'))))))))
  rintro _ ⟨⟩
  decide

theorem spells_writeMember {token : Json.Token} {value behind : List Char}
    {tokens : List Json.Token} (field : Field) (spelled : token.SpelledBy value)
    (later : Json.Spells behind tokens) :
    Json.Spells (Json.writeMember field value ++ behind) (memberTokens field token tokens) := by
  rw [Json.writeMember, List.append_assoc, List.cons_append]
  exact .quote _ (.mark .colon (.next spelled later))

theorem spells_writeJson (checkpoint : Checkpoint S) (state : List Char) :
    Json.Spells (checkpoint.writeJson (Json.quote state)) (checkpoint.jsonTokens state) := by
  have hclose : Json.Spells ['}'] [.closeBrace] := .mark .closeBrace (.nil (List.forall_mem_nil _))
  simp only [writeJson, List.cons_append, List.append_assoc]
  exact .mark .openBrace (spells_writeMember .version (.number (Json.Numeral.spelledBy_toDigits _))
    (.mark .comma (spells_writeMember .id (Json.spelledBy_quote _)
      (.mark .comma (spells_writeMember .timestamp (Json.spelledBy_quote _)
        (.mark .comma (spells_writeMember .state (Json.spelledBy_quote _) hclose)))))))

theorem readHead?_extend {bytes rest : List UInt8} {head : UInt32 × String × Timestamp}
    (h : readHead? bytes = some (head, rest)) (more : List UInt8) :
    readHead? (bytes ++ more) = some (head, rest ++ more) := by
  simp only [readHead?, Option.bind_eq_bind, Option.bind_eq_some_iff, Prod.exists, Option.pure_def,
    Option.some.injEq, Prod.mk.injEq] at h
  obtain ⟨version, _, hversion, id, _, hid, time, _, htime, timestamp, hread, rfl, rfl⟩ := h
  simp only [readHead?, Octets.readNat?_extend hversion, Octets.readText?_extend hid,
    Octets.readText?_extend htime, hread, Option.bind_eq_bind, Option.bind_some, Option.pure_def]

variable [Storable S]

theorem closeBrace_mem_of_readMembers {parts : Parts S} {tokens : List Json.Token}
    {result : Checkpoint S × List Json.Token} (h : readMembers parts tokens = .ok result) :
    .closeBrace ∈ tokens := by
  fun_induction readMembers parts tokens with
  | case1 => cases h
  | case2 _ _ _ _ hread _ ih =>
    exact (properSuffix_of_readMember hread).suffix.subset (List.mem_cons_of_mem _ (ih h))
  | case3 _ _ _ _ hread => exact (properSuffix_of_readMember hread).suffix.subset List.mem_cons_self
  | case4 => cases h

theorem closeBrace_mem_of_ofTokens {tokens : List Json.Token} {checkpoint : Checkpoint S}
    (h : ofTokens (.openBrace :: tokens) = .ok checkpoint) : .closeBrace ∈ tokens := by
  have hread : ∃ result, readObject (S := S) tokens = .ok result := by
    cases hobject : readObject (S := S) tokens with
    | error e =>
      simp only [ofTokens, hobject] at h
      cases h
    | ok result => exact ⟨result, rfl⟩
  obtain ⟨result, hread⟩ := hread
  unfold readObject at hread
  split at hread
  · exact List.mem_cons_self
  · exact closeBrace_mem_of_readMembers hread

theorem object_jsonTokens {checkpoint : Checkpoint S} {state : List Char}
    (hstate : (Storable.form : StoredForm S).SpelledBy checkpoint.state
      [.string (some state)]) :
    Member.Object checkpoint.carried.members (checkpoint.jsonTokens state) := by
  have hrun : Member.Run checkpoint.carried.members _ :=
    .cons (.version _) (.cons (.id _) (.cons (.timestamp (Timestamp.read?_write _))
      (.last (.state hstate))))
  exact .run hrun

theorem ofJson_eq_error {text : String}
    (h : ∀ checkpoint : Checkpoint S, readJson text.toList ≠ .ok checkpoint) :
    ∃ error, ofJson (S := S) text = .error (.notRead error) := by
  rw [ofJson]
  cases hread : readJson (S := S) text.toList with
  | error error => exact ⟨error, rfl⟩
  | ok checkpoint => exact (h checkpoint hread).elim

theorem ofBinary_eq_error {bytes : List UInt8}
    (h : ∀ checkpoint : Checkpoint S, readBinary bytes ≠ .ok checkpoint) :
    ∃ error, ofBinary (S := S) bytes = .error (.notRead error) := by
  rw [ofBinary]
  cases hread : readBinary (S := S) bytes with
  | error error => exact ⟨error, rfl⟩
  | ok checkpoint => exact (h checkpoint hread).elim

theorem exists_read_of_readBinary {bytes : List UInt8} {checkpoint : Checkpoint S}
    (h : readBinary bytes = .ok checkpoint) : ∃ head rest state last,
      readHead? bytes = some (head, rest) ∧ Octets.readState (S := S) rest = .ok (state, last) := by
  unfold readBinary at h
  split at h
  · cases h
  · next hhead =>
    split at h
    · cases h
    · next hstate => exact ⟨_, _, _, _, hhead, hstate⟩

theorem readJson_cut {checkpoint other : Checkpoint S} {state cut : List Char}
    (hcut : cut <+: checkpoint.writeJson (Json.quote state))
    (hne : cut ≠ checkpoint.writeJson (Json.quote state)) : readJson cut ≠ .ok other := by
  intro h
  have hopen := unclosed_writeJson checkpoint state cut hcut hne
  cases cut with
  | nil =>
    rw [readJson, Json.tokens_nil] at h
    cases h
  | cons c cut =>
    obtain ⟨more, hmore⟩ := hcut
    obtain rfl : c = '{' := (List.cons.inj hmore).1
    rw [Json.tokens_openBrace] at hopen
    rw [readJson, Json.tokens_openBrace] at h
    exact hopen (List.mem_cons_of_mem _ (closeBrace_mem_of_ofTokens h))

variable [LawfulStorable S]

theorem exists_spelledBy_of_writeState {state : S} {written : List Char}
    (h : Json.writeState state = .ok written) :
    ∃ text, written = Json.quote text ∧
      (Storable.form : StoredForm S).SpelledBy state [.string (some text)] := by
  have hlawful := LawfulStorable.lawful (S := S)
  unfold Json.writeState at h
  generalize (Storable.form : StoredForm S) = form at h hlawful ⊢
  cases form with
  | text write read =>
    cases hw : write state with
    | error reason =>
      simp only [hw] at h
      cases h
    | ok text =>
      simp only [hw] at h
      cases h
      have hspelled : (StoredForm.text write read).SpelledBy (read (String.ofList text.toList)) _ :=
        .text text.toList
      rw [String.ofList_toList, hlawful state text hw] at hspelled
      exact ⟨text.toList, rfl, hspelled⟩
  | variants values name index =>
    cases h
    exact ⟨(name state).toList, rfl, .name (List.mem_of_getElem? (hlawful.1 state))⟩

theorem readJson_append {checkpoint : Checkpoint S} {state : List Char}
    (hstate : (Storable.form : StoredForm S).SpelledBy checkpoint.state [.string (some state)])
    (tail : List Char) :
    readJson (checkpoint.writeJson (Json.quote state) ++ tail) =
      if (Json.tokens tail).isEmpty then .ok checkpoint.carried else .error .malformed := by
  have hobject := object_jsonTokens hstate
  have htokens : Json.tokens (checkpoint.writeJson (Json.quote state) ++ tail) = _ :=
    Json.tokens_append_of_spells (spells_writeJson checkpoint state) hobject.separate nofun
  rw [readJson, htokens, ofTokens_append_of_outcome hobject checkpoint.carried.outcome_members]
  rfl

/-- Cut bytes are not read: what is read from them would be read from all of them, and then nothing
stands behind the state. -/
theorem readBinary_cut {checkpoint other : Checkpoint S} {state cut : List UInt8}
    (hstate : Octets.writeState checkpoint.state = .ok state)
    (hsize : (checkpoint.writeBinary state).length < UInt64.size)
    (hcut : cut <+: checkpoint.writeBinary state) (hne : cut ≠ checkpoint.writeBinary state) :
    readBinary cut ≠ .ok other := by
  intro h
  obtain ⟨more, hmore⟩ := hcut
  obtain ⟨head, rest, found, last, hhead, hfound⟩ := exists_read_of_readBinary h
  have hwhole := readHead?_writeBinary hsize []
  rw [List.append_nil, ← hmore, readHead?_extend hhead, List.append_nil, Option.some.injEq,
    Prod.mk.injEq] at hwhole
  have hlength : state.length < UInt64.size := by
    rw [writeBinary, List.length_append] at hsize
    omega
  have hlast := Octets.readState_writeState hstate hlength []
  rw [List.append_nil, ← hwhole.2, Octets.readState_extend hfound, Except.ok.injEq, Prod.mk.injEq,
    List.append_eq_nil_iff] at hlast
  rw [hlast.2.2, List.append_nil] at hmore
  exact hne hmore

theorem ofJson_cut {checkpoint : Checkpoint S} {text cut : String}
    (h : checkpoint.toJson = .ok text) (hcut : cut.toList <+: text.toList) (hne : cut ≠ text) :
    ∃ error, ofJson (S := S) cut = .error (.notRead error) := by
  obtain ⟨written, hwritten, rfl⟩ := (toJson_eq_ok_iff checkpoint text).1 h
  obtain ⟨state, rfl, -⟩ := exists_spelledBy_of_writeState hwritten
  rw [String.toList_ofList] at hcut
  refine ofJson_eq_error fun other => readJson_cut hcut ?_
  intro heq
  rw [← heq, String.ofList_toList] at hne
  exact hne rfl

theorem ofJson_append {checkpoint : Checkpoint S} {text : String}
    (h : checkpoint.toJson = .ok text) (tail : String) :
    ofJson (text ++ tail) =
      if (Json.tokens tail.toList).isEmpty then .ok checkpoint.carried
      else .error (.notRead .malformed) := by
  obtain ⟨written, hwritten, rfl⟩ := (toJson_eq_ok_iff checkpoint text).1 h
  obtain ⟨state, rfl, hstate⟩ := exists_spelledBy_of_writeState hwritten
  rw [ofJson, String.toList_append, String.toList_ofList, readJson_append hstate]
  split <;> rfl

theorem ofJson_blank {checkpoint : Checkpoint S} {text tail : String}
    (h : checkpoint.toJson = .ok text) (hblank : ∀ c ∈ tail.toList, Json.isSpace c = true) :
    ofJson (text ++ tail) = .ok checkpoint.carried := by
  rw [ofJson_append h, Json.tokens_eq_nil_iff.2 hblank]
  rfl

theorem ofJson_marked {checkpoint : Checkpoint S} {text tail : String}
    (h : checkpoint.toJson = .ok text) (hmarked : ∃ c ∈ tail.toList, Json.isSpace c = false) :
    ∃ error, ofJson (S := S) (text ++ tail) = .error (.notRead error) := by
  obtain ⟨c, hc, hmark⟩ := hmarked
  have hne : ¬(Json.tokens tail.toList).isEmpty = true := by
    intro hnil
    have hspace := Json.tokens_eq_nil_iff.1 (List.isEmpty_iff.1 hnil) c hc
    rw [hmark] at hspace
    cases hspace
  rw [ofJson_append h, if_neg hne]
  exact ⟨_, rfl⟩

theorem ofBinary_cut {checkpoint : Checkpoint S} {bytes cut : List UInt8}
    (h : checkpoint.toBinary = .ok bytes) (hsize : bytes.length < UInt64.size)
    (hcut : cut <+: bytes) (hne : cut ≠ bytes) :
    ∃ error, ofBinary (S := S) cut = .error (.notRead error) := by
  obtain ⟨state, hstate, rfl⟩ := (toBinary_eq_ok_iff checkpoint bytes).1 h
  exact ofBinary_eq_error fun other => readBinary_cut hstate hsize hcut hne

/-- An encoded checkpoint is not read if it is cut short anywhere. Behind a JSON text there may be
white space and nothing else, behind bytes there may be any; what is read then is the checkpoint,
just as it was if its timestamp leaps at the end of a minute or not at all. -/
theorem torn_encoded (checkpoint : Checkpoint S) :
    (∀ text, checkpoint.toJson = .ok text →
      (∀ cut : String, cut.toList <+: text.toList → cut ≠ text →
        ∃ error, ofJson (S := S) cut = .error (.notRead error)) ∧
      (∀ tail : String, (∀ c ∈ tail.toList, Json.isSpace c = true) →
        ofJson (text ++ tail) = .ok checkpoint.carried ∧
        (ofJson (text ++ tail) = .ok checkpoint ↔ checkpoint.timestamp.LeapsAtEnd)) ∧
      ∀ tail : String, (∃ c ∈ tail.toList, Json.isSpace c = false) →
        ∃ error, ofJson (S := S) (text ++ tail) = .error (.notRead error)) ∧
    ∀ bytes, checkpoint.toBinary = .ok bytes → bytes.length < UInt64.size →
      (∀ cut, cut <+: bytes → cut ≠ bytes →
        ∃ error, ofBinary (S := S) cut = .error (.notRead error)) ∧
      ∀ tail, ofBinary (bytes ++ tail) = .ok checkpoint.carried ∧
        (ofBinary (bytes ++ tail) = .ok checkpoint ↔ checkpoint.timestamp.LeapsAtEnd) := by
  constructor
  · intro text h
    refine ⟨fun cut => ofJson_cut h, fun tail hblank => ?_, fun tail => ofJson_marked h⟩
    have hread := ofJson_blank h hblank
    exact ⟨hread, eq_ok_iff_leapsAtEnd hread⟩
  · intro bytes h hsize
    refine ⟨fun cut => ofBinary_cut h hsize, fun tail => ?_⟩
    have hread := ofBinary_append h hsize tail
    exact ⟨hread, eq_ok_iff_leapsAtEnd hread⟩

theorem torn_leapCheckpoint :
    (∃ error, ofJson (S := Scenario.Door) "\x7b\"version\":4294967295,\"id\":\"a\\" =
      .error (.notRead error)) ∧
    ofJson (leapText ++ "\n ") = .ok leapCheckpoint ∧
    (∃ error, ofJson (S := Scenario.Door) (leapText ++ " \x7b\x7d") = .error (.notRead error)) ∧
    leapBytes.length < UInt64.size ∧
    (∃ error, ofBinary (S := Scenario.Door) (leapBytes.take 21) = .error (.notRead error)) ∧
    ofBinary (leapBytes ++ [7]) = .ok leapCheckpoint := by
  have htext : leapCheckpoint.toJson = .ok leapText := by cbv
  have hbytes : leapCheckpoint.toBinary = .ok leapBytes := rfl
  have hsize : leapBytes.length < UInt64.size := by decide
  have hleap : leapCheckpoint.timestamp.LeapsAtEnd := by decide
  obtain ⟨hcut, hspace, htail⟩ := (torn_encoded leapCheckpoint).1 leapText htext
  obtain ⟨hshort, hmore⟩ := (torn_encoded leapCheckpoint).2 leapBytes hbytes hsize
  have hblank : "\n ".toList.all Json.isSpace = true := by decide
  refine ⟨hcut _ ?_ (by decide), (hspace "\n " (List.all_eq_true.1 hblank)).2.2 hleap,
    htail " \x7b\x7d" ⟨'\x7b', by decide, rfl⟩, hsize,
    hshort _ (List.take_prefix 21 leapBytes) (by decide), (hmore [7]).2.2 hleap⟩
  decide

/-- A checkpoint that leaps before the end of a minute is read, but not as it was, from its text
with a space behind it and from its bytes with a byte behind them. -/
theorem torn_earlyLeap :
    (earlyLeap.toJson = .ok earlyLeapText ∧ ofJson (earlyLeapText ++ " ") ≠ .ok earlyLeap) ∧
      earlyLeap.toBinary = .ok earlyLeapBytes ∧
        ofBinary (earlyLeapBytes ++ [7]) ≠ .ok earlyLeap := by
  have htext : earlyLeap.toJson = .ok earlyLeapText := by cbv
  have hbytes : earlyLeap.toBinary = .ok earlyLeapBytes := rfl
  have hsize : earlyLeapBytes.length < UInt64.size := by decide
  have hblank : " ".toList.all Json.isSpace = true := by decide
  have hspace := eq_ok_iff_leapsAtEnd (ofJson_blank htext (List.all_eq_true.1 hblank))
  have hmore := eq_ok_iff_leapsAtEnd (ofBinary_append hbytes hsize [7])
  exact ⟨⟨htext, fun h => not_leapsAtEnd_earlyLeap (hspace.1 h)⟩, hbytes,
    fun h => not_leapsAtEnd_earlyLeap (hmore.1 h)⟩

end Checkpoint

end StateMachine
