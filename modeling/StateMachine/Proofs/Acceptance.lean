import StateMachine.Proofs.Compilation

namespace StateMachine

theorem exists_split_cons {α : Type} {p : List α → Prop} {a b : α} {rest : List α} :
    (∃ earlier later, b :: rest = earlier ++ a :: later ∧ p earlier) ↔
      (a = b ∧ p []) ∨ ∃ earlier later, rest = earlier ++ a :: later ∧ p (b :: earlier) := by
  constructor
  · rintro ⟨earlier, later, hsplit, hp⟩
    cases earlier with
    | nil =>
      cases hsplit
      exact .inl ⟨rfl, hp⟩
    | cons first earlier =>
      cases hsplit
      exact .inr ⟨earlier, later, rfl, hp⟩
  · rintro (⟨rfl, hp⟩ | ⟨earlier, later, rfl, hp⟩)
    · exact ⟨[], rest, rfl, hp⟩
    · exact ⟨b :: earlier, later, rfl, hp⟩

namespace Table

variable {S T α : Type} [BEq S] {table : Table S T α} {state : S}

theorem openRow_of_hasRow (h : table.hasRow state = true) : table.openRow state = table :=
  if_pos h

theorem hasRow_of_get? [BEq T] {trigger : T} {value : α}
    (h : table.get? state trigger = some value) : table.hasRow state = true := by
  obtain ⟨row, hrow, -⟩ := Option.bind_eq_some_iff.1 h
  rw [hasRow, Keyed.contains, hrow]
  rfl

end Table

variable {S T A E K : Type} [ArgumentKind A]

def Transition.declaration (transition : Transition S T A E K) : Call S T A E K :=
  .declare transition.source transition.trigger transition.target transition.argument

namespace Transition

theorem attachGuard_eq_error_iff {transition : Transition S T A E K} {guard : Guard S T E}
    {e : ConfigError S T A} : transition.attachGuard guard = .error e ↔
      transition.guard.isSome = true ∧ e = .guardTaken transition.source transition.trigger := by
  rw [attachGuard]
  split
  · next hg => simp [hg, eq_comm]
  · next hg => simp [hg]

theorem attachAction_eq_error_iff [DecidableEq A] {transition : Transition S T A E K}
    {argument : Option A} {action : Action S T A E K argument} {e : ConfigError S T A} :
    transition.attachAction argument action = .error e ↔
      (argument ≠ transition.argument ∧ e = .actionMismatch transition.source transition.trigger
        transition.argument argument) ∨
      argument = transition.argument ∧ transition.action.isSome = true ∧
        e = .actionTaken transition.source transition.trigger := by
  rw [attachAction]
  split
  · next hk =>
    subst hk
    split
    · next ha => simp [ha, eq_comm]
    · next ha => simp [ha]
  · next hk =>
    simp only [ne_eq, hk, not_false_eq_true, true_and, false_and, or_false, Except.error.injEq]
    exact eq_comm

end Transition

namespace Call

def attachment? : Call S T A E K → Option Attachment
  | guard _ | link _ (.guard _) => some .guard
  | action .. | link _ (.action _) => some .action
  | _ => none

def pair? : Call S T A E K → Option (S × T)
  | declare source trigger .. => some (source, trigger)
  | _ => none

end Call

variable [BEq S] [BEq T] [DecidableEq A]

/-- The declarations among some calls that a compiler accepts when it comes to them. -/
def Compiler.accepted (compiler : Compiler S T A E K) :
    List (Call S T A E K) → List (Call S T A E K)
  | [] => []
  | call :: rest =>
    if call.isDeclaration && (call.perform compiler).2.isNone then
      call :: (call.perform compiler).1.accepted rest
    else (call.perform compiler).1.accepted rest

def Call.accepted (calls : List (Call S T A E K)) : List (Call S T A E K) :=
  Compiler.empty.accepted calls

namespace Compiler

theorem accepted_append (compiler : Compiler S T A E K) (earlier later : List (Call S T A E K)) :
    compiler.accepted (earlier ++ later) = compiler.accepted earlier ++
      (earlier.foldl (fun compiler call => (call.perform compiler).1) compiler).accepted later := by
  induction earlier generalizing compiler with
  | nil => rfl
  | cons call rest ih =>
    simp only [List.cons_append, accepted, List.foldl_cons, ih]
    split <;> rfl

theorem mem_accepted_iff {compiler : Compiler S T A E K} {calls : List (Call S T A E K)}
    {call : Call S T A E K} : call ∈ compiler.accepted calls ↔
      ∃ earlier later, calls = earlier ++ call :: later ∧ call.isDeclaration = true ∧
        (call.perform (earlier.foldl (fun compiler call => (call.perform compiler).1)
          compiler)).2 = none := by
  induction calls generalizing compiler with
  | nil => simp [accepted]
  | cons next rest ih =>
    rw [exists_split_cons]
    simp only [List.foldl_cons, List.foldl_nil]
    rw [← ih, accepted]
    split
    · next hc =>
      rw [Bool.and_eq_true, Option.isNone_iff_eq_none] at hc
      rw [List.mem_cons]
      constructor
      · rintro (rfl | hmem)
        · exact .inl ⟨rfl, hc⟩
        · exact .inr hmem
      · rintro (⟨rfl, -⟩ | hmem)
        · exact .inl rfl
        · exact .inr hmem
    · next hc =>
      rw [Bool.and_eq_true, Option.isNone_iff_eq_none] at hc
      constructor
      · exact .inr
      · rintro (⟨rfl, hok⟩ | hmem)
        · exact (hc hok).elim
        · exact hmem

theorem after_append (calls : List (Call S T A E K)) (call : Call S T A E K) :
    after (calls ++ [call]) = (call.perform (after calls)).1 := by
  rw [after, List.foldl_append]
  rfl

theorem accepted_append_singleton (calls : List (Call S T A E K)) (call : Call S T A E K) :
    Call.accepted (calls ++ [call]) = Call.accepted calls ++
      if call.isDeclaration && (call.perform (after calls)).2.isNone then [call] else [] := by
  rw [Call.accepted, accepted_append]
  rfl

end Compiler

namespace Call

variable [EquivBEq S] [EquivBEq T] {calls : List (Call S T A E K)}

theorem mem_accepted_iff_isNew {call : Call S T A E K} : call ∈ accepted calls ↔
    ∃ earlier later, calls = earlier ++ call :: later ∧ call.isNew earlier = true := by
  rw [accepted, Compiler.mem_accepted_iff]
  constructor
  · rintro ⟨earlier, later, hsplit, hd, hok⟩
    exact ⟨earlier, later, hsplit, (Compiler.refusal_perform (Compiler.reflects_after _) hd).1 hok⟩
  · rintro ⟨earlier, later, hsplit, hnew⟩
    have hd : call.isDeclaration = true := by
      cases call with
      | declare => rfl
      | _ => cases hnew
    exact ⟨earlier, later, hsplit, hd,
      (Compiler.refusal_perform (Compiler.reflects_after _) hd).2 hnew⟩

theorem mem_of_mem_accepted {call : Call S T A E K} (h : call ∈ accepted calls) : call ∈ calls := by
  obtain ⟨earlier, later, rfl, -⟩ := mem_accepted_iff_isNew.1 h
  exact List.mem_append_right _ List.mem_cons_self

theorem first_mem_accepted {state : S} {trigger : T} {first : Call S T A E K}
    {later : List (Call S T A E K)} (h : fromFirst calls state trigger = first :: later) :
    first ∈ accepted calls := by
  have hd := declares_of_fromFirst h
  refine mem_accepted_iff_isNew.2 ⟨before calls state trigger, later, ?_, ?_⟩
  · rw [← h, before_append_fromFirst]
  · cases first with
    | declare source input target argument =>
      obtain ⟨hs, ht⟩ := Bool.and_eq_true_iff.1 hd
      rw [isNew, Bool.not_eq_true', List.any_eq_false]
      intro call hmem hcall
      rw [← declares_congr hs ht] at hcall
      have hno := List.mem_takeWhile_imp hmem
      rw [hcall] at hno
      cases hno
    | _ => cases hd

theorem any_declares_accepted (state : S) (trigger : T) :
    (accepted calls).any (·.declares state trigger) = calls.any (·.declares state trigger) := by
  rw [Bool.eq_iff_iff]
  constructor
  · intro h
    obtain ⟨call, hmem, hd⟩ := List.any_eq_true.1 h
    exact List.any_eq_true.2 ⟨call, mem_of_mem_accepted hmem, hd⟩
  · intro h
    cases hf : fromFirst calls state trigger with
    | nil =>
      rw [fromFirst_eq_nil_iff.1 hf] at h
      cases h
    | cons first later =>
      exact List.any_eq_true.2 ⟨first, first_mem_accepted hf, declares_of_fromFirst hf⟩

theorem any_leaves_accepted (state : S) :
    (accepted calls).any (·.leaves state) = calls.any (·.leaves state) := by
  rw [Bool.eq_iff_iff]
  constructor
  · intro h
    obtain ⟨call, hmem, hl⟩ := List.any_eq_true.1 h
    exact List.any_eq_true.2 ⟨call, mem_of_mem_accepted hmem, hl⟩
  · intro h
    obtain ⟨call, hmem, hl⟩ := List.any_eq_true.1 h
    cases call with
    | declare source trigger target argument =>
      have hany : calls.any (·.declares state trigger) = true :=
        List.any_eq_true.2 ⟨_, hmem, Bool.and_eq_true_iff.2 ⟨hl, BEq.rfl⟩⟩
      rw [← any_declares_accepted] at hany
      obtain ⟨first, hfirst, hd⟩ := List.any_eq_true.1 hany
      exact List.any_eq_true.2 ⟨first, hfirst, leaves_of_declares hd⟩
    | _ => cases hl

theorem accepted_eq_nil_iff :
    accepted calls = [] ↔ calls.any (·.isDeclaration) = false := by
  constructor
  · intro h
    rw [List.any_eq_false]
    intro call hmem hd
    cases call with
    | declare source trigger target argument =>
      have hany : calls.any (·.leaves source) = true :=
        List.any_eq_true.2 ⟨_, hmem, BEq.rfl⟩
      rw [← any_leaves_accepted, h] at hany
      cases hany
    | _ => cases hd
  · intro h
    rw [List.eq_nil_iff_forall_not_mem]
    intro call hmem
    obtain ⟨earlier, later, rfl, hnew⟩ := mem_accepted_iff_isNew.1 hmem
    have hno := List.any_eq_false.1 h call (List.mem_append_right _ List.mem_cons_self)
    cases call with
    | declare => exact hno rfl
    | _ => cases hnew

theorem exists_transition?_of_mem_accepted {source target : S} {trigger : T} {argument : Option A}
    (h : .declare source trigger target argument ∈ accepted calls) :
    ∃ transition, transition? calls source trigger = some transition ∧
      transition.declaration = .declare source trigger target argument := by
  obtain ⟨earlier, later, rfl, hnew⟩ := mem_accepted_iff_isNew.1 h
  have hdeclares : (Call.declare source trigger target argument : Call S T A E K).declares
      source trigger = true := Bool.and_eq_true_iff.2 ⟨BEq.rfl, BEq.rfl⟩
  have hearlier : ∀ call ∈ earlier, (!call.declares source trigger) = true := by
    rw [isNew, Bool.not_eq_true', List.any_eq_false] at hnew
    intro call hmem
    rw [Bool.eq_false_iff.2 (hnew call hmem)]
    rfl
  have hfirst : fromFirst (earlier ++ .declare source trigger target argument :: later)
      source trigger = .declare source trigger target argument :: later := by
    rw [fromFirst, List.dropWhile_append_of_pos hearlier, List.dropWhile_cons, hdeclares]
    rfl
  exact ⟨_, by rw [transition?, hfirst]; rfl, rfl⟩

theorem declaration_of_transition? {state : S} {trigger : T} {transition : Transition S T A E K}
    (h : transition? calls state trigger = some transition) :
    (state == transition.source && trigger == transition.trigger) = true ∧
      transition.declaration ∈ accepted calls := by
  cases hf : fromFirst calls state trigger with
  | nil =>
    rw [transition?, hf] at h
    cases h
  | cons first later =>
    have hd := declares_of_fromFirst hf
    have hmem := first_mem_accepted hf
    rw [transition?, hf] at h
    cases first with
    | declare source input target argument =>
      cases h
      exact ⟨hd, hmem⟩
    | _ => cases hd

end Call

namespace Compiler

variable [EquivBEq S]

theorem last_perform (compiler : Compiler S T A E K) (call : Call S T A E K) :
    (call.perform compiler).1.last =
      if call.isDeclaration && (call.perform compiler).2.isNone then call.pair?
      else compiler.last := by
  cases call with
  | setInitial state => rfl
  | declare source trigger target argument =>
    simp only [Call.perform, declare, Call.isDeclaration, Call.pair?]
    split <;> rfl
  | guard given => exact (compiler.attach_frame _ _).2.2.1
  | action argument given => exact (compiler.attach_frame _ _).2.2.1
  | callback given =>
    simp only [Call.perform, setCallback]
    split <;> rfl
  | link argument offered =>
    cases offered with
    | guard given => exact (compiler.attach_frame _ _).2.2.1
    | action given => exact (compiler.attach_frame _ _).2.2.1

theorem last_after (calls : List (Call S T A E K)) :
    (after calls).last = (Call.accepted calls).getLast?.bind Call.pair? := by
  induction calls using List.reverseRecOn with
  | nil => rfl
  | append_singleton calls call ih =>
    rw [after_append, last_perform, accepted_append_singleton, ih]
    split
    · rw [List.getLast?_concat]
      rfl
    · rw [List.append_nil]

end Compiler

namespace Call

def newest? (calls : List (Call S T A E K)) : Option (Transition S T A E K) :=
  ((accepted calls).getLast?.bind pair?).bind fun pair => transition? calls pair.1 pair.2

def actionKind? : Call S T A E K → Option (Option A)
  | action kind _ | link kind (.action _) => some kind
  | _ => none

/-- Why a compiler refuses a call that is put to it after others. -/
inductive Refused (calls : List (Call S T A E K)) :
    Call S T A E K → ConfigError S T A → Prop where
  | alreadyDeclared {source target : S} {trigger : T} {argument : Option A}
      (declared : (accepted calls).any (·.declares source trigger) = true) :
    Refused calls (.declare source trigger target argument) (.alreadyDeclared source trigger)
  | nothingDeclared {call : Call S T A E K} {what : Attachment}
      (attaches : call.attachment? = some what) (none : accepted calls = []) :
    Refused calls call (.nothingDeclared what)
  | guardTaken {call : Call S T A E K} {transition : Transition S T A E K}
      (attaches : call.attachment? = some .guard) (newest : newest? calls = some transition)
      (taken : transition.guard.isSome = true) :
    Refused calls call (.guardTaken transition.source transition.trigger)
  | actionMismatch {call : Call S T A E K} {transition : Transition S T A E K} {kind : Option A}
      (offers : call.actionKind? = some kind) (newest : newest? calls = some transition)
      (differ : kind ≠ transition.argument) :
    Refused calls call
      (.actionMismatch transition.source transition.trigger transition.argument kind)
  | actionTaken {call : Call S T A E K} {transition : Transition S T A E K}
      (offers : call.actionKind? = some transition.argument)
      (newest : newest? calls = some transition) (taken : transition.action.isSome = true) :
    Refused calls call (.actionTaken transition.source transition.trigger)
  | callbackTaken {given : Callback S T A E K} (taken : (callbackOf calls).isSome = true) :
    Refused calls (.callback given) .callbackTaken

theorem exists_perform_eq_attachGuard {call : Call S T A E K}
    (h : call.attachment? = some .guard) :
    ∃ given, ∀ compiler, call.perform compiler = compiler.attachGuard given := by
  match call with
  | .guard given | .link _ (.guard given) => exact ⟨given, fun _ => rfl⟩

theorem exists_perform_eq_attachAction {call : Call S T A E K} {kind : Option A}
    (h : call.actionKind? = some kind) :
    ∃ given : Action S T A E K kind,
      ∀ compiler, call.perform compiler = compiler.attachAction kind given := by
  match call with
  | .action _ given | .link _ (.action given) =>
    cases h
    exact ⟨given, fun _ => rfl⟩

omit [BEq S] [BEq T] [DecidableEq A] in
theorem exists_actionKind? {call : Call S T A E K} (h : call.attachment? = some .action) :
    ∃ kind, call.actionKind? = some kind := by
  match call with
  | .action kind _ | .link kind (.action _) => exact ⟨kind, rfl⟩

variable [EquivBEq S] [EquivBEq T] {calls : List (Call S T A E K)}

theorem exists_newest? {call : Call S T A E K} (h : (accepted calls).getLast? = some call) :
    ∃ transition, newest? calls = some transition ∧ transition.declaration = call := by
  have hmem := List.mem_of_getLast? h
  cases call with
  | declare source trigger target argument =>
    obtain ⟨transition, hfound, hdeclaration⟩ := exists_transition?_of_mem_accepted hmem
    refine ⟨transition, ?_, hdeclaration⟩
    rw [newest?, h]
    exact hfound
  | _ =>
    obtain ⟨earlier, later, -, hnew⟩ := mem_accepted_iff_isNew.1 hmem
    cases hnew

theorem newest?_eq_none_iff : newest? calls = none ↔ accepted calls = [] := by
  constructor
  · intro h
    cases hl : (accepted calls).getLast? with
    | none => exact List.getLast?_eq_none_iff.1 hl
    | some call =>
      obtain ⟨transition, hnewest, -⟩ := exists_newest? hl
      rw [h] at hnewest
      cases hnewest
  · intro h
    rw [newest?, h]
    rfl

end Call

namespace Compiler

variable [EquivBEq S] [EquivBEq T] {calls : List (Call S T A E K)}

theorem get?_last_after (calls : List (Call S T A E K)) :
    (after calls).last.bind (fun pair => (after calls).table.get? pair.1 pair.2) =
      Call.newest? calls := by
  simp only [last_after, (reflects_after calls).transition]
  rfl

theorem refusal_attach_of_none (hn : Call.newest? calls = none) (what : Attachment)
    (change : Transition S T A E K → Except (ConfigError S T A) (Transition S T A E K)) :
    ((after calls).attach what change).2 = some (.nothingDeclared what) := by
  rw [← get?_last_after] at hn
  rw [attach]
  cases hl : (after calls).last with
  | none => rfl
  | some pair =>
    rw [hl, Option.bind_some] at hn
    simp only [hn]

theorem refusal_attach_iff {transition : Transition S T A E K}
    (hn : Call.newest? calls = some transition) {what : Attachment}
    {change : Transition S T A E K → Except (ConfigError S T A) (Transition S T A E K)}
    {e : ConfigError S T A} :
    ((after calls).attach what change).2 = some e ↔ change transition = .error e := by
  rw [← get?_last_after] at hn
  obtain ⟨pair, hl, hg⟩ := Option.bind_eq_some_iff.1 hn
  simp only [attach, hl, hg]
  cases change transition <;> simp

theorem refused_of_attachGuard {call : Call S T A E K} {guard : Guard S T E}
    {e : ConfigError S T A} (hcall : call.attachment? = some .guard)
    (h : ((after calls).attachGuard guard).2 = some e) : Call.Refused calls call e := by
  rw [attachGuard] at h
  cases hn : Call.newest? calls with
  | none =>
    cases (refusal_attach_of_none hn _ _).symm.trans h
    exact .nothingDeclared hcall (Call.newest?_eq_none_iff.1 hn)
  | some transition =>
    obtain ⟨hg, rfl⟩ := Transition.attachGuard_eq_error_iff.1 ((refusal_attach_iff hn).1 h)
    exact .guardTaken hcall hn hg

theorem refused_of_attachAction {call : Call S T A E K} {argument : Option A}
    {action : Action S T A E K argument} {e : ConfigError S T A}
    (hcall : call.attachment? = some .action) (hkind : call.actionKind? = some argument)
    (h : ((after calls).attachAction argument action).2 = some e) : Call.Refused calls call e := by
  rw [attachAction] at h
  cases hn : Call.newest? calls with
  | none =>
    cases (refusal_attach_of_none hn _ _).symm.trans h
    exact .nothingDeclared hcall (Call.newest?_eq_none_iff.1 hn)
  | some transition =>
    obtain ⟨hk, rfl⟩ | ⟨rfl, ha, rfl⟩ :=
      Transition.attachAction_eq_error_iff.1 ((refusal_attach_iff hn).1 h)
    · exact .actionMismatch hkind hn hk
    · exact .actionTaken hkind hn ha

theorem refused_of_refusal {call : Call S T A E K} {e : ConfigError S T A}
    (h : (call.perform (after calls)).2 = some e) : Call.Refused calls call e := by
  cases call with
  | setInitial state => cases h
  | declare source trigger target argument =>
    simp only [Call.perform, declare, Table.get?_openRow] at h
    split at h
    · next hd =>
      cases h
      rw [(reflects_after calls).pair, ← Call.any_declares_accepted] at hd
      exact .alreadyDeclared hd
    · cases h
  | guard given => exact refused_of_attachGuard rfl h
  | action argument given => exact refused_of_attachAction rfl rfl h
  | callback given =>
    simp only [Call.perform, setCallback, (reflects_after calls).callback] at h
    split at h
    · next hc =>
      cases h
      exact .callbackTaken hc
    · cases h
  | link argument offered =>
    cases offered with
    | guard given => exact refused_of_attachGuard rfl h
    | action given => exact refused_of_attachAction rfl rfl h

theorem refusal_of_refused {call : Call S T A E K} {e : ConfigError S T A}
    (h : Call.Refused calls call e) : (call.perform (after calls)).2 = some e := by
  cases h with
  | alreadyDeclared hd =>
    rw [Call.any_declares_accepted, ← (reflects_after calls).pair] at hd
    simp only [Call.perform, declare, Table.get?_openRow, if_pos hd]
  | @nothingDeclared _ what hcall hnone =>
    have hn := Call.newest?_eq_none_iff.2 hnone
    cases what with
    | guard =>
      obtain ⟨given, hperform⟩ := Call.exists_perform_eq_attachGuard hcall
      rw [hperform, attachGuard, refusal_attach_of_none hn]
    | action =>
      obtain ⟨kind, hkind⟩ := Call.exists_actionKind? hcall
      obtain ⟨given, hperform⟩ := Call.exists_perform_eq_attachAction hkind
      rw [hperform, attachAction, refusal_attach_of_none hn]
  | guardTaken hcall hn hg =>
    obtain ⟨given, hperform⟩ := Call.exists_perform_eq_attachGuard hcall
    rw [hperform, attachGuard, refusal_attach_iff hn, Transition.attachGuard_eq_error_iff]
    exact ⟨hg, rfl⟩
  | actionMismatch hkind hn hne =>
    obtain ⟨given, hperform⟩ := Call.exists_perform_eq_attachAction hkind
    rw [hperform, attachAction, refusal_attach_iff hn, Transition.attachAction_eq_error_iff]
    exact .inl ⟨hne, rfl⟩
  | actionTaken hkind hn ha =>
    obtain ⟨given, hperform⟩ := Call.exists_perform_eq_attachAction hkind
    rw [hperform, attachAction, refusal_attach_iff hn, Transition.attachAction_eq_error_iff]
    exact .inr ⟨rfl, ha, rfl⟩
  | callbackTaken hc =>
    rw [← (reflects_after calls).callback] at hc
    simp only [Call.perform, setCallback, if_pos hc]

omit [EquivBEq S] [EquivBEq T] [DecidableEq A] in
theorem attach_of_refusal {compiler : Compiler S T A E K} {what : Attachment}
    {change : Transition S T A E K → Except (ConfigError S T A) (Transition S T A E K)}
    {e : ConfigError S T A} (h : (compiler.attach what change).2 = some e) :
    (compiler.attach what change).1 = compiler := by
  obtain ⟨initial, table, last, callback⟩ := compiler
  cases last with
  | none => rfl
  | some pair =>
    simp only [attach] at h ⊢
    cases hg : table.get? pair.1 pair.2 with
    | none => rfl
    | some transition =>
      rw [hg] at h
      simp only at h ⊢
      cases hc : change transition with
      | error e => rfl
      | ok changed =>
        rw [hc] at h
        cases h

omit [EquivBEq T] in
/-- A refused call leaves the compiler as it was. A repeated declaration opens no row, since the
earlier one did. -/
theorem perform_of_refusal {compiler : Compiler S T A E K} {call : Call S T A E K}
    {e : ConfigError S T A} (h : (call.perform compiler).2 = some e) :
    (call.perform compiler).1 = compiler := by
  cases call with
  | setInitial state => cases h
  | declare source trigger target argument =>
    simp only [Call.perform, declare, Table.get?_openRow] at h ⊢
    split at h
    · next hd =>
      obtain ⟨transition, hfound⟩ := Option.isSome_iff_exists.1 hd
      rw [if_pos hd, Table.openRow_of_hasRow (Table.hasRow_of_get? hfound)]
    · cases h
  | guard given => exact attach_of_refusal h
  | action argument given => exact attach_of_refusal h
  | callback given =>
    simp only [Call.perform, setCallback] at h ⊢
    split at h
    · next hc => rw [if_pos hc]
    · cases h
  | link argument offered =>
    cases offered with
    | guard given => exact attach_of_refusal h
    | action given => exact attach_of_refusal h

/-- What is filed under the pair declared last is the transition declared last. A call is refused
just where one of the reasons applies. It then leaves the compiler as it was, and whatever calls
follow, they are answered and compiled as if it had not been made. -/
theorem refused_after [Named S] (calls : List (Call S T A E K)) (call : Call S T A E K) :
    (after calls).last.bind (fun pair => (after calls).table.get? pair.1 pair.2) =
      Call.newest? calls ∧
    (∀ e, (call.perform (after calls)).2 = some e ↔ Call.Refused calls call e) ∧
    ∀ e, (call.perform (after calls)).2 = some e →
      (call.perform (after calls)).1 = after calls ∧
      ∀ later, after (calls ++ call :: later) = after (calls ++ later) ∧
        (∀ next : Call S T A E K, next.perform (after (calls ++ call :: later)) =
          next.perform (after (calls ++ later))) ∧
        (after (calls ++ call :: later)).compile = (after (calls ++ later)).compile := by
  refine ⟨get?_last_after calls, fun e => ⟨refused_of_refusal, refusal_of_refused⟩,
    fun e he => ?_⟩
  have hsame := perform_of_refusal he
  refine ⟨hsame, fun later => ?_⟩
  have hafter : after (calls ++ call :: later) = after (calls ++ later) := by
    simp only [after, List.foldl_append, List.foldl_cons]
    rw [← after, hsame]
  exact ⟨hafter, fun next => by rw [hafter], by rw [hafter]⟩

open Scenario in
def actedCalls : List (Call (Label .folded) (Label .folded) Kind Unit (Memory (Label .folded))) :=
  [.declare ⟨"a"⟩ ⟨"go"⟩ ⟨"b"⟩ (some .bool), .action (some .bool) fun _ _ _ _ => .done]

open Scenario in
theorem refused_after_actedCalls :
    EquivBEq (Label .folded) ∧
      ((Call.action none fun _ _ _ _ => .done).perform (after actedCalls)).2 =
        some (.actionMismatch ⟨"a"⟩ ⟨"go"⟩ (some .bool) none) ∧
      after (actedCalls ++ [.declare ⟨"A"⟩ ⟨"GO"⟩ ⟨"c"⟩ none, .guard fun _ _ _ e => (true, e)]) =
        after (actedCalls ++ [.guard fun _ _ _ e => (true, e)]) := by
  obtain ⟨-, hmismatch, -⟩ := refused_after actedCalls (.action none fun _ _ _ _ => .done)
  obtain ⟨-, hrepeated, hremoved⟩ := refused_after actedCalls (.declare ⟨"A"⟩ ⟨"GO"⟩ ⟨"c"⟩ none)
  have hnewest : Call.newest? actedCalls = some ⟨⟨"a"⟩, ⟨"go"⟩, ⟨"b"⟩, some .bool, none,
      some fun _ _ _ _ => .done⟩ := rfl
  refine ⟨inferInstance, (hmismatch _).2 (.actionMismatch rfl hnewest (by simp)), ?_⟩
  exact ((hremoved _ ((hrepeated _).2 (.alreadyDeclared rfl))).2 _).1

end Compiler

end StateMachine
