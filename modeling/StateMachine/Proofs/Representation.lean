import StateMachine.Proofs.Acceptance
import StateMachine.Proofs.ArgumentSafety

namespace StateMachine

namespace Keyed

variable {κ α : Type} [BEq κ]

def Distinct (map : Keyed κ α) : Prop := map.keys.Pairwise fun a b => (a == b) = false

theorem distinct_empty : (empty : Keyed κ α).Distinct := .nil

theorem keys_modify (map : Keyed κ α) (key : κ) (f : α → α) :
    (map.modify key f).keys = map.keys := by
  obtain ⟨entries⟩ := map
  simp only [modify, keys]
  induction entries with
  | nil => rfl
  | cons entry rest ih =>
    simp only [modifyEntries]
    split
    · rfl
    · simp only [List.map_cons, ih]

theorem Distinct.modify {map : Keyed κ α} (h : map.Distinct) (key : κ) (f : α → α) :
    (map.modify key f).Distinct := by
  rw [Distinct, keys_modify]
  exact h

theorem Distinct.add [EquivBEq κ] {map : Keyed κ α} (h : map.Distinct) {key : κ}
    (hn : map.get? key = none) (value : α) : (map.add key value).Distinct := by
  have hkeys : (map.add key value).keys = map.keys ++ [key] := List.map_append
  rw [Distinct, hkeys, List.pairwise_append]
  refine ⟨h, List.pairwise_singleton _ _, ?_⟩
  intro a ha b hb
  obtain rfl := List.mem_singleton.1 hb
  obtain ⟨entry, hmem, rfl⟩ := List.mem_map.1 ha
  have hne := List.lookup_eq_none_iff.1 hn entry hmem
  rw [bne, Bool.not_eq_true'] at hne
  rw [BEq.comm, hne]

theorem exists_mem_of_get? {map : Keyed κ α} {key : κ} {value : α}
    (h : map.get? key = some value) : ∃ k, (key == k) = true ∧ (k, value) ∈ map.entries := by
  obtain ⟨entries⟩ := map
  simp only [get?] at h
  induction entries with
  | nil => cases h
  | cons entry rest ih =>
    rw [List.lookup_cons] at h
    cases hk : key == entry.1 with
    | true =>
      rw [hk] at h
      cases h
      exact ⟨entry.1, hk, List.mem_cons_self⟩
    | false =>
      rw [hk] at h
      obtain ⟨k, hkey, hmem⟩ := ih h
      exact ⟨k, hkey, List.mem_cons_of_mem _ hmem⟩

theorem Distinct.get?_of_mem [EquivBEq κ] {map : Keyed κ α} (h : map.Distinct) {key : κ}
    {value : α} (hm : (key, value) ∈ map.entries) : map.get? key = some value := by
  obtain ⟨entries⟩ := map
  simp only [get?]
  induction entries with
  | nil => cases hm
  | cons entry rest ih =>
    obtain ⟨hfirst, hrest⟩ := List.pairwise_cons.1 h
    rw [List.lookup_cons]
    rcases List.mem_cons.1 hm with rfl | hm
    · rw [BEq.rfl]
    · have hne := hfirst key (List.mem_map_of_mem hm)
      rw [BEq.comm, hne]
      exact ih hrest hm

end Keyed

namespace Table

variable {S T α : Type}

def Files (table : Table S T α) (state : S) (trigger : T) (value : α) : Prop :=
  ∃ row, (state, row) ∈ table.rows.entries ∧ (trigger, value) ∈ row.entries

variable [BEq S] [BEq T]

/-- Every row has entries, and neither rows nor the entries of one row have equal keys. -/
structure WellFormed (table : Table S T α) : Prop where
  distinct : table.rows.Distinct
  row : ∀ entry ∈ table.rows.entries, entry.2.isEmpty = false ∧ entry.2.Distinct

theorem wellFormed_empty : (empty : Table S T α).WellFormed where
  distinct := Keyed.distinct_empty
  row _ hmem := by cases hmem

variable {table : Table S T α}

theorem WellFormed.row_of_get? (h : table.WellFormed) {state : S} {row : Keyed T α}
    (hr : table.rows.get? state = some row) : row.isEmpty = false ∧ row.Distinct := by
  obtain ⟨key, -, hmem⟩ := Keyed.exists_mem_of_get? hr
  exact h.row _ hmem

variable [EquivBEq S]

theorem WellFormed.get?_of_files [EquivBEq T] (h : table.WellFormed) {state : S} {trigger : T}
    {value : α} (hf : table.Files state trigger value) :
    table.get? state trigger = some value := by
  obtain ⟨row, hrow, hvalue⟩ := hf
  rw [get?, h.distinct.get?_of_mem hrow]
  exact (h.row _ hrow).2.get?_of_mem hvalue

theorem wellFormed_of_get? (hd : table.rows.Distinct)
    (hr : ∀ state row, table.rows.get? state = some row → row.isEmpty = false ∧ row.Distinct) :
    table.WellFormed :=
  ⟨hd, fun entry hmem => hr entry.1 entry.2 (hd.get?_of_mem hmem)⟩

theorem WellFormed.modify (h : table.WellFormed) (state : S) (trigger : T) (f : α → α) :
    (table.modify state trigger f).WellFormed := by
  have hdistinct : (table.modify state trigger f).rows.Distinct := h.distinct.modify _ _
  refine wellFormed_of_get? hdistinct fun key row hrow => ?_
  rw [Table.modify, Keyed.get?_modify] at hrow
  split at hrow
  · obtain ⟨old, hold, rfl⟩ := Option.map_eq_some_iff.1 hrow
    obtain ⟨hempty, hdistinct⟩ := h.row_of_get? hold
    exact ⟨(old.isEmpty_modify _ _).trans hempty, hdistinct.modify _ _⟩
  · exact h.row_of_get? hrow

omit [BEq T] in
theorem get?_rows_openRow (table : Table S T α) (state key : S) :
    (table.openRow state).rows.get? key =
      (table.rows.get? key).or (if key == state then some .empty else none) := by
  cases h : table.hasRow state with
  | false =>
    rw [openRow, if_neg (Bool.eq_false_iff.1 h)]
    exact Keyed.get?_add _ _ _ _
  | true =>
    rw [openRow_of_hasRow h]
    cases hk : key == state with
    | false => simp
    | true =>
      obtain ⟨row, hrow⟩ := Option.isSome_iff_exists.1 h
      rw [Keyed.get?_congr _ hk, hrow]
      rfl

/-- A pair without an entry gets one, in its state's row or in a new one. -/
theorem WellFormed.file [EquivBEq T] (h : table.WellFormed) {state : S} {trigger : T}
    (hn : table.get? state trigger = none) (value : α) :
    ((table.openRow state).add state trigger value).WellFormed := by
  have hopen : (table.openRow state).rows.Distinct := by
    cases hr : table.hasRow state with
    | true =>
      rw [openRow_of_hasRow hr]
      exact h.distinct
    | false =>
      rw [openRow, if_neg (Bool.eq_false_iff.1 hr)]
      exact h.distinct.add (Option.not_isSome_iff_eq_none.1 (Bool.eq_false_iff.1 hr)) _
  have hdistinct : ((table.openRow state).add state trigger value).rows.Distinct :=
    hopen.modify _ _
  refine wellFormed_of_get? hdistinct fun key row hrow => ?_
  rw [add, Keyed.get?_modify, get?_rows_openRow] at hrow
  split at hrow
  · next hk =>
    obtain ⟨old, hold, rfl⟩ := Option.map_eq_some_iff.1 hrow
    refine ⟨Keyed.isEmpty_add _ _ _, ?_⟩
    cases ht : table.rows.get? key with
    | none =>
      rw [ht] at hold
      cases hold
      exact Keyed.distinct_empty.add rfl _
    | some found =>
      rw [ht] at hold
      cases hold
      rw [get?, ← Keyed.get?_congr _ hk, ht] at hn
      exact (h.row_of_get? ht).2.add hn _
  · next hk =>
    rw [Option.or_none] at hrow
    exact h.row_of_get? hrow

end Table

variable {S T A E K : Type} [ArgumentKind A] [BEq S] [BEq T] [DecidableEq A]

namespace Compiler

variable [EquivBEq S] [EquivBEq T] {calls : List (Call S T A E K)}

omit [DecidableEq A] in
theorem wellFormed_declare {compiler : Compiler S T A E K} (h : compiler.table.WellFormed)
    (source : S) (trigger : T) (target : S) (argument : Option A) :
    (compiler.declare source trigger target argument).1.table.WellFormed := by
  simp only [declare, Table.get?_openRow]
  split
  · next hd =>
    obtain ⟨transition, hfound⟩ := Option.isSome_iff_exists.1 hd
    simp only [Table.openRow_of_hasRow (Table.hasRow_of_get? hfound)]
    exact h
  · next hd => exact h.file (Option.not_isSome_iff_eq_none.1 hd) _

omit [DecidableEq A] [EquivBEq T] in
theorem wellFormed_attach {compiler : Compiler S T A E K} (h : compiler.table.WellFormed)
    (what : Attachment)
    (change : Transition S T A E K → Except (ConfigError S T A) (Transition S T A E K)) :
    (compiler.attach what change).1.table.WellFormed := by
  obtain ⟨initial, table, last, callback⟩ := compiler
  cases last with
  | none => exact h
  | some pair =>
    simp only [attach]
    cases table.get? pair.1 pair.2 with
    | none => exact h
    | some transition =>
      simp only
      cases change transition with
      | error e => exact h
      | ok changed => exact h.modify _ _ _

theorem wellFormed_perform {compiler : Compiler S T A E K} (h : compiler.table.WellFormed)
    (call : Call S T A E K) : (call.perform compiler).1.table.WellFormed := by
  cases call with
  | setInitial state => exact h
  | declare source trigger target argument => exact wellFormed_declare h _ _ _ _
  | guard given => exact wellFormed_attach h _ _
  | action argument given => exact wellFormed_attach h _ _
  | callback given =>
    simp only [Call.perform, setCallback]
    split <;> exact h
  | link argument offered =>
    cases offered with
    | guard given => exact wellFormed_attach h _ _
    | action given => exact wellFormed_attach h _ _

theorem wellFormed_after (calls : List (Call S T A E K)) : (after calls).table.WellFormed := by
  induction calls using List.reverseRecOn with
  | nil => exact Table.wellFormed_empty
  | append_singleton calls call ih =>
    rw [after_append]
    exact wellFormed_perform ih call

/-- How the parts of a compiler fit together after the calls that led to it. -/
structure Sound (compiler : Compiler S T A E K) (calls : List (Call S T A E K)) : Prop where
  wellFormed : compiler.table.WellFormed
  filed : ∀ state trigger transition, compiler.table.Files state trigger transition →
    (transition.source == state) = true ∧ (transition.trigger == trigger) = true
  last_eq_none_iff : compiler.last = none ↔ compiler.table.isEmpty = true
  newest : ∀ source trigger, compiler.last = some (source, trigger) →
    ∃ transition, compiler.table.get? source trigger = some transition ∧
      transition.source = source ∧ transition.trigger = trigger ∧
      (Call.accepted calls).getLast? = some transition.declaration
  action : ∀ state trigger transition, compiler.table.Files state trigger transition →
    ∀ action, transition.action = some action →
      transition.declaration ∈ Call.accepted calls ∧
        (.action transition.argument action ∈ calls ∨
          .link transition.argument (.action action) ∈ calls)

theorem last_eq_none_iff (calls : List (Call S T A E K)) :
    (after calls).last = none ↔ Call.accepted calls = [] := by
  constructor
  · intro h
    rw [← Call.newest?_eq_none_iff, ← get?_last_after, h]
    rfl
  · intro h
    rw [last_after, h]
    rfl

theorem exists_newest_of_last {source : S} {trigger : T}
    (h : (after calls).last = some (source, trigger)) :
    ∃ transition, (after calls).table.get? source trigger = some transition ∧
      transition.source = source ∧ transition.trigger = trigger ∧
      (Call.accepted calls).getLast? = some transition.declaration := by
  rw [last_after] at h
  obtain ⟨call, hnewest, hpair⟩ := Option.bind_eq_some_iff.1 h
  have hmem := List.mem_of_getLast? hnewest
  cases call with
  | declare state input target argument =>
    cases hpair
    obtain ⟨transition, hfound, hdeclaration⟩ := Call.exists_transition?_of_mem_accepted hmem
    refine ⟨transition, ?_, ?_, ?_, ?_⟩
    · rw [(reflects_after calls).transition, hfound]
    · exact congrArg (fun call => (call.pair?.map (·.1)).getD source) hdeclaration
    · exact congrArg (fun call => (call.pair?.map (·.2)).getD trigger) hdeclaration
    · rw [hnewest, hdeclaration]
  | _ => cases hpair

theorem sound (calls : List (Call S T A E K)) : (after calls).Sound calls := by
  have hwf := wellFormed_after calls
  have hr := reflects_after calls
  have hfiled : ∀ {state trigger transition},
      (after calls).table.Files state trigger transition →
        Call.transition? calls state trigger = some transition := by
    intro state trigger transition hf
    rw [← hr.transition]
    exact hwf.get?_of_files hf
  refine ⟨hwf, fun state trigger transition hf => ?_, ?_, fun source trigger hlast => ?_,
    fun state trigger transition hf action ha => ?_⟩
  · have hpair := (Call.declaration_of_transition? (hfiled hf)).1
    obtain ⟨hs, ht⟩ := Bool.and_eq_true_iff.1 hpair
    exact ⟨BEq.symm hs, BEq.symm ht⟩
  · rw [last_eq_none_iff, Call.accepted_eq_nil_iff, hr.empty, Bool.not_eq_true']
  · exact exists_newest_of_last hlast
  · exact ⟨(Call.declaration_of_transition? (hfiled hf)).2,
      (Call.mem_of_transition? (hfiled hf)).2 action ha⟩

/-- After any calls, accepted or refused, the parts of a compiler fit together. So an attachment
finds no transition to be made to just as long as no declaration was accepted, and a compiled
machine has transitions out of a state just where an accepted declaration leaves it. -/
theorem sound_after [Named S] (calls : List (Call S T A E K)) :
    (after calls).Sound calls ∧
    (∀ (call : Call S T A E K) what,
      (call.perform (after calls)).2 = some (.nothingDeclared what) ↔
        call.attachment? = some what ∧ Call.accepted calls = []) ∧
    ∀ machine record, (after calls).compile = .ok (machine, record) →
      ∀ state, machine.hasTransitions state = true ↔
        (Call.accepted calls).any (·.leaves state) = true := by
  refine ⟨sound calls, fun call what => ⟨fun h => ?_, ?_⟩, fun machine record hc state => ?_⟩
  · cases refused_of_refusal h with
    | nothingDeclared hcall hnone => exact ⟨hcall, hnone⟩
  · rintro ⟨hcall, hnone⟩
    exact refusal_of_refused (.nothingDeclared hcall hnone)
  · rw [((reflects_after calls).describes hc).row, Call.any_leaves_accepted]

open Scenario in
theorem sound_after_foldedCalls :
    EquivBEq (Label .folded) ∧
      (∃ transition, (after foldedCalls).table.get? ⟨"b"⟩ ⟨"go"⟩ = some transition ∧
        (Call.accepted foldedCalls).getLast? = some transition.declaration) ∧
      ((Call.guard fun _ _ _ e => (true, e)).perform
        (after ([] : List (Call (Label .folded) (Label .folded) Kind Unit
          (Memory (Label .folded)))))).2 = some (.nothingDeclared .guard) ∧
      ∃ machine record, (after foldedCalls).compile = .ok (machine, record) ∧
        machine.hasTransitions ⟨"A"⟩ = true := by
  obtain ⟨hsound, -, hrows⟩ := sound_after foldedCalls
  obtain ⟨-, hnothing, -⟩ := sound_after
    ([] : List (Call (Label .folded) (Label .folded) Kind Unit (Memory (Label .folded))))
  obtain ⟨transition, hfiled, -, -, hnewest⟩ := hsound.newest ⟨"b"⟩ ⟨"go"⟩ rfl
  exact ⟨inferInstance, ⟨transition, hfiled, hnewest⟩, (hnothing _ _).2 ⟨rfl, rfl⟩,
    _, _, rfl, (hrows _ _ rfl _).2 rfl⟩

end Compiler

end StateMachine
