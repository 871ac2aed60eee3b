import StateMachine.Proofs.Dispatch
import StateMachine.Proofs.Filing

namespace StateMachine

namespace Table

variable {S T α : Type} [BEq S] {table : Table S T α} {state : S}

theorem triggers_of_get? {row : Keyed T α} (h : table.rows.get? state = some row) :
    table.triggers state = row.keys := by
  rw [triggers, h]

theorem triggers_eq_nil_of_not_hasRow (h : table.hasRow state = false) :
    table.triggers state = [] := by
  rw [hasRow, Keyed.contains, Option.isSome_eq_false_iff, Option.isNone_iff_eq_none] at h
  rw [triggers, h]

theorem any_triggers [BEq T] (table : Table S T α) (state : S) (trigger : T) :
    (table.triggers state).any (trigger == ·) = (table.get? state trigger).isSome := by
  rw [triggers, get?]
  cases table.rows.get? state with
  | none => rfl
  | some row => exact row.any_keys trigger

theorem size_modify [BEq T] (table : Table S T α) (state : S) (trigger : T) (f : α → α) :
    (table.modify state trigger f).size = table.size := by
  obtain ⟨⟨entries⟩⟩ := table
  show size ⟨⟨Keyed.modifyEntries state (·.modify trigger f) entries⟩⟩ = _
  induction entries with
  | nil => rfl
  | cons entry rest ih =>
    simp only [Keyed.modifyEntries]
    split
    · simp only [size_cons, Keyed.size_modify]
    · simp only [size_cons, ih]

variable [BEq T]

theorem WellFormed.pairwise_triggers (h : table.WellFormed) (state : S) :
    (table.triggers state).Pairwise fun a b => (a == b) = false := by
  rw [triggers]
  cases hr : table.rows.get? state with
  | none => exact .nil
  | some row => exact (h.row_of_get? hr).2

theorem WellFormed.hasRow_iff (h : table.WellFormed) (state : S) :
    table.hasRow state = true ↔ table.triggers state ≠ [] := by
  constructor
  · intro hrow hnil
    obtain ⟨row, hr⟩ := Option.isSome_iff_exists.1 hrow
    rw [triggers_of_get? hr, Keyed.keys, List.map_eq_nil_iff] at hnil
    have hempty := (h.row_of_get? hr).1
    rw [Keyed.isEmpty, hnil] at hempty
    cases hempty
  · intro hne
    cases hrow : table.hasRow state with
    | true => rfl
    | false => exact (hne (triggers_eq_nil_of_not_hasRow hrow)).elim

theorem WellFormed.size_eq [EquivBEq S] (h : table.WellFormed) :
    table.size =
      table.states.foldr (fun state total => (table.triggers state).length + total) 0 := by
  rw [states, Keyed.keys, List.foldr_map, size]
  refine List.foldr_ext _ _ _ fun entry hmem total => ?_
  rw [triggers_of_get? (h.distinct.get?_of_mem hmem), Keyed.keys, List.length_map]
  rfl

end Table

variable {S T A E K : Type} [ArgumentKind A] [BEq S] [BEq T] [DecidableEq A]

namespace Compiler

omit [DecidableEq A] in
theorem size_declare [EquivBEq S] (compiler : Compiler S T A E K) (source : S) (trigger : T)
    (target : S) (argument : Option A) :
    (compiler.declare source trigger target argument).1.table.size = compiler.table.size +
      if (compiler.declare source trigger target argument).2.isNone then 1 else 0 := by
  simp only [declare]
  split
  · exact Table.size_openRow _ _
  · exact Table.size_file _ _ _ _

omit [DecidableEq A] in
theorem size_attach (compiler : Compiler S T A E K) (what : Attachment)
    (change : Transition S T A E K → Except (ConfigError S T A) (Transition S T A E K)) :
    (compiler.attach what change).1.table.size = compiler.table.size := by
  obtain ⟨initial, table, last, callback⟩ := compiler
  cases last with
  | none => rfl
  | some pair =>
    simp only [attach]
    cases table.get? pair.1 pair.2 with
    | none => rfl
    | some transition =>
      simp only
      cases change transition with
      | error e => rfl
      | ok changed => exact Table.size_modify _ _ _ _

/-- A declaration that is accepted adds one entry to the table, and no other call adds any. -/
theorem size_perform [EquivBEq S] (compiler : Compiler S T A E K) (call : Call S T A E K) :
    (call.perform compiler).1.table.size = compiler.table.size +
      if call.isDeclaration && (call.perform compiler).2.isNone then 1 else 0 := by
  cases call with
  | setInitial state => rfl
  | declare source trigger target argument => exact size_declare compiler _ _ _ _
  | guard given => exact size_attach compiler _ _
  | action argument given => exact size_attach compiler _ _
  | callback given =>
    simp only [Call.perform, setCallback]
    split <;> rfl
  | link argument offered =>
    cases offered with
    | guard given => exact size_attach compiler _ _
    | action given => exact size_attach compiler _ _

theorem size_after [EquivBEq S] (calls : List (Call S T A E K)) :
    (after calls).table.size = (Call.accepted calls).length := by
  induction calls using List.reverseRecOn with
  | nil => rfl
  | append_singleton calls call ih =>
    rw [after_append, size_perform, accepted_append_singleton, List.length_append, ih]
    split <;> rfl

omit [BEq S] [BEq T] [DecidableEq A] in
theorem compile_eq_ok [Named S] {compiler : Compiler S T A E K} {machine : Machine S T A E K}
    {record : Log.Record} (h : compiler.compile = .ok (machine, record)) :
    machine.table = compiler.table ∧
      record = .compiled (name machine.initial) machine.states.length machine.size := by
  unfold compile at h
  split at h
  · cases h
  · split at h
    · cases h
    · cases h
      exact ⟨rfl, rfl⟩

end Compiler

namespace Call

variable {calls : List (Call S T A E K)} {state found : S} {trigger input : T}
  {argument : Argument A} {environment : E}

theorem outcome_deadState_iff :
    Outcome calls state trigger argument environment (.error (.deadState found)) ↔
      found = state ∧ calls.any (·.leaves state) = false := by
  constructor
  · intro h
    cases h with
    | deadState leaves => exact ⟨rfl, leaves⟩
  · rintro ⟨rfl, leaves⟩
    exact .deadState leaves

theorem outcome_undeclared_iff :
    Outcome calls state trigger argument environment (.error (.undeclared found input)) ↔
      (found = state ∧ input = trigger) ∧ calls.any (·.leaves state) = true ∧
        calls.any (·.declares state trigger) = false := by
  constructor
  · intro h
    cases h with
    | undeclared leaves declares => exact ⟨⟨rfl, rfl⟩, leaves, declares⟩
  · rintro ⟨⟨rfl, rfl⟩, leaves, declares⟩
    exact .undeclared leaves declares

end Call

namespace Machine

variable [Token K S] [Named S] [Named T] [EquivBEq S] [EquivBEq T]

/-- The queries of a compiled machine describe one table. A state is listed once, up to equality,
just if transitions lead out of it, and so is a trigger just if it has a transition there; what is
found was declared for an equal pair. The entries are counted by the rows as by the accepted
declarations and in the record of the compilation, and a fire is refused for the lack of a
transition just where the queries show none. -/
theorem queries_agree {calls : List (Call S T A E K)} {machine : Machine S T A E K}
    {record : Log.Record} (hc : (Compiler.after calls).compile = .ok (machine, record)) :
    (machine.states.Pairwise fun a b => (a == b) = false) ∧
    (∀ state,
      (machine.states.any (state == ·) = true ↔ machine.hasTransitions state = true) ∧
      (machine.hasTransitions state = true ↔ machine.triggersFrom state ≠ []) ∧
      (machine.hasTransitions state = true ↔
        ∃ trigger, (machine.transition? state trigger).isSome = true) ∧
      ((machine.triggersFrom state).Pairwise fun a b => (a == b) = false) ∧
      ∀ trigger,
        ((machine.triggersFrom state).any (trigger == ·) = true ↔
          (machine.transition? state trigger).isSome = true) ∧
        (∀ transition, machine.transition? state trigger = some transition →
          (transition.source == state) = true ∧ (transition.trigger == trigger) = true) ∧
        ∀ depth argument (world : World E K), Token.state world.token = state →
          let outcome := (machine.fire depth trigger argument world).value
          (∀ found, outcome = .error (.deadState found) ↔
            found = state ∧ machine.hasTransitions state = false) ∧
          ∀ found input, outcome = .error (.undeclared found input) ↔
            (found = state ∧ input = trigger) ∧ machine.hasTransitions state = true ∧
              machine.transition? state trigger = none) ∧
    machine.size = machine.states.foldr
      (fun state total => (machine.triggersFrom state).length + total) 0 ∧
    machine.size = (Call.accepted calls).length ∧
    record = .compiled (name machine.initial) machine.states.length machine.size := by
  have h := (Compiler.reflects_after calls).describes hc
  obtain ⟨htable, hrecord⟩ := Compiler.compile_eq_ok hc
  have hwf : machine.table.WellFormed := htable ▸ Compiler.wellFormed_after calls
  have hsize : machine.size = (Call.accepted calls).length := by
    rw [← Compiler.size_after, ← htable]
    rfl
  refine ⟨hwf.distinct, fun state => ⟨?_, hwf.hasRow_iff state, h.hasTransitions_iff state,
    hwf.pairwise_triggers state, fun trigger => ⟨?_, fun transition ht => ?_, ?_⟩⟩, hwf.size_eq,
    hsize, hrecord⟩
  · exact iff_of_eq (congrArg (· = true) (machine.table.any_states state))
  · exact iff_of_eq (congrArg (· = true) (machine.table.any_triggers state trigger))
  · rw [h.transition] at ht
    obtain ⟨hs, hi⟩ := Bool.and_eq_true_iff.1 (Call.declaration_of_transition? ht).1
    exact ⟨BEq.symm hs, BEq.symm hi⟩
  · rintro depth argument world rfl
    have hvalue := h.value_fireUnder_iff (machine.answer depth) trigger argument world
    refine ⟨fun found => ?_, fun found input => ?_⟩
    · rw [h.row, ← Call.outcome_deadState_iff, ← hvalue]
      rfl
    · rw [h.row, ← Option.not_isSome_iff_eq_none, h.declared, Bool.not_eq_true,
        ← Call.outcome_undeclared_iff, ← hvalue]
      rfl

open Scenario in
/-- The machine of three declarations, one of which repeats a pair in capital letters. -/
def foldedMachine : Machine (Label .folded) (Label .folded) Kind Unit (Memory (Label .folded)) :=
  ⟨⟨"B"⟩, (Compiler.after Compiler.foldedCalls).table, none⟩

theorem compile_foldedMachine : (Compiler.after Compiler.foldedCalls).compile =
    .ok (foldedMachine, .compiled "B" 2 2) :=
  rfl

theorem queries_agree_folded :
    foldedMachine.size = 2 ∧ foldedMachine.states.any (⟨"A"⟩ == ·) = true ∧
      foldedMachine.triggersFrom ⟨"A"⟩ ≠ [] ∧
      (foldedMachine.fire 0 ⟨"go"⟩ .absent ⟨(), ⟨⟨"c"⟩⟩⟩).value = .error (.deadState ⟨"c"⟩) ∧
      (foldedMachine.fire 0 ⟨"stop"⟩ .absent ⟨(), ⟨⟨"A"⟩⟩⟩).value =
        .error (.undeclared ⟨"A"⟩ ⟨"stop"⟩) := by
  obtain ⟨-, hstate, -, hsize, -⟩ := queries_agree compile_foldedMachine
  obtain ⟨hlisted, hdeparts, -, -, hstop⟩ := hstate ⟨"A"⟩
  obtain ⟨-, -, -, -, hgo⟩ := hstate ⟨"c"⟩
  have hrow : foldedMachine.hasTransitions ⟨"A"⟩ = true := rfl
  refine ⟨hsize, hlisted.2 hrow, hdeparts.1 hrow, ?_, ?_⟩
  · exact (((hgo ⟨"go"⟩).2.2 0 .absent _ rfl).1 _).2 ⟨rfl, rfl⟩
  · exact (((hstop ⟨"stop"⟩).2.2 0 .absent _ rfl).2 _ _).2 ⟨⟨rfl, rfl⟩, hrow, rfl⟩

end Machine

end StateMachine
