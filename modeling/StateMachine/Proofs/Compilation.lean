import Mathlib.Data.List.Induction
import StateMachine.Proofs.Calls
import StateMachine.Scenario.Kind
import StateMachine.Scenario.Vocabulary

namespace StateMachine

variable {S T A E K : Type} [ArgumentKind A] [BEq S] [BEq T]

namespace Compiler

def isLast (compiler : Compiler S T A E K) (state : S) (trigger : T) : Bool :=
  compiler.last.any fun pair => state == pair.1 && trigger == pair.2

def settle (change : Transition S T A E K → Except (ConfigError S T A) (Transition S T A E K))
    (transition : Transition S T A E K) : Transition S T A E K :=
  match change transition with
  | .error _ => transition
  | .ok changed => changed

theorem get?_declare [EquivBEq S] [EquivBEq T] (compiler : Compiler S T A E K) (source : S)
    (trigger : T) (target : S) (argument : Option A) (state : S) (input : T) :
    (compiler.declare source trigger target argument).1.table.get? state input =
      (compiler.table.get? state input).or
        (if state == source && input == trigger then
          some (.declared source trigger target argument) else none) := by
  have hrow : (compiler.table.openRow source).hasRow source = true := by
    rw [Table.hasRow_openRow, BEq.rfl, Bool.or_true]
  simp only [declare, Table.get?_openRow]
  split
  · next hd =>
    cases hp : state == source && input == trigger with
    | false => simp
    | true =>
      obtain ⟨hs, ht⟩ := Bool.and_eq_true_iff.1 hp
      obtain ⟨transition, he⟩ := Option.isSome_iff_exists.1 hd
      simp [Table.get?_congr _ hs ht, he]
  · simp only [Table.get?_add hrow, Table.get?_openRow]

theorem hasRow_declare [EquivBEq S] (compiler : Compiler S T A E K) (source : S) (trigger : T)
    (target : S) (argument : Option A) (state : S) :
    (compiler.declare source trigger target argument).1.table.hasRow state =
      (compiler.table.hasRow state || state == source) := by
  simp only [declare]
  split <;> simp [Table.hasRow_openRow]

theorem isEmpty_declare [EquivBEq S] (compiler : Compiler S T A E K) (source : S) (trigger : T)
    (target : S) (argument : Option A) :
    (compiler.declare source trigger target argument).1.table.isEmpty = false := by
  have hrow : (compiler.declare source trigger target argument).1.table.hasRow source = true := by
    rw [hasRow_declare, BEq.rfl, Bool.or_true]
  exact Table.isEmpty_eq_false_of_hasRow hrow

theorem refusal_declare [EquivBEq S] (compiler : Compiler S T A E K) (source : S) (trigger : T)
    (target : S) (argument : Option A) :
    (compiler.declare source trigger target argument).2 = none ↔
      compiler.table.get? source trigger = none := by
  simp only [declare, Table.get?_openRow]
  split
  · next h => simp [Option.isSome_iff_ne_none.1 h]
  · next h => simpa using h

theorem isLast_declare [EquivBEq S] (compiler : Compiler S T A E K) (source : S) (trigger : T)
    (target : S) (argument : Option A) (state : S) (input : T) :
    (compiler.declare source trigger target argument).1.isLast state input =
      if compiler.table.get? source trigger = none then state == source && input == trigger
      else compiler.isLast state input := by
  simp only [declare, Table.get?_openRow]
  split
  · next h => rw [if_neg (Option.isSome_iff_ne_none.1 h)]; rfl
  · next h => rw [if_pos (by simpa using h)]; rfl

theorem get?_attach [EquivBEq S] [EquivBEq T] (compiler : Compiler S T A E K) (what : Attachment)
    (change : Transition S T A E K → Except (ConfigError S T A) (Transition S T A E K))
    (state : S) (input : T) :
    (compiler.attach what change).1.table.get? state input =
      (compiler.table.get? state input).map fun transition =>
        if compiler.isLast state input then settle change transition else transition := by
  obtain ⟨initial, table, last, callback⟩ := compiler
  cases last with
  | none => simp [attach, isLast]
  | some pair =>
    obtain ⟨source, trigger⟩ := pair
    simp only [attach]
    by_cases hl : isLast ⟨initial, table, some (source, trigger), callback⟩ state input = true
    · have hp : (state == source && input == trigger) = true := hl
      obtain ⟨hs, ht⟩ := Bool.and_eq_true_iff.1 hp
      have he : table.get? state input = table.get? source trigger := Table.get?_congr _ hs ht
      cases hg : table.get? source trigger with
      | none => simp [he, hg]
      | some transition =>
        simp only [he, hg, Option.map_some, if_pos hl, settle]
        cases change transition with
        | error e => simp [he, hg]
        | ok changed => simp [Table.get?_modify, hp, he, hg]
    · -- another pair's entry is not reached, whatever becomes of the attachment
      have hp : ¬(state == source && input == trigger) = true := hl
      simp only [if_neg hl, Option.map_id']
      cases table.get? source trigger with
      | none => rfl
      | some transition =>
        simp only
        cases change transition with
        | error e => rfl
        | ok changed => simp only [Table.get?_modify, if_neg hp]

theorem attach_frame [EquivBEq S] (compiler : Compiler S T A E K) (what : Attachment)
    (change : Transition S T A E K → Except (ConfigError S T A) (Transition S T A E K)) :
    (compiler.attach what change).1.initial = compiler.initial ∧
      (compiler.attach what change).1.callback = compiler.callback ∧
      (compiler.attach what change).1.last = compiler.last ∧
      (compiler.attach what change).1.table.isEmpty = compiler.table.isEmpty ∧
      ∀ state,
        (compiler.attach what change).1.table.hasRow state = compiler.table.hasRow state := by
  obtain ⟨initial, table, last, callback⟩ := compiler
  cases last with
  | none => simp [attach]
  | some pair =>
    simp only [attach]
    cases table.get? pair.1 pair.2 with
    | none => simp
    | some transition =>
      simp only
      cases change transition <;>
        simp [Table.isEmpty, Table.modify, Table.hasRow, Keyed.contains_modify]

variable [DecidableEq A]

omit [BEq S] [BEq T] in
theorem settle_attachGuard (guard : Guard S T E) (transition : Transition S T A E K) :
    settle (·.attachGuard guard) transition = (Call.guard guard).offer transition := by
  obtain ⟨source, trigger, target, argument, earlier, action⟩ := transition
  cases earlier <;> simp [settle, Transition.attachGuard, Call.offer, Call.guard?, Call.action?]

omit [BEq S] [BEq T] in
theorem settle_attachAction (argument : Option A) (action : Action S T A E K argument)
    (transition : Transition S T A E K) :
    settle (·.attachAction argument action) transition =
      (Call.action argument action).offer transition := by
  obtain ⟨source, trigger, target, required, guard, earlier⟩ := transition
  by_cases h : argument = required
  · subst h
    cases earlier <;> simp [settle, Transition.attachAction, Call.offer, Call.guard?, Call.action?]
  · simp [settle, Transition.attachAction, Call.offer, Call.guard?, Call.action?, h]

/-- Every part of a compiler can be read off the calls that led to it. -/
structure Reflects (compiler : Compiler S T A E K) (calls : List (Call S T A E K)) : Prop where
  initial : compiler.initial = Call.initialOf calls
  callback : compiler.callback = Call.callbackOf calls
  transition : ∀ state trigger,
    compiler.table.get? state trigger = Call.transition? calls state trigger
  row : ∀ state, compiler.table.hasRow state = calls.any (·.leaves state)
  empty : compiler.table.isEmpty = !calls.any (·.isDeclaration)
  current : ∀ state trigger, compiler.isLast state trigger = Call.isCurrent calls state trigger

variable {compiler : Compiler S T A E K} {calls : List (Call S T A E K)}

theorem Reflects.pair (h : compiler.Reflects calls) (state : S) (trigger : T) :
    (compiler.table.get? state trigger).isSome = calls.any (·.declares state trigger) := by
  rw [h.transition, Call.isSome_transition?]

theorem Reflects.beq_eq_false [EquivBEq S] [EquivBEq T] (h : compiler.Reflects calls) {s a : S}
    {t b : T} (hne : calls.any (·.declares s t) = !(compiler.table.get? a b).isSome) :
    (s == a && t == b) = false := by
  rw [Bool.eq_false_iff]
  intro hp
  obtain ⟨hs, ht⟩ := Bool.and_eq_true_iff.1 hp
  rw [← h.pair, Table.get?_congr _ hs ht] at hne
  cases hg : (compiler.table.get? a b).isSome <;> rw [hg] at hne <;> cases hne

theorem Reflects.declare [EquivBEq S] [EquivBEq T] (h : compiler.Reflects calls) (source : S)
    (trigger : T) (target : S) (argument : Option A) :
    (compiler.declare source trigger target argument).1.Reflects
      (calls ++ [.declare source trigger target argument]) where
  initial := by
    simp only [Compiler.declare]
    split <;> simp [h.initial, Call.initialOf, Call.initial?]
  callback := by
    simp only [Compiler.declare]
    split <;> simp [h.callback, Call.callbackOf, Call.callback?]
  transition state input := by
    rw [get?_declare, h.transition]
    cases hany : calls.any (·.declares state input) with
    | false =>
      have hn : Call.transition? calls state input = none := by
        rw [← Option.isNone_iff_eq_none, ← Option.not_isSome, Call.isSome_transition?, hany]
        rfl
      rw [Call.transition?_append_of_not hany, hn]
      rfl
    | true =>
      obtain ⟨transition, ht⟩ :=
        Option.isSome_iff_exists.1 ((Call.isSome_transition? ..).trans hany)
      rw [Call.transition?_append hany, ht]
      simp [Call.offer, Call.guard?, Call.action?]
  row state := by
    rw [hasRow_declare, h.row, List.any_append]
    simp [Call.leaves]
  empty := by
    rw [isEmpty_declare]
    simp [Call.isDeclaration]
  current state input := by
    have hnew : (Call.declare source trigger target argument : Call S T A E K).isNew calls =
        !calls.any (·.declares source trigger) := rfl
    rw [isLast_declare, h.current]
    cases hany : calls.any (·.declares state input) with
    | false =>
      rw [Call.isCurrent_append_of_not hany]
      split
      · rfl
      · next hd =>
        have hp := h.beq_eq_false (by rw [hany, Option.isSome_iff_ne_none.2 hd]; rfl)
        simp only [Call.isCurrent, Call.fromFirst_eq_nil_iff.2 hany, Call.declares, hp]
    | true =>
      rw [Call.isCurrent_append hany, hnew, ← h.pair, Bool.not_not]
      split
      · next hd =>
        have hp := h.beq_eq_false (by rw [hany, hd]; rfl)
        rw [hp, hd, Option.isSome_none, Bool.and_false]
      · next hd => rw [Option.isSome_iff_ne_none.2 hd, Bool.and_true]

/-- An attachment does to the table what the call offers to the current transition. -/
theorem Reflects.attach [EquivBEq S] [EquivBEq T] (h : compiler.Reflects calls) {what : Attachment}
    {change : Transition S T A E K → Except (ConfigError S T A) (Transition S T A E K)}
    {call : Call S T A E K} (hd : call.isDeclaration = false) (hi : call.initial? = none)
    (hc : call.callback? = none) (hs : settle change = call.offer) :
    (compiler.attach what change).1.Reflects (calls ++ [call]) := by
  obtain ⟨hinitial, hcallback, hlast, hempty, hrow⟩ := compiler.attach_frame what change
  constructor
  · simp [hinitial, h.initial, Call.initialOf, hi]
  · simp [hcallback, h.callback, Call.callbackOf, hc]
  · intro state trigger
    rw [get?_attach, Call.transition?_append_of_not_declaration hd, hs]
    simp only [h.transition, h.current]
  · intro state
    have hl : call.leaves state = false := by
      cases call with
      | declare => cases hd
      | _ => rfl
    rw [hrow, h.row, List.any_append]
    simp [hl]
  · rw [hempty, h.empty, List.any_append]
    simp [hd]
  · intro state trigger
    rw [Call.isCurrent_append_of_not_declaration hd, ← h.current, isLast, hlast]
    rfl

theorem Reflects.leave_table [EquivBEq S] [EquivBEq T] (h : compiler.Reflects calls)
    {call : Call S T A E K} {initial : Option S} {callback : Option (Callback S T A E K)}
    (hd : call.isDeclaration = false) (ho : call.offer = id)
    (hi : initial = Call.initialOf (calls ++ [call]))
    (hc : callback = Call.callbackOf (calls ++ [call])) :
    Reflects { compiler with initial, callback } (calls ++ [call]) := by
  constructor
  · exact hi
  · exact hc
  · intro state trigger
    rw [Call.transition?_append_of_not_declaration hd, ho]
    simp [h.transition]
  · intro state
    have hl : call.leaves state = false := by
      cases call with
      | declare => cases hd
      | _ => rfl
    simp [h.row, hl]
  · simp [h.empty, hd]
  · intro state trigger
    rw [Call.isCurrent_append_of_not_declaration hd, ← h.current]
    rfl

theorem Reflects.perform [EquivBEq S] [EquivBEq T] (h : compiler.Reflects calls)
    (call : Call S T A E K) : (call.perform compiler).1.Reflects (calls ++ [call]) := by
  cases call with
  | setInitial state =>
    apply h.leave_table rfl
    · funext transition
      simp [Call.offer, Call.guard?, Call.action?]
    · simp [Call.initialOf, Call.initial?]
    · simp [Call.callbackOf, Call.callback?, h.callback]
  | declare source trigger target argument => exact h.declare source trigger target argument
  | guard given => exact h.attach rfl rfl rfl (funext (settle_attachGuard given))
  | action argument given =>
    exact h.attach rfl rfl rfl (funext (settle_attachAction argument given))
  | callback given =>
    have ho : (Call.callback given : Call S T A E K).offer = id := by
      funext transition
      simp [Call.offer, Call.guard?, Call.action?]
    have hi : compiler.initial = Call.initialOf (calls ++ [.callback given]) := by
      simp [Call.initialOf, Call.initial?, h.initial]
    simp only [Call.perform, setCallback]
    split
    · next hs =>
      obtain ⟨earlier, he⟩ := Option.isSome_iff_exists.1 hs
      apply h.leave_table rfl ho hi
      rw [he, Call.callbackOf, List.filterMap_append, List.head?_append, ← Call.callbackOf,
        ← h.callback, he]
      rfl
    · next hs =>
      refine h.leave_table rfl ho hi ?_
      rw [Call.callbackOf, List.filterMap_append, List.head?_append, ← Call.callbackOf,
        ← h.callback, Option.not_isSome_iff_eq_none.1 hs]
      rfl
  | link argument offered =>
    cases offered with
    | guard given => exact h.attach rfl rfl rfl (funext (settle_attachGuard given))
    | action given =>
      exact h.attach rfl rfl rfl (funext (settle_attachAction argument given))

theorem reflects_after [EquivBEq S] [EquivBEq T] (calls : List (Call S T A E K)) :
    (after calls).Reflects calls := by
  induction calls using List.reverseRecOn with
  | nil => exact ⟨rfl, rfl, fun _ _ => rfl, fun _ => rfl, rfl, fun _ _ => rfl⟩
  | append_singleton calls call ih =>
    rw [after, List.foldl_append, ← after]
    exact ih.perform call

theorem refusal_perform [EquivBEq S] [EquivBEq T] (h : compiler.Reflects calls)
    {call : Call S T A E K} (hd : call.isDeclaration = true) :
    (call.perform compiler).2 = none ↔ call.isNew calls = true := by
  cases call with
  | declare source trigger =>
    rw [Call.isNew, ← h.pair, Call.perform, refusal_declare]
    simp
  | _ => cases hd

omit [BEq S] [BEq T] [DecidableEq A] in
theorem initialOf_eq_none_iff :
    Call.initialOf calls = none ↔ ∀ state, .setInitial state ∉ calls := by
  rw [Call.initialOf, List.getLast?_eq_none_iff, List.filterMap_eq_nil_iff]
  constructor
  · intro h state hmem
    cases h _ hmem
  · intro h call hmem
    cases call with
    | setInitial state => exact (h state hmem).elim
    | _ => rfl

theorem exists_accepted_iff [EquivBEq S] [EquivBEq T] :
    (∃ earlier call later, calls = earlier ++ call :: later ∧ call.isDeclaration = true ∧
      (call.perform (after earlier)).2 = none) ↔ calls.any (·.isDeclaration) = true := by
  constructor
  · rintro ⟨earlier, call, later, rfl, hd, -⟩
    simp [hd]
  · intro hany
    have hsplit := List.takeWhile_append_dropWhile
      (p := fun call : Call S T A E K => !call.isDeclaration) (l := calls)
    have hhead := List.head?_dropWhile_not (fun call : Call S T A E K => !call.isDeclaration) calls
    cases hf : calls.dropWhile fun call => !call.isDeclaration with
    | nil =>
      obtain ⟨call, hmem, hd⟩ := List.any_eq_true.1 hany
      have hno := List.dropWhile_eq_nil_iff.1 hf call hmem
      rw [hd] at hno
      cases hno
    | cons call later =>
      rw [hf] at hsplit hhead
      have hd : call.isDeclaration = true := by simpa using hhead
      refine ⟨_, call, later, hsplit.symm, hd, ?_⟩
      rw [refusal_perform (reflects_after _) hd]
      cases call with
      | declare source trigger =>
        rw [Call.isNew, Bool.not_eq_true', List.any_eq_false]
        intro early hmem hearly
        have hno := List.mem_takeWhile_imp hmem
        rw [Call.isDeclaration_of_declares hearly] at hno
        cases hno
      | _ => cases hd

theorem Reflects.compile [Named S] (h : compiler.Reflects calls) :
    compiler.compile =
      match Call.initialOf calls with
      | none => .error .noInitialState
      | some initial =>
        if calls.any (·.isDeclaration) then
          .ok (⟨initial, compiler.table, compiler.callback⟩,
            .compiled (name initial) compiler.table.states.length compiler.table.size)
        else .error .noTransitions := by
  rw [Compiler.compile, h.initial]
  cases Call.initialOf calls with
  | none => rfl
  | some initial =>
    simp only [h.empty]
    cases calls.any (·.isDeclaration) <;> rfl

end Compiler

/-- A machine is the one that a list of calls describes: it has the initial state chosen last and
the callback registered first, and for each pair the transition that the calls describe. -/
structure Call.Describes [DecidableEq A] (calls : List (Call S T A E K))
    (machine : Machine S T A E K) : Prop where
  initial : Call.initialOf calls = some machine.initial
  callback : machine.callback = Call.callbackOf calls
  declared : ∀ state trigger,
    (machine.transition? state trigger).isSome = calls.any (·.declares state trigger)
  transition : ∀ state trigger,
    machine.transition? state trigger = Call.transition? calls state trigger
  row : ∀ state, machine.hasTransitions state = calls.any (·.leaves state)

theorem Call.Describes.hasTransitions_iff [DecidableEq A] [ReflBEq T]
    {calls : List (Call S T A E K)} {machine : Machine S T A E K} (h : Call.Describes calls machine)
    (state : S) : machine.hasTransitions state = true ↔
      ∃ trigger, (machine.transition? state trigger).isSome = true := by
  simp only [h.row, h.declared, List.any_eq_true]
  constructor
  · rintro ⟨call, hmem, hleaves⟩
    cases call with
    | declare source trigger target argument =>
      refine ⟨trigger, _, hmem, ?_⟩
      rw [declares, BEq.rfl, Bool.and_true]
      exact hleaves
    | _ => cases hleaves
  · rintro ⟨trigger, call, hmem, hdeclares⟩
    exact ⟨call, hmem, leaves_of_declares hdeclares⟩

namespace Compiler

variable [DecidableEq A] [Named S] {calls : List (Call S T A E K)}

theorem Reflects.describes {compiler : Compiler S T A E K} (h : compiler.Reflects calls)
    {machine : Machine S T A E K} {record : Log.Record}
    (hc : compiler.compile = .ok (machine, record)) : Call.Describes calls machine := by
  rw [h.compile] at hc
  split at hc
  · cases hc
  · next initial hi =>
    split at hc
    · cases hc
      exact ⟨hi, h.callback, h.pair, h.transition, h.row⟩
    · cases hc

/-- After any calls, refused or not, a compiler is frozen into the machine that the calls describe,
provided that an initial state was chosen and a declaration was accepted. The lack of an initial
state is reported first. -/
theorem compile_after [EquivBEq S] [EquivBEq T] (calls : List (Call S T A E K)) :
    (∀ earlier call later, calls = earlier ++ call :: later → call.isDeclaration = true →
      ((call.perform (after earlier)).2 = none ↔ call.isNew earlier = true)) ∧
    ((∃ machine record, (after calls).compile = .ok (machine, record)) ↔
      (∃ state, .setInitial state ∈ calls) ∧
        ∃ earlier call later, calls = earlier ++ call :: later ∧ call.isDeclaration = true ∧
          (call.perform (after earlier)).2 = none) ∧
    ((after calls).compile = .error .noInitialState ↔ ∀ state, .setInitial state ∉ calls) ∧
    ((after calls).compile = .error .noTransitions ↔
      (∃ state, .setInitial state ∈ calls) ∧ ∀ call ∈ calls, call.isDeclaration = false) ∧
    ∀ machine record, (after calls).compile = .ok (machine, record) →
      Call.Describes calls machine := by
  have h := reflects_after calls
  have hinitial : (∃ state, .setInitial state ∈ calls) ↔ Call.initialOf calls ≠ none := by
    simp only [ne_eq, initialOf_eq_none_iff, not_forall, not_not]
  refine ⟨fun earlier call later _ hd => refusal_perform (reflects_after earlier) hd, ?_, ?_, ?_,
    fun machine record hc => h.describes hc⟩
  · rw [exists_accepted_iff, hinitial, h.compile]
    cases Call.initialOf calls <;> cases calls.any (·.isDeclaration) <;> simp
  · rw [← initialOf_eq_none_iff, h.compile]
    cases Call.initialOf calls <;> cases calls.any (·.isDeclaration) <;> simp
  · rw [hinitial, h.compile]
    have hno : (∀ call ∈ calls, call.isDeclaration = false) ↔
        calls.any (·.isDeclaration) = false := by
      simp
    rw [hno]
    cases Call.initialOf calls <;> cases calls.any (·.isDeclaration) <;> simp

open Scenario in
/-- Calls on labels that differ in case, two of them refused: the first guard comes too early, and
the pair of the second declaration is taken. -/
def foldedCalls : List (Call (Label .folded) (Label .folded) Kind Unit (Memory (Label .folded))) :=
  [.guard fun _ _ _ environment => (false, environment),
    .declare ⟨"a"⟩ ⟨"go"⟩ ⟨"b"⟩ none,
    .declare ⟨"A"⟩ ⟨"GO"⟩ ⟨"c"⟩ (some .bool),
    .link none (.action fun _ _ _ _ => .done),
    .setInitial ⟨"a"⟩,
    .declare ⟨"b"⟩ ⟨"go"⟩ ⟨"a"⟩ (some .bool),
    .guard fun _ _ _ environment => (true, environment),
    .setInitial ⟨"B"⟩]

theorem compile_foldedCalls :
    EquivBEq (Scenario.Label .folded) ∧
      ∃ machine record, (after foldedCalls).compile = .ok (machine, record) ∧
        machine.initial = ⟨"B"⟩ ∧
        (machine.transition? ⟨"A"⟩ ⟨"Go"⟩).map (fun transition =>
          (transition.source.text, transition.target.text, transition.argument,
            transition.guard.isSome, transition.action.isSome)) =
          some ("a", "b", none, false, true) := by
  obtain ⟨-, hok, -, -, hdescribes⟩ := compile_after foldedCalls
  have hset : ∃ state, .setInitial state ∈ foldedCalls := ⟨⟨"a"⟩, by simp [foldedCalls]⟩
  obtain ⟨machine, record, hc⟩ := hok.2 ⟨hset, exists_accepted_iff.2 rfl⟩
  have h := hdescribes machine record hc
  refine ⟨inferInstance, machine, record, hc, ?_, ?_⟩
  · exact Option.some.inj (h.initial.symm.trans rfl)
  · rw [h.transition]
    rfl

end Compiler

end StateMachine
