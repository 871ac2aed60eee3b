import Mathlib.Data.List.TakeWhile
import StateMachine.Compiler.Handle

namespace StateMachine

/-- One call to a compiler, by a method of its own or through a handle. -/
inductive Call (S T A E K : Type) [ArgumentKind A] where
  | setInitial (state : S)
  | declare (source : S) (trigger : T) (target : S) (argument : Option A)
  | guard (guard : Guard S T E)
  | action (argument : Option A) (action : Action S T A E K argument)
  | callback (callback : Callback S T A E K)
  | link (argument : Option A) (link : Link S T A E K argument)

namespace Call

variable {S T A E K : Type} [ArgumentKind A]

def initial? : Call S T A E K → Option S
  | setInitial state => some state
  | _ => none

def callback? : Call S T A E K → Option (Callback S T A E K)
  | callback given => some given
  | _ => none

def guard? : Call S T A E K → Option (Guard S T E)
  | guard given | link _ (.guard given) => some given
  | _ => none

def action? [DecidableEq A] (argument : Option A) :
    Call S T A E K → Option (Action S T A E K argument)
  | action kind given | link kind (.action given) =>
    if h : kind = argument then some (h ▸ given) else none
  | _ => none

def isDeclaration : Call S T A E K → Bool
  | declare .. => true
  | _ => false

def leaves [BEq S] (state : S) : Call S T A E K → Bool
  | declare source .. => state == source
  | _ => false

variable [BEq S] [BEq T]

def declares (state : S) (trigger : T) : Call S T A E K → Bool
  | declare source input .. => state == source && trigger == input
  | _ => false

def isNew (earlier : List (Call S T A E K)) : Call S T A E K → Bool
  | declare source trigger .. => !earlier.any (·.declares source trigger)
  | _ => false

/-- The calls before the first one that declares a pair. -/
def before (calls : List (Call S T A E K)) (state : S) (trigger : T) : List (Call S T A E K) :=
  calls.takeWhile fun call => !call.declares state trigger

def fromFirst (calls : List (Call S T A E K)) (state : S) (trigger : T) : List (Call S T A E K) :=
  calls.dropWhile fun call => !call.declares state trigger

def initialOf (calls : List (Call S T A E K)) : Option S := (calls.filterMap initial?).getLast?

def callbackOf (calls : List (Call S T A E K)) : Option (Callback S T A E K) :=
  (calls.filterMap callback?).head?

variable [DecidableEq A]

def complete (scope : List (Call S T A E K)) : Call S T A E K → Option (Transition S T A E K)
  | declare source trigger target argument =>
    some ⟨source, trigger, target, argument, (scope.filterMap guard?).head?,
      (scope.filterMap (action? argument)).head?⟩
  | _ => none

/-- The transition that calls describe for a pair. Its scope ends before the next new pair. -/
def transition? (calls : List (Call S T A E K)) (state : S) (trigger : T) :
    Option (Transition S T A E K) :=
  match fromFirst calls state trigger with
  | [] => none
  | first :: later =>
    first.complete (later.takeWhile fun call => !call.isNew (before calls state trigger ++ [first]))

def perform (compiler : Compiler S T A E K) :
    Call S T A E K → Compiler S T A E K × Option (ConfigError S T A)
  | setInitial state => (compiler.setInitial state, none)
  | declare source trigger target argument => compiler.declare source trigger target argument
  | guard given => compiler.attachGuard given
  | action argument given => compiler.attachAction argument given
  | callback given => compiler.setCallback given
  | link argument offered =>
    ((⟨compiler⟩ : Handle S T A E K argument).link offered).map (·.compiler) id

end Call

/-- The compiler that a list of calls leaves, where some of them may be refused. -/
def Compiler.after {S T A E K : Type} [ArgumentKind A] [BEq S] [BEq T] [DecidableEq A]
    (calls : List (Call S T A E K)) : Compiler S T A E K :=
  calls.foldl (fun compiler call => (call.perform compiler).1) .empty

namespace Call

variable {S T A E K : Type} [ArgumentKind A] [BEq S] [BEq T]

theorem isDeclaration_of_declares {call : Call S T A E K} {state : S} {trigger : T}
    (h : call.declares state trigger = true) : call.isDeclaration = true := by
  cases call with
  | declare => rfl
  | _ => cases h

theorem leaves_of_declares {call : Call S T A E K} {state : S} {trigger : T}
    (h : call.declares state trigger = true) : call.leaves state = true := by
  cases call with
  | declare => exact (Bool.and_eq_true_iff.1 h).1
  | _ => cases h

theorem declares_congr [EquivBEq S] [EquivBEq T] {s s' : S} {t t' : T} (hs : s == s')
    (ht : t == t') (call : Call S T A E K) : call.declares s t = call.declares s' t' := by
  cases call with
  | declare source input => simp only [declares, BEq.congr_left hs, BEq.congr_left ht]
  | _ => rfl

theorem fromFirst_eq_nil_iff {calls : List (Call S T A E K)} {state : S} {trigger : T} :
    fromFirst calls state trigger = [] ↔ calls.any (·.declares state trigger) = false := by
  simp [fromFirst, List.dropWhile_eq_nil_iff]

theorem before_append_fromFirst (calls : List (Call S T A E K)) (state : S) (trigger : T) :
    before calls state trigger ++ fromFirst calls state trigger = calls :=
  List.takeWhile_append_dropWhile

theorem declares_of_fromFirst {calls later : List (Call S T A E K)} {first : Call S T A E K}
    {state : S} {trigger : T} (h : fromFirst calls state trigger = first :: later) :
    first.declares state trigger = true := by
  have hd := List.head?_dropWhile_not (fun call => !call.declares state trigger) calls
  rw [fromFirst] at h
  rw [h] at hd
  simpa using hd

theorem before_append {calls : List (Call S T A E K)} {state : S} {trigger : T}
    (h : calls.any (·.declares state trigger) = true) (call : Call S T A E K) :
    before (calls ++ [call]) state trigger = before calls state trigger := by
  have hn : fromFirst calls state trigger ≠ [] := fun hn => by
    rw [fromFirst_eq_nil_iff, h] at hn
    cases hn
  have hl := congrArg List.length (before_append_fromFirst calls state trigger)
  have hp := List.length_pos_iff.2 hn
  rw [List.length_append] at hl
  rw [before, List.takeWhile_append, if_neg]
  · rfl
  · simp only [before] at hl
    omega

theorem fromFirst_append {calls later : List (Call S T A E K)} {first : Call S T A E K}
    {state : S} {trigger : T} (h : fromFirst calls state trigger = first :: later)
    (call : Call S T A E K) :
    fromFirst (calls ++ [call]) state trigger = first :: (later ++ [call]) := by
  rw [fromFirst] at h ⊢
  rw [List.dropWhile_append, h]
  rfl

theorem fromFirst_append_of_not {calls : List (Call S T A E K)} {state : S} {trigger : T}
    (h : calls.any (·.declares state trigger) = false) (call : Call S T A E K) :
    fromFirst (calls ++ [call]) state trigger =
      if call.declares state trigger then [call] else [] := by
  have hn := fromFirst_eq_nil_iff.2 h
  rw [fromFirst] at hn ⊢
  rw [List.dropWhile_append, hn]
  cases hc : call.declares state trigger <;> simp [hc]

theorem isNew_append [EquivBEq S] [EquivBEq T] {earlier more : List (Call S T A E K)}
    (h : more.all fun call => !call.isNew earlier) (call : Call S T A E K) :
    call.isNew (earlier ++ more) = call.isNew earlier := by
  cases call with
  | declare source trigger target argument =>
    simp only [isNew, List.any_append]
    cases he : earlier.any (·.declares source trigger) with
    | true => rfl
    | false =>
      have hm : more.any (·.declares source trigger) = false := by
        rw [List.any_eq_false]
        intro call hc hd
        have hnew := List.all_eq_true.1 h call hc
        cases call with
        | declare s t =>
          obtain ⟨hs, ht⟩ := Bool.and_eq_true_iff.1 hd
          simp only [isNew, Bool.not_not] at hnew
          rw [List.any_eq_true] at hnew
          obtain ⟨early, hmem, hearly⟩ := hnew
          rw [declares_congr (BEq.symm hs) (BEq.symm ht)] at hearly
          exact List.any_eq_false.1 he early hmem hearly
        | _ => cases hd
      rw [hm]
      rfl
  | _ => rfl

/-- Whether the scope of a pair's declaration is not yet at its end. -/
def isCurrent (calls : List (Call S T A E K)) (state : S) (trigger : T) : Bool :=
  match fromFirst calls state trigger with
  | [] => false
  | first :: later => later.all fun call => !call.isNew (before calls state trigger ++ [first])

theorem isCurrent_append_of_not {calls : List (Call S T A E K)} {state : S} {trigger : T}
    (h : calls.any (·.declares state trigger) = false) (call : Call S T A E K) :
    isCurrent (calls ++ [call]) state trigger = call.declares state trigger := by
  rw [isCurrent, fromFirst_append_of_not h]
  cases call.declares state trigger <;> rfl

theorem isCurrent_append [EquivBEq S] [EquivBEq T] {calls : List (Call S T A E K)} {state : S}
    {trigger : T} (h : calls.any (·.declares state trigger) = true) (call : Call S T A E K) :
    isCurrent (calls ++ [call]) state trigger =
      (isCurrent calls state trigger && !call.isNew calls) := by
  cases hf : fromFirst calls state trigger with
  | nil =>
    rw [fromFirst_eq_nil_iff.1 hf] at h
    cases h
  | cons first later =>
    simp only [isCurrent, fromFirst_append hf, before_append h, hf, List.all_append, List.all_cons,
      List.all_nil, Bool.and_true]
    cases hl : later.all fun call => !call.isNew (before calls state trigger ++ [first]) with
    | false => rfl
    | true =>
      have hc : calls = before calls state trigger ++ [first] ++ later := by
        rw [List.append_assoc, List.singleton_append, ← hf, before_append_fromFirst]
      have hn := isNew_append hl call
      rw [← hc] at hn
      rw [hn]

variable [DecidableEq A]

def offer (call : Call S T A E K) (transition : Transition S T A E K) : Transition S T A E K :=
  { transition with
    guard := transition.guard.or call.guard?
    action := transition.action.or (call.action? transition.argument) }

theorem offer_of_isNew {call : Call S T A E K} {earlier : List (Call S T A E K)}
    (h : call.isNew earlier = true) (transition : Transition S T A E K) :
    call.offer transition = transition := by
  cases call with
  | declare => simp [offer, guard?, action?]
  | _ => cases h

omit [BEq S] [BEq T] in
theorem complete_append (scope : List (Call S T A E K)) (call first : Call S T A E K) :
    first.complete (scope ++ [call]) = (first.complete scope).map call.offer := by
  cases first with
  | declare source trigger target argument =>
    simp only [complete, offer, List.filterMap_append, List.head?_append, Option.map_some]
    cases hg : call.guard? <;> cases ha : call.action? argument <;> simp [hg, ha]
  | _ => rfl

theorem isSome_transition? (calls : List (Call S T A E K)) (state : S) (trigger : T) :
    (transition? calls state trigger).isSome = calls.any (·.declares state trigger) := by
  cases hf : fromFirst calls state trigger with
  | nil => simp only [transition?, hf, fromFirst_eq_nil_iff.1 hf, Option.isSome_none]
  | cons first later =>
    have hd := declares_of_fromFirst hf
    have hany : calls.any (·.declares state trigger) = true := by
      rw [← before_append_fromFirst calls state trigger, hf, List.any_append, List.any_cons, hd]
      simp
    rw [hany]
    cases first with
    | declare => simp [transition?, hf, complete]
    | _ => cases hd

theorem transition?_append_of_not {calls : List (Call S T A E K)} {state : S} {trigger : T}
    (h : calls.any (·.declares state trigger) = false) (call : Call S T A E K) :
    transition? (calls ++ [call]) state trigger =
      if call.declares state trigger then call.complete [] else none := by
  rw [transition?, fromFirst_append_of_not h]
  cases call.declares state trigger <;> rfl

theorem transition?_append {calls : List (Call S T A E K)} {state : S} {trigger : T}
    (h : calls.any (·.declares state trigger) = true) (call : Call S T A E K) :
    transition? (calls ++ [call]) state trigger =
      (transition? calls state trigger).map fun transition =>
        if isCurrent calls state trigger then call.offer transition else transition := by
  cases hf : fromFirst calls state trigger with
  | nil =>
    rw [fromFirst_eq_nil_iff.1 hf] at h
    cases h
  | cons first later =>
    simp only [transition?, isCurrent, fromFirst_append hf, before_append h, hf]
    generalize before calls state trigger ++ [first] = earlier
    cases hl : later.all fun call => !call.isNew earlier with
    | true =>
      have hall := List.all_eq_true.1 hl
      rw [List.takeWhile_append_of_pos hall, List.takeWhile_eq_self_iff.2 hall]
      cases hn : call.isNew earlier with
      | true => simp [List.takeWhile, hn, offer_of_isNew hn]
      | false => simp [List.takeWhile, hn, complete_append]
    | false =>
      have hlen : (later.takeWhile fun call => !call.isNew earlier).length ≠ later.length := by
        intro hlen
        have hself := (List.takeWhile_sublist _).eq_of_length hlen
        rw [List.takeWhile_eq_self_iff.1 hself |> List.all_eq_true.2] at hl
        cases hl
      rw [List.takeWhile_append, if_neg hlen]
      simp

/-- Calls other than declarations reach the current transition only. -/
theorem transition?_append_of_not_declaration {call : Call S T A E K}
    (h : call.isDeclaration = false) (calls : List (Call S T A E K)) (state : S) (trigger : T) :
    transition? (calls ++ [call]) state trigger =
      (transition? calls state trigger).map fun transition =>
        if isCurrent calls state trigger then call.offer transition else transition := by
  cases hany : calls.any (·.declares state trigger) with
  | true => exact transition?_append hany call
  | false =>
    have hn : transition? calls state trigger = none := by
      rw [← Option.isNone_iff_eq_none, ← Option.not_isSome, isSome_transition?, hany]
      rfl
    have hc : call.declares state trigger = false := by
      cases hd : call.declares state trigger with
      | false => rfl
      | true => rw [isDeclaration_of_declares hd] at h; cases h
    rw [transition?_append_of_not hany, hc, hn]
    rfl

omit [DecidableEq A] in
theorem isCurrent_append_of_not_declaration [EquivBEq S] [EquivBEq T] {call : Call S T A E K}
    (h : call.isDeclaration = false) (calls : List (Call S T A E K)) (state : S) (trigger : T) :
    isCurrent (calls ++ [call]) state trigger = isCurrent calls state trigger := by
  cases call with
  | declare => cases h
  | _ =>
    cases hany : calls.any (·.declares state trigger) with
    | true =>
      rw [isCurrent_append hany]
      exact Bool.and_true _
    | false =>
      rw [isCurrent_append_of_not hany, isCurrent, fromFirst_eq_nil_iff.2 hany]
      rfl

end Call

end StateMachine
