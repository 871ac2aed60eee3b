import Mathlib.Logic.Function.Basic
import StateMachine.Machine.Use
import StateMachine.Proofs.Acceptance
import StateMachine.Proofs.Dispatch

namespace StateMachine

def Log.Record.anonymous : Log.Record → Log.Record
  | compiled _ states transitions => compiled "" states transitions
  | committed .. => committed "" "" ""
  | rejected .. => rejected "" ""
  | reset _ => reset ""
  | forced _ => forced ""
  | restored id _ => restored id ""

namespace Traced

variable {ε ε' ω ω' α β : Type}

def mapEvents (f : ε → ε') (traced : Traced ε ω α) : Traced ε' ω α :=
  ⟨traced.value, traced.world, traced.events.map f⟩

variable (f : ε → ε')

@[simp] theorem mapEvents_pure (value : α) (world : ω) :
    (pure value world : Traced ε ω α).mapEvents f = pure value world := rfl

@[simp] theorem mapEvents_map (g : α → β) (traced : Traced ε ω α) :
    (traced.map g).mapEvents f = (traced.mapEvents f).map g := rfl

@[simp] theorem mapEvents_mapWorld (g : ω → ω') (traced : Traced ε ω α) :
    (traced.mapWorld g).mapEvents f = (traced.mapEvents f).mapWorld g := rfl

theorem mapEvents_bind (first : Traced ε ω α) (next : α → ω → Traced ε ω β) :
    (first.bind next).mapEvents f =
      (first.mapEvents f).bind fun value world => (next value world).mapEvents f := by
  simp only [bind, mapEvents, List.map_append]

end Traced

variable {S T A E K : Type} [ArgumentKind A]

def Event.anonymous : Event S T A → Event S T A
  | log record => log record.anonymous
  | e => e

/-- A handler that replies alike and leaves records without names. -/
def Handler.anonymous (handler : Handler S T A E K) : Handler S T A E K :=
  fun request world => (handler request world).mapEvents Event.anonymous

theorem Script.run_anonymous (handler : Handler S T A E K) (script : Script S T A E K)
    (world : World E K) :
    script.run handler.anonymous world = (script.run handler world).mapEvents Event.anonymous := by
  induction script generalizing world with
  | done => rfl
  | observe next ih => exact ih _ _ _
  | update environment token next ih => exact ih _
  | ask request next ih => simp only [run, Traced.mapEvents_bind, ih, Handler.anonymous]

theorem Transition.anonymous_verdict (transition : Transition S T A E K) (environment : E) :
    (transition.verdict environment).mapEvents Event.anonymous =
      transition.verdict environment := by
  rw [verdict]
  cases transition.guard <;> rfl

namespace Machine

theorem anonymous_enabled [Token K S] [BEq S] [BEq T] (machine : Machine S T A E K) (trigger : T)
    (token : K) (environment : E) :
    (machine.enabled trigger token environment).mapEvents Event.anonymous =
      machine.enabled trigger token environment := by
  rw [enabled]
  cases machine.select (Token.state token) trigger with
  | error e => rfl
  | ok transition => exact transition.anonymous_verdict environment

theorem anonymous_permits [BEq S] [BEq T] (machine : Machine S T A E K) (state : S) (trigger : T)
    (environment : E) :
    (machine.permits state trigger environment).mapEvents Event.anonymous =
      machine.permits state trigger environment := by
  rw [permits]
  cases machine.transition? state trigger with
  | none => rfl
  | some transition => rw [Traced.mapEvents_map, transition.anonymous_verdict]

variable [Token K S]

theorem act_anonymous (handler : Handler S T A E K) (transition : Transition S T A E K)
    (payload : Payload transition.argument) (world : World E K) :
    act handler.anonymous transition payload world =
      (act handler transition payload world).mapEvents Event.anonymous := by
  rw [act, act]
  cases transition.action with
  | none => rfl
  | some action => simp only [Traced.mapEvents_bind, Script.run_anonymous]; rfl

theorem notify_anonymous (machine : Machine S T A E K) (handler : Handler S T A E K) (source : S)
    (trigger : T) (target : S) (world : World E K) :
    machine.notify handler.anonymous source trigger target world =
      (machine.notify handler source trigger target world).mapEvents Event.anonymous := by
  rw [notify, notify]
  cases machine.callback with
  | none => rfl
  | some callback => simp only [Traced.mapEvents_bind, Script.run_anonymous]; rfl

end Machine

/-- What calls to a compiler and uses of the machine made by it give back. -/
structure Course (S T A E K : Type) [ArgumentKind A] where
  refusals : List (Option (ConfigError S T A))
  results : Except (ConfigError S T A) (List (Use.Result S T A E K))

def Compiler.refusals [BEq S] [BEq T] [DecidableEq A] (compiler : Compiler S T A E K) :
    List (Call S T A E K) → List (Option (ConfigError S T A))
  | [] => []
  | call :: rest => (call.perform compiler).2 :: (call.perform compiler).1.refusals rest

structure Naming (S T : Type) where
  state : S → String
  trigger : T → String

namespace Naming

@[reducible] def named (naming : Naming S T) : Named S := ⟨naming.state⟩

@[reducible] def triggerNamed (naming : Naming S T) : Named T := ⟨naming.trigger⟩

def blank : Naming S T := ⟨fun _ => "", fun _ => ""⟩

section Compile

def compile (naming : Naming S T) (compiler : Compiler S T A E K) :
    Except (ConfigError S T A) (Machine S T A E K × Log.Record) :=
  letI := naming.named
  compiler.compile

theorem exists_compile (naming other : Naming S T) {compiler : Compiler S T A E K}
    {machine : Machine S T A E K} {record : Log.Record}
    (h : naming.compile compiler = .ok (machine, record)) :
    ∃ otherRecord, other.compile compiler = .ok (machine, otherRecord) := by
  simp only [compile, Compiler.compile] at h ⊢
  cases hi : compiler.initial with
  | none =>
    rw [hi] at h
    cases h
  | some initial =>
    rw [hi] at h
    dsimp only at h ⊢
    split_ifs at h ⊢
    cases h
    exact ⟨_, rfl⟩

variable [BEq S] [BEq T] [EquivBEq S] [EquivBEq T] [DecidableEq A]

/-- What is found for a state and a trigger was declared for equal ones. -/
theorem eq_of_transition? (naming : Naming S T) {calls : List (Call S T A E K)}
    {machine : Machine S T A E K} {record : Log.Record}
    (hc : naming.compile (.after calls) = .ok (machine, record)) {state : S} {trigger : T}
    {transition : Transition S T A E K}
    (ht : machine.transition? state trigger = some transition) :
    (state == transition.source) = true ∧ (trigger == transition.trigger) = true := by
  let := naming.named
  rw [((Compiler.reflects_after calls).describes hc).transition] at ht
  exact Bool.and_eq_true_iff.1 (Call.declaration_of_transition? ht).1

end Compile

variable [Token K S] [BEq S] [BEq T] [DecidableEq A]

def fireUnder (naming : Naming S T) (machine : Machine S T A E K) (handler : Handler S T A E K)
    (trigger : T) (argument : Argument A) (world : World E K) :
    Traced (Event S T A) (World E K) (Except (FireError S T A) (Fired S)) :=
  letI := naming.named
  letI := naming.triggerNamed
  machine.fireUnder handler trigger argument world

def answer (naming : Naming S T) (machine : Machine S T A E K) (depth : Nat) :
    Handler S T A E K :=
  letI := naming.named
  letI := naming.triggerNamed
  machine.answer depth

theorem anonymous_fireUnder (naming : Naming S T) (machine : Machine S T A E K)
    (handler : Handler S T A E K) (trigger : T) (argument : Argument A) (world : World E K) :
    (naming.fireUnder machine handler trigger argument world).mapEvents Event.anonymous =
      blank.fireUnder machine handler.anonymous trigger argument world := by
  simp only [fireUnder, Machine.fireUnder, Machine.attempt, Traced.mapEvents_bind]
  cases machine.select (Token.state world.token) trigger with
  | error e => rfl
  | ok transition =>
    dsimp only
    cases transition.accept argument with
    | error e => rfl
    | ok payload =>
      simp only [Traced.mapEvents_bind, Traced.mapEvents_mapWorld, transition.anonymous_verdict]
      congr 2
      funext passed world
      cases passed with
      | false => rfl
      | true =>
        simp only [Machine.commit, Machine.act_anonymous, Machine.notify_anonymous, if_true,
          Traced.mapEvents_map, Traced.mapEvents_bind]
        rfl

theorem anonymous_answer_of_fire {naming : Naming S T} {machine : Machine S T A E K} {depth : Nat}
    (hfire : ∀ trigger argument world,
      (naming.answer machine depth (.fire trigger argument) world).mapEvents Event.anonymous =
        blank.answer machine depth (.fire trigger argument) world) :
    (naming.answer machine depth).anonymous = blank.answer machine depth := by
  funext request world
  cases request with
  | fire trigger argument => exact hfire trigger argument world
  | reset =>
    simp only [answer, Handler.anonymous, Machine.answer]
    rfl
  | force state =>
    simp only [answer, Handler.anonymous, Machine.answer, Machine.force]
    cases machine.hasTransitions state <;> rfl
  | enabled trigger =>
    simp only [answer, Handler.anonymous, Machine.answer, Traced.mapEvents_mapWorld,
      Machine.anonymous_enabled]
  | newMemory =>
    simp only [answer, Handler.anonymous, Machine.answer]
    rfl
  | restore checkpoint =>
    simp only [answer, Handler.anonymous, Machine.answer, Machine.restore]
    split_ifs <;> rfl

theorem anonymous_answer (naming : Naming S T) (machine : Machine S T A E K) (depth : Nat) :
    (naming.answer machine depth).anonymous = blank.answer machine depth := by
  -- Only fires depend on the depth: their scripts are answered one level further down.
  induction depth with
  | zero => exact anonymous_answer_of_fire fun _ _ _ => rfl
  | succ depth ih =>
    refine anonymous_answer_of_fire fun trigger argument world => ?_
    have hfire := naming.anonymous_fireUnder machine (naming.answer machine depth) trigger
      argument world
    rw [ih] at hfire
    exact congrArg (Traced.map some) hfire

def perform (naming : Naming S T) (machine : Machine S T A E K) (depth : Nat)
    (operation : Operation S T A) (world : World E K) :
    Traced (Event S T A) (World E K) (Operation.Result S T A) :=
  letI := naming.named
  letI := naming.triggerNamed
  machine.perform depth operation world

theorem anonymous_perform (naming : Naming S T) (machine : Machine S T A E K) (depth : Nat)
    (operation : Operation S T A) (world : World E K) :
    (naming.perform machine depth operation world).mapEvents Event.anonymous =
      blank.perform machine depth operation world := by
  have hanswer request : (naming.answer machine depth request world).mapEvents Event.anonymous =
      blank.answer machine depth request world :=
    congrFun (congrFun (naming.anonymous_answer machine depth) request) world
  cases operation with
  | fire trigger argument =>
    have hfire := naming.anonymous_fireUnder machine (naming.answer machine depth) trigger
      argument world
    rw [naming.anonymous_answer machine depth] at hfire
    exact congrArg (Traced.map Operation.Result.fired) hfire
  | reset => exact congrArg (Traced.map fun _ => Operation.Result.reset) (hanswer .reset)
  | force state => exact congrArg (Traced.map Operation.Result.forced) (hanswer (.force state))
  | enabled trigger =>
    exact congrArg (Traced.map Operation.Result.enabled) (hanswer (.enabled trigger))
  | capture id timestamp => rfl

variable [Storable S]

def use (naming : Naming S T) (machine : Machine S T A E K) (depth : Nat) (use : Use S T A)
    (world : World E K) : Traced (Event S T A) (World E K) (Use.Result S T A E K) :=
  letI := naming.named
  letI := naming.triggerNamed
  machine.use depth use world

theorem anonymous_use (naming : Naming S T) (machine : Machine S T A E K) (depth : Nat)
    (use : Use S T A) (world : World E K) :
    (naming.use machine depth use world).mapEvents Event.anonymous =
      blank.use machine depth use world := by
  cases use with
  | operation operation =>
    exact congrArg (Traced.map _) (naming.anonymous_perform machine depth operation world)
  | permits state trigger =>
    simp only [Naming.use, Machine.use, Traced.mapEvents_map, Traced.mapEvents_mapWorld,
      machine.anonymous_permits]
  | restore checkpoint =>
    exact congrArg (Traced.map Use.Result.restored)
      (congrFun (congrFun (naming.anonymous_answer machine depth) (.restore checkpoint)) world)
  | _ => rfl

variable {ι : Type} [DecidableEq ι]

/-- Makes uses of a machine for several instances, in an environment that all of them share. -/
def useEach (naming : Naming S T) (machine : Machine S T A E K) (depth : Nat) :
    List (ι × Use S T A) → World E (ι → K) →
      Traced (Event S T A) (World E (ι → K)) (List (Use.Result S T A E K))
  | [], world => .pure [] world
  | (i, use) :: rest, world =>
    ((naming.use machine depth use ⟨world.environment, world.token i⟩).mapWorld fun left =>
        ⟨left.environment, Function.update world.token i left.token⟩).bind fun result world =>
      (naming.useEach machine depth rest world).map (result :: ·)

theorem anonymous_useEach (naming : Naming S T) (machine : Machine S T A E K) (depth : Nat)
    (uses : List (ι × Use S T A)) (world : World E (ι → K)) :
    (naming.useEach machine depth uses world).mapEvents Event.anonymous =
      blank.useEach machine depth uses world := by
  induction uses generalizing world with
  | nil => rfl
  | cons next rest ih =>
    simp only [useEach, Traced.mapEvents_bind, Traced.mapEvents_mapWorld, Traced.mapEvents_map,
      naming.anonymous_use, ih]

def course (naming : Naming S T) (calls : List (Call S T A E K)) (depth : Nat)
    (uses : List (ι × Use S T A)) (world : World E (ι → K)) :
    Traced (Event S T A) (World E (ι → K)) (Course S T A E K) :=
  match naming.compile (.after calls) with
  | .error e => .pure ⟨Compiler.empty.refusals calls, .error e⟩ world
  | .ok (machine, record) =>
    (Traced.record (.log record) world).bind fun _ world =>
      (naming.useEach machine depth uses world).map fun results =>
        ⟨Compiler.empty.refusals calls, .ok results⟩

theorem anonymous_course (naming : Naming S T) (calls : List (Call S T A E K)) (depth : Nat)
    (uses : List (ι × Use S T A)) (world : World E (ι → K)) :
    (naming.course calls depth uses world).mapEvents Event.anonymous =
      blank.course calls depth uses world := by
  simp only [course, compile, Compiler.compile]
  cases (Compiler.after calls).initial with
  | none => rfl
  | some initial =>
    dsimp only
    split_ifs
    · rfl
    · simp only [Traced.mapEvents_bind, Traced.mapEvents_map, naming.anonymous_useEach]
      rfl

/-- Whatever is done with a compiler and with the machine made by it, for any number of instances:
another naming gives the same refusals and results, leaves the same instances and environment, and
goes through the same events up to the names in records. What is found for a state and a trigger was
declared for equal ones, whatever they are called. -/
theorem course_renamed [EquivBEq S] [EquivBEq T] (naming other : Naming S T)
    (calls : List (Call S T A E K)) (depth : Nat) (uses : List (ι × Use S T A))
    (world : World E (ι → K)) :
    let first := naming.course calls depth uses world
    let second := other.course calls depth uses world
    first.value = second.value ∧ first.world = second.world ∧
      first.events.map Event.anonymous = second.events.map Event.anonymous ∧
      ∀ machine record, naming.compile (.after calls) = .ok (machine, record) →
        (∃ otherRecord, other.compile (.after calls) = .ok (machine, otherRecord)) ∧
        ∀ state trigger transition, machine.transition? state trigger = some transition →
          (state == transition.source) = true ∧ (trigger == transition.trigger) = true := by
  intro first second
  -- Both are compared with the course in which nothing has a name of its own.
  have h : first.mapEvents Event.anonymous = second.mapEvents Event.anonymous := by
    rw [naming.anonymous_course, other.anonymous_course]
  exact ⟨congrArg (·.value) h, congrArg (·.world) h, congrArg (·.events) h,
    fun machine record hc => ⟨naming.exists_compile other hc, fun state trigger transition ht =>
      naming.eq_of_transition? hc ht⟩⟩

open Scenario in
/-- Calls about two states of one short name, with a declaration made twice. -/
def steppedCalls :
    List (Call (Label .stepped) (Label .stepped) Kind Unit (Memory (Label .stepped))) :=
  [.setInitial ⟨"a:1"⟩, .declare ⟨"a:1"⟩ ⟨"go"⟩ ⟨"a:2"⟩ none, .declare ⟨"a:1"⟩ ⟨"go"⟩ ⟨"a:1"⟩ none,
    .declare ⟨"a:2"⟩ ⟨"back"⟩ ⟨"a:1"⟩ none]

open Scenario in
def steppedUses : List (Bool × Use (Label .stepped) (Label .stepped) Kind) :=
  [(true, .operation (.fire ⟨"go"⟩ .absent)), (true, .state),
    (false, .operation (.fire ⟨"back"⟩ .absent))]

open Scenario in
theorem course_renamed_stepped :
    let whole : Naming (Label .stepped) (Label .stepped) := ⟨Label.text, Label.text⟩
    let short : Naming (Label .stepped) (Label .stepped) := ⟨Label.shortName, Label.shortName⟩
    let world : World Unit (Bool → Memory (Label .stepped)) := ⟨(), fun _ => ⟨⟨"a:1"⟩⟩⟩
    let first := whole.course steppedCalls 0 steppedUses world
    let second := short.course steppedCalls 0 steppedUses world
    second.value = ⟨[none, none, some (.alreadyDeclared ⟨"a:1"⟩ ⟨"go"⟩), none],
        .ok [.operation (.fired (.ok (.committed ⟨"a:1"⟩ ⟨"a:2"⟩))), .state ⟨"a:2"⟩,
          .operation (.fired (.error (.undeclared ⟨"a:1"⟩ ⟨"back"⟩)))]⟩ ∧
      first.value = second.value ∧
      first.events.filterMap Event.record? =
        [.compiled "a:1" 2 2, .committed "a:1" "go" "a:2"] ∧
      second.events.filterMap Event.record? = [.compiled "a" 2 2, .committed "a" "go" "a"] :=
  ⟨rfl, (course_renamed ⟨Label.text, Label.text⟩ ⟨Label.shortName, Label.shortName⟩ steppedCalls 0
    steppedUses _).1, rfl, rfl⟩

end Naming

end StateMachine
