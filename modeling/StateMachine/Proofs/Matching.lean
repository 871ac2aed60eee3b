import Mathlib.Data.List.Forall2
import StateMachine.Machine.Use
import StateMachine.Proofs.Naming
import StateMachine.Proofs.Resumption

namespace StateMachine

inductive SameVariant {ε α : Type} (failed : ε → ε → Prop) (done : α → α → Prop) :
    Except ε α → Except ε α → Prop where
  | error {e e' : ε} (related : failed e e') : SameVariant failed done (.error e) (.error e')
  | ok {a a' : α} (related : done a a') : SameVariant failed done (.ok a) (.ok a')

variable {S T A E K : Type} [ArgumentKind A]

section Data

variable [BEq S] [BEq T]

structure Token.Matches [Token K S] (token token' : K) : Prop where
  apart : Token.SameApart token token'
  state : (Token.state token == Token.state token') = true

structure Checkpoint.Matches (checkpoint checkpoint' : Checkpoint S) : Prop where
  version : checkpoint.version = checkpoint'.version
  id : checkpoint.id = checkpoint'.id
  timestamp : checkpoint.timestamp = checkpoint'.timestamp
  state : (checkpoint.state == checkpoint'.state) = true

inductive Fired.Matches : Fired S → Fired S → Prop where
  | committed {source source' : S} (target : S) (hs : (source == source') = true) :
    Matches (.committed source target) (.committed source' target)
  | blocked {state state' : S} (hs : (state == state') = true) :
    Matches (.blocked state) (.blocked state')

inductive FireError.Matches : FireError S T A → FireError S T A → Prop where
  | same (e : FireError S T A) : Matches e e
  | deadState {state state' : S} (hs : (state == state') = true) :
    Matches (.deadState state) (.deadState state')
  | undeclared {state state' : S} {trigger trigger' : T} (hs : (state == state') = true)
      (ht : (trigger == trigger') = true) :
    Matches (.undeclared state trigger) (.undeclared state' trigger')
  | deadTarget {state state' : S} (hs : (state == state') = true) :
    Matches (.deadTarget state) (.deadTarget state')

inductive CheckpointError.Matches : CheckpointError S → CheckpointError S → Prop where
  | same (e : CheckpointError S) : Matches e e
  | deadState {state state' : S} (hs : (state == state') = true) :
    Matches (.deadState state) (.deadState state')

/-- Guards are evaluated on the same copies with the same answer, and actions are given the same
copies and argument. -/
inductive Event.Matches : Event S T A → Event S T A → Prop where
  | guard (source : S) (trigger : T) (target : S) (passed : Bool) :
    Matches (.guard source trigger target passed) (.guard source trigger target passed)
  | stored {state state' : S} (hs : (state == state') = true) :
    Matches (.stored state) (.stored state')
  | action (source : S) (trigger : T) (target : S) (argument : Argument A) {current current' : S}
      (hc : (current == current') = true) :
    Matches (.action source trigger target argument current)
      (.action source trigger target argument current')
  | callback {source source' : S} {trigger trigger' : T} (target : S) {current current' : S}
      (hs : (source == source') = true) (ht : (trigger == trigger') = true)
      (hc : (current == current') = true) :
    Matches (.callback source trigger target current) (.callback source' trigger' target current')
  | log {record record' : Log.Record} (hr : record.anonymous = record'.anonymous) :
    Matches (.log record) (.log record')
  | returned {outcome outcome' : Except (FireError S T A) (Fired S)}
      (ho : SameVariant FireError.Matches Fired.Matches outcome outcome') :
    Matches (.returned outcome) (.returned outcome')

inductive Request.Matches : Request S T A → Request S T A → Prop where
  | fire {trigger trigger' : T} (argument : Argument A) (ht : (trigger == trigger') = true) :
    Matches (.fire trigger argument) (.fire trigger' argument)
  | reset : Matches .reset .reset
  | force {state state' : S} (hs : (state == state') = true) :
    Matches (.force state) (.force state')
  | enabled {trigger trigger' : T} (ht : (trigger == trigger') = true) :
    Matches (.enabled trigger) (.enabled trigger')
  | newMemory : Matches .newMemory .newMemory
  | restore {checkpoint checkpoint' : Checkpoint S} (hc : checkpoint.Matches checkpoint') :
    Matches (.restore checkpoint) (.restore checkpoint')

def Request.RepliesMatch :
    (request request' : Request S T A) → request.Reply → request'.Reply → Prop
  | .fire .., .fire .., reply, reply' =>
    Option.Rel (SameVariant FireError.Matches Fired.Matches) reply reply'
  | .reset, .reset, _, _ => True
  | .force _, .force _, reply, reply' => SameVariant FireError.Matches Eq reply reply'
  | .enabled _, .enabled _, reply, reply' => reply = reply'
  | .newMemory, .newMemory, reply, reply' => reply = reply'
  | .restore _, .restore _, reply, reply' =>
    SameVariant CheckpointError.Matches (fun m m' => m.same m' = true) reply reply'
  | _, _, _, _ => False

inductive Operation.Matches : Operation S T A → Operation S T A → Prop where
  | fire {trigger trigger' : T} (argument : Argument A) (ht : (trigger == trigger') = true) :
    Matches (.fire trigger argument) (.fire trigger' argument)
  | reset : Matches .reset .reset
  | force {state state' : S} (hs : (state == state') = true) :
    Matches (.force state) (.force state')
  | enabled {trigger trigger' : T} (ht : (trigger == trigger') = true) :
    Matches (.enabled trigger) (.enabled trigger')
  | capture (id : String) (timestamp : Timestamp) :
    Matches (.capture id timestamp) (.capture id timestamp)

inductive Operation.Result.Matches : Operation.Result S T A → Operation.Result S T A → Prop where
  | fired {outcome outcome' : Except (FireError S T A) (Fired S)}
      (ho : SameVariant FireError.Matches Fired.Matches outcome outcome') :
    Matches (.fired outcome) (.fired outcome')
  | reset : Matches .reset .reset
  | forced {outcome outcome' : Except (FireError S T A) Unit}
      (ho : SameVariant FireError.Matches Eq outcome outcome') :
    Matches (.forced outcome) (.forced outcome')
  | enabled (answer : Bool) : Matches (.enabled answer) (.enabled answer)
  | captured {checkpoint checkpoint' : Checkpoint S} (hc : checkpoint.Matches checkpoint') :
    Matches (.captured checkpoint) (.captured checkpoint')

inductive Query.Matches : Query S T → Query S T → Prop where
  | same (query : Query S T) : Matches query query
  | hasTransitions {state state' : S} (hs : (state == state') = true) :
    Matches (.hasTransitions state) (.hasTransitions state')
  | triggersFrom {state state' : S} (hs : (state == state') = true) :
    Matches (.triggersFrom state) (.triggersFrom state')
  | transition {state state' : S} {trigger trigger' : T} (hs : (state == state') = true)
      (ht : (trigger == trigger') = true) :
    Matches (.transition state trigger) (.transition state' trigger')

/-- Uses with equal states and triggers. What is encoded is the same, since a stored form shows
which copy it is of. -/
inductive Use.Matches : Use S T A → Use S T A → Prop where
  | operation {operation operation' : Operation S T A} (ho : operation.Matches operation') :
    Matches (.operation operation) (.operation operation')
  | query {query query' : Query S T} (hq : query.Matches query') :
    Matches (.query query) (.query query')
  | state : Matches .state .state
  | permits {state state' : S} {trigger trigger' : T} (hs : (state == state') = true)
      (ht : (trigger == trigger') = true) :
    Matches (.permits state trigger) (.permits state' trigger')
  | encode (checkpoint : Checkpoint S) (format : Checkpoint.Format) :
    Matches (.encode checkpoint format) (.encode checkpoint format)
  | decode (encoded : Checkpoint.Encoded) : Matches (.decode encoded) (.decode encoded)
  | restore {checkpoint checkpoint' : Checkpoint S} (hc : checkpoint.Matches checkpoint') :
    Matches (.restore checkpoint) (.restore checkpoint')
  | adopt {memory memory' : Memory S} (hm : memory.same memory' = true) :
    Matches (.adopt memory) (.adopt memory')

inductive Use.Result.Matches : Use.Result S T A E K → Use.Result S T A E K → Prop where
  | same (result : Use.Result S T A E K) : Matches result result
  | operation {result result' : Operation.Result S T A} (hr : result.Matches result') :
    Matches (.operation result) (.operation result')
  | state {state state' : S} (hs : (state == state') = true) :
    Matches (.state state) (.state state')
  | restored {outcome outcome' : Except (CheckpointError S) (Memory S)}
      (ho : SameVariant CheckpointError.Matches (fun m m' => m.same m' = true) outcome outcome') :
    Matches (.restored outcome) (.restored outcome')

end Data

/-- What a guard is evaluated on, with its answer, or what an action is given, with its argument. -/
def Event.handed? : Event S T A → Option (S × T × S × (Bool ⊕ Argument A))
  | guard source trigger target passed => some (source, trigger, target, .inl passed)
  | action source trigger target argument _ => some (source, trigger, target, .inr argument)
  | _ => none

theorem Event.filterMap_handed [BEq S] [BEq T] {events events' : List (Event S T A)}
    (h : List.Forall₂ Event.Matches events events') :
    events.filterMap handed? = events'.filterMap handed? := by
  induction h with
  | nil => rfl
  | cons hfirst _ ih => cases hfirst <;> simp only [List.filterMap_cons, handed?, ih]

section Runs

variable [BEq S] [BEq T] [Token K S] {alike : E → E → Prop}

structure World.Matches (alike : E → E → Prop) (world world' : World E K) : Prop where
  environment : alike world.environment world'.environment
  token : Token.Matches world.token world'.token

structure Traced.Matches {α β : Type} (alike : E → E → Prop) (related : α → β → Prop)
    (first : Traced (Event S T A) (World E K) α) (second : Traced (Event S T A) (World E K) β) :
    Prop where
  value : related first.value second.value
  world : first.world.Matches alike second.world
  events : List.Forall₂ Event.Matches first.events second.events

namespace Token.Matches

variable [LawfulToken K] {token token' : K}

omit [BEq T] in
theorem setMemory (h : Token.Matches token token') {memory memory' : Memory S}
    (hm : memory.same memory' = true) :
    Token.Matches (Token.setMemory token memory) (Token.setMemory token' memory') where
  apart later := by
    rw [LawfulToken.setMemory_setMemory, LawfulToken.setMemory_setMemory, h.apart]
  state := by
    simp only [Token.state, LawfulToken.memory_setMemory]
    exact hm

theorem move (h : Token.Matches token token') {target target' : S}
    (hs : (target == target') = true) :
    Token.Matches (Token.move token target) (Token.move token' target') :=
  h.setMemory hs

end Token.Matches

namespace Traced.Matches

variable {α β γ δ : Type} {related : α → β → Prop} {related' : γ → δ → Prop}
  {first : Traced (Event S T A) (World E K) α} {second : Traced (Event S T A) (World E K) β}

theorem pure {value : α} {value' : β} (h : related value value') {world world' : World E K}
    (hw : world.Matches alike world') :
    (Traced.pure value world : Traced (Event S T A) (World E K) α).Matches alike related
      (.pure value' world') :=
  ⟨h, hw, .nil⟩

theorem record {event event' : Event S T A} (h : event.Matches event') {world world' : World E K}
    (hw : world.Matches alike world') :
    (Traced.record event world).Matches alike Eq (.record event' world') :=
  ⟨rfl, hw, .cons h .nil⟩

theorem map (h : first.Matches alike related second) {f : α → γ} {g : β → δ}
    (hfg : ∀ value value', related value value' → related' (f value) (g value')) :
    (first.map f).Matches alike related' (second.map g) :=
  ⟨hfg _ _ h.value, h.world, h.events⟩

theorem bind (h : first.Matches alike related second)
    {next : α → World E K → Traced (Event S T A) (World E K) γ}
    {next' : β → World E K → Traced (Event S T A) (World E K) δ}
    (hnext : ∀ value value' world world', related value value' → world.Matches alike world' →
      (next value world).Matches alike related' (next' value' world')) :
    (first.bind next).Matches alike related' (second.bind next') := by
  have hlater := hnext _ _ _ _ h.value h.world
  exact ⟨hlater.value, hlater.world, List.rel_append h.events hlater.events⟩

end Traced.Matches

/-- Two scripts that do the same on tokens that match, in environments that are alike. -/
inductive Script.Matches (alike : E → E → Prop) :
    Script S T A E K → Script S T A E K → Prop where
  | done : Matches alike .done .done
  | observe {next next' : E → K → Script S T A E K}
      (later : ∀ environment environment' token token', alike environment environment' →
        Token.Matches token token' → Matches alike (next environment token)
          (next' environment' token')) :
    Matches alike (.observe next) (.observe next')
  | update {environment environment' : E} {token token' : K} {next next' : Script S T A E K}
      (he : alike environment environment') (ht : Token.Matches token token')
      (later : Matches alike next next') :
    Matches alike (.update environment token next) (.update environment' token' next')
  | ask {request request' : Request S T A} {next : request.Reply → Script S T A E K}
      {next' : request'.Reply → Script S T A E K} (put : request.Matches request')
      (later : ∀ reply reply', request.RepliesMatch request' reply reply' →
        Matches alike (next reply) (next' reply')) :
    Matches alike (.ask request next) (.ask request' next')

def Handler.Respects (alike : E → E → Prop) (handler : Handler S T A E K) : Prop :=
  ∀ ⦃request request'⦄, request.Matches request' → ∀ ⦃world world'⦄, world.Matches alike world' →
    (handler request world).Matches alike (request.RepliesMatch request') (handler request' world')

theorem Script.Matches.run {script script' : Script S T A E K} (h : script.Matches alike script')
    {handler : Handler S T A E K} (hh : handler.Respects alike) {world world' : World E K}
    (hw : world.Matches alike world') :
    (script.run handler world).Matches alike Eq (script'.run handler world') := by
  induction h generalizing world world' with
  | done => exact .pure rfl hw
  | observe _ ih => exact ih _ _ _ _ hw.environment hw.token hw
  | update he ht _ ih => exact ih ⟨he, ht⟩
  | ask put _ ih => exact (hh put hw).bind fun reply reply' _ _ hr hw => ih reply reply' hr hw

end Runs

end StateMachine
