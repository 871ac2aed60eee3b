import StateMachine.Machine

namespace StateMachine

variable {S T A E K : Type} [ArgumentKind A]

abbrev Handler (S T A E K : Type) [ArgumentKind A] :=
  (request : Request S T A) → World E K → Traced (Event S T A) (World E K) request.Reply

def Script.run (handler : Handler S T A E K) :
    Script S T A E K → World E K → Traced (Event S T A) (World E K) Unit
  | done, world => .pure () world
  | observe next, world => (next world.environment world.token).run handler world
  | update environment token next, _ => next.run handler ⟨environment, token⟩
  | ask request next, world =>
    (handler request world).bind fun reply world => (next reply).run handler world

namespace Machine

variable [Token K S]

def store (state : S) (world : World E K) :
    Traced (Event S T A) (World E K) Unit :=
  .record (.stored state) { world with token := Token.move world.token state }

def act (handler : Handler S T A E K) (transition : Transition S T A E K)
    (payload : Payload transition.argument) (world : World E K) :
    Traced (Event S T A) (World E K) Unit :=
  match transition.action with
  | none => .pure () world
  | some action =>
    (Traced.record (.action transition.source transition.trigger transition.target
        ⟨transition.argument, payload⟩ (Token.state world.token)) world).bind fun _ world =>
      (action transition.source transition.trigger transition.target payload).run handler world

def notify (machine : Machine S T A E K) (handler : Handler S T A E K)
    (source : S) (trigger : T) (target : S) (world : World E K) :
    Traced (Event S T A) (World E K) Unit :=
  match machine.callback with
  | none => .pure () world
  | some callback =>
    (Traced.record (.callback source trigger target (Token.state world.token)) world).bind
      fun _ world => (callback source trigger target).run handler world

variable [Named S] [Named T]

/-- Commits a transition from the state that the token was found in. The action is given the copies
of state and trigger that were declared, the callback those that were found. -/
def commit (machine : Machine S T A E K) (handler : Handler S T A E K)
    (source : S) (trigger : T) (transition : Transition S T A E K)
    (payload : Payload transition.argument) (world : World E K) :
    Traced (Event S T A) (World E K) (Fired S) :=
  (store transition.target world).bind fun _ world =>
  (act handler transition payload world).bind fun _ world =>
  (machine.notify handler source trigger transition.target world).bind fun _ world =>
  (Traced.record
    (.log (.committed (name source) (name trigger) (name transition.target))) world).map
      fun _ => .committed source transition.target

def block (source : S) (trigger : T) (world : World E K) :
    Traced (Event S T A) (World E K) (Fired S) :=
  (Traced.record (.log (.rejected (name source) (name trigger))) world).map
    fun _ => .blocked source

variable [BEq S] [BEq T] [DecidableEq A]

/-- Fires a trigger up to the point of its return. -/
def attempt (machine : Machine S T A E K) (handler : Handler S T A E K)
    (trigger : T) (argument : Argument A) (world : World E K) :
    Traced (Event S T A) (World E K) (Except (FireError S T A) (Fired S)) :=
  let source := Token.state world.token
  match machine.select source trigger with
  | .error e => .pure (.error e) world
  | .ok transition =>
    match transition.accept argument with
    | .error e => .pure (.error e) world
    | .ok payload =>
      ((transition.verdict world.environment).mapWorld fun environment =>
          { world with environment }).bind fun passed world =>
        (if passed then machine.commit handler source trigger transition payload world
          else block source trigger world).map .ok

def fireUnder (machine : Machine S T A E K) (handler : Handler S T A E K)
    (trigger : T) (argument : Argument A) (world : World E K) :
    Traced (Event S T A) (World E K) (Except (FireError S T A) (Fired S)) :=
  (machine.attempt handler trigger argument world).bind fun outcome world =>
    ⟨outcome, world, [.returned outcome]⟩

/-- Answers a request, where fires may be nested so many deep. -/
def answer (machine : Machine S T A E K) : Nat → Handler S T A E K
  | 0, .fire _ _, world => .pure none world
  | depth + 1, .fire trigger argument, world =>
    (machine.fireUnder (machine.answer depth) trigger argument world).map some
  | _, .reset, world =>
    let (token, record) := machine.reset world.token
    ⟨(), { world with token }, [.log record, .stored machine.initial]⟩
  | _, .force state, world =>
    match machine.force state world.token with
    | .error e => .pure (.error e) world
    | .ok (token, record) => ⟨.ok (), { world with token }, [.log record, .stored state]⟩
  | _, .enabled trigger, world =>
    (machine.enabled trigger world.token world.environment).mapWorld fun environment =>
      { world with environment }
  | _, .newMemory, world => .pure machine.newMemory world
  | _, .restore checkpoint, world =>
    match machine.restore checkpoint with
    | .error e => .pure (.error e) world
    | .ok (memory, record) => ⟨.ok memory, world, [.log record]⟩

def fire (depth : Nat) (machine : Machine S T A E K) (trigger : T) (argument : Argument A)
    (world : World E K) :
    Traced (Event S T A) (World E K) (Except (FireError S T A) (Fired S)) :=
  machine.fireUnder (machine.answer depth) trigger argument world

end Machine

end StateMachine
