import StateMachine.Proofs.Nesting
import StateMachine.Proofs.Restoration

namespace StateMachine

variable {S T A E K : Type} [ArgumentKind A]

inductive Cause (S T A E K : Type) [ArgumentKind A] where
  | answered
  | committed (trigger : T) (transition : Transition S T A E K)
  | reset
  | forced (state : S)
  | replaced

/-- A point of a run: the world there, and what led to it. -/
structure Point (S T A E K : Type) [ArgumentKind A] where
  cause : Cause S T A E K
  world : World E K

/-- The points that a script comes to, those inside its requests included. -/
def Script.points (handler : Handler S T A E K)
    (inside : Request S T A → World E K → List (Point S T A E K)) :
    Script S T A E K → World E K → List (Point S T A E K)
  | done, _ => []
  | observe next, world => (next world.environment world.token).points handler inside world
  | update environment token next, _ =>
    ⟨.replaced, ⟨environment, token⟩⟩ :: next.points handler inside ⟨environment, token⟩
  | ask request next, world =>
    inside request world ++
      (next (handler request world).value).points handler inside (handler request world).world

def Event.current? : Event S T A → Option S
  | action _ _ _ _ current | callback _ _ _ current => some current
  | _ => none

theorem Event.current?_of_isPlain {e : Event S T A} (h : e.isPlain = true) : e.current? = none := by
  cases e with
  | action | callback => cases h
  | _ => rfl

namespace Machine

variable [Token K S] [Named S] [Named T] [BEq S] [BEq T] [DecidableEq A]

def point (machine : Machine S T A E K) (depth : Nat) (request : Request S T A)
    (world : World E K) : Point S T A E K where
  cause :=
    match request with
    | .reset => .reset
    | .force state => if machine.hasTransitions state then .forced state else .answered
    | _ => .answered
  world := (machine.answer depth request world).world

/-- The points that a request leads to. A fire that commits a transition first stores its target;
then come the points of the action and those of the callback. -/
def points (machine : Machine S T A E K) :
    Nat → Request S T A → World E K → List (Point S T A E K)
  | depth + 1, .fire trigger argument, world =>
    match (⟨depth, trigger, argument, world⟩ : Dispatch T A E K).commit? machine with
    | none => [machine.point (depth + 1) (.fire trigger argument) world]
    | some c =>
      ⟨.committed trigger c.transition, c.moved⟩ ::
        ((c.transition.script c.payload).points (machine.answer depth) (machine.points depth)
            c.moved ++
          (machine.callbackScript (Token.state world.token) trigger c.transition.target).points
            (machine.answer depth) (machine.points depth) c.acted)
  | depth, request, world => [machine.point depth request world]

/-- How a point can come after a world. A committed transition leads out of the state at hand, and
its guard passes; a state that is forced has a transition out of it. -/
inductive Leads (machine : Machine S T A E K) (world : World E K) : Point S T A E K → Prop where
  | answered {environment : E} : Leads machine world ⟨.answered, ⟨environment, world.token⟩⟩
  | committed {trigger : T} {transition : Transition S T A E K}
      (declared : machine.transition? (Token.state world.token) trigger = some transition)
      (permits : transition.Permits world.environment) :
    Leads machine world ⟨.committed trigger transition,
      ⟨(transition.verdict world.environment).world, Token.move world.token transition.target⟩⟩
  | reset : Leads machine world
      ⟨.reset, ⟨world.environment, Token.move world.token machine.initial⟩⟩
  | forced {state : S} (leaves : machine.hasTransitions state = true) :
    Leads machine world ⟨.forced state, ⟨world.environment, Token.move world.token state⟩⟩
  | replaced {later : World E K} : Leads machine world ⟨.replaced, later⟩

inductive Path (machine : Machine S T A E K) :
    World E K → List (Point S T A E K) → World E K → Prop where
  | nil {world : World E K} : Path machine world [] world
  | cons {world last : World E K} {point : Point S T A E K} {points : List (Point S T A E K)}
      (step : machine.Leads world point) (rest : Path machine point.world points last) :
    Path machine world (point :: points) last

omit [Named S] [Named T] [DecidableEq A] in
theorem Path.append {machine : Machine S T A E K} {first middle last : World E K}
    {points more : List (Point S T A E K)} (h : machine.Path first points middle)
    (h' : machine.Path middle more last) : machine.Path first (points ++ more) last := by
  induction h with
  | nil => exact h'
  | cons step rest ih => exact .cons step (ih h')

omit [Named S] [Named T] [DecidableEq A] in
theorem Path.last_mem {machine : Machine S T A E K} {first last : World E K}
    {points : List (Point S T A E K)} (h : machine.Path first points last) :
    last = first ∨ ∃ point ∈ points, point.world = last := by
  induction h with
  | nil => exact .inl rfl
  | @cons world last point points step rest ih =>
    right
    rcases ih with rfl | ⟨found, hmem, rfl⟩
    · exact ⟨point, List.mem_cons_self, rfl⟩
    · exact ⟨found, List.mem_cons_of_mem _ hmem, rfl⟩

omit [Named S] [Named T] [DecidableEq A] in
theorem path_script {machine : Machine S T A E K} {handler : Handler S T A E K}
    {inside : Request S T A → World E K → List (Point S T A E K)}
    (h : ∀ request world,
      machine.Path world (inside request world) (handler request world).world)
    (script : Script S T A E K) (world : World E K) :
    machine.Path world (script.points handler inside world) (script.run handler world).world := by
  induction script generalizing world with
  | done => exact .nil
  | observe next ih => exact ih _ _ _
  | update environment token next ih => exact .cons .replaced (ih _)
  | ask request next ih => exact (h request world).append (ih _ _)

theorem leads_point {machine : Machine S T A E K} {depth : Nat} {request : Request S T A}
    (h : depth = 0 ∨ ∀ trigger argument, request ≠ .fire trigger argument) (world : World E K) :
    machine.Leads world (machine.point depth request world) := by
  cases request with
  | fire trigger argument =>
    rcases h with rfl | h
    · exact .answered
    · exact (h trigger argument rfl).elim
  | reset =>
    simp only [point, answer]
    exact .reset
  | force state =>
    simp only [point]
    cases hrow : machine.hasTransitions state with
    | true =>
      rw [answer_force_of_hasTransitions hrow]
      exact .forced hrow
    | false =>
      rw [answer_force_of_not_hasTransitions hrow]
      exact .answered
  | enabled trigger =>
    simp only [point, answer]
    exact .answered
  | newMemory =>
    simp only [point, answer]
    exact .answered
  | restore checkpoint =>
    simp only [point]
    cases hrestore : machine.restore checkpoint with
    | error e =>
      rw [answer_restore_of_error hrestore]
      exact .answered
    | ok found =>
      rw [answer_restore_of_ok hrestore]
      exact .answered

theorem world_run {machine : Machine S T A E K} {d : Dispatch T A E K} (c : d.Commit machine) :
    (d.run machine).world =
      ((machine.callbackScript (Token.state d.world.token) d.trigger c.transition.target).run
        (machine.answer d.depth) c.acted).world := by
  rw [Dispatch.run, fire, fireUnder_of_permitted _ c.selected c.accepted c.permitted]
  rfl

theorem path_points (machine : Machine S T A E K) (depth : Nat) (request : Request S T A)
    (world : World E K) :
    machine.Path world (machine.points depth request world)
      (machine.answer depth request world).world := by
  have hsingle : ∀ {depth request world}, machine.Leads world (machine.point depth request world) →
      machine.Path world [machine.point depth request world]
        (machine.answer depth request world).world :=
    fun step => .cons step .nil
  -- Scripts put their requests one level deeper, which is what the induction is on.
  induction depth generalizing request world with
  | zero => exact hsingle (leads_point (.inl rfl) world)
  | succ depth ih =>
    cases request with
    | fire trigger argument =>
      simp only [points]
      cases hc : (⟨depth, trigger, argument, world⟩ : Dispatch T A E K).commit? machine with
      | none =>
        obtain ⟨outcome, environment, plain, -, -, hfire⟩ := Dispatch.exists_fireUnder hc
        apply hsingle
        simp only [point, answer, hfire]
        exact .answered
      | some c =>
        have hpermits := (c.transition.permits_iff _).2 c.permitted
        have hcommitted : machine.Leads world ⟨.committed trigger c.transition, c.moved⟩ :=
          .committed (select_eq_ok_iff.1 c.selected) hpermits
        have haction := path_script ih (c.transition.script c.payload) c.moved
        have hcallback := path_script ih
          (machine.callbackScript (Token.state world.token) trigger c.transition.target) c.acted
        rw [← world_run c] at hcallback
        exact .cons hcommitted (haction.append hcallback)
    | _ => exact hsingle (leads_point (.inr (by simp)) world)

/-- A state that the machine knows: the initial one, the target of a transition, or one with a
transition out of it. -/
def Admits (machine : Machine S T A E K) (state : S) : Prop :=
  state = machine.initial ∨
    (∃ source trigger transition, machine.transition? source trigger = some transition ∧
      state = transition.target) ∨
    ∃ trigger, (machine.transition? state trigger).isSome = true

/-- A memory that a script can come by: one that the machine makes or restores, or one that the
instance had in an earlier world. -/
def Provides (machine : Machine S T A E K) (earlier : List (World E K)) (memory : Memory S) :
    Prop :=
  memory = machine.newMemory ∨
    (∃ checkpoint log, machine.restore checkpoint = .ok (memory, log)) ∨
    ∃ world ∈ earlier, Token.memory world.token = memory

def Replaces (machine : Machine S T A E K) :
    List (World E K) → List (Point S T A E K) → Prop
  | _, [] => True
  | earlier, ⟨.replaced, world⟩ :: later =>
    machine.Provides earlier (Token.memory world.token) ∧ machine.Replaces (world :: earlier) later
  | earlier, point :: later => machine.Replaces (point.world :: earlier) later

section Admission

variable {machine : Machine S T A E K}

omit [DecidableEq A] [Named T] in
theorem Provides.admits {earlier : List (World E K)} {memory : Memory S}
    (h : machine.Provides earlier memory)
    (hrows : ∀ state, machine.hasTransitions state = true →
      ∃ trigger, (machine.transition? state trigger).isSome = true)
    (hearlier : ∀ world ∈ earlier, machine.Admits (Token.state world.token)) :
    machine.Admits memory.state := by
  rcases h with rfl | ⟨checkpoint, log, hrestore⟩ | ⟨world, hmem, rfl⟩
  · exact .inl rfl
  · obtain ⟨-, hrow, rfl, -⟩ := restore_eq_ok_iff.1 hrestore
    exact .inr (.inr (hrows _ hrow))
  · exact hearlier world hmem

variable [LawfulToken K]

omit [Named T] [DecidableEq A] in
theorem Leads.admits {world : World E K} {point : Point S T A E K} {earlier : List (World E K)}
    {later : List (Point S T A E K)} (h : machine.Leads world point)
    (hrows : ∀ state, machine.hasTransitions state = true →
      ∃ trigger, (machine.transition? state trigger).isSome = true)
    (hreplaces : machine.Replaces earlier (point :: later)) (hworld : world ∈ earlier)
    (hearlier : ∀ world ∈ earlier, machine.Admits (Token.state world.token)) :
    machine.Admits (Token.state point.world.token) ∧
      machine.Replaces (point.world :: earlier) later := by
  cases h with
  | answered => exact ⟨hearlier world hworld, hreplaces⟩
  | @committed trigger transition declared permits =>
    refine ⟨.inr (.inl ⟨_, _, transition, declared, ?_⟩), hreplaces⟩
    rw [Token.state_move]
  | reset =>
    refine ⟨.inl ?_, hreplaces⟩
    rw [Token.state_move]
  | forced leaves =>
    refine ⟨.inr (.inr ?_), hreplaces⟩
    rw [Token.state_move]
    exact hrows _ leaves
  | replaced => exact ⟨hreplaces.1.admits hrows hearlier, hreplaces.2⟩

omit [Named T] [DecidableEq A] in
theorem Path.admits {world last : World E K} {points : List (Point S T A E K)}
    (h : machine.Path world points last)
    (hrows : ∀ state, machine.hasTransitions state = true →
      ∃ trigger, (machine.transition? state trigger).isSome = true)
    {earlier : List (World E K)} (hreplaces : machine.Replaces earlier points)
    (hworld : world ∈ earlier)
    (hearlier : ∀ world ∈ earlier, machine.Admits (Token.state world.token)) :
    ∀ point ∈ points, machine.Admits (Token.state point.world.token) := by
  induction h generalizing earlier with
  | nil =>
    intro point hmem
    cases hmem
  | cons step rest ih =>
    obtain ⟨hnext, hlater⟩ := step.admits hrows hreplaces hworld hearlier
    intro point hmem
    rcases List.mem_cons.1 hmem with rfl | hmem
    · exact hnext
    · apply ih hlater List.mem_cons_self _ point hmem
      intro world hworld
      rcases List.mem_cons.1 hworld with rfl | hworld
      · exact hnext
      · exact hearlier world hworld

end Admission

end Machine

/-- Every state that an action or the callback is called in is the state at one of the points. -/
def Covers [Token K S] (points : List (Point S T A E K)) (events : List (Event S T A)) : Prop :=
  ∀ e ∈ events, ∀ current, e.current? = some current →
    ∃ point ∈ points, Token.state point.world.token = current

section Coverage

variable [Token K S] {points more : List (Point S T A E K)} {events later : List (Event S T A)}

theorem covers_of_all_isPlain (h : events.all Event.isPlain = true) : Covers points events := by
  intro e he current hcurrent
  rw [Event.current?_of_isPlain (List.all_eq_true.1 h e he)] at hcurrent
  cases hcurrent

theorem covers_nil : Covers points ([] : List (Event S T A)) := by
  intro e he
  cases he

theorem Covers.cons {e : Event S T A} (h : Covers points events) (he : e.current? = none) :
    Covers points (e :: events) := by
  intro found hmem current hcurrent
  rcases List.mem_cons.1 hmem with rfl | hmem
  · rw [he] at hcurrent
    cases hcurrent
  · exact h found hmem current hcurrent

theorem Covers.append (h : Covers points events) (h' : Covers points later) :
    Covers points (events ++ later) := by
  intro e he
  rcases List.mem_append.1 he with he | he
  · exact h e he
  · exact h' e he

theorem Covers.mono (h : Covers points events) (hsub : points ⊆ more) : Covers more events := by
  intro e he current hcurrent
  obtain ⟨point, hmem, hstate⟩ := h e he current hcurrent
  exact ⟨point, hsub hmem, hstate⟩

theorem covers_actionCall (transition : Transition S T A E K) (argument : Argument A) {current : S}
    (h : ∃ point ∈ points, Token.state point.world.token = current) :
    Covers points (transition.actionCall argument current) := by
  intro e he found hfound
  obtain ⟨action, -, rfl⟩ := Option.map_eq_some_iff.1 (Option.mem_toList.1 he)
  cases hfound
  exact h

theorem covers_callbackCall (machine : Machine S T A E K) (source : S) (trigger : T) (target : S)
    {current : S} (h : ∃ point ∈ points, Token.state point.world.token = current) :
    Covers points (machine.callbackCall source trigger target current) := by
  intro e he found hfound
  obtain ⟨callback, -, rfl⟩ := Option.map_eq_some_iff.1 (Option.mem_toList.1 he)
  cases hfound
  exact h

theorem Script.covers_run {handler : Handler S T A E K}
    {inside : Request S T A → World E K → List (Point S T A E K)}
    (h : ∀ request world, Covers (inside request world) (handler request world).events)
    (script : Script S T A E K) (world : World E K) :
    Covers (script.points handler inside world) (script.run handler world).events := by
  induction script generalizing world with
  | done => exact covers_nil
  | observe next ih => exact ih _ _ _
  | update environment token next ih => exact (ih _).mono (List.subset_cons_self _ _)
  | ask request next ih =>
    exact ((h request world).mono (List.subset_append_left _ _)).append
      ((ih _ _).mono (List.subset_append_right _ _))

end Coverage

namespace Machine

variable [Token K S] [Named S] [Named T] [BEq S] [BEq T] [DecidableEq A]

theorem covers_answer (machine : Machine S T A E K) (depth : Nat) (request : Request S T A)
    (world : World E K) :
    Covers (machine.points depth request world) (machine.answer depth request world).events := by
  induction depth generalizing request world with
  | zero => exact covers_of_all_isPlain (all_isPlain_answer (.inl rfl))
  | succ depth ih =>
    cases request with
    | fire trigger argument =>
      simp only [points]
      cases hc : (⟨depth, trigger, argument, world⟩ : Dispatch T A E K).commit? machine with
      | none =>
        obtain ⟨outcome, environment, plain, hplain, -, hfire⟩ := Dispatch.exists_fireUnder hc
        simp only [answer, hfire]
        exact (covers_of_all_isPlain hplain).append (covers_nil.cons rfl)
      | some c =>
        have haction := Script.covers_run ih (c.transition.script c.payload) c.moved
        have hcallback := Script.covers_run ih
          (machine.callbackScript (Token.state world.token) trigger c.transition.target) c.acted
        have hpath :=
          path_script (machine.path_points depth) (c.transition.script c.payload) c.moved
        simp only [answer]
        rw [fireUnder_of_permitted _ c.selected c.accepted c.permitted]
        have hguard := c.transition.all_isPlain_guardCall true
        refine (covers_of_all_isPlain hguard).append (.cons ?_ rfl)
        refine .append (.append (.append ?_ ?_) (.append ?_ ?_)) ((covers_nil.cons rfl).cons rfl)
        · exact covers_actionCall _ _ ⟨_, List.mem_cons_self, rfl⟩
        · exact haction.mono (List.subset_cons_of_subset _ (List.subset_append_left _ _))
        · apply covers_callbackCall
          -- The action leaves the world of the last of its points, or that of the commit.
          rcases hpath.last_mem with hlast | ⟨point, hmem, hlast⟩
          · exact ⟨_, List.mem_cons_self, congrArg (Token.state ·.token) hlast.symm⟩
          · exact ⟨point, List.mem_cons_of_mem _ (List.mem_append_left _ hmem),
              congrArg (Token.state ·.token) hlast⟩
        · exact hcallback.mono (List.subset_cons_of_subset _ (List.subset_append_right _ _))
    | _ => exact covers_of_all_isPlain (all_isPlain_answer (.inr (by simp)))

/-- Take any program that has the machine fire, force or reset an instance, that starts with a
memory which the machine made or restored, and that replaces the memory by such memories and by
earlier ones only. At each point of its run, those inside actions and callbacks included, the
instance is in a state that the machine knows. From one point to the next the state changes by the
commit of a transition out of it whose guard passes, by a reset, by force, or by a replacement. -/
theorem run_reachable [LawfulToken K] [EquivBEq S] [EquivBEq T] {calls : List (Call S T A E K)}
    {machine : Machine S T A E K} {record : Log.Record}
    (hc : (Compiler.after calls).compile = .ok (machine, record)) (depth : Nat)
    (program : Script S T A E K) (world : World E K)
    (hstart : machine.Provides ([] : List (World E K)) (Token.memory world.token))
    (hreplaces : machine.Replaces [world]
      (program.points (machine.answer depth) (machine.points depth) world)) :
    let run := program.run (machine.answer depth) world
    let points := program.points (machine.answer depth) (machine.points depth) world
    machine.Path world points run.world ∧ machine.Admits (Token.state world.token) ∧
      (∀ point ∈ points, machine.Admits (Token.state point.world.token)) ∧
      Covers points run.events := by
  intro run points
  have hrows state := (((Compiler.reflects_after calls).describes hc).hasTransitions_iff state).1
  have hpath := path_script (machine.path_points depth) program world
  have hworld : machine.Admits (Token.state world.token) := hstart.admits hrows (by simp)
  refine ⟨hpath, hworld, ?_, program.covers_run (machine.covers_answer depth) world⟩
  apply hpath.admits hrows hreplaces List.mem_cons_self
  intro found hfound
  rw [List.mem_singleton.1 hfound]
  exact hworld

def rewindingProgram : Script (Scenario.Label .folded) (Scenario.Label .folded) Scenario.Kind Nat
    (Memory (Scenario.Label .folded)) :=
  .ask (.fire ⟨"GO"⟩ (.of .bool true)) fun _ =>
    .observe fun environment _ => .update environment ⟨⟨"b"⟩⟩ .done

def rewindingPoints : List (Point (Scenario.Label .folded) (Scenario.Label .folded) Scenario.Kind
    Nat (Memory (Scenario.Label .folded))) :=
  rewindingProgram.points (reentrantMachine.answer 2) (reentrantMachine.points 2) ⟨0, ⟨⟨"a"⟩⟩⟩

theorem run_reachable_rewinding :
    rewindingPoints.map (Token.state ·.world.token) = [⟨"b"⟩, ⟨"a"⟩, ⟨"a"⟩, ⟨"a"⟩, ⟨"b"⟩] ∧
      ∀ point ∈ rewindingPoints, reentrantMachine.Admits (Token.state point.world.token) := by
  -- The memory is that of the first commit, three points before the replacement.
  have hreplaces : reentrantMachine.Replaces [⟨0, ⟨⟨"a"⟩⟩⟩] rewindingPoints :=
    And.intro (.inr (.inr ⟨⟨1, ⟨⟨"b"⟩⟩⟩, .tail _ (.tail _ (.tail _ (.head _))), rfl⟩)) trivial
  obtain ⟨-, -, hpoints, -⟩ := run_reachable compile_reentrantCalls 2 rewindingProgram
    ⟨0, ⟨⟨"a"⟩⟩⟩ (.inl rfl) hreplaces
  exact ⟨rfl, hpoints⟩

end Machine

end StateMachine
