import StateMachine.Machine.Operation
import StateMachine.Proofs.Dispatch
import StateMachine.Proofs.Filing

namespace StateMachine

variable {S T A E K : Type} [ArgumentKind A]

/-- A declaration with the things attached through its handle, up to the first that is refused. -/
structure Block (S T A E K : Type) [ArgumentKind A] where
  source : S
  trigger : T
  target : S
  argument : Option A
  links : List (Link S T A E K argument)

section Links

variable [DecidableEq A] {argument : Option A}

def Link.attach (transition : Transition S T A E K) :
    Link S T A E K argument → Except (ConfigError S T A) (Transition S T A E K)
  | .guard given => transition.attachGuard given
  | .action given => transition.attachAction argument given

def Link.attachAll (transition : Transition S T A E K) :
    List (Link S T A E K argument) → Transition S T A E K × Option (ConfigError S T A)
  | [] => (transition, none)
  | next :: rest =>
    match next.attach transition with
    | .error e => (transition, some e)
    | .ok changed => attachAll changed rest

end Links

namespace Block

variable [DecidableEq A]

/-- The transition that a block makes of a new pair, and its refusal if there is one. -/
def settled (block : Block S T A E K) : Transition S T A E K × Option (ConfigError S T A) :=
  Link.attachAll (.declared block.source block.trigger block.target block.argument) block.links

def filing (block : Block S T A E K) : S × T × Transition S T A E K :=
  (block.source, block.trigger, block.settled.1)

end Block

inductive Setup (S T A E K : Type) [ArgumentKind A] where
  | block (block : Block S T A E K)
  | setInitial (state : S)
  | callback (callback : Callback S T A E K)

namespace Setup

def block? : Setup S T A E K → Option (Block S T A E K)
  | block given => some given
  | _ => none

def blocks (steps : List (Setup S T A E K)) : List (Block S T A E K) := steps.filterMap block?

def others (steps : List (Setup S T A E K)) : List (Setup S T A E K) :=
  steps.filter fun step => step.block?.isNone

variable [BEq S] [BEq T] [DecidableEq A]

def perform (compiler : Compiler S T A E K) :
    Setup S T A E K → Compiler S T A E K × Option (ConfigError S T A)
  | block given =>
    compiler.declareChain given.source given.trigger given.target given.argument given.links
  | setInitial state => (compiler.setInitial state, none)
  | callback given => compiler.setCallback given

end Setup

namespace Compiler

section File

variable [BEq S]

def file (compiler : Compiler S T A E K) (source : S) (trigger : T)
    (transition : Transition S T A E K) : Compiler S T A E K :=
  { compiler with
    table := compiler.table.file source trigger transition
    last := some (source, trigger) }

variable [BEq T] [EquivBEq S] [EquivBEq T] {compiler : Compiler S T A E K} {source : S}
  {trigger : T}

omit [EquivBEq T] in
theorem declare_of_new (h : compiler.table.get? source trigger = none) (target : S)
    (argument : Option A) :
    compiler.declare source trigger target argument =
      (compiler.file source trigger (.declared source trigger target argument), none) := by
  have hnew : ¬((compiler.table.openRow source).get? source trigger).isSome = true := by
    rw [Table.get?_openRow, h]
    exact Bool.false_ne_true
  simp only [declare, if_neg hnew]
  rfl

theorem attach_file (h : compiler.table.get? source trigger = none)
    (transition : Transition S T A E K) (what : Attachment)
    (change : Transition S T A E K → Except (ConfigError S T A) (Transition S T A E K)) :
    (compiler.file source trigger transition).attach what change =
      match change transition with
      | .error e => (compiler.file source trigger transition, some e)
      | .ok changed => (compiler.file source trigger changed, none) := by
  have hfound : (compiler.table.file source trigger transition).get? source trigger =
      some transition := Table.get?_file_self h transition
  simp only [attach, file, hfound]
  cases change transition with
  | error e => rfl
  | ok changed => simp only [Table.modify_file h]

end File

end Compiler

namespace Handle

variable [BEq S] [BEq T] [EquivBEq S] [EquivBEq T] [DecidableEq A] {argument : Option A}
  {compiler : Compiler S T A E K} {source : S} {trigger : T}

theorem link_file (h : compiler.table.get? source trigger = none)
    (transition : Transition S T A E K) (offered : Link S T A E K argument) :
    (⟨compiler.file source trigger transition⟩ : Handle S T A E K argument).link offered =
      match offered.attach transition with
      | .error e => (⟨compiler.file source trigger transition⟩, some e)
      | .ok changed => (⟨compiler.file source trigger changed⟩, none) := by
  cases offered with
  | guard given =>
    simp only [link, Compiler.attachGuard, Compiler.attach_file h, Link.attach]
    cases transition.attachGuard given <;> rfl
  | action given =>
    simp only [link, Compiler.attachAction, Compiler.attach_file h, Link.attach]
    cases transition.attachAction argument given <;> rfl

theorem chain_file (h : compiler.table.get? source trigger = none)
    (transition : Transition S T A E K) (links : List (Link S T A E K argument)) :
    (⟨compiler.file source trigger transition⟩ : Handle S T A E K argument).chain links =
      (compiler.file source trigger (Link.attachAll transition links).1,
        (Link.attachAll transition links).2) := by
  induction links generalizing transition with
  | nil => rfl
  | cons next rest ih =>
    simp only [chain, link_file h, Link.attachAll]
    cases next.attach transition with
    | error e => rfl
    | ok changed => exact ih changed

end Handle

section Build

variable [BEq S] [BEq T] [DecidableEq A]

def Compiler.build (steps : List (Setup S T A E K)) : Compiler S T A E K :=
  steps.foldl (fun compiler step => (step.perform compiler).1) .empty

variable [EquivBEq S] [EquivBEq T]

/-- A block on a new pair files its transition and ends as it would in any other place. -/
theorem Setup.perform_block {compiler : Compiler S T A E K} (block : Block S T A E K)
    (h : compiler.table.get? block.source block.trigger = none) :
    (Setup.block block).perform compiler =
      (compiler.file block.source block.trigger block.settled.1, block.settled.2) := by
  simp only [perform, Compiler.declareChain, Compiler.declare_of_new h]
  exact Handle.chain_file h _ _

end Build

namespace Machine

variable [Token K S] [Named S] [Named T] [BEq S] [BEq T] [DecidableEq A]

/-- Two machines that no operation and no query tells apart, but for the order of what is listed. -/
structure Interchangeable (machine other : Machine S T A E K) : Prop where
  initial : machine.initial = other.initial
  transition : ∀ state trigger, machine.transition? state trigger = other.transition? state trigger
  size : machine.size = other.size
  states : ∀ state, machine.states.any (state == ·) = other.states.any (state == ·)
  count : machine.states.length = other.states.length
  triggers : ∀ state, (machine.triggersFrom state).Perm (other.triggersFrom state)
  answer : ∀ depth request world,
    machine.answer depth request world = other.answer depth request world
  performAll : ∀ depth operations world,
    machine.performAll depth operations world = other.performAll depth operations world
  run : ∀ depth (program : Script S T A E K) world,
    program.run (machine.answer depth) world = program.run (other.answer depth) world

variable {machine other : Machine S T A E K}

theorem fireUnder_congr (hcallback : machine.callback = other.callback)
    (hselect : ∀ state trigger, machine.select state trigger = other.select state trigger)
    (handler : Handler S T A E K) (trigger : T) (argument : Argument A) (world : World E K) :
    machine.fireUnder handler trigger argument world =
      other.fireUnder handler trigger argument world := by
  simp only [fireUnder, attempt, commit, notify, hselect, hcallback]

theorem answer_congr (hinitial : machine.initial = other.initial)
    (hcallback : machine.callback = other.callback)
    (hselect : ∀ state trigger, machine.select state trigger = other.select state trigger)
    (hrow : ∀ state, machine.hasTransitions state = other.hasTransitions state) (depth : Nat) :
    machine.answer depth = other.answer depth := by
  induction depth with
  | zero =>
    funext request world
    cases request <;>
      simp only [answer, reset, force, enabled, newMemory, restore, hinitial, hselect, hrow]
  | succ depth ih =>
    funext request world
    cases request with
    | fire trigger argument => simp only [answer, ih, fireUnder_congr hcallback hselect]
    | _ => simp only [answer, reset, force, enabled, newMemory, restore, hinitial, hselect, hrow]

theorem performAll_congr (hcallback : machine.callback = other.callback)
    (hselect : ∀ state trigger, machine.select state trigger = other.select state trigger)
    {depth : Nat} (hanswer : machine.answer depth = other.answer depth)
    (operations : List (Operation S T A)) (world : World E K) :
    machine.performAll depth operations world = other.performAll depth operations world := by
  have hperform : ∀ operation world,
      machine.perform depth operation world = other.perform depth operation world := by
    intro operation world
    cases operation <;> simp only [perform, fire, hanswer, fireUnder_congr hcallback hselect]
  induction operations generalizing world with
  | nil => rfl
  | cons next rest ih => simp only [performAll, hperform, ih]

theorem interchangeable_of_rearranged (hinitial : machine.initial = other.initial)
    (hcallback : machine.callback = other.callback) (h : machine.table.Rearranged other.table) :
    machine.Interchangeable other := by
  have hselect : ∀ state trigger, machine.select state trigger = other.select state trigger := by
    intro state trigger
    rw [select_eq, select_eq, hasTransitions, hasTransitions, h.hasRow, transition?, transition?,
      h.get?]
  have hanswer := answer_congr hinitial hcallback hselect h.hasRow
  refine ⟨hinitial, h.get?, h.size, fun state => ?_, h.states, h.triggers, fun depth _ _ => ?_,
    fun depth => performAll_congr hcallback hselect (hanswer depth), fun depth _ _ => ?_⟩
  · exact (Table.any_states ..).trans ((h.hasRow state).trans (Table.any_states ..).symm)
  · rw [hanswer depth]
  · rw [hanswer depth]

end Machine

section Rearrangement

variable [BEq S] [BEq T] [EquivBEq S] [EquivBEq T] [DecidableEq A]
  {steps shuffled : List (Setup S T A E K)}

def Setup.DistinctPairs (steps : List (Setup S T A E K)) : Prop :=
  (blocks steps).Pairwise fun a b => (a.source == b.source && a.trigger == b.trigger) = false

omit [EquivBEq S] [EquivBEq T] [DecidableEq A] in
theorem Setup.DistinctPairs.of_append {later : List (Setup S T A E K)}
    (h : Setup.DistinctPairs (steps ++ later)) : Setup.DistinctPairs steps :=
  h.sublist ((List.sublist_append_left steps later).filterMap block?)

omit [EquivBEq S] [EquivBEq T] in
theorem Setup.DistinctPairs.filings (h : Setup.DistinctPairs steps) :
    Table.DistinctPairs ((Setup.blocks steps).map Block.filing) :=
  List.pairwise_map.2 h

theorem Setup.DistinctPairs.get?_eq_none {block : Block S T A E K} {later : List (Setup S T A E K)}
    (h : Setup.DistinctPairs (steps ++ .block block :: later)) :
    (Table.fileAll .empty ((Setup.blocks steps).map Block.filing)).get? block.source block.trigger =
      none := by
  have hsteps : steps ++ .block block :: later = (steps ++ [.block block]) ++ later := by simp
  rw [hsteps] at h
  have hfilings := h.of_append.filings
  rw [blocks, List.filterMap_append, List.map_append] at hfilings
  exact hfilings.get?_eq_none

namespace Compiler

omit [EquivBEq S] [EquivBEq T] in
theorem build_append (steps : List (Setup S T A E K)) (step : Setup S T A E K) :
    build (steps ++ [step]) = (step.perform (build steps)).1 :=
  List.foldl_append

/-- The table is filled by the blocks, and the initial state and the callback come from the other
steps. -/
theorem build_eq (h : Setup.DistinctPairs steps) :
    (build steps).table = .fileAll .empty ((Setup.blocks steps).map Block.filing) ∧
      (build steps).initial = (build (Setup.others steps)).initial ∧
      (build steps).callback = (build (Setup.others steps)).callback := by
  induction steps using List.reverseRecOn with
  | nil => exact ⟨rfl, rfl, rfl⟩
  | append_singleton steps step ih =>
    obtain ⟨htable, hinitial, hcallback⟩ := ih h.of_append
    have hblocks : Setup.blocks (steps ++ [step]) = Setup.blocks steps ++ Setup.blocks [step] :=
      List.filterMap_append
    have hothers : Setup.others (steps ++ [step]) = Setup.others steps ++ Setup.others [step] :=
      List.filter_append ..
    rw [build_append, hblocks, hothers]
    cases step with
    | block given =>
      have hnew : (build steps).table.get? given.source given.trigger = none := by
        rw [htable]
        exact h.get?_eq_none
      have hnone : Setup.others [Setup.block given] = [] := rfl
      rw [Setup.perform_block given hnew, List.map_append, hnone, List.append_nil]
      refine ⟨?_, hinitial, hcallback⟩
      rw [file, htable]
      exact (Table.fileAll_append .empty _ given.filing).symm
    | setInitial state =>
      have hnone : Setup.blocks [.setInitial state] = ([] : List (Block S T A E K)) := rfl
      have hone : Setup.others [.setInitial state] =
          ([.setInitial state] : List (Setup S T A E K)) := rfl
      rw [hnone, List.append_nil, hone, build_append]
      exact ⟨htable, rfl, hcallback⟩
    | callback given =>
      have hnone : Setup.blocks [Setup.callback given] = [] := rfl
      have hone : Setup.others [Setup.callback given] = [.callback given] := rfl
      rw [hnone, List.append_nil, hone, build_append]
      simp only [Setup.perform, setCallback, hcallback]
      split
      · exact ⟨htable, hinitial, hcallback⟩
      · exact ⟨htable, hinitial, rfl⟩

theorem get?_build_eq_none {block : Block S T A E K} {later : List (Setup S T A E K)}
    (h : Setup.DistinctPairs (steps ++ .block block :: later)) :
    (build steps).table.get? block.source block.trigger = none := by
  rw [(build_eq h.of_append).1]
  exact h.get?_eq_none

omit [EquivBEq S] [EquivBEq T] in
theorem compile_of_rearranged [Token K S] [Named S] [Named T] {compiler other : Compiler S T A E K}
    (hinitial : compiler.initial = other.initial) (hcallback : compiler.callback = other.callback)
    (h : compiler.table.Rearranged other.table) :
    (∀ e, compiler.compile = .error e ↔ other.compile = .error e) ∧
      ∀ machine record, compiler.compile = .ok (machine, record) →
        ∃ found, other.compile = .ok (found, record) ∧ machine.Interchangeable found := by
  have hempty : compiler.table.isEmpty = other.table.isEmpty := by
    rw [Table.isEmpty_eq, Table.isEmpty_eq, h.states]
  unfold compile
  rw [hinitial, hempty, h.states, h.size]
  cases other.initial with
  | none => exact ⟨fun _ => .rfl, nofun⟩
  | some initial =>
    dsimp only
    cases other.table.isEmpty with
    | true => exact ⟨fun _ => .rfl, nofun⟩
    | false =>
      refine ⟨fun _ => ⟨nofun, nofun⟩, ?_⟩
      rintro machine record ⟨⟩
      exact ⟨_, rfl, Machine.interchangeable_of_rearranged rfl hcallback h⟩

/-- Steps with the same blocks in any order, and with the other steps in the same order, come to the
same. Every block ends the same way, and the compilers are frozen into interchangeable machines or
refuse for the same reason. -/
theorem build_rearranged [Token K S] [Named S] [Named T] (hd : Setup.DistinctPairs steps)
    (hblocks : (Setup.blocks steps).Perm (Setup.blocks shuffled))
    (hothers : Setup.others steps = Setup.others shuffled) :
    (∀ block earlier later earlier' later', steps = earlier ++ .block block :: later →
      shuffled = earlier' ++ .block block :: later' →
        ((Setup.block block).perform (build earlier)).2 =
          ((Setup.block block).perform (build earlier')).2) ∧
    (∀ e, (build steps).compile = .error e ↔ (build shuffled).compile = .error e) ∧
    ∀ machine record, (build steps).compile = .ok (machine, record) →
      ∃ found, (build shuffled).compile = .ok (found, record) ∧ machine.Interchangeable found := by
  have hd' : Setup.DistinctPairs shuffled := by
    refine hblocks.pairwise hd fun {a b} hab => ?_
    rw [BEq.comm (a := b.source), BEq.comm (a := b.trigger)]
    exact hab
  obtain ⟨htable, hinitial, hcallback⟩ := build_eq hd
  obtain ⟨htable', hinitial', hcallback'⟩ := build_eq hd'
  refine ⟨?_, compile_of_rearranged ?_ ?_ ?_⟩
  · rintro block earlier later earlier' later' rfl rfl
    rw [Setup.perform_block block (get?_build_eq_none hd),
      Setup.perform_block block (get?_build_eq_none hd')]
  · rw [hinitial, hinitial', hothers]
  · rw [hcallback, hcallback', hothers]
  · rw [htable, htable']
    exact Table.fileAll_perm hd.filings (hblocks.map _)

end Compiler

end Rearrangement

namespace Compiler

open Scenario in
def guardedBlock : Block (Label .folded) (Label .folded) Kind Nat (Memory (Label .folded)) :=
  ⟨⟨"a"⟩, ⟨"go"⟩, ⟨"b"⟩, none, [.guard fun _ _ _ count => (true, count), .guard fun _ _ _ count =>
    (false, count), .action fun _ _ _ _ => .done]⟩

open Scenario in
def actedBlock : Block (Label .folded) (Label .folded) Kind Nat (Memory (Label .folded)) :=
  ⟨⟨"A"⟩, ⟨"stop"⟩, ⟨"a"⟩, some .bool, [.action fun _ _ _ _ => .done]⟩

open Scenario in
def declaredSetup :
    List (Setup (Label .folded) (Label .folded) Kind Nat (Memory (Label .folded))) :=
  [.block guardedBlock, .setInitial ⟨"a"⟩, .block actedBlock, .setInitial ⟨"B"⟩]

open Scenario in
def shuffledSetup :
    List (Setup (Label .folded) (Label .folded) Kind Nat (Memory (Label .folded))) :=
  [.setInitial ⟨"a"⟩, .block actedBlock, .block guardedBlock, .setInitial ⟨"B"⟩]

theorem build_rearranged_folded :
    Setup.DistinctPairs declaredSetup ∧
      (Setup.blocks declaredSetup).Perm (Setup.blocks shuffledSetup) ∧
      Setup.others declaredSetup = Setup.others shuffledSetup ∧
      ∃ machine found record, (build declaredSetup).compile = .ok (machine, record) ∧
        (build shuffledSetup).compile = .ok (found, record) ∧
        ∀ depth operations world, machine.performAll depth operations world =
          found.performAll depth operations world := by
  have hd : Setup.DistinctPairs declaredSetup := by
    refine List.pairwise_pair.2 ?_
    rfl
  have hblocks : (Setup.blocks declaredSetup).Perm (Setup.blocks shuffledSetup) := .swap ..
  have hothers : Setup.others declaredSetup = Setup.others shuffledSetup := rfl
  obtain ⟨-, -, hok⟩ := build_rearranged hd hblocks hothers
  obtain ⟨found, hfound, hsame⟩ := hok _ _ rfl
  exact ⟨hd, hblocks, hothers, _, found, _, rfl, hfound, hsame.performAll⟩

end Compiler

end StateMachine
