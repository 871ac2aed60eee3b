import StateMachine.Proofs.DeclarationOrder

namespace StateMachine

section Trail

variable {σ τ ι κ ε : Type}

/-- What a step leaves after each of some inputs, with the refusal if there is one. It ends with the
first refusal. -/
def trail (step : σ → ι → σ × Option ε) (state : σ) : List ι → List (σ × Option ε)
  | [] => []
  | input :: rest =>
    match step state input with
    | (left, some e) => [(left, some e)]
    | (left, none) => (left, none) :: trail step left rest

theorem map_trail {step : σ → ι → σ × Option ε} {step' : τ → κ → τ × Option ε} {f : σ → τ}
    {g : ι → κ} (h : ∀ state input, (step state input).map f id = step' (f state) (g input))
    (state : σ) (inputs : List ι) :
    (trail step state inputs).map (Prod.map f id) = trail step' (f state) (inputs.map g) := by
  induction inputs generalizing state with
  | nil => rfl
  | cons input rest ih =>
    simp only [trail, List.map_cons, ← h state input]
    rcases step state input with ⟨left, _ | e⟩
    · exact congrArg _ (ih left)
    · rfl

end Trail

variable {S T A E K : Type} [ArgumentKind A]

namespace Link

variable {argument : Option A}

def call : Link S T A E K argument → Call S T A E K
  | guard given => .guard given
  | action given => .action argument given

/-- Why a link is refused on the handle of a declaration after others were accepted: it offers a
second guard or a second action. -/
inductive Refused (source : S) (trigger : T) (made : List (Link S T A E K argument)) :
    Link S T A E K argument → ConfigError S T A → Prop where
  | guardTaken {earlier given : Guard S T E} (taken : .guard earlier ∈ made) :
    Refused source trigger made (.guard given) (.guardTaken source trigger)
  | actionTaken {earlier given : Action S T A E K argument} (taken : .action earlier ∈ made) :
    Refused source trigger made (.action given) (.actionTaken source trigger)

theorem isSome_head?_iff {β : Type} (view : Call S T A E K → Option β)
    (made : List (Link S T A E K argument)) :
    ((made.map call).filterMap view).head?.isSome = true ↔
      ∃ offered ∈ made, (view offered.call).isSome = true := by
  simp [Option.isSome_iff_ne_none]

variable [DecidableEq A]

theorem eq_offer_of_attach {transition changed : Transition S T A E K}
    {next : Link S T A E K argument} (h : next.attach transition = .ok changed) :
    changed = next.call.offer transition := by
  cases next with
  | guard given =>
    rw [attach] at h
    rw [call, ← Compiler.settle_attachGuard, Compiler.settle, h]
  | action given =>
    rw [attach] at h
    rw [call, ← Compiler.settle_attachAction, Compiler.settle, h]

theorem complete_of_attachAll {first : Call S T A E K} {scope : List (Call S T A E K)}
    {transition settled : Transition S T A E K} {links : List (Link S T A E K argument)}
    (hs : first.complete scope = some transition)
    (h : attachAll transition links = (settled, none)) :
    first.complete (scope ++ links.map call) = some settled := by
  induction links generalizing scope transition with
  | nil =>
    cases h
    rw [List.map_nil, List.append_nil, hs]
  | cons next rest ih =>
    rw [attachAll] at h
    cases hn : next.attach transition with
    | error e =>
      rw [hn] at h
      cases h
    | ok changed =>
      rw [hn] at h
      have hscope : first.complete (scope ++ [next.call]) = some changed := by
        rw [Call.complete_append, hs, Option.map_some, ← eq_offer_of_attach hn]
      have hrest := ih hscope h
      rw [List.append_assoc] at hrest
      exact hrest

theorem refusal_attachAll_singleton {transition : Transition S T A E K}
    {next : Link S T A E K argument} {e : ConfigError S T A} :
    (attachAll transition [next]).2 = some e ↔ next.attach transition = .error e := by
  simp only [attachAll]
  cases next.attach transition <;> simp

theorem attach_eq_error_iff {source target : S} {trigger : T}
    {made : List (Link S T A E K argument)} {transition : Transition S T A E K}
    (h : (Call.declare source trigger target argument).complete (made.map call) = some transition)
    (next : Link S T A E K argument) (e : ConfigError S T A) :
    next.attach transition = .error e ↔ next.Refused source trigger made e := by
  cases h
  cases next with
  | guard given =>
    rw [attach, Transition.attachGuard_eq_error_iff, isSome_head?_iff]
    constructor
    · rintro ⟨⟨earlier, hmem, hsome⟩, rfl⟩
      cases earlier with
      | guard earlier => exact .guardTaken hmem
      | action earlier => cases hsome
    · rintro (⟨taken⟩ | _)
      exact ⟨⟨_, taken, rfl⟩, rfl⟩
  | action given =>
    rw [attach, Transition.attachAction_eq_error_iff, isSome_head?_iff]
    constructor
    · rintro (⟨hne, -⟩ | ⟨-, ⟨earlier, hmem, hsome⟩, rfl⟩)
      · exact (hne rfl).elim
      · cases earlier with
        | guard earlier => cases hsome
        | action earlier => exact .actionTaken hmem
    · rintro (_ | ⟨taken⟩)
      exact .inr ⟨rfl, ⟨_, taken, by simp [call, Call.action?]⟩, rfl⟩

end Link

namespace Table

variable {S T α : Type} [BEq S]

theorem states_file (table : Table S T α) (state : S) (trigger : T) (value : α) :
    (table.file state trigger value).states = (table.openRow state).states :=
  Keyed.keys_modify _ _ _

end Table

variable [BEq S] [BEq T]

namespace Compiler

/-- Two compilers that agree in all but what is filed under a pair. The keys of rows and of entries
are the same copies in the same order. -/
structure AgreesBut (source : S) (trigger : T) (compiler other : Compiler S T A E K) : Prop where
  initial : compiler.initial = other.initial
  callback : compiler.callback = other.callback
  last : compiler.last = other.last
  states : compiler.table.states = other.table.states
  triggers : ∀ state, compiler.table.triggers state = other.table.triggers state
  entry : ∀ state input, (state == source && input == trigger) = false →
    compiler.table.get? state input = other.table.get? state input

theorem agreesBut_file [EquivBEq S] (compiler : Compiler S T A E K) (source : S) (trigger : T)
    (transition other : Transition S T A E K) :
    AgreesBut source trigger (compiler.file source trigger transition)
      (compiler.file source trigger other) where
  initial := rfl
  callback := rfl
  last := rfl
  states := by
    simp only [file, Table.states_file]
  triggers state := by
    simp only [file, Table.triggers_file]
  entry state input h := by
    simp only [file, Table.get?_file, h]
    rfl

end Compiler

variable [DecidableEq A] {argument : Option A}

namespace Handle

theorem link_eq_perform (handle : Handle S T A E K argument) (next : Link S T A E K argument) :
    (handle.link next).map (·.compiler) id = next.call.perform handle.compiler := by
  cases next <;> rfl

theorem chain_eq_getLastD (handle : Handle S T A E K argument)
    (links : List (Link S T A E K argument)) :
    handle.chain links = ((trail link handle links).map (Prod.map (·.compiler) id)).getLastD
      (handle.compiler, none) := by
  induction links generalizing handle with
  | nil => rfl
  | cons next rest ih =>
    simp only [chain, trail]
    rcases handle.link next with ⟨left, _ | e⟩
    · exact (ih left).trans (List.getLastD_cons ..).symm
    · rfl

theorem chain_append {handle : Handle S T A E K argument} {made : List (Link S T A E K argument)}
    (h : (handle.chain made).2 = none) (rest : List (Link S T A E K argument)) :
    handle.chain (made ++ rest) = chain ⟨(handle.chain made).1⟩ rest := by
  induction made generalizing handle with
  | nil => rfl
  | cons next made ih =>
    simp only [List.cons_append, chain] at h ⊢
    rcases hlink : handle.link next with ⟨left, _ | e⟩
    · rw [hlink] at h
      exact ih h
    · rw [hlink] at h
      cases h

/-- What a link does on a handle after links that were accepted. It goes to the transition that the
handle was given for, which has what those links offered, and to nothing else. -/
structure Scoped (handle : Handle S T A E K argument) (source : S) (trigger : T) (target : S)
    (made : List (Link S T A E K argument)) (next : Link S T A E K argument) : Prop where
  last : (handle.chain made).1.last = some (source, trigger)
  entry : (handle.chain made).1.table.get? source trigger =
    (Call.declare source trigger target argument).complete (made.map Link.call)
  frame : (handle.chain made).1.AgreesBut source trigger (handle.chain (made ++ [next])).1
  refused : ∀ e, (handle.chain (made ++ [next])).2 = some e ↔ next.Refused source trigger made e
  kind : ∀ state input expected found,
    (handle.chain (made ++ [next])).2 ≠ some (.actionMismatch state input expected found)
  stands : ∀ e, (handle.chain (made ++ [next])).2 = some e → ∀ rest,
    handle.chain (made ++ next :: rest) = ((handle.chain made).1, some e)

section File

variable [EquivBEq S] [EquivBEq T] {compiler : Compiler S T A E K} {source target : S} {trigger : T}
  {handle : Handle S T A E K argument} {made : List (Link S T A E K argument)}

theorem exists_settled (hnew : compiler.table.get? source trigger = none)
    (hopened : handle.compiler =
      compiler.file source trigger (.declared source trigger target argument))
    (hmade : (handle.chain made).2 = none) :
    ∃ settled, (Call.declare source trigger target argument).complete (made.map Link.call) =
        some settled ∧
      ∀ rest, handle.chain (made ++ rest) = (compiler.file source trigger
        (Link.attachAll settled rest).1, (Link.attachAll settled rest).2) := by
  obtain ⟨opened⟩ := handle
  subst hopened
  obtain ⟨settled, hsettled⟩ : ∃ settled,
      Link.attachAll (.declared source trigger target argument) made = (settled, none) := by
    rw [chain_file hnew] at hmade
    exact ⟨_, Prod.ext rfl hmade⟩
  refine ⟨settled, ?_, fun rest => ?_⟩
  · rw [← List.nil_append (made.map Link.call)]
    exact Link.complete_of_attachAll rfl hsettled
  · rw [chain_append hmade, chain_file hnew, hsettled]
    exact chain_file hnew settled rest

theorem scoped_of_file (hnew : compiler.table.get? source trigger = none)
    (hopened : handle.compiler =
      compiler.file source trigger (.declared source trigger target argument))
    (hmade : (handle.chain made).2 = none) (next : Link S T A E K argument) :
    handle.Scoped source trigger target made next := by
  obtain ⟨settled, hcomplete, hchain⟩ := exists_settled hnew hopened hmade
  have hbefore : handle.chain made = (compiler.file source trigger settled, none) := by
    rw [← List.append_nil made]
    exact hchain []
  have hrefused : ∀ e, (Link.attachAll settled [next]).2 = some e ↔
      next.Refused source trigger made e := by
    intro e
    rw [Link.refusal_attachAll_singleton, Link.attach_eq_error_iff hcomplete]
  constructor
  case last => rw [hbefore]; rfl
  case entry =>
    rw [hbefore, hcomplete]
    exact Table.get?_file_self hnew settled
  case frame =>
    rw [hbefore, hchain]
    exact compiler.agreesBut_file source trigger settled _
  case refused =>
    intro e
    rw [hchain]
    exact hrefused e
  case kind =>
    intro state input expected found h
    rw [hchain] at h
    cases (hrefused _).1 h
  case stands =>
    intro e h rest
    rw [hchain] at h
    rw [hchain, hbefore]
    simp only [Link.attachAll, Link.refusal_attachAll_singleton.1 h]

end File

end Handle

namespace Compiler

theorem declareChain_of_accepted {compiler : Compiler S T A E K} {source target : S} {trigger : T}
    (h : (compiler.declare source trigger target argument).2 = none)
    (links : List (Link S T A E K argument)) :
    compiler.declareChain source trigger target argument links =
      Handle.chain ⟨(compiler.declare source trigger target argument).1⟩ links := by
  rw [declareChain]
  rcases hopened : compiler.declare source trigger target argument with ⟨opened, _ | e⟩
  · rfl
  · rw [hopened] at h
    cases h

end Compiler

namespace Handle

variable [EquivBEq S] [EquivBEq T]

/-- What is attached through the handle of an accepted declaration comes, link by link, to the same
as calls to the compiler itself. Each link reaches the transition just declared and no other, and is
refused only if it repeats an earlier one in kind, which leaves standing what was attached
before. -/
theorem chain_scoped (compiler : Compiler S T A E K) {source target : S} {trigger : T}
    (h : (compiler.declare source trigger target argument).2 = none) :
    let opened := (compiler.declare source trigger target argument).1
    let handle : Handle S T A E K argument := ⟨opened⟩
    (∀ links,
      (trail link handle links).map (Prod.map (·.compiler) id) =
        trail Call.perform opened (links.map Link.call) ∧
      compiler.declareChain source trigger target argument links =
        (trail Call.perform opened (links.map Link.call)).getLastD (opened, none)) ∧
    ∀ made, (handle.chain made).2 = none → ∀ next,
      handle.Scoped source trigger target made next := by
  intro opened handle
  constructor
  · intro links
    have htrail := map_trail link_eq_perform handle links
    refine ⟨htrail, ?_⟩
    rw [← htrail, Compiler.declareChain_of_accepted h]
    exact handle.chain_eq_getLastD links
  · intro made hmade next
    have hnew := (compiler.refusal_declare source trigger target argument).1 h
    exact scoped_of_file hnew (congrArg Prod.fst (Compiler.declare_of_new hnew target argument))
      hmade next

open Scenario in
def pairedLinks :
    List (Link (Label .folded) (Label .folded) Kind Unit (Memory (Label .folded)) (some .bool)) :=
  [.guard fun _ _ _ environment => (true, environment), .action fun _ _ _ _ => .done]

open Scenario Compiler in
theorem chain_scoped_paired :
    let opened := ((after foldedCalls).declare ⟨"A"⟩ ⟨"stop"⟩ ⟨"c"⟩ (some .bool)).1
    let handle : Handle _ _ Kind _ _ (some .bool) := ⟨opened⟩
    let again := .action fun _ _ _ _ => .done
    EquivBEq (Label .folded) ∧
      ((after foldedCalls).declare ⟨"A"⟩ ⟨"stop"⟩ ⟨"c"⟩ (some .bool)).2 = none ∧
      (handle.chain pairedLinks).2 = none ∧
      handle.chain (pairedLinks ++ again :: pairedLinks) =
        ((handle.chain pairedLinks).1, some (.actionTaken ⟨"A"⟩ ⟨"stop"⟩)) ∧
      (handle.chain pairedLinks).1.table.get? ⟨"a"⟩ ⟨"go"⟩ =
        (handle.chain (pairedLinks ++ [again])).1.table.get? ⟨"a"⟩ ⟨"go"⟩ := by
  intro opened handle again
  have hdeclared :
      ((after foldedCalls).declare ⟨"A"⟩ ⟨"stop"⟩ ⟨"c"⟩ (some Kind.bool)).2 = none := rfl
  obtain ⟨-, hlinks⟩ := chain_scoped (after foldedCalls) hdeclared
  have hagain := hlinks pairedLinks rfl again
  have htaken : again.Refused ⟨"A"⟩ ⟨"stop"⟩ pairedLinks (.actionTaken ⟨"A"⟩ ⟨"stop"⟩) :=
    .actionTaken (List.mem_cons_of_mem _ List.mem_cons_self)
  exact ⟨inferInstance, hdeclared, rfl, hagain.stands _ ((hagain.refused _).2 htaken) _,
    hagain.frame.entry ⟨"a"⟩ ⟨"go"⟩ rfl⟩

end Handle

end StateMachine
