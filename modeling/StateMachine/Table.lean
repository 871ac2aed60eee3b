import StateMachine.Keyed

namespace StateMachine

/-- Values filed under a state and, in that state's row, under a trigger. A row is opened before its
first entry is filed. -/
structure Table (S T α : Type) where
  rows : Keyed S (Keyed T α)

namespace Table

variable {S T α : Type}

def empty : Table S T α := ⟨.empty⟩

def isEmpty (table : Table S T α) : Bool := table.rows.isEmpty

def get? [BEq S] [BEq T] (table : Table S T α) (state : S) (trigger : T) : Option α :=
  (table.rows.get? state).bind (·.get? trigger)

def hasRow [BEq S] (table : Table S T α) (state : S) : Bool := table.rows.contains state

/-- Gives a state a row without entries, unless it has a row. -/
def openRow [BEq S] (table : Table S T α) (state : S) : Table S T α :=
  if table.hasRow state then table else ⟨table.rows.add state .empty⟩

def add [BEq S] (table : Table S T α) (state : S) (trigger : T) (value : α) : Table S T α :=
  ⟨table.rows.modify state (·.add trigger value)⟩

def modify [BEq S] [BEq T] (table : Table S T α) (state : S) (trigger : T) (f : α → α) :
    Table S T α :=
  ⟨table.rows.modify state (·.modify trigger f)⟩

def states (table : Table S T α) : List S := table.rows.keys

def triggers [BEq S] (table : Table S T α) (state : S) : List T :=
  match table.rows.get? state with
  | none => []
  | some row => row.keys

def size (table : Table S T α) : Nat :=
  table.rows.entries.foldr (fun entry total => entry.2.size + total) 0

variable [BEq S]

theorem hasRow_openRow [EquivBEq S] (table : Table S T α) (state other : S) :
    (table.openRow state).hasRow other = (table.hasRow other || other == state) := by
  by_cases h : table.hasRow state = true
  · simp only [openRow, if_pos h]
    cases ho : other == state
    · rw [Bool.or_false]
    · rw [Bool.or_true, hasRow, Keyed.contains, Keyed.get?_congr _ ho]
      exact h
  · simp only [openRow, if_neg h]
    exact Keyed.contains_add _ _ _ _

@[simp] theorem hasRow_add [EquivBEq S] (table : Table S T α) (state other : S) (trigger : T)
    (value : α) : (table.add state trigger value).hasRow other = table.hasRow other :=
  Keyed.contains_modify _ _ _ _

theorem isEmpty_eq_false_of_hasRow {table : Table S T α} {state : S}
    (h : table.hasRow state = true) : table.isEmpty = false := by
  cases he : table.rows.isEmpty with
  | false => exact he
  | true => simp [hasRow, Keyed.contains, Keyed.get?_of_isEmpty he] at h

variable [BEq T]

@[simp] theorem get?_openRow [EquivBEq S] (table : Table S T α) (state source : S) (trigger : T) :
    (table.openRow state).get? source trigger = table.get? source trigger := by
  by_cases h : table.hasRow state = true
  · simp only [openRow, if_pos h]
  · simp only [openRow, if_neg h, get?, Keyed.get?_add]
    cases hr : table.rows.get? source with
    | some row => rfl
    | none => cases source == state <;> rfl

theorem get?_add [EquivBEq S] {table : Table S T α} {state : S} (h : table.hasRow state = true)
    (trigger : T) (value : α) (source : S) (input : T) :
    (table.add state trigger value).get? source input =
      (table.get? source input).or
        (if source == state && input == trigger then some value else none) := by
  simp only [add, get?, Keyed.get?_modify]
  cases hs : source == state
  · simp
  · have hrow : (table.rows.get? source).isSome := by
      rw [Keyed.get?_congr _ hs]
      exact h
    obtain ⟨row, hr⟩ := Option.isSome_iff_exists.1 hrow
    simp [hr, Keyed.get?_add]

@[simp] theorem hasRow_modify [EquivBEq S] (table : Table S T α) (state other : S) (trigger : T)
    (f : α → α) : (table.modify state trigger f).hasRow other = table.hasRow other :=
  Keyed.contains_modify _ _ _ _

theorem get?_modify [EquivBEq S] [EquivBEq T] (table : Table S T α) (state source : S)
    (trigger input : T) (f : α → α) :
    (table.modify state trigger f).get? source input =
      if source == state && input == trigger then (table.get? source input).map f
      else table.get? source input := by
  simp only [modify, get?, Keyed.get?_modify]
  cases hs : source == state
  · simp
  · cases hr : table.rows.get? source with
    | none => simp
    | some row =>
      simp only [Option.map_some, Option.bind_some, Keyed.get?_modify, Bool.true_and, if_true]

theorem get?_congr [EquivBEq S] [EquivBEq T] (table : Table S T α) {a b : S} {x y : T}
    (hs : a == b) (ht : x == y) : table.get? a x = table.get? b y := by
  simp only [get?, Keyed.get?_congr _ hs]
  cases table.rows.get? b with
  | none => rfl
  | some row => exact row.get?_congr ht

end Table

end StateMachine
