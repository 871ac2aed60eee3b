namespace StateMachine

/-- A finite map from `κ` to `α` as its entries, oldest first. Keys are compared by `==`, which may
be coarser than equality; the copy of a key that came first is the one that stays. -/
structure Keyed (κ α : Type) where
  entries : List (κ × α)

namespace Keyed

variable {κ α : Type}

def empty : Keyed κ α := ⟨[]⟩

def isEmpty (map : Keyed κ α) : Bool := map.entries.isEmpty

def size (map : Keyed κ α) : Nat := map.entries.length

def keys (map : Keyed κ α) : List κ := map.entries.map (·.1)

def get? [BEq κ] (map : Keyed κ α) (key : κ) : Option α := map.entries.lookup key

def contains [BEq κ] (map : Keyed κ α) (key : κ) : Bool := (map.get? key).isSome

def add (map : Keyed κ α) (key : κ) (value : α) : Keyed κ α := ⟨map.entries ++ [(key, value)]⟩

/-- Applies `f` to the value of the oldest entry with the given key, and keeps that entry's key. -/
def modifyEntries [BEq κ] (key : κ) (f : α → α) : List (κ × α) → List (κ × α)
  | [] => []
  | (k, a) :: rest => if key == k then (k, f a) :: rest else (k, a) :: modifyEntries key f rest

def modify [BEq κ] (map : Keyed κ α) (key : κ) (f : α → α) : Keyed κ α :=
  ⟨modifyEntries key f map.entries⟩

def put [BEq κ] (map : Keyed κ α) (key : κ) (value : α) : Keyed κ α :=
  if map.contains key then map.modify key fun _ => value else map.add key value

def erase [BEq κ] (map : Keyed κ α) (key : κ) : Keyed κ α :=
  ⟨map.entries.filter fun entry => !(key == entry.1)⟩

@[simp] theorem get?_empty [BEq κ] (key : κ) : (empty : Keyed κ α).get? key = none := rfl

theorem length_modifyEntries [BEq κ] (key : κ) (f : α → α) (entries : List (κ × α)) :
    (modifyEntries key f entries).length = entries.length := by
  induction entries with
  | nil => rfl
  | cons entry rest ih =>
    simp only [modifyEntries]
    split
    · rfl
    · simp [ih]

@[simp] theorem size_modify [BEq κ] (map : Keyed κ α) (key : κ) (f : α → α) :
    (map.modify key f).size = map.size :=
  length_modifyEntries key f map.entries

@[simp] theorem size_add (map : Keyed κ α) (key : κ) (value : α) :
    (map.add key value).size = map.size + 1 := by
  simp [add, size]

@[simp] theorem isEmpty_empty : (empty : Keyed κ α).isEmpty = true := rfl

@[simp] theorem isEmpty_add (map : Keyed κ α) (key : κ) (value : α) :
    (map.add key value).isEmpty = false := by
  simp [add, isEmpty]

@[simp] theorem isEmpty_modify [BEq κ] (map : Keyed κ α) (key : κ) (f : α → α) :
    (map.modify key f).isEmpty = map.isEmpty := by
  cases map with
  | mk entries =>
    cases entries with
    | nil => rfl
    | cons entry rest =>
      simp only [modify, modifyEntries, isEmpty]
      split <;> rfl

section Lookup

variable [BEq κ]

theorem get?_of_isEmpty {map : Keyed κ α} (h : map.isEmpty = true) (key : κ) :
    map.get? key = none := by
  rw [get?, List.isEmpty_iff.1 h]
  rfl

theorem get?_add (map : Keyed κ α) (key other : κ) (value : α) :
    (map.add key value).get? other =
      (map.get? other).or (if other == key then some value else none) := by
  simp only [add, get?, List.lookup_append, List.lookup_cons]
  cases other == key <;> rfl

theorem lookup_congr [EquivBEq κ] {a b : κ} (h : a == b) (entries : List (κ × α)) :
    entries.lookup a = entries.lookup b := by
  induction entries with
  | nil => rfl
  | cons entry rest ih =>
    obtain ⟨k, value⟩ := entry
    have hk : (a == k) = (b == k) := BEq.congr_left h
    simp only [List.lookup_cons, hk, ih]

theorem get?_congr [EquivBEq κ] (map : Keyed κ α) {a b : κ} (h : a == b) :
    map.get? a = map.get? b :=
  lookup_congr h map.entries

theorem lookup_modifyEntries [EquivBEq κ] (key other : κ) (f : α → α) (entries : List (κ × α)) :
    (modifyEntries key f entries).lookup other =
      if other == key then (entries.lookup other).map f else entries.lookup other := by
  induction entries with
  | nil => simp [modifyEntries]
  | cons entry rest ih =>
    obtain ⟨k, value⟩ := entry
    by_cases hk : (key == k) = true
    · have ho : (other == k) = (other == key) := (BEq.congr_right hk).symm
      simp only [modifyEntries, hk, if_true, List.lookup_cons, ho]
      cases other == key <;> rfl
    · by_cases ho : (other == k) = true
      · have hne : (other == key) = false := by
          rw [BEq.congr_left ho]
          exact Bool.eq_false_iff.2 fun h => hk (BEq.symm h)
        simp [modifyEntries, if_neg hk, List.lookup_cons, ho, hne]
      · simp [modifyEntries, if_neg hk, List.lookup_cons, Bool.eq_false_iff.2 ho, ih]

theorem get?_modify [EquivBEq κ] (map : Keyed κ α) (key other : κ) (f : α → α) :
    (map.modify key f).get? other =
      if other == key then (map.get? other).map f else map.get? other :=
  lookup_modifyEntries key other f map.entries

theorem contains_add (map : Keyed κ α) (key other : κ) (value : α) :
    (map.add key value).contains other = (map.contains other || other == key) := by
  simp only [contains, get?_add, Option.isSome_or]
  cases other == key <;> rfl

theorem contains_modify [EquivBEq κ] (map : Keyed κ α) (key other : κ) (f : α → α) :
    (map.modify key f).contains other = map.contains other := by
  simp only [contains, get?_modify]
  split <;> simp

end Lookup

end Keyed

end StateMachine
