import StateMachine.Proofs.Representation

namespace StateMachine

namespace Keyed

variable {κ α : Type} [BEq κ] {map : Keyed κ α} {key : κ}

theorem any_keys (map : Keyed κ α) (key : κ) : map.keys.any (key == ·) = map.contains key := by
  obtain ⟨entries⟩ := map
  simp only [keys, contains, get?]
  induction entries with
  | nil => rfl
  | cons entry rest ih =>
    rw [List.map_cons, List.any_cons, ih, List.lookup_cons]
    cases key == entry.1 <;> rfl

theorem modify_congr {f g : α → α} (h : ∀ value, map.get? key = some value → f value = g value) :
    map.modify key f = map.modify key g := by
  obtain ⟨entries⟩ := map
  simp only [modify, mk.injEq]
  simp only [get?] at h
  induction entries with
  | nil => rfl
  | cons entry rest ih =>
    obtain ⟨k, value⟩ := entry
    rw [List.lookup_cons] at h
    simp only [modifyEntries]
    cases hk : key == k with
    | true =>
      rw [hk] at h
      rw [if_pos rfl, if_pos rfl, h value rfl]
    | false =>
      rw [hk] at h
      simp only [Bool.false_eq_true, if_false, ih h]

theorem modify_modify (map : Keyed κ α) (key : κ) (f g : α → α) :
    (map.modify key f).modify key g = map.modify key fun value => g (f value) := by
  obtain ⟨entries⟩ := map
  simp only [modify, mk.injEq]
  induction entries with
  | nil => rfl
  | cons entry rest ih =>
    obtain ⟨k, value⟩ := entry
    cases hk : key == k with
    | true => simp only [modifyEntries, hk, if_true]
    | false => simp only [modifyEntries, hk, Bool.false_eq_true, if_false, ih]

theorem modify_add [ReflBEq κ] (h : map.get? key = none) (value : α) (f : α → α) :
    (map.add key value).modify key f = map.add key (f value) := by
  obtain ⟨entries⟩ := map
  simp only [add, modify, mk.injEq]
  simp only [get?] at h
  induction entries with
  | nil => simp [modifyEntries]
  | cons entry rest ih =>
    obtain ⟨k, earlier⟩ := entry
    rw [List.lookup_cons] at h
    cases hk : key == k with
    | true =>
      rw [hk] at h
      cases h
    | false =>
      rw [hk] at h
      simp only [List.cons_append, modifyEntries, hk, Bool.false_eq_true, if_false, ih h]

theorem length_le_of_any [EquivBEq κ] {keys others : List κ}
    (hd : keys.Pairwise fun a b => (a == b) = false)
    (h : ∀ key, keys.any (key == ·) = true → others.any (key == ·) = true) :
    keys.length ≤ others.length := by
  induction keys generalizing others with
  | nil => exact Nat.zero_le _
  | cons first rest ih =>
    obtain ⟨hfirst, hrest⟩ := List.pairwise_cons.1 hd
    have hany := h first (by rw [List.any_cons, BEq.rfl, Bool.true_or])
    obtain ⟨equal, hmem, hequal⟩ := List.any_eq_true.1 hany
    obtain ⟨before, behind, rfl⟩ := List.append_of_mem hmem
    have hshorter : rest.length ≤ (before ++ behind).length := by
      refine ih hrest fun key hkey => ?_
      have hall := h key (by rw [List.any_cons, hkey, Bool.or_true])
      have hne : (key == equal) = false := by
        obtain ⟨later, hlater, hsame⟩ := List.any_eq_true.1 hkey
        rw [Bool.eq_false_iff]
        intro heq
        have hclash := BEq.trans (BEq.trans hequal (BEq.symm heq)) hsame
        rw [hfirst later hlater] at hclash
        cases hclash
      rw [List.any_append, List.any_cons, hne, Bool.false_or, ← List.any_append] at hall
      exact hall
    rw [List.length_append] at hshorter
    rw [List.length_append, List.length_cons, List.length_cons]
    omega

end Keyed

namespace Table

variable {S T α : Type} [BEq S]

/-- Files a value in the row of a state, which is opened if need be. -/
def file (table : Table S T α) (state : S) (trigger : T) (value : α) : Table S T α :=
  (table.openRow state).add state trigger value

def fileAll (table : Table S T α) (filings : List (S × T × α)) : Table S T α :=
  filings.foldl (fun table filing => table.file filing.1 filing.2.1 filing.2.2) table

variable {table : Table S T α}

omit [BEq S] in
theorem size_cons (entry : S × Keyed T α) (entries : List (S × Keyed T α)) :
    size ⟨⟨entry :: entries⟩⟩ = entry.2.size + size ⟨⟨entries⟩⟩ :=
  rfl

omit [BEq S] in
theorem isEmpty_eq (table : Table S T α) : table.isEmpty = (table.states.length == 0) := by
  obtain ⟨⟨entries⟩⟩ := table
  cases entries <;> rfl

theorem any_states (table : Table S T α) (state : S) :
    table.states.any (state == ·) = table.hasRow state :=
  Keyed.any_keys table.rows state

variable [EquivBEq S]

theorem hasRow_openRow_self (table : Table S T α) (state : S) :
    (table.openRow state).hasRow state = true := by
  rw [hasRow_openRow, BEq.rfl, Bool.or_true]

theorem hasRow_file (table : Table S T α) (state : S) (trigger : T) (value : α) (other : S) :
    (table.file state trigger value).hasRow other = (table.hasRow other || other == state) := by
  rw [file, hasRow_add, hasRow_openRow]

theorem get?_file [BEq T] (table : Table S T α) (state : S) (trigger : T) (value : α) (source : S)
    (input : T) : (table.file state trigger value).get? source input =
      (table.get? source input).or
        (if source == state && input == trigger then some value else none) := by
  rw [file, get?_add (hasRow_openRow_self table state), get?_openRow]

theorem get?_file_self [BEq T] [ReflBEq T] {state : S} {trigger : T}
    (h : table.get? state trigger = none) (value : α) :
    (table.file state trigger value).get? state trigger = some value := by
  rw [get?_file, h, BEq.rfl, BEq.rfl]
  rfl

omit [EquivBEq S] in
theorem size_openRow (table : Table S T α) (state : S) :
    (table.openRow state).size = table.size := by
  unfold openRow
  split
  · rfl
  · next hrow =>
    clear hrow
    obtain ⟨⟨entries⟩⟩ := table
    simp only [Keyed.add]
    induction entries with
    | nil => rfl
    | cons entry rest ih => rw [List.cons_append, size_cons, size_cons, ih]

omit [EquivBEq S] in
theorem size_add {state : S} (h : table.hasRow state = true) (trigger : T) (value : α) :
    (table.add state trigger value).size = table.size + 1 := by
  obtain ⟨⟨entries⟩⟩ := table
  simp only [hasRow, Keyed.contains, Keyed.get?] at h
  simp only [add, Keyed.modify]
  induction entries with
  | nil => cases h
  | cons entry rest ih =>
    rw [List.lookup_cons] at h
    simp only [Keyed.modifyEntries]
    cases hk : state == entry.1 with
    | true =>
      simp only [if_true, size_cons, Keyed.size_add]
      omega
    | false =>
      rw [hk] at h
      simp only [Bool.false_eq_true, if_false, size_cons, ih h]
      omega

theorem size_file (table : Table S T α) (state : S) (trigger : T) (value : α) :
    (table.file state trigger value).size = table.size + 1 := by
  rw [file, size_add (hasRow_openRow_self table state), size_openRow]

theorem triggers_file (table : Table S T α) (state : S) (trigger : T) (value : α) (other : S) :
    (table.file state trigger value).triggers other =
      table.triggers other ++ if other == state then [trigger] else [] := by
  simp only [triggers, file, add, Keyed.get?_modify, get?_rows_openRow]
  cases ho : other == state with
  | false => simp
  | true =>
    cases table.rows.get? other with
    | none => rfl
    | some row =>
      simp only [if_true, Option.some_or, Option.map_some]
      exact List.map_append

theorem modify_file [BEq T] [ReflBEq T] {state : S} {trigger : T}
    (h : table.get? state trigger = none) (value : α) (f : α → α) :
    (table.file state trigger value).modify state trigger f =
      table.file state trigger (f value) := by
  simp only [file, add, modify, mk.injEq, Keyed.modify_modify]
  refine Keyed.modify_congr fun row hrow => Keyed.modify_add ?_ value f
  rw [← get?_openRow, get?, hrow] at h
  exact h

variable {filings others : List (S × T × α)}

omit [EquivBEq S] in
theorem fileAll_append (table : Table S T α) (filings : List (S × T × α)) (filing : S × T × α) :
    table.fileAll (filings ++ [filing]) =
      (table.fileAll filings).file filing.1 filing.2.1 filing.2.2 :=
  List.foldl_append

theorem hasRow_fileAll (table : Table S T α) (filings : List (S × T × α)) (state : S) :
    (table.fileAll filings).hasRow state =
      (table.hasRow state || filings.any fun filing => state == filing.1) := by
  induction filings generalizing table with
  | nil => exact (Bool.or_false _).symm
  | cons filing rest ih =>
    rw [fileAll, List.foldl_cons, ← fileAll, ih, hasRow_file, List.any_cons, Bool.or_assoc]

theorem size_fileAll (table : Table S T α) (filings : List (S × T × α)) :
    (table.fileAll filings).size = table.size + filings.length := by
  induction filings generalizing table with
  | nil => rfl
  | cons filing rest ih =>
    rw [fileAll, List.foldl_cons, ← fileAll, ih, size_file, List.length_cons]
    omega

theorem triggers_fileAll (table : Table S T α) (filings : List (S × T × α)) (state : S) :
    (table.fileAll filings).triggers state = table.triggers state ++
      (filings.filter fun filing => state == filing.1).map fun filing => filing.2.1 := by
  induction filings generalizing table with
  | nil => exact (List.append_nil _).symm
  | cons filing rest ih =>
    rw [fileAll, List.foldl_cons, ← fileAll, ih, triggers_file, List.append_assoc]
    cases hs : state == filing.1 <;> simp only [List.filter_cons, hs] <;> rfl

variable [BEq T]

/-- Of filings under equal pairs, the first counts. -/
theorem get?_fileAll (table : Table S T α) (filings : List (S × T × α)) (state : S) (trigger : T) :
    (table.fileAll filings).get? state trigger = (table.get? state trigger).or
      ((filings.find? fun filing => state == filing.1 && trigger == filing.2.1).map (·.2.2)) := by
  induction filings generalizing table with
  | nil => exact (Option.or_none).symm
  | cons filing rest ih =>
    rw [fileAll, List.foldl_cons, ← fileAll, ih, get?_file, Option.or_assoc]
    cases hp : state == filing.1 && trigger == filing.2.1 <;> simp only [List.find?_cons, hp] <;>
      rfl

def DistinctPairs (filings : List (S × T × α)) : Prop :=
  filings.Pairwise fun a b => (a.1 == b.1 && a.2.1 == b.2.1) = false

variable [EquivBEq T]

theorem DistinctPairs.perm (h : DistinctPairs filings) (hp : filings.Perm others) :
    DistinctPairs others := by
  refine hp.pairwise h fun {a b} hab => ?_
  rw [BEq.comm (a := b.1), BEq.comm (a := b.2.1)]
  exact hab

theorem DistinctPairs.get?_eq_none {filing : S × T × α}
    (h : DistinctPairs (filings ++ [filing])) :
    (fileAll empty filings).get? filing.1 filing.2.1 = none := by
  obtain ⟨-, -, hlast⟩ := List.pairwise_append.1 h
  have hnone : filings.find? (fun earlier => filing.1 == earlier.1 && filing.2.1 == earlier.2.1) =
      none := by
    rw [List.find?_eq_none]
    intro earlier hmem heq
    have hne := hlast earlier hmem filing (List.mem_singleton.2 rfl)
    rw [BEq.comm (a := earlier.1), BEq.comm (a := earlier.2.1), heq] at hne
    cases hne
  rw [get?_fileAll, hnone]
  rfl

theorem DistinctPairs.find?_perm (h : DistinctPairs filings) (hp : filings.Perm others) (state : S)
    (trigger : T) :
    filings.find? (fun filing => state == filing.1 && trigger == filing.2.1) =
      others.find? fun filing => state == filing.1 && trigger == filing.2.1 := by
  induction hp with
  | nil => rfl
  | cons filing _ ih => simp only [List.find?_cons, ih (List.pairwise_cons.1 h).2]
  | swap first second rest =>
    have hne := (List.pairwise_cons.1 h).1 first List.mem_cons_self
    simp only [List.find?_cons]
    cases hsecond : state == second.1 && trigger == second.2.1 with
    | false => rfl
    | true =>
      cases hfirst : state == first.1 && trigger == first.2.1 with
      | false => rfl
      | true =>
        obtain ⟨hs, ht⟩ := Bool.and_eq_true_iff.1 hsecond
        obtain ⟨hs', ht'⟩ := Bool.and_eq_true_iff.1 hfirst
        rw [BEq.trans (BEq.symm hs) hs', BEq.trans (BEq.symm ht) ht'] at hne
        cases hne
  | trans hp _ ih ih' => exact (ih h).trans (ih' (h.perm hp))

theorem wellFormed_fileAll (hw : table.WellFormed) (h : DistinctPairs filings)
    (hn : ∀ filing ∈ filings, table.get? filing.1 filing.2.1 = none) :
    (table.fileAll filings).WellFormed := by
  induction filings generalizing table with
  | nil => exact hw
  | cons filing rest ih =>
    obtain ⟨hfirst, hrest⟩ := List.pairwise_cons.1 h
    refine ih (hw.file (hn _ List.mem_cons_self) _) hrest fun later hlater => ?_
    have hne := hfirst later hlater
    rw [BEq.comm (a := filing.1), BEq.comm (a := filing.2.1)] at hne
    rw [get?_file, hn later (List.mem_cons_of_mem _ hlater), hne]
    rfl

/-- Two tables with the same values under all pairs, in rows that may have another order. -/
structure Rearranged (table other : Table S T α) : Prop where
  get? : ∀ state trigger, table.get? state trigger = other.get? state trigger
  hasRow : ∀ state, table.hasRow state = other.hasRow state
  size : table.size = other.size
  states : table.states.length = other.states.length
  triggers : ∀ state, (table.triggers state).Perm (other.triggers state)

omit [BEq T] [EquivBEq T] in
theorem length_states_le {other : Table S T α} (h : table.rows.Distinct)
    (hrow : ∀ state, table.hasRow state = other.hasRow state) :
    table.states.length ≤ other.states.length := by
  refine Keyed.length_le_of_any h fun state hstate => ?_
  have hrows : table.hasRow state = true := (table.any_states state).symm.trans hstate
  exact (other.any_states state).trans ((hrow state).symm.trans hrows)

/-- Filings under different pairs make the same table in any order. -/
theorem fileAll_perm (h : DistinctPairs filings) (hp : filings.Perm others) :
    (fileAll empty filings).Rearranged (fileAll empty others) := by
  have hrow : ∀ state,
      (fileAll empty filings).hasRow state = (fileAll empty others).hasRow state := by
    intro state
    rw [hasRow_fileAll, hasRow_fileAll, hp.any_eq]
  have hwell := wellFormed_fileAll wellFormed_empty h fun _ _ => rfl
  have hwell' := wellFormed_fileAll wellFormed_empty (h.perm hp) fun _ _ => rfl
  refine ⟨fun state trigger => ?_, hrow, ?_, ?_, fun state => ?_⟩
  · rw [get?_fileAll, get?_fileAll, h.find?_perm hp]
  · rw [size_fileAll, size_fileAll, hp.length_eq]
  · exact Nat.le_antisymm (length_states_le hwell.distinct hrow)
      (length_states_le hwell'.distinct fun state => (hrow state).symm)
  · rw [triggers_fileAll, triggers_fileAll]
    exact ((hp.filter _).map _).append_left _

end Table

end StateMachine
