namespace StateMachine

inductive StoredForm (S : Type) where
  | text (write : S → Except String String) (read : String → S)
  /-- As a variant, known by its name or by its place among `values`. -/
  | variants (values : List S) (name : S → String) (index : S → Nat)

class Storable (S : Type) where
  form : StoredForm S

/-- Stored forms that bring back what was stored: a written text is read as the same state, and a
variant is found by its place and by its name. A place fits into 32 bits. -/
def StoredForm.Lawful {S : Type} : StoredForm S → Prop
  | .text write read => ∀ state text, write state = .ok text → read text = state
  | .variants values name index =>
    (∀ state, values[index state]? = some state) ∧ (values.map name).Nodup ∧
      values.length ≤ UInt32.size

class LawfulStorable (S : Type) [Storable S] : Prop where
  lawful : (Storable.form : StoredForm S).Lawful

end StateMachine
