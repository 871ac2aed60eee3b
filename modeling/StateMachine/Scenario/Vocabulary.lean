import StateMachine.Diagnostics
import StateMachine.Storable
import StateMachine.Variants

namespace StateMachine.Scenario

/-- Values that a scenario writes as texts. -/
class Vocabulary (α : Type) extends BEq α, Named α, Diagnostic α where
  ofText? : String → Option α

inductive LabelRule where
  | exact
  /-- Labels are equal if they differ in the case of ASCII letters only. -/
  | folded
  /-- The name of a label ends before the first colon. -/
  | stepped
  /-- A label that begins with an exclamation mark cannot be stored. -/
  | frail
  deriving DecidableEq, Repr

structure Label (rule : LabelRule) where
  text : String
  deriving Repr

namespace Label

variable {rule : LabelRule}

def key (label : Label rule) : List Char :=
  match rule with
  | .folded => label.text.toList.map Char.toLower
  | _ => label.text.toList

def shortName (label : Label rule) : String :=
  match rule with
  | .stepped => String.ofList (label.text.toList.takeWhile (· != ':'))
  | _ => label.text

def stored (label : Label rule) : Except String String :=
  match rule with
  | .frail => if label.text.toList.head? = some '!' then .error "refused" else .ok label.text
  | _ => .ok label.text

instance : BEq (Label rule) := ⟨fun a b => a.key == b.key⟩

theorem beq_iff {a b : Label rule} : (a == b) = true ↔ a.key = b.key :=
  beq_iff_eq (a := a.key)

instance : EquivBEq (Label rule) where
  rfl := beq_iff.2 rfl
  symm h := beq_iff.2 (beq_iff.1 h).symm
  trans h₁ h₂ := beq_iff.2 ((beq_iff.1 h₁).trans (beq_iff.1 h₂))

instance : Storable (Label rule) := ⟨.text stored .mk⟩

instance : LawfulStorable (Label rule) where
  lawful := by
    intro label text h
    have hs : text = label.text := by
      unfold stored at h
      split at h
      · split at h
        · cases h
        · cases h
          rfl
      · cases h
        rfl
    rw [hs]

instance : Vocabulary (Label rule) where
  name := shortName
  diagnostic := text
  ofText? text := some ⟨text⟩

end Label

inductive Door where
  | closed
  | opened
  | locked
  deriving DecidableEq, Repr

instance : Variants Door where
  values := [.closed, .opened, .locked]
  variantName
    | .closed => "Closed"
    | .opened => "Open"
    | .locked => "Locked"

instance : LawfulVariants Door where
  mem_values door := by cases door <;> decide
  nodup_names := by decide
  length_le := by decide

instance : Vocabulary Door where
  ofText? := Variants.ofName?

inductive DoorInput where
  | opening
  | closing
  | locking
  | unlocking
  deriving DecidableEq, Repr

instance : Variants DoorInput where
  values := [.opening, .closing, .locking, .unlocking]
  variantName
    | .opening => "Open"
    | .closing => "Close"
    | .locking => "Lock"
    | .unlocking => "Unlock"

instance : LawfulVariants DoorInput where
  mem_values input := by cases input <;> decide
  nodup_names := by decide
  length_le := by decide

instance : Vocabulary DoorInput where
  ofText? := Variants.ofName?

inductive Solo where
  | only
  deriving DecidableEq, Repr

instance : Variants Solo where
  values := [.only]
  variantName _ := "Only"

instance : LawfulVariants Solo where
  mem_values state := by cases state; decide
  nodup_names := by decide
  length_le := by decide

instance : Vocabulary Solo where
  ofText? := Variants.ofName?

inductive SoloInput where
  | tick
  deriving DecidableEq, Repr

instance : Variants SoloInput where
  values := [.tick]
  variantName _ := "Tick"

instance : LawfulVariants SoloInput where
  mem_values input := by cases input; decide
  nodup_names := by decide
  length_le := by decide

instance : Vocabulary SoloInput where
  ofText? := Variants.ofName?

end StateMachine.Scenario
