import StateMachine.Diagnostics
import StateMachine.Storable

namespace StateMachine

class Variants (α : Type) where
  values : List α
  variantName : α → String

namespace Variants

variable {α : Type} [Variants α]

instance : Named α := ⟨variantName⟩

instance : Diagnostic α := ⟨variantName⟩

instance [BEq α] : Storable α := ⟨.variants values variantName values.idxOf⟩

def ofName? (given : String) : Option α := values.find? fun value => variantName value == given

end Variants

/-- Types whose listed values are all there are, without repetition and with different names. -/
class LawfulVariants (α : Type) [Variants α] : Prop where
  mem_values : ∀ value : α, value ∈ Variants.values
  nodup_names : ((Variants.values : List α).map Variants.variantName).Nodup
  length_le : (Variants.values : List α).length ≤ UInt32.size

instance (α : Type) [Variants α] [BEq α] [LawfulBEq α] [LawfulVariants α] : LawfulStorable α where
  lawful := by
    refine ⟨fun state => ?_, LawfulVariants.nodup_names, LawfulVariants.length_le⟩
    have h := List.idxOf_lt_length_of_mem (LawfulVariants.mem_values state)
    rw [List.getElem?_eq_getElem h, List.getElem_idxOf h]

end StateMachine
