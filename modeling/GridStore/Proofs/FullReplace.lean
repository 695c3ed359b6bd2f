import GridStore.Proofs.Mappings
import GridStore.Proofs.NetworkRows

/-!
# Attributes written as a whole

The columns of a kind hold all of its attributes: the values of a row, filled into other attributes,
leave nothing of those, and what was absent before or is absent now makes no difference
(`Mapping.apply_values`). Only the uuid of a network and the id of its variant have no column of
their own and stay as they were (`Network.apply_values`).
-/

namespace GridStore

namespace Mapping

variable {A : Type}

/-- Filling from the values of attributes sets every mapped field to theirs. -/
theorem apply_values_eq_foldl {m : Mapping A} {a : A}
    (h : ∀ f ∈ m.fields, f.column.ofColumn (f.read a) = .ok (f.get a)) (a₀ : A) :
    m.apply a₀ (m.values a) = (m.fields.foldl (fun b f => f.set (f.get a) b) a₀, none) := by
  rw [apply, if_pos (length_values m a)]
  exact fill_read m.kind.table a h a₀

theorem apply_values [Attributes A] [StoredAttributes A] (a₀ a : A) :
    (Attributes.mapping (A := A)).apply a₀ ((Attributes.mapping (A := A)).values a) = (a, none) := by
  rw [apply_values_eq_foldl fun f hf => (StoredAttributes.keeps f hf).ofColumn_read a,
    StoredAttributes.covers]

end Mapping

theorem Network.apply_values {a : Network}
    (h : 0 ≤ a.caseDate.date.year ∧ a.caseDate.date.year ≤ 9999) (a₀ : Network) :
    mapping.apply a₀ (mapping.values a)
      = ({ a with uuid := a₀.uuid, variantId := a₀.variantId }, none) :=
  Mapping.apply_values_eq_foldl (m := mapping) (ofColumn_own h) a₀

namespace Attributes

/-- Writing a row is a full replace. The values of attributes stand in the order of their columns,
and attributes that are filled from them are equal to them, whatever they were. A network whose year
has four digits keeps its uuid and the id of its variant, and takes all else. -/
theorem fields_covered :
    (∀ (k : Kind) (a : k.Attributes), let m := mapping (A := k.Attributes)
      (m.values a).length = m.size ∧
        ∀ i : Nat, (m.values a)[i]? = m.schema.columnNames[i]?.bind (m.valueOf? a)) ∧
    (∀ (k : EquipmentKind) (a₀ a : k.Attributes), let m := mapping (A := k.Attributes)
      m.apply a₀ (m.values a) = (a, none) ∧ m.read default (m.values a) = .ok a) ∧
    ∀ a₀ a : Network, 0 ≤ a.caseDate.date.year ∧ a.caseDate.date.year ≤ 9999 →
      Network.mapping.apply a₀ (Network.mapping.values a)
        = ({ a with uuid := a₀.uuid, variantId := a₀.variantId }, none) := by
  refine ⟨fun k a => ⟨Mapping.length_values _ a, fun i => ?_⟩, fun k a₀ a => ?_, fun a₀ a h => ?_⟩
  · have hdeclared := TableSchema.defect?_eq_none_iff.1 k.defect?_schema
    exact Mapping.getElem?_values hdeclared.1 a i
  · refine ⟨Mapping.apply_values a₀ a, ?_⟩
    rw [Mapping.read, Mapping.apply_values]
  · exact Network.apply_values h a₀

/-- Metadata of a network goes with the row that had it, up to the last day of the year 9999. -/
theorem fields_covered_last_day :
    let lastDay : Timestamp := { (default : Timestamp) with
      date := ⟨9999, 12, 31, by decide, by decide, by decide⟩ }
    let a : Network := { (default : Network) with variantId := "new", caseDate := lastDay }
    let a₀ : Network := { (default : Network) with
      variantId := "old", cimCharacteristics := some ⟨.nodeBreaker, 16⟩ }
    (0 ≤ a.caseDate.date.year ∧ a.caseDate.date.year ≤ 9999) ∧
      Network.mapping.apply a₀ (Network.mapping.values a)
        = ({ (default : Network) with variantId := "old", caseDate := lastDay }, none) := by
  intro lastDay a a₀
  have hyear : 0 ≤ a.caseDate.date.year ∧ a.caseDate.date.year ≤ 9999 := by decide
  exact ⟨hyear, fields_covered.2.2 a₀ a hyear⟩

end Attributes

end GridStore
