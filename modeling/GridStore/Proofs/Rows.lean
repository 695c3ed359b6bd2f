import GridStore.Proofs.UuidText
import GridStore.Store.Networks

/-!
# Whose rows are

The fixed columns of a row say which network, variant and id it belongs to, since different uuids
and different numbers are held differently. What calls write, replace and copy belongs where the
call says (`isIn_ofEquipment`, `isIn_assign`, `isIn_toVariantNum`, `isIn_toOtherNetwork`).
-/

namespace GridStore

/-! ## What fixed columns hold -/

@[simp]
theorem Cell.ofUuid_inj {u v : Uuid} : Cell.ofUuid u = Cell.ofUuid v ↔ u = v := by
  refine ⟨fun h => Uuid.text_injective ?_, congrArg _⟩
  simpa [Cell.ofUuid] using h

@[simp]
theorem Cell.ofInt32_inj {m n : Int32} : Cell.ofInt32 m = Cell.ofInt32 n ↔ m = n := by
  refine ⟨fun h => Int32.toInt_inj.1 ?_, congrArg _⟩
  rw [← Int32.toInt_toInt64 m, ← Int32.toInt_toInt64 n, Cell.integer.inj h]

/-! ## Networks and variants of rows -/

namespace Row

variable {r : Row} {u network : Uuid} {v n : Int32} {id : String}

theorem isOf_iff : r.isOf u = true ↔ r.network = .ofUuid u := by
  simp [isOf]

theorem isIn_iff : r.isIn u v = true ↔ r.network = .ofUuid u ∧ r.variantNum = .ofInt32 v := by
  simp [isIn, isOf, and_comm]

theorem isAt_iff : r.isAt u v id = true ↔ r.isIn u v = true ∧ r.id = .text id := by
  simp [isAt, and_comm]

/-- A row that is in one variant is in no other. -/
theorem eq_of_isIn (h : r.isIn u v = true) (h' : r.isIn network n = true) : u = network ∧ v = n := by
  rw [isIn_iff] at h h'
  exact ⟨Cell.ofUuid_inj.1 (h.1.symm.trans h'.1), Cell.ofInt32_inj.1 (h.2.symm.trans h'.2)⟩

@[simp]
theorem isIn_ofEquipment {A : Type} [Attributes A] {a : Resource A} :
    (ofEquipment network a).isIn u v = true ↔ network = u ∧ a.variantNum = v := by
  simp [isIn_iff, ofEquipment]

@[simp]
theorem isIn_ofNetwork {a : Resource Network} :
    (ofNetwork id a).isIn u v = true ↔ a.attributes.uuid = u ∧ a.variantNum = v := by
  simp [isIn_iff, ofNetwork]

@[simp]
theorem isIn_assign (s : TableSchema) (assigned : List Cell) (r : Row) :
    (r.assign s assigned).isIn u v = r.isIn u v :=
  rfl

@[simp]
theorem isIn_replaceNetwork (a : Resource Network) (r : Row) :
    (Store.replaceNetwork a r).isIn u v = r.isIn u v :=
  rfl

theorem isIn_toVariantNum :
    (r.toVariantNum n id).isIn u v = true ↔ r.network = .ofUuid u ∧ n = v := by
  simp [isIn_iff, toVariantNum]

theorem isIn_toOtherNetwork :
    (r.toOtherNetwork network).isIn u v = true ↔ network = u ∧ r.variantNum = .ofInt32 v := by
  simp [isIn_iff, toOtherNetwork]

end Row

end GridStore
