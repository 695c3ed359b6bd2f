import GridStore.Proofs.Holding
import GridStore.Proofs.Reachable
import GridStore.Proofs.Related
import GridStore.Proofs.VariantCopy

/-!
# Copying over a variant

Whether the target of a copy is taken, by its number or by its id, comes out where the network row
of the source is copied. So a source with a network row is never copied over a variant, and nothing
is written. A source without one has nothing that could be refused there: its equipment is copied
into the variant that is there, unless an id is in both (`Store.cloneVariant_occupied`).
-/

namespace GridStore

open Call

namespace Tables

variable {ts : Tables} {network : Uuid} {source target n : Int32} {id : String}

/-- Whether a network has a row in a variant. -/
def hasVariant (ts : Tables) (network : Uuid) (n : Int32) : Bool :=
  (ts.rows .network).any (·.isIn network n)

/-- Whether a network has a variant with an id. -/
def namesVariant (ts : Tables) (network : Uuid) (id : String) : Bool :=
  (ts.rows .network).any fun r => r.isOf network && r.variantId = some (.text id)

theorem rowsIn_eq_nil_iff :
    ts.rowsIn .network network n = [] ↔ ts.hasVariant network n = false := by
  rw [rowsIn, hasVariant, List.filter_eq_nil_iff, List.any_eq_false]

/-- A variant of a network has one row in the network table. -/
theorem Keyed.exists_rowsIn_eq (h : ts.Keyed) (hn : ts.hasVariant network n = true) :
    ∃ r ∈ ts.rows .network, r.isIn network n = true ∧ ts.rowsIn .network network n = [r] := by
  have hone : ts.rowsIn .network network n
      = ((ts.rows .network).find? (·.isIn network n)).toList := (h.unique .network).filter_isIn
  rcases hfind : (ts.rows .network).find? (·.isIn network n) with _ | r
  · rw [hfind] at hone
    rw [rowsIn_eq_nil_iff.1 hone] at hn
    cases hn
  · rw [hfind] at hone
    exact ⟨r, List.mem_of_find?_eq_some hfind, List.find?_some hfind, hone⟩

/-- The columns of the key for which a copy over a variant is refused. -/
def takenKey (ts : Tables) (network : Uuid) (id : String) : List String :=
  if ts.namesVariant network id then ["uuid", "variantId"] else ["uuid", "variantNum"]

/-- The copy of a network's row is refused where its number or its id is taken. -/
theorem conflict?_of_occupied {r : Row} (hnetwork : r.network = .ofUuid network)
    (hnum : r.variantNum = .ofInt32 target) (hid : r.variantId = some (.text id))
    (hoccupied : ts.hasVariant network target = true ∨ ts.namesVariant network id = true) :
    Table.conflict? .network (ts.rows .network) r = some (ts.takenKey network id) := by
  have hids : (ts.rows .network).any (Table.sameVariantId r) = ts.namesVariant network id := by
    refine congrArg ((ts.rows .network).any ·) (funext fun s => ?_)
    rw [Table.sameVariantId, hnetwork, hid, Row.isOf]
    simp only [eq_comm]
  have hnums : (ts.rows .network).any (Table.sameVariantNum r) = ts.hasVariant network target := by
    refine congrArg ((ts.rows .network).any ·) (funext fun s => ?_)
    rw [Table.sameVariantNum, hnetwork, hnum, Row.isIn, Row.isOf, Bool.and_comm]
    simp only [eq_comm]
  dsimp only [Table.conflict?]
  rw [hids, hnums, takenKey]
  rcases hnamed : ts.namesVariant network id with _ | _
  · rw [if_pos (hoccupied.resolve_right (by simp [hnamed]))]
    rfl
  · rfl

theorem copy_network_of_occupied (h : ts.Keyed) (hsource : ts.hasVariant network source = true)
    (hoccupied : ts.hasVariant network target = true ∨ ts.namesVariant network id = true) :
    ts.copy .network (·.isIn network source) (·.toVariantNum target id)
      = .error (.uniqueViolation Kind.network.table (ts.takenKey network id)) := by
  obtain ⟨r, hr, hin, hone⟩ := h.exists_rowsIn_eq hsource
  obtain ⟨_, old, -, hold⟩ := h.named r hr
  have hcheck : Table.check .network (ts.rows .network) (r.toVariantNum target id)
      = .error (.uniqueViolation Kind.network.table (ts.takenKey network id)) := by
    have hid : (r.toVariantNum target id).variantId = some (.text id) := by
      rw [Row.toVariantNum, hold]
      rfl
    have hnetwork : (r.toVariantNum target id).network = .ofUuid network := (Row.isIn_iff.1 hin).1
    rw [Table.check, conflict?_of_occupied hnetwork rfl hid hoccupied]
  have hcopies : ts.copies (·.isIn network source) (·.toVariantNum target id) .network
      = [r.toVariantNum target id] := congrArg (List.map _) hone
  rw [copy, existing_of_isSome (h.present .network)]
  show ((ts.copies (·.isIn network source) (·.toVariantNum target id) .network).foldlM
    (Table.insertRow .network) (ts.rows .network) >>= fun rows =>
      pure (ts.setRows .network rows, _)) = _
  rw [hcopies, List.foldlM_cons, Table.insertRow, hcheck]
  rfl

end Tables

namespace Store

variable {s : Store} {network : Uuid} {source target : Int32} {id fresh : String}

/-- A copy from a number without a network row leaves the network table as it is. -/
theorem rows_network_of_cloneVariant (h : s.tables.hasVariant network source = false)
    (variantId : Option String) :
    (cloneVariant network source target variantId fresh s).store.tables.rows .network
      = s.tables.rows .network := by
  refine (Request.cloneVariant network source target variantId fresh).run_induction
    (I := fun ts => ts.rows .network = s.tables.rows .network) rfl fun ts ts' hwrite hsame => ?_
  cases hwrite with
  | @cloneVariant _ _ _ _ _ id k _ _ _ _ _ hdone =>
    have hputs := (Tables.copy_ok hdone).1
    by_cases hk : Kind.network = k
    · subst hk
      have hnone : ts.copies (·.isIn network source) (·.toVariantNum target id) .network = [] := by
        rw [Tables.copies, hsame]
        exact congrArg _ (Tables.rowsIn_eq_nil_iff.2 h)
      rw [hputs.rows_self, hnone, List.append_nil, hsame]
    · rw [hputs.rows_of_ne hk, hsame]

theorem targetVariantId_some (hid : Validation.variantId id = .ok ()) :
    targetVariantId target (some id) fresh = .ok id := by
  rw [targetVariantId, hid]
  rfl

/-- A copy from a number with a network row to a number or an id that a variant has is refused with
the key that is taken, and nothing is written. -/
theorem cloneVariant_of_hasVariant (hs : s.Available) (hkeyed : s.tables.Keyed)
    (hsource : 0 ≤ source) (htarget : 0 ≤ target) (hne : source ≠ target)
    (hid : Validation.variantId id = .ok ())
    (hoccupied : s.tables.hasVariant network target = true ∨
      s.tables.namesVariant network id = true)
    (hrow : s.tables.hasVariant network source = true) :
    let left := cloneVariant network source target (some id) fresh s
    left.store = s ∧
      left.result = .error (.uniqueViolation "network" (s.tables.takenKey network id)) := by
  intro left
  obtain ⟨hstore, hresult⟩ := @cloneVariant_eq s network source target (some id) fresh id hs hsource
    htarget hne (targetVariantId_some hid)
  have hsteps : applySteps (cloneVariantSteps network source target id) 0 s.tables
      = (s.tables,
        .error (.uniqueViolation Kind.network.table (s.tables.takenKey network id))) := by
    have hfirst := Tables.copy_network_of_occupied hkeyed hrow hoccupied
    unfold cloneVariantSteps Kind.all
    rw [List.map_cons, applySteps]
    dsimp only
    rw [hfirst]
  rw [hsteps] at hstore hresult
  exact ⟨hstore, hresult⟩

/-- A copy from a number without a network row is done unless an equipment has its id in both
variants, whether a variant has the target's number and id or not. -/
theorem cloneVariant_of_not_hasVariant (hs : s.Available) (hkeyed : s.tables.Keyed)
    (hsource : 0 ≤ source) (htarget : 0 ≤ target) (hne : source ≠ target)
    (hid : Validation.variantId id = .ok ())
    (hnone : s.tables.hasVariant network source = false) :
    let left := cloneVariant network source target (some id) fresh s
    ((∃ n, left.result = .ok n) ↔ ∀ k, ∀ r ∈ s.tables.rowsIn (.equipment k) network source,
        ∀ t ∈ s.tables.rowsIn (.equipment k) network target, r.id ≠ t.id) ∧
      ∀ n, left.result = .ok n →
        n = (Kind.all.map fun k => (s.tables.rowsIn k network source).length).sum ∧
        ∀ k, left.store.tables.rows k = s.tables.rows k ++
          (s.tables.rowsIn k network source).map (·.toVariantNum target id) := by
  intro left
  have htarget' : targetVariantId target (some id) fresh = .ok id := targetVariantId_some hid
  refine ⟨(cloneVariant_ok_iff hs hsource htarget hne htarget' hkeyed).trans ?_, fun n hn => ?_⟩
  · -- what the network table asks of a copy is asked of a network row only
    refine ⟨fun hcan => hcan.equipment, fun hequipment => ⟨hequipment, fun hrow => ?_⟩⟩
    exact absurd (Tables.rowsIn_eq_nil_iff.2 hnone) hrow
  · obtain ⟨hcount, -, hrows⟩ := of_cloneVariant_ok hs hsource htarget hne htarget' hn
    exact ⟨hcount, hrows⟩

/-- What becomes of a copy to a number or an id that a variant has. If the source has a network row
the copy is refused with the key that is taken, and nothing is written. If it has none the network
table has nothing to refuse: the copy is done unless an equipment has its id in both variants, and
the equipment of the source stands in the occupied variant then. -/
theorem cloneVariant_occupied (hs : s.Available) (hkeyed : s.tables.Keyed) (hsource : 0 ≤ source)
    (htarget : 0 ≤ target) (hne : source ≠ target) (hid : Validation.variantId id = .ok ())
    (hoccupied : s.tables.hasVariant network target = true ∨
      s.tables.namesVariant network id = true) :
    let left := cloneVariant network source target (some id) fresh s
    (s.tables.hasVariant network source = true → left.store = s ∧ left.result
      = .error (.uniqueViolation "network" (if s.tables.namesVariant network id
          then ["uuid", "variantId"] else ["uuid", "variantNum"]))) ∧
    (s.tables.hasVariant network source = false →
      left.store.tables.rows .network = s.tables.rows .network ∧
      ((∃ n, left.result = .ok n) ↔ ∀ k, ∀ r ∈ s.tables.rowsIn (.equipment k) network source,
        ∀ t ∈ s.tables.rowsIn (.equipment k) network target, r.id ≠ t.id) ∧
      ∀ n, left.result = .ok n →
        n = (Kind.all.map fun k => (s.tables.rowsIn k network source).length).sum ∧
        ∀ k, left.store.tables.rows k = s.tables.rows k ++
          (s.tables.rowsIn k network source).map (·.toVariantNum target id)) :=
  ⟨fun hrow => cloneVariant_of_hasVariant hs hkeyed hsource htarget hne hid hoccupied hrow,
    fun hnone => ⟨rows_network_of_cloneVariant hnone _,
      cloneVariant_of_not_hasVariant hs hkeyed hsource htarget hne hid hnone⟩⟩

/-- The initial variant of a network is not copied to a free number under its own id. -/
theorem cloneVariant_occupied_initial :
    single.Available ∧ single.tables.Keyed ∧ (0 : Int32) ≤ 0 ∧ (0 : Int32) ≤ 1 ∧ (0 : Int32) ≠ 1 ∧
      Validation.variantId initialVariantId = .ok () ∧
      single.tables.namesVariant .nil initialVariantId = true ∧
      (cloneVariant .nil 0 1 (some initialVariantId) "" single).store = single ∧
      (cloneVariant .nil 0 1 (some initialVariantId) "" single).result
        = .error (.uniqueViolation "network" ["uuid", "variantId"]) := by
  have hs : single.Available := ⟨rfl, by decide⟩
  have hid : Validation.variantId initialVariantId = .ok () := by decide
  have hnamed : single.tables.namesVariant .nil initialVariantId = true := by decide
  obtain ⟨hrefused, -⟩ := @cloneVariant_occupied single .nil 0 1 initialVariantId "" hs
    Tables.keyed_single (by decide) (by decide) (by decide) hid (.inr hnamed)
  obtain ⟨hstore, hresult⟩ := hrefused (by decide)
  rw [hnamed] at hresult
  exact ⟨hs, Tables.keyed_single, by decide, by decide, by decide, hid, hnamed, hstore, hresult⟩

/-- A load in a number without a network row is copied into the initial variant, under the id that
the variant has. -/
theorem cloneVariant_into_initial :
    let s := (Request.create .load .nil [.of "L1" 7 (default : Load)]).run single
    let left := cloneVariant .nil 7 0 (some initialVariantId) "" s
    s.Available ∧ s.tables.Keyed ∧ s.tables.hasVariant .nil 0 = true ∧
      s.tables.namesVariant .nil initialVariantId = true ∧ left.result = .ok 1 ∧
      left.store.tables.rows (.equipment .load) ≠ s.tables.rows (.equipment .load) := by
  intro s left
  have hs : s = { single with
      tables := single.tables.setRows (.equipment .load)
        [.ofEquipment .nil (.of "L1" 7 (default : Load))] } := by
    have hcreate : create .nil [.of "L1" 7 (default : Load)] = _ :=
      require_bind_of_ok (show checkResources _ = _ by decide) _
    show (create .nil [.of "L1" 7 (default : Load)] single).store = _
    rw [hcreate, List.map_singleton]
    unfold forBatches
    simp only [batches_singleton]
    rfl
  have hfree : s.Available := by
    rw [hs]
    exact ⟨rfl, by decide⟩
  have hkeyed : s.tables.Keyed :=
    ((reachable_single (P := fun _ => True) trivial).request trivial).keyed
  have hnone : s.tables.hasVariant .nil 7 = false := by
    rw [hs]
    decide
  have hempty (k : EquipmentKind) : s.tables.rowsIn (.equipment k) .nil 0 = [] := by
    rw [hs]
    cases k <;> decide
  have hcount : (Kind.all.map fun k => (s.tables.rowsIn k .nil 7).length).sum = 1 := by
    rw [hs]
    decide
  obtain ⟨hok, hdone⟩ := @cloneVariant_of_not_hasVariant s .nil 7 0 initialVariantId "" hfree hkeyed
    (by decide) (by decide) (by decide) (by decide) hnone
  obtain ⟨n, hn⟩ := hok.2 fun k _ _ t ht => absurd (hempty k ▸ ht) List.not_mem_nil
  obtain ⟨hsum, hrows⟩ := hdone n hn
  refine ⟨hfree, hkeyed, ?_, ?_, by rw [← hcount, ← hsum]; exact hn, ?_⟩
  · rw [hs]
    decide
  · rw [hs]
    decide
  · rw [hrows, hs]
    decide

end Store

end GridStore
