import GridStore.Proofs.Requests
import GridStore.Proofs.Rows
import GridStore.Proofs.Rules
import GridStore.Proofs.Steps

/-!
# Copying a variant

A variant is copied if no copy would share a key with a row that is there (`CanCopyVariant`): no
equipment has its id in both variants, and the copy of the network's row, if it has one, takes over
neither the number nor the id of a variant that is there. Each table then holds its rows and after
them the copies, and the copied variant reads as its source (`cloneVariant_spec`).
-/

namespace GridStore

open Call

/-! ## Reading a variant -/

section Reads

variable {A : Type} [Attributes A]

/-- What a row holds is the same in another variant. -/
theorem Row.toEquipment_congr {r s : Row} (hid : r.id = s.id) (hvalues : r.values = s.values)
    (m n : Int32) : r.toEquipment A n = (s.toEquipment A m).map (Resource.withVariant n) := by
  have hattributes : r.toAttributes A = s.toAttributes A := by
    unfold toAttributes
    rw [hvalues]
  unfold toEquipment
  rw [hid, hattributes]
  rcases s.id.toText with e | id
  · rfl
  · rcases s.toAttributes A with e | a <;> rfl

theorem Except.mapM_map {ε α β γ δ : Type} {g : γ → Except ε δ} {g' : α → Except ε β} {c : α → γ}
    {h : β → δ} (hg : ∀ a, g (c a) = (g' a).map h) :
    ∀ as : List α, (as.map c).mapM g = (as.mapM g').map (List.map h)
  | [] => by
    rw [List.map_nil, List.mapM_nil, List.mapM_nil]
    rfl
  | a :: as => by
    rw [List.map_cons, List.mapM_cons, List.mapM_cons, hg, mapM_map hg as]
    rcases g' a with e | b
    · rfl
    · rcases as.mapM g' with e | bs <;> rfl

theorem Store.getAll_result {s : Store} (hs : s.Available) (u : Uuid) (v : Int32)
    (h : (s.tables.table? (Attributes.kind A)).isSome) :
    (getAll A u v s).result
      = (s.tables.rowsIn (Attributes.kind A) u v).mapM fun r => r.toEquipment A v := by
  have hrows : (Call.query (fun ts => ts.select (Attributes.kind A) (·.isIn u v)) s).result
      = .ok (s.tables.rowsIn (Attributes.kind A) u v) := by
    rw [result_query, Tables.select, Tables.existing_of_isSome h]
    rfl
  unfold getAll
  rw [(bind_of_ok (result_acquire hs) _).2, store_acquire, (bind_of_ok hrows _).2, store_query]
  have hemit (e : Event) : (emit e s).result = .ok () := rfl
  rw [(bind_of_ok (hemit _) _).2, mapM_ofExcept, result_ofExcept]

end Reads

/-! ## Keys of copies -/

section Keys

variable {ts : Tables} {network : Uuid} {source target : Int32} {id : String}

/-- Copies of the rows of a variant share no key with each other. -/
theorem Table.unique_copies {k : Kind} (h : Unique k (ts.rows k)) :
    Unique k (ts.copies (·.isIn network source) (·.toVariantNum target id) k) := by
  refine (h.filter _).map fun r hr s hs hclash => ?_
  have hrIn := (List.mem_filter.1 hr).2
  have hsIn := (List.mem_filter.1 hs).2
  cases k with
  | network => exact clash_of_isIn_network hrIn hsIn
  | equipment k => exact clash_of_isIn_equipment hrIn hsIn (clash_equipment.1 hclash).2.2

/-- Whether the rows of a variant can be copied to a number under an id. -/
structure Tables.CanCopyVariant (ts : Tables) (network : Uuid) (source target : Int32)
    (id : String) : Prop where
  /-- No equipment is in both variants. -/
  equipment : ∀ k, ∀ r ∈ ts.rowsIn (.equipment k) network source,
    ∀ s ∈ ts.rowsIn (.equipment k) network target, r.id ≠ s.id
  /-- A network in the source variant is neither in the target variant nor in one with the id. -/
  network : ts.rowsIn .network network source ≠ [] → ts.rowsIn .network network target = [] ∧
    ∀ r ∈ ts.rows .network, r.isOf network = true → r.variantId ≠ some (.text id)

theorem Table.unique_append_copies_equipment {k : EquipmentKind}
    (h : Unique (.equipment k) (ts.rows (.equipment k))) :
    Unique (.equipment k) (ts.rows (.equipment k) ++
        ts.copies (·.isIn network source) (·.toVariantNum target id) (.equipment k)) ↔
      ∀ r ∈ ts.rowsIn (.equipment k) network source,
        ∀ s ∈ ts.rowsIn (.equipment k) network target, r.id ≠ s.id := by
  rw [unique_append, and_iff_right h, and_iff_right (unique_copies h)]
  constructor
  · intro hfree r hr s hs hid
    obtain ⟨hs, hsIn⟩ := List.mem_filter.1 hs
    have hclash := hfree s hs _ (List.mem_map_of_mem hr)
    have hrNetwork := (Row.isIn_iff.1 (List.mem_filter.1 hr).2).1
    rw [Row.isIn_iff] at hsIn
    rw [Bool.eq_false_iff, ne_eq, clash_equipment] at hclash
    exact hclash ⟨hsIn.1.trans hrNetwork.symm, hsIn.2, hid.symm⟩
  · intro hfree s hs c hc
    obtain ⟨r, hr, rfl⟩ := List.mem_map.1 hc
    rw [Bool.eq_false_iff, ne_eq, clash_equipment]
    rintro ⟨hnetwork, hnum, hid⟩
    have hrNetwork := (Row.isIn_iff.1 (List.mem_filter.1 hr).2).1
    have hsIn : s.isIn network target = true := Row.isIn_iff.2 ⟨hnetwork.trans hrNetwork, hnum⟩
    exact hfree r hr s (List.mem_filter.2 ⟨hs, hsIn⟩) hid.symm

theorem Table.unique_append_copies_network (h : Unique .network (ts.rows .network))
    (hnamed : ∀ r ∈ ts.rows .network, r.variantId.isSome) :
    Unique .network (ts.rows .network ++
        ts.copies (·.isIn network source) (·.toVariantNum target id) .network) ↔
      (ts.rowsIn .network network source ≠ [] → ts.rowsIn .network network target = [] ∧
        ∀ r ∈ ts.rows .network, r.isOf network = true → r.variantId ≠ some (.text id)) := by
  rw [unique_append, and_iff_right h, and_iff_right (unique_copies h)]
  have hcopy {r : Row} (hr : r ∈ ts.rowsIn .network network source) :
      (r.toVariantNum target id).variantId = some (.text id) := by
    obtain ⟨vid, hvid⟩ := Option.isSome_iff_exists.1 (hnamed r (List.mem_filter.1 hr).1)
    rw [Row.toVariantNum, hvid]
    rfl
  constructor
  · intro hfree hne
    obtain ⟨r, hr⟩ := List.exists_mem_of_ne_nil _ hne
    have hrNetwork := (Row.isIn_iff.1 (List.mem_filter.1 hr).2).1
    have hclash (s : Row) (hs : s ∈ ts.rows .network) (hsOf : s.network = .ofUuid network) :
        ¬ (s.variantId = some (.text id) ∨ s.variantNum = .ofInt32 target) := by
      have hs := hfree s hs _ (List.mem_map_of_mem hr)
      rw [Bool.eq_false_iff, ne_eq, clash_network, hcopy hr] at hs
      exact fun h => hs ⟨hsOf.trans hrNetwork.symm, h⟩
    refine ⟨List.filter_eq_nil_iff.2 fun s hs hsIn => ?_, fun s hs hsOf hid => ?_⟩
    · rw [Row.isIn_iff] at hsIn
      exact hclash s hs hsIn.1 (.inr hsIn.2)
    · exact hclash s hs (Row.isOf_iff.1 hsOf) (.inl hid)
  · intro hfree s hs c hc
    obtain ⟨r, hr, rfl⟩ := List.mem_map.1 hc
    obtain ⟨hnone, hids⟩ := hfree (List.ne_nil_of_mem hr)
    have hrNetwork := (Row.isIn_iff.1 (List.mem_filter.1 hr).2).1
    rw [Bool.eq_false_iff, ne_eq, clash_network, hcopy hr]
    rintro ⟨hnetwork, hid | hnum⟩
    · exact hids s hs (Row.isOf_iff.2 (hnetwork.trans hrNetwork)) hid
    · have hsIn : s.isIn network target = true := Row.isIn_iff.2 ⟨hnetwork.trans hrNetwork, hnum⟩
      exact List.filter_eq_nil_iff.1 hnone s hs hsIn

theorem Tables.Keyed.unique_copies_iff (h : ts.Keyed) :
    (∀ k ∈ Kind.all, Table.Unique k
        (ts.rows k ++ ts.copies (·.isIn network source) (·.toVariantNum target id) k)) ↔
      ts.CanCopyVariant network source target id := by
  have hnamed : ∀ r ∈ ts.rows .network, r.variantId.isSome := by
    intro r hr
    obtain ⟨n, vid, -, hvid⟩ := h.named r hr
    exact Option.isSome_of_eq_some hvid
  constructor
  · intro hunique
    refine ⟨fun k => ?_, ?_⟩
    · exact (Table.unique_append_copies_equipment (h.unique _)).1 (hunique _ (Kind.mem_all _))
    · exact (Table.unique_append_copies_network (h.unique _) hnamed).1 (hunique _ (Kind.mem_all _))
  · rintro ⟨hequipment, hnetwork⟩ k -
    cases k with
    | network => exact (Table.unique_append_copies_network (h.unique _) hnamed).2 hnetwork
    | equipment k => exact (Table.unique_append_copies_equipment (h.unique _)).2 (hequipment k)

end Keys

/-! ## The call -/

namespace Store

section Copy

variable {s : Store} {network : Uuid} {source target : Int32} {variantId : Option String}
  {fresh id : String}

/-- A valid copy does its steps, given a connection. -/
theorem cloneVariant_eq (hs : s.Available) (hsource : 0 ≤ source) (htarget : 0 ≤ target)
    (hne : source ≠ target) (hid : targetVariantId target variantId fresh = .ok id) :
    (cloneVariant network source target variantId fresh s).store
        = { s with tables := (applySteps (cloneVariantSteps network source target id) 0 s.tables).1 } ∧
      (cloneVariant network source target variantId fresh s).result
        = (applySteps (cloneVariantSteps network source target id) 0 s.tables).2 := by
  have hvalid : (require (Validation.cloneVariant source target) s).result = .ok () := by
    rw [Validation.cloneVariant_of_ne hsource htarget hne]
    rfl
  unfold cloneVariant
  rw [(bind_of_ok hvalid _).1, (bind_of_ok hvalid _).2, store_require, hid]
  exact acquire_runSteps hs _ _ _ _

section Copied

variable (hs : s.Available) (hsource : 0 ≤ source) (htarget : 0 ≤ target) (hne : source ≠ target)
  (hid : targetVariantId target variantId fresh = .ok id)

include hs hsource htarget hne hid

/-- A valid copy is done if no copy would share a key with a row that is there. -/
theorem cloneVariant_ok_iff (hkeyed : s.tables.Keyed) :
    (∃ n, (cloneVariant network source target variantId fresh s).result = .ok n) ↔
      s.tables.CanCopyVariant network source target id := by
  have hsteps : (∃ n, (applySteps (cloneVariantSteps network source target id) 0 s.tables).2 = .ok n)
      ↔ _ := copySteps_ok_iff (fun _ _ => rfl) Kind.nodup_all
    (fun k _ => ⟨hkeyed.present k, hkeyed.unique k⟩) 0
  rw [(cloneVariant_eq hs hsource htarget hne hid).2, hsteps]
  exact hkeyed.unique_copies_iff

/-- What a copy that is done leaves: after the rows of each table those copied, and their count. -/
theorem of_cloneVariant_ok {n : Nat}
    (hn : (cloneVariant network source target variantId fresh s).result = .ok n) :
    let left := cloneVariant network source target variantId fresh s
    n = (Kind.all.map fun k => (s.tables.rowsIn k network source).length).sum ∧
      (∀ k, (left.store.tables.table? k).isSome = (s.tables.table? k).isSome) ∧
        ∀ k, left.store.tables.rows k = s.tables.rows k ++
          s.tables.copies (·.isIn network source) (·.toVariantNum target id) k := by
  obtain ⟨hstore, hresult⟩ := @cloneVariant_eq s network _ _ _ _ _ hs hsource htarget hne hid
  have hdone : applySteps (cloneVariantSteps network source target id) 0 s.tables
      = ((applySteps (cloneVariantSteps network source target id) 0 s.tables).1, .ok n) :=
    Prod.ext rfl (hresult.symm.trans hn)
  obtain ⟨hcount, hpresent, hrows⟩ := of_copySteps_ok (fun _ _ => rfl) Kind.nodup_all hdone
  rw [Nat.zero_add] at hcount
  dsimp only
  rw [hstore]
  exact ⟨hcount, hpresent, fun k => (hrows k).trans (if_pos (Kind.mem_all k))⟩

end Copied

/-- The rows that a table holds of a variant that was copied to a number without any. -/
theorem rowsIn_target {ts ts' : Tables} {k : Kind} (hne : ts.rowsIn k network target = [])
    (hrows : ts'.rows k
      = ts.rows k ++ ts.copies (·.isIn network source) (·.toVariantNum target id) k) :
    ts'.rowsIn k network target
      = (ts.rowsIn k network source).map (·.toVariantNum target id) := by
  have hcopies : (ts.copies (·.isIn network source) (·.toVariantNum target id) k).filter
      (·.isIn network target) = ts.copies (·.isIn network source) (·.toVariantNum target id) k := by
    refine List.filter_eq_self.2 fun c hc => ?_
    obtain ⟨r, hr, rfl⟩ := List.mem_map.1 hc
    exact Row.isIn_toVariantNum.2 ⟨(Row.isIn_iff.1 (List.mem_filter.1 hr).2).1, rfl⟩
  rw [Tables.rowsIn, hrows, List.filter_append, hcopies]
  exact congrArg (· ++ _) hne

/-- A variant is copied if no copy would share a key with a row that is there. Then every table
holds its rows and after them a copy of each row of the source, apart from which it is unchanged;
the answer counts the copies, and a number that held nothing reads as the source. -/
theorem cloneVariant_spec (hs : s.Available) (hkeyed : s.tables.Keyed) (hsource : 0 ≤ source)
    (htarget : 0 ≤ target) (hne : source ≠ target)
    (hid : targetVariantId target variantId fresh = .ok id) :
    let left := cloneVariant network source target variantId fresh s
    ((∃ n, left.result = .ok n) ↔ s.tables.CanCopyVariant network source target id) ∧
      ∀ n, left.result = .ok n →
        left.store.tables.rows .network = s.tables.rows .network ++
            (s.tables.rowsIn .network network source).map (fun r =>
              { r with variantNum := .ofInt32 target, variantId := some (.text id) }) ∧
          (∀ k, left.store.tables.rows (.equipment k) = s.tables.rows (.equipment k) ++
            (s.tables.rowsIn (.equipment k) network source).map (fun r =>
              { r with variantNum := .ofInt32 target })) ∧
          n = (Kind.all.map fun k => (s.tables.rowsIn k network source).length).sum ∧
          ∀ k : EquipmentKind, s.tables.rowsIn (.equipment k) network target = [] →
            (getAll k.Attributes network target left.store).result
              = (getAll k.Attributes network source s).result.map
                  (List.map (Resource.withVariant target)) := by
  intro left
  refine ⟨cloneVariant_ok_iff hs hsource htarget hne hid hkeyed, fun n hn => ?_⟩
  obtain ⟨hcount, hpresent, hrows⟩ := of_cloneVariant_ok hs hsource htarget hne hid hn
  refine ⟨?_, fun k => ?_, hcount, fun k hnone => ?_⟩
  · rw [hrows, Tables.copies]
    refine congrArg _ (List.map_congr_left fun r hr => ?_)
    obtain ⟨_, vid, -, hvid⟩ := hkeyed.named r (List.mem_filter.1 hr).1
    rw [Row.toVariantNum, hvid]
    rfl
  · rw [hrows, Tables.copies]
    refine congrArg _ (List.map_congr_left fun r hr => ?_)
    rw [Row.toVariantNum, hkeyed.unnamed k r (List.mem_filter.1 hr).1]
    rfl
  · have hleft : left.store.Available := by
      rw [(cloneVariant_eq hs hsource htarget hne hid).1]
      exact ⟨hs.isOpen, hs.free⟩
    have hkind := k.kind_attributes
    rw [getAll_result hleft, getAll_result hs, hkind, rowsIn_target hnone (hrows _)]
    · exact Except.mapM_map (fun r => Row.toEquipment_congr rfl rfl source target) _
    · exact hkeyed.present _
    · rw [hpresent]
      exact hkeyed.present _

/-- The initial variant of a network is copied to a free number under a free id, with its loads and its
generator; the equipment of its other variant stays as it is. -/
theorem cloneVariant_spec_stocked :
    stocked.Available ∧ stocked.tables.Keyed ∧ (0 : Int32) ≤ 0 ∧ (0 : Int32) ≤ 1 ∧ (0 : Int32) ≠ 1 ∧
      targetVariantId 1 (some "noon") "" = .ok "noon" ∧
      let left := cloneVariant .nil 0 1 (some "noon") "" stocked
      left.result = .ok 4 ∧
        left.store.tables.rows .network
          = Row.stock .network ++ [.ofNetwork "noon" (.of "grid" 1 default)] ∧
        left.store.tables.rows (.equipment .load) = Row.stock (.equipment .load) ++
          [.ofEquipment .nil (.of "L1" 1 (default : Load)),
            .ofEquipment .nil (.of "L2" 1 (default : Load))] ∧
        left.store.tables.rows (.equipment .generator) = Row.stock (.equipment .generator) ++
          [.ofEquipment .nil (.of "G1" 1 (default : Generator))] ∧
        left.store.tables.rows (.equipment .line) = [] := by
  have hs : stocked.Available := ⟨rfl, by decide⟩
  have hid : targetVariantId 1 (some "noon") "" = .ok "noon" := by decide
  have hcan : stocked.tables.CanCopyVariant .nil 0 1 "noon" := by
    refine ⟨fun k => ?_, fun _ => ⟨?_, ?_⟩⟩
    · rw [Tables.rowsIn, Tables.rowsIn, Tables.rows_stocked]
      cases k <;> decide
    · rw [Tables.rowsIn, Tables.rows_stocked]
      decide
    · rw [Tables.rows_stocked]
      decide
  obtain ⟨hdone, hleft⟩ := @cloneVariant_spec stocked .nil 0 1 (some "noon") "" "noon" hs
    Tables.keyed_stocked (by decide) (by decide) (by decide) hid
  obtain ⟨n, hn⟩ := hdone.2 hcan
  obtain ⟨hnetwork, hequipment, rfl, -⟩ := hleft n hn
  simp only [Tables.rowsIn, Tables.rows_stocked] at hn hnetwork hequipment
  exact ⟨hs, Tables.keyed_stocked, by decide, by decide, by decide, hid, hn, hnetwork,
    hequipment .load, hequipment .generator, hequipment .line⟩

end Copy

end Store

end GridStore
