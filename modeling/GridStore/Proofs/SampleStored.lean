import GridStore.Proofs.Identifiables
import GridStore.Proofs.OneByOne
import GridStore.Proofs.SampleNetwork
import GridStore.Seed.Filling

/-!
# The sample in a store

Stored where there are no rows, the resources of the sample are in the tables of their kinds in the
order in which they were made (`create_blank`): their ids are valid, so the rules let them through,
and distinct, so no row shares a key with one before it. From there every row is copied to the
variant for studies, which has the same resources (`cloneToStudy_of_holdsAlone`).
-/

namespace GridStore.Sample

open Call

variable {u : Uuid} {date : Timestamp} {count : Nat} {s : Store}

/-! ## Storing -/

/-- The kinds of the sample in the order in which they are stored. -/
def storedKinds : List EquipmentKind :=
  [.substation, .voltageLevel, .busbarSection, .switch, .twoWindingsTransformer, .generator, .load,
    .line]

/-- The sample has nothing of the other kinds. -/
theorem resources_of_not_mem {k : EquipmentKind} (hk : k ∉ storedKinds) :
    resources count k = [] := by
  cases k with
  | substation | voltageLevel | busbarSection | switch | twoWindingsTransformer | generator | load
  | line => exact absurd (by decide) hk
  | battery | shuntCompensator | vscConverterStation | lccConverterStation | staticVarCompensator
  | threeWindingsTransformer | hvdcLine | danglingLine | configuredBus => rfl

theorem create_eq : create count u date
    = Store.createNetworks (fun _ => "") [network u date] >>= fun _ =>
      storedKinds.forM fun k => Store.create u (resources count k) := by
  have hlast (c : Call Unit) : (c >>= fun _ => pure ()) = c := bind_pure_unit
  simp only [storedKinds, List.forM, hlast]
  rfl

theorem variantNum_of_mem_resources {k : EquipmentKind} :
    ∀ r ∈ resources count k, r.variantNum = initialVariantNum := by
  intro r hr
  obtain ⟨n, -, hr⟩ := exists_of_mem_resources.1 hr
  cases k with
  | voltageLevel =>
    rcases List.mem_cons.1 hr with rfl | hr
    · rfl
    · obtain rfl := List.mem_singleton.1 hr
      rfl
  | substation | busbarSection | switch | generator | load | twoWindingsTransformer | line =>
    obtain rfl := List.mem_singleton.1 hr
    rfl
  | battery | shuntCompensator | vscConverterStation | lccConverterStation | staticVarCompensator
  | threeWindingsTransformer | hvdcLine | danglingLine | configuredBus =>
    exact absurd hr List.not_mem_nil

/-- The rows of a kind's resources in a variant. -/
def rows (u : Uuid) (count : Nat) (v : Int32) (k : EquipmentKind) : List Row :=
  (resources count k).map fun r => Row.ofEntry u v r.id r.attributes

theorem map_ofEquipment (u : Uuid) (count : Nat) (k : EquipmentKind) :
    (resources count k).map (Row.ofEquipment u) = rows u count initialVariantNum k := by
  refine List.map_congr_left fun r hr => ?_
  rw [Row.ofEquipment_eq, variantNum_of_mem_resources r hr]

theorem filter_rows_self (u : Uuid) (count : Nat) (v : Int32) (k : EquipmentKind) :
    (rows u count v k).filter (·.isIn u v) = rows u count v k := by
  refine List.filter_eq_self.2 (List.forall_mem_map.2 fun r _ => ?_)
  exact Row.isIn_ofEntry.2 ⟨rfl, rfl⟩

theorem filter_rows_of_ne {v w : Int32} (h : v ≠ w) (u : Uuid) (count : Nat) (k : EquipmentKind) :
    (rows u count v k).filter (·.isIn u w) = [] := by
  refine List.filter_eq_nil_iff.2 (List.forall_mem_map.2 fun r _ hin => ?_)
  exact h (Row.isIn_ofEntry.1 hin).2

theorem nodup_map_id (count : Nat) (k : EquipmentKind) : ((resources count k).map (·.id)).Nodup :=
  (List.nodup_flatMap.1 (nodup_ids count)).1 k k.mem_all

/-- The rows of resources of the sample share no key. -/
theorem unique_rows (u : Uuid) (count : Nat) (v : Int32) (k : EquipmentKind) :
    Table.Unique (.equipment k) (rows u count v k) := by
  have hnodup := nodup_map_id count k
  rw [List.nodup_iff_pairwise_ne, List.pairwise_map] at hnodup
  rw [Table.Unique, rows, List.pairwise_map]
  refine hnodup.imp fun hne => Bool.eq_false_iff.2 fun hclash => hne ?_
  exact (Row.clash_ofEntry.1 hclash).2.2

/-- The resources of a kind are stored in a table without rows. -/
theorem create_resources (hcount : count < 2 ^ 63) {k : EquipmentKind} (hs : s.Available)
    (hpresent : (s.tables.table? (.equipment k)).isSome)
    (hempty : s.tables.rows (.equipment k) = []) :
    (Store.create u (resources count k) s).result = .ok () ∧
      s.Puts (.equipment k) (rows u count initialVariantNum k)
        (Store.create u (resources count k) s).store := by
  have hrule : Store.checkResources (resources count k) = .ok () := by
    rw [checkResources_eq_ok_iff]
    intro r hr
    rw [variantNum_of_mem_resources r hr]
    exact ⟨valid_ids hcount k r hr, rfl⟩
  have hunique : Table.Unique (.equipment k) (s.tables.rows (.equipment k)) :=
    hempty ▸ List.Pairwise.nil
  have hwrites : (resources count k).map (fun r => RowWrite.insert (.ofEquipment u r))
      = ((resources count k).map (Row.ofEquipment u)).map (RowWrite.insert (k := .equipment k)) :=
    List.map_map.symm
  have hdone := (@Request.InBatches.create k u (resources count k) hrule).done
    ⟨hs, hpresent, hunique⟩
  rw [hwrites, RowWrite.fit_insert_iff hunique, RowWrite.applyAll_insert, hempty,
    List.nil_append] at hdone
  rw [map_ofEquipment] at hdone
  obtain ⟨hputs, hok⟩ := hdone (unique_rows u count _ k)
  exact ⟨hok, hputs⟩

/-- A store is another with the resources of some kinds in their tables. -/
structure Fills (u : Uuid) (count : Nat) (kinds : List EquipmentKind) (s t : Store) : Prop where
  available : t.Available
  present : ∀ k, (t.tables.table? k).isSome = (s.tables.table? k).isSome
  network : t.tables.rows .network = s.tables.rows .network
  equipment : ∀ k, t.tables.rows (.equipment k)
    = if k ∈ kinds then rows u count initialVariantNum k else s.tables.rows (.equipment k)

/-- The resources of kinds without rows are stored, kind after kind. -/
theorem fills_forM (hcount : count < 2 ^ 63) : ∀ {kinds : List EquipmentKind} {s : Store},
    kinds.Nodup → s.Available → (∀ k, (s.tables.table? k).isSome) →
      (∀ k ∈ kinds, s.tables.rows (.equipment k) = []) →
        let call : Call Unit := kinds.forM fun k => Store.create u (resources count k)
        (call s).result = .ok () ∧ Fills u count kinds s (call s).store
  | [], s, _, hs, _, _ => ⟨rfl, hs, fun _ => rfl, rfl, fun k => (if_neg List.not_mem_nil).symm⟩
  | k :: kinds, s, hnodup, hs, hpresent, hempty => by
    intro call
    obtain ⟨hk, hnodup⟩ := List.nodup_cons.1 hnodup
    obtain ⟨hok, hputs⟩ := create_resources (u := u) hcount hs (hpresent _)
      (hempty k List.mem_cons_self)
    have hcall : call = Store.create u (resources count k) >>= fun _ =>
      kinds.forM fun k => Store.create u (resources count k) := rfl
    rw [hcall, (bind_of_ok hok _).1, (bind_of_ok hok _).2]
    generalize (Store.create u (resources count k) s).store = left at hputs
    obtain ⟨hrest, hfills⟩ := fills_forM hcount hnodup (hs.of_tables hputs.rest)
      (fun j => (hputs.present j).symm ▸ hpresent j) fun j hj => by
        rw [hputs.rows_of_ne _ (by simpa using ne_of_mem_of_not_mem hj hk)]
        exact hempty j (List.mem_cons_of_mem _ hj)
    refine ⟨hrest, hfills.available, fun j => (hfills.present j).trans (hputs.present j),
      hfills.network.trans (hputs.rows_of_ne _ (by simp)), fun j => ?_⟩
    rw [hfills.equipment]
    by_cases hj : j = k
    · subst hj
      rw [if_neg hk, if_pos List.mem_cons_self, hputs.rows_self]
    · rw [hputs.rows_of_ne _ (by simpa using hj)]
      simp [hj]

/-- The row of the network that the sample belongs to. -/
def networkRow (u : Uuid) (date : Timestamp) : Row :=
  .ofNetwork initialVariantId (network u date)

theorem create_network (u : Uuid) (date : Timestamp) (hs : s.Available)
    (hpresent : (s.tables.table? .network).isSome) (hempty : s.tables.rows .network = []) :
    (Store.createNetworks (fun _ => "") [network u date] s).result = .ok () ∧
      s.Puts .network [networkRow u date]
        (Store.createNetworks (fun _ => "") [network u date] s).store := by
  have hid : (network u date).attributes.effectiveVariantId (network u date).variantNum ""
      = initialVariantId := by
    have hnone : (network u date).attributes.variantId = "" := rfl
    rw [Network.effectiveVariantId, if_pos hnone]
    exact if_pos rfl
  have hrow : Store.newNetworkRow "" (network u date) = .ok (networkRow u date) := by
    rw [newNetworkRow_eq_ok_iff, hid]
    have hinitial : Validation.variantId initialVariantId = .ok () := by decide
    exact ⟨⟨valid_network_id u date, rfl, hinitial⟩, rfl⟩
  have hrows : ([network u date].zipIdx.mapM fun p => Store.newNetworkRow "" p.1)
      = .ok [networkRow u date] := by
    simp only [List.zipIdx_singleton, List.mapM_cons, List.mapM_nil, hrow]
    rfl
  have hunique : Table.Unique .network (s.tables.rows .network) := hempty ▸ List.Pairwise.nil
  have hbatches := @Request.InBatches.createNetworks (fun _ => "") [network u date]
    [networkRow u date] hrows
  have hdone := hbatches.done ⟨hs, hpresent, hunique⟩
  rw [RowWrite.fit_insert_iff hunique, RowWrite.applyAll_insert, hempty, List.nil_append] at hdone
  obtain ⟨hputs, hok⟩ := hdone (Table.unique_singleton _ _)
  exact ⟨hok, hputs⟩

/-- A store holds the sample and nothing else, in the initial variant. -/
structure HoldsAlone (u : Uuid) (date : Timestamp) (count : Nat) (s : Store) : Prop where
  available : s.Available
  present : ∀ k, (s.tables.table? k).isSome
  network : s.tables.rows .network = [networkRow u date]
  equipment : ∀ k, s.tables.rows (.equipment k) = rows u count initialVariantNum k

/-- The sample is stored in a store without rows. -/
theorem create_blank (hcount : count < 2 ^ 63) (hs : s.Available)
    (hpresent : ∀ k, (s.tables.table? k).isSome) (hempty : ∀ k, s.tables.rows k = []) :
    (create count u date s).result = .ok () ∧
      HoldsAlone u date count (create count u date s).store := by
  obtain ⟨hok, hputs⟩ := create_network u date hs (hpresent _) (hempty _)
  rw [create_eq, (bind_of_ok hok _).1, (bind_of_ok hok _).2]
  generalize (Store.createNetworks (fun _ => "") [network u date] s).store = left at hputs
  have hleft : left.Available := hs.of_tables hputs.rest
  have hnone (k : EquipmentKind) : left.tables.rows (.equipment k) = [] :=
    (hputs.rows_of_ne _ (by simp)).trans (hempty _)
  have hleftPresent (k : Kind) : (left.tables.table? k).isSome :=
    (hputs.present k).symm ▸ hpresent k
  obtain ⟨hrest, hfills⟩ := @fills_forM u _ hcount storedKinds _ (by decide) hleft hleftPresent
    fun k _ => hnone k
  refine ⟨hrest, hfills.available, fun k => (hfills.present k).symm ▸ hleftPresent k,
    hfills.network.trans hputs.rows_self, fun k => ?_⟩
  rw [hfills.equipment]
  split
  · rfl
  · rename_i hk
    rw [hnone, rows, resources_of_not_mem hk, List.map_nil]

/-! ## The copy -/

namespace HoldsAlone

theorem keyed (h : HoldsAlone u date count s) : s.tables.Keyed where
  present := h.present
  unique
    | .network => h.network ▸ Table.unique_singleton _ _
    | .equipment k => h.equipment k ▸ unique_rows u count _ k
  named r hr := by
    rw [h.network, List.mem_singleton] at hr
    exact hr ▸ ⟨_, _, rfl, rfl⟩
  unnamed k r hr := by
    rw [h.equipment] at hr
    obtain ⟨x, -, rfl⟩ := List.mem_map.1 hr
    rfl

/-- The rows are all in the initial variant. -/
theorem rowsIn_initial (h : HoldsAlone u date count s) :
    s.tables.rowsIn .network u initialVariantNum = [networkRow u date] ∧
      ∀ k, s.tables.rowsIn (.equipment k) u initialVariantNum
        = rows u count initialVariantNum k := by
  refine ⟨?_, fun k => ?_⟩
  · rw [Tables.rowsIn, h.network]
    exact List.filter_eq_self.2 (List.forall_mem_singleton.2 (Row.isIn_ofNetwork.2 ⟨rfl, rfl⟩))
  · rw [Tables.rowsIn, h.equipment, filter_rows_self]

theorem rowsIn_study (h : HoldsAlone u date count s) : ∀ k, s.tables.rowsIn k u study.num = []
  | .network => by
    rw [Tables.rowsIn, h.network, List.filter_eq_nil_iff, List.forall_mem_singleton]
    exact fun hin => absurd (Row.isIn_ofNetwork.1 hin).2 (by decide : initialVariantNum ≠ study.num)
  | .equipment k => by rw [Tables.rowsIn, h.equipment, filter_rows_of_ne (by decide)]

/-- Nine rows are copied for each number: the network's stands in for the line that the first
substation lacks. -/
theorem sum_length_rowsIn (h : HoldsAlone u date count s) (hcount : 1 ≤ count) :
    (Kind.all.map fun k => (s.tables.rowsIn k u initialVariantNum).length).sum = 9 * count := by
  obtain ⟨hnetwork, hequipment⟩ := h.rowsIn_initial
  rw [Kind.all, List.map_cons, List.map_map, List.sum_cons, hnetwork]
  have hlengths : (EquipmentKind.all.map
      ((fun k => (s.tables.rowsIn k u initialVariantNum).length) ∘ Kind.equipment))
        = EquipmentKind.all.map (size count) := by
    refine List.map_congr_left fun k _ => ?_
    rw [Function.comp_apply, hequipment, rows, List.length_map, length_resources]
  rw [hlengths, sum_size]
  simp only [List.length_singleton]
  omega

end HoldsAlone

/-- A store holds the resources of the sample in a variant. -/
structure HoldsIn (u : Uuid) (count : Nat) (v : Int32) (s : Store) : Prop where
  available : s.Available
  present : ∀ k, (s.tables.table? k).isSome
  rowsIn : ∀ k, s.tables.rowsIn (.equipment k) u v = rows u count v k

theorem HoldsAlone.holdsIn (h : HoldsAlone u date count s) :
    HoldsIn u count initialVariantNum s :=
  ⟨h.available, h.present, h.rowsIn_initial.2⟩

/-- The network and its copy name the two variants. -/
theorem variantsOf_copied {ts : Tables} (hpresent : (ts.table? .network).isSome)
    (hrows : ts.rows .network
      = [networkRow u date, (networkRow u date).toVariantNum study.num study.id]) :
    Store.variantsOf u ts = .ok [⟨initialVariantId, initialVariantNum⟩, study] := by
  let initial : Variant := ⟨initialVariantId, initialVariantNum⟩
  have hinitial : (networkRow u date).toVariant = .ok initial :=
    Row.toVariant_eq_ok.2 ⟨rfl, rfl⟩
  have hstudy : ((networkRow u date).toVariantNum study.num study.id).toVariant = .ok study :=
    Row.toVariant_eq_ok.2 ⟨rfl, rfl⟩
  have hof : (ts.rows .network).filter (·.isOf u)
      = [networkRow u date, (networkRow u date).toVariantNum study.num study.id] := by
    have hrow : (networkRow u date).isOf u = true := Row.isOf_iff.2 rfl
    have hcopy : ((networkRow u date).toVariantNum study.num study.id).isOf u = true := hrow
    rw [hrows, List.filter_eq_self]
    simp [hrow, hcopy]
  rw [Store.variantsOf_eq hpresent u, hof]
  · rw [List.map_cons, List.map_singleton, Row.variant_of_toVariant hinitial,
      Row.variant_of_toVariant hstudy, Store.sortVariants, List.mergeSort_of_pairwise (by decide)]
  · rw [hof]
    simp [Row.variant_of_toVariant hinitial, Row.variant_of_toVariant hstudy, hinitial, hstudy]

/-- The sample is copied to the variant for studies. -/
theorem cloneToStudy_of_holdsAlone (h : HoldsAlone u date count s) (hcount : 1 ≤ count) :
    (cloneToStudy u s).result = .ok (9 * count) ∧
      HoldsIn u count initialVariantNum (cloneToStudy u s).store ∧
      HoldsIn u count study.num (cloneToStudy u s).store ∧
      (Store.listVariants u (cloneToStudy u s).store).result
        = .ok [⟨initialVariantId, initialVariantNum⟩, study] := by
  have hid : Validation.variantId study.id = .ok () := by decide
  have hfree : ∀ r ∈ s.tables.rows .network, r.isOf u = true →
      r.variantId ≠ some (.text study.id) := by
    rw [h.network, List.forall_mem_singleton]
    exact fun _ hsame => absurd (Cell.text.inj (Option.some.inj hsame)) (by decide)
  obtain ⟨hresult, hrows⟩ := @Store.cloneVariant_of_free s u initialVariantNum study.num study.id ""
    h.available (by decide) (by decide) (by decide) hid h.keyed h.rowsIn_study hfree
  obtain ⟨-, hpresent, hleft⟩ := @Store.of_cloneVariant_ok s u initialVariantNum study.num
    (some study.id) "" study.id h.available (by decide) (by decide) (by decide)
    (Store.targetVariantId_some hid) _ hresult
  have havailable := (@Store.leftByCopy_cloneVariant s u initialVariantNum study.num study.id ""
    h.available (by decide) (by decide) (by decide) hid).available h.available
  have hcall : cloneToStudy u
      = Store.cloneVariant u initialVariantNum study.num (some study.id) "" := rfl
  rw [← hcall] at hresult hrows hpresent hleft havailable
  rw [h.sum_length_rowsIn hcount] at hresult
  generalize (cloneToStudy u s).store = left at *
  replace hpresent (k : Kind) : (left.tables.table? k).isSome := (hpresent k).symm ▸ h.present k
  refine ⟨hresult, ⟨havailable, hpresent, fun k => ?_⟩, ⟨havailable, hpresent, fun k => ?_⟩, ?_⟩
  · exact (hrows (.equipment k)).2.trans (h.rowsIn_initial.2 k)
  · refine (hrows (.equipment k)).1.trans ?_
    rw [h.rowsIn_initial.2, rows, List.map_map]
    rfl
  · rw [Store.listVariants_result havailable]
    refine @variantsOf_copied u date _ (hpresent _) ((hleft .network).trans ?_)
    have hcopied : (s.tables.rows .network).filter (·.isIn u initialVariantNum)
        = [networkRow u date] := h.rowsIn_initial.1
    rw [Tables.copies, hcopied, h.network]
    rfl

end GridStore.Sample
