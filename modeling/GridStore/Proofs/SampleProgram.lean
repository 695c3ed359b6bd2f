import GridStore.Proofs.SampleStored
import GridStore.Proofs.Separation
import GridStore.Seed.Program

/-!
# The seed program

Where a store holds the sample in a variant, every resource of it is found by its id with its kind,
and they are counted as the program counts them (`HoldsIn`). What a store holds of other networks
makes no difference to that (`create_fresh`, `cloneToStudy_of_sameFor`). So the program succeeds on
any store without rows of its network, and leaves the sample in both variants
(`stages_consistent`).
-/

namespace GridStore.Sample

open Call

variable {u : Uuid} {date : Timestamp} {count : Nat} {s : Store}

/-! ## Reading -/

/-- Calls that only read can be made one after another where each can be made. -/
theorem exists_mapM_result {α β : Type} {c : β → Call α} (hc : ∀ b, Keeps (fun s => s) (c b)) :
    ∀ {bs : List β}, (∀ b ∈ bs, ∃ a, (c b s).result = .ok a) →
      ∃ as, (bs.mapM c s).result = .ok as
  | [], _ => ⟨[], rfl⟩
  | b :: bs, h => by
    rw [List.forall_mem_cons] at h
    obtain ⟨⟨a, ha⟩, hbs⟩ := h
    obtain ⟨as, has⟩ := exists_mapM_result hc hbs
    have hkept : (c b s).store = s := hc b s
    refine ⟨a :: as, ?_⟩
    rw [List.mapM_cons, (bind_of_ok ha _).2, hkept, (bind_of_ok has _).2]
    rfl

/-- What is read of a resource that is stored in a variant. -/
def readIn {k : EquipmentKind} (v : Int32) (r : Resource k.Attributes) : Resource k.Attributes :=
  .ofEntry v (r.id, r.attributes)

theorem keeps_count {A : Type} [Attributes A] (u : Uuid) (v : Int32) :
    Keeps (fun s => s) (Sample.count A u v) :=
  (keeps_getAll u v).bind fun _ => keeps_pure _

theorem keeps_variantLines (u : Uuid) (x : Variant) : Keeps (fun s => s) (variantLines u x) :=
  (keeps_count u _).bind fun _ => (keeps_count u _).bind fun _ => (keeps_count u _).bind fun _ =>
    (keeps_count u _).bind fun _ => (keeps_count u _).bind fun _ => (keeps_count u _).bind fun _ =>
      keeps_pure _

theorem keeps_report (u : Uuid) : Keeps (fun s => s) (report u) :=
  (keeps_listVariants u).bind fun _ => (keeps_mapM (keeps_variantLines u)).bind fun _ =>
    keeps_pure _

namespace HoldsIn

variable {v : Int32}

theorem getAll (h : HoldsIn u count v s) (k : EquipmentKind) :
    (Store.getAll k.Attributes u v s).result = .ok ((resources count k).map (readIn v)) := by
  have hrows : s.tables.rowsIn (.equipment k) u v
      = ((resources count k).map fun r => (r.id, r.attributes)).map
          fun e => Row.ofEntry u v e.1 e.2 := by
    rw [h.rowsIn, rows, List.map_map]
    rfl
  rw [getAll_of_entries h.available (h.present _) hrows, List.map_map]
  rfl

theorem getOne (h : HoldsIn u count v s) (k : EquipmentKind) (id : String) :
    (Store.getOne k.Attributes u v id s).result
      = .ok (((resources count k).find? (·.id = id)).map (readIn v)) := by
  have hid (r : Resource k.Attributes) : (Row.ofEntry u v r.id r.attributes).id = .text r.id := rfl
  rw [getOne_result h.available, lookup_result (k.kind_attributes ▸ h.present _),
    k.kind_attributes, h.rowsIn, rows, List.find?_map]
  simp only [Function.comp_def, hid, Cell.text.injEq]
  cases (resources count k).find? (·.id = id) with
  | none => rfl
  | some r =>
    dsimp only [Option.map_some, Option.mapM]
    rw [Row.toEquipment_ofEntry]
    rfl

/-- Equipment of any kind is found under its id with its kind. -/
theorem getIdentifiable (h : HoldsIn u count v s) {k : EquipmentKind} {r : Resource k.Attributes}
    (hr : r ∈ resources count k) :
    (Store.getIdentifiable u v r.id s).result = .ok (some ⟨k, readIn v r⟩) := by
  rw [getIdentifiable_of_found h.available (h.getOne · r.id)]
  refine congrArg Except.ok (findSome?_eq_some_iff.2 ⟨?_, ?_⟩)
  · rw [find?_of_nodup_map (nodup_map_id count k) hr]
    rfl
  · obtain ⟨before, after, hall⟩ := List.append_of_mem k.mem_all
    refine ⟨before, after, hall, fun j hj => ?_⟩
    have hne : j ≠ k := by
      have hnodup : EquipmentKind.all.Nodup := by decide
      rw [hall, List.nodup_append] at hnodup
      exact hnodup.2.2 j hj k List.mem_cons_self
    rw [List.find?_eq_none.2, Option.map_none]
    intro x hx hid
    exact hne (kind_eq_of_id_eq hx hr (of_decide_eq_true hid))

/-- The resources of a kind are counted. -/
theorem count_result (h : HoldsIn u count v s) (k : EquipmentKind) :
    (Sample.count k.Attributes u v s).result = .ok (size count k) := by
  rw [Sample.count, (bind_of_ok (h.getAll k) _).2, List.length_map, length_resources]
  rfl

theorem result_count_bind {α : Type} (h : HoldsIn u count v s) (k : EquipmentKind)
    (f : Nat → Call α) :
    ((Sample.count k.Attributes u v >>= f) s).result = (f (size count k) s).result := by
  have hkept : (Sample.count k.Attributes u v s).store = s := keeps_count u v s
  rw [(bind_of_ok (h.count_result k) f).2, hkept]

theorem exists_variantLines {x : Variant} (h : HoldsIn u count x.num s) :
    ∃ lines, (variantLines u x s).result = .ok lines :=
  ⟨_, (h.result_count_bind .substation _).trans <| (h.result_count_bind .voltageLevel _).trans <|
    (h.result_count_bind .generator _).trans <| (h.result_count_bind .load _).trans <|
      (h.result_count_bind .line _).trans <| (h.result_count_bind .twoWindingsTransformer _).trans
        rfl⟩

/-- A store that holds the same of the network holds the sample too. -/
theorem of_sameFor {t : Store} (hst : s.SameFor u t) (h : HoldsIn u count v t) :
    HoldsIn u count v s where
  available := by
    by_contra hs
    obtain ⟨e, he, -⟩ := result_acquire_of_not_available hs
    rw [hst.connection, result_acquire h.available] at he
    cases he
  present k := (hst.present k).trans (h.present k)
  rowsIn k := by
    rw [← h.rowsIn k, Tables.rowsIn, Tables.rowsIn,
      ← Table.filter_filter_isOf fun _ => isOf_of_isIn, hst.rows,
      Table.filter_filter_isOf fun _ => isOf_of_isIn]

end HoldsIn

/-- Where every variant that is listed holds the sample, all of them are reported on. -/
theorem exists_report {variants : List Variant}
    (hvariants : (Store.listVariants u s).result = .ok variants)
    (h : ∀ x ∈ variants, HoldsIn u count x.num s) : ∃ lines, (report u s).result = .ok lines := by
  obtain ⟨lines, hlines⟩ := exists_mapM_result (keeps_variantLines u) fun x hx =>
    (h x hx).exists_variantLines
  have hkept : (Store.listVariants u s).store = s := keeps_listVariants (f := fun s => s) u s
  refine ⟨lines.flatten, ?_⟩
  rw [report, (bind_of_ok hvariants _).2, hkept, (bind_of_ok hlines _).2]
  rfl

/-! ## Stores that hold other networks -/

theorem respects_create (u : Uuid) (date : Timestamp) (count : Nat) :
    Respects (Store.SameFor u) (create count u date) := by
  rw [create_eq]
  have hnetwork : (Request.createNetworks (fun _ => "") [network u date]).IsAbout u :=
    List.forall_mem_singleton.2 rfl
  refine hnetwork.respects.bind fun _ => respects_forM fun k _ => ?_
  have hresources : (Request.create k u (resources count k)).IsAbout u := rfl
  exact hresources.respects

/-- A store without rows of a network holds the same of it as one without rows. -/
theorem sameFor_blank (hpresent : ∀ k, (s.tables.table? k).isSome)
    (hfresh : ∀ k, ∀ r ∈ s.tables.rows k, r.isOf u = false) :
    s.SameFor u { s with tables := .blank } where
  connection := result_acquire_congr rfl
  present k := by
    rw [hpresent, Tables.table?_blank]
    rfl
  rows k := by
    rw [Tables.rows_blank, List.filter_nil, List.filter_eq_nil_iff]
    exact fun r hr => Bool.eq_false_iff.1 (hfresh k r hr)

/-- The sample is stored beside other networks as in a store without rows. -/
theorem create_fresh (date : Timestamp) (hcount : count < 2 ^ 63) (hs : s.Available)
    (hpresent : ∀ k, (s.tables.table? k).isSome)
    (hfresh : ∀ k, ∀ r ∈ s.tables.rows k, r.isOf u = false) :
    (create count u date s).result = .ok () ∧
      ∃ t, (create count u date s).store.SameFor u t ∧ HoldsAlone u date count t := by
  let blank : Store := { s with tables := .blank }
  have hblank : (create count u date blank).result = .ok () ∧
      HoldsAlone u date count (create count u date blank).store :=
    create_blank hcount (hs.of_tables rfl) (fun k => by rw [Tables.table?_blank]; rfl)
      Tables.rows_blank
  obtain ⟨hresult, hsame⟩ := respects_create u date count s blank (sameFor_blank hpresent hfresh)
  exact ⟨hresult.trans hblank.1, _, hsame, hblank.2⟩

theorem cloneToStudy_of_sameFor {t : Store} (hst : s.SameFor u t) (h : HoldsAlone u date count t)
    (hcount : 1 ≤ count) :
    (cloneToStudy u s).result = .ok (9 * count) ∧
      HoldsIn u count initialVariantNum (cloneToStudy u s).store ∧
      HoldsIn u count study.num (cloneToStudy u s).store ∧
      (Store.listVariants u (cloneToStudy u s).store).result
        = .ok [⟨initialVariantId, initialVariantNum⟩, study] := by
  obtain ⟨hresult, hinitial, hstudy, hvariants⟩ := cloneToStudy_of_holdsAlone h hcount
  obtain ⟨hsame, hleft⟩ :=
    respects_cloneVariant initialVariantNum study.num (some study.id) "" s t hst
  exact ⟨hsame.trans hresult, hinitial.of_sameFor hleft, hstudy.of_sameFor hleft,
    (respects_listVariants _ _ hleft).1.trans hvariants⟩

end GridStore.Sample

namespace GridStore.Seed

open Call

/-- A stage that does not fail is followed by the others. -/
theorem printing_cons {α : Type} {c : Call α} {s : Store} {a : α} (h : (c s).result = .ok a)
    (f : α → List PrintedLine) (cs : List (Call (List PrintedLine))) :
    (printing ((do return f (← c)) :: cs) s).2 = (printing cs (c s).store).2 := by
  obtain ⟨hstore, hresult⟩ := bind_of_ok h fun a => pure (f a)
  have hok : ((c >>= fun a => pure (f a)) s).result = .ok (f a) := hresult
  rw [printing]
  simp only [hok, hstore]
  rfl

/-- The sample is stored, copied and reported on. -/
theorem printing_stages {u : Uuid} {date : Timestamp} {n copied : Nat} {lines : List String}
    {s : Store} :
    let created := Sample.create n u date s
    let cloned := Sample.cloneToStudy u created.store
    created.result = .ok () → cloned.result = .ok copied →
      (Sample.report u cloned.store).result = .ok lines →
        (printing (stages n ⟨u, date⟩) s).2 = (true, cloned.store) := by
  intro created cloned hcreated hcloned hreport
  have hkept : (Sample.report u cloned.store).store = cloned.store := Sample.keeps_report u _
  calc (printing (stages n ⟨u, date⟩) s).2
    _ = (printing ((stages n ⟨u, date⟩).drop 1) created.store).2 := printing_cons hcreated _ _
    _ = (printing ((stages n ⟨u, date⟩).drop 2) cloned.store).2 := printing_cons hcloned _ _
    _ = (true, (Sample.report u cloned.store).store) := printing_cons hreport _ _
    _ = (true, cloned.store) := by rw [hkept]

/-- For any number of substations that is asked for, on any store that has the tables, a connection
and no row of the network, whatever the size of its batches, the program builds one consistent
network. Its ids are valid, and no two of them are the same; what resources are in is in it too. All
of it is stored, and then copied, nine rows for each substation, to a second variant. In both
variants every id leads to the resource that was stored under it, with its kind, and there are as
many resources of each kind as were made. -/
theorem stages_consistent {s : Store} (count : Nat) (u : Uuid) (date : Timestamp)
    (hcount : max count 1 < 2 ^ 63) (hs : s.Available)
    (hpresent : ∀ k, (s.tables.table? k).isSome)
    (hfresh : ∀ k, ∀ r ∈ s.tables.rows k, r.isOf u = false) :
    let n := max count 1
    let created := Sample.create n u date s
    let copied := Sample.cloneToStudy u created.store
    Validation.resourceId (Sample.network u date).id = .ok () ∧
      (∀ k, ∀ r ∈ Sample.resources n k, Validation.resourceId r.id = .ok ()) ∧
      ((Sample.network u date).id ::
        EquipmentKind.all.flatMap fun k => (Sample.resources n k).map (·.id)).Nodup ∧
      Sample.Connected n ∧
      created.result = .ok () ∧
      (∀ k, ∀ r ∈ Sample.resources n k,
        (Store.getIdentifiable u initialVariantNum r.id created.store).result
          = .ok (some ⟨k, Sample.readIn initialVariantNum r⟩)) ∧
      copied.result = .ok (9 * n) ∧
      (Store.listVariants u copied.store).result
        = .ok [⟨initialVariantId, initialVariantNum⟩, Sample.study] ∧
      (∀ v ∈ [initialVariantNum, Sample.study.num],
        (∀ k, ∀ r ∈ Sample.resources n k, (Store.getIdentifiable u v r.id copied.store).result
          = .ok (some ⟨k, Sample.readIn v r⟩)) ∧
        (Sample.count Substation u v copied.store).result = .ok n ∧
        (Sample.count VoltageLevel u v copied.store).result = .ok (2 * n) ∧
        (Sample.count Generator u v copied.store).result = .ok n ∧
        (Sample.count Load u v copied.store).result = .ok n ∧
        (Sample.count Line u v copied.store).result = .ok (n - 1) ∧
        (Sample.count TwoWindingsTransformer u v copied.store).result = .ok n) ∧
      (printing (stages n ⟨u, date⟩) s).2 = (true, copied.store) := by
  intro n created copied
  have hn : 1 ≤ n := Nat.le_max_right count 1
  obtain ⟨hcreated, t, hsame, hholds⟩ := Sample.create_fresh date hcount hs hpresent hfresh
  obtain ⟨hcopied, hinitial, hstudy, hvariants⟩ :=
    Sample.cloneToStudy_of_sameFor hsame hholds hn
  have hboth : ∀ v ∈ [initialVariantNum, Sample.study.num], Sample.HoldsIn u n v copied.store :=
    List.forall_mem_cons.2 ⟨hinitial, List.forall_mem_singleton.2 hstudy⟩
  obtain ⟨lines, hreport⟩ := Sample.exists_report hvariants fun x hx =>
    hboth x.num (List.mem_map_of_mem (f := Variant.num) hx)
  refine ⟨Sample.valid_network_id u date, Sample.valid_ids hcount,
    Sample.nodup_network_ids n u date, Sample.connected n, hcreated, fun k r hr => ?_, hcopied,
    hvariants, fun v hv => ?_, printing_stages hcreated hcopied hreport⟩
  · exact (hholds.holdsIn.of_sameFor hsame).getIdentifiable hr
  · have h := hboth v hv
    exact ⟨fun k r hr => h.getIdentifiable hr, h.count_result .substation,
      h.count_result .voltageLevel, h.count_result .generator, h.count_result .load,
      h.count_result .line, h.count_result .twoWindingsTransformer⟩

/-- Two substations are stored beside another network. -/
theorem stages_consistent_two :
    max 2 1 < 2 ^ 63 ∧ Store.single.Available ∧
      (∀ k, (Store.single.tables.table? k).isSome) ∧
      (∀ k, ∀ r ∈ Store.single.tables.rows k, r.isOf ⟨1⟩ = false) ∧
      let created := Sample.create 2 ⟨1⟩ default Store.single
      let copied := Sample.cloneToStudy ⟨1⟩ created.store
      copied.result = .ok 18 ∧
        (Sample.count Line ⟨1⟩ Sample.study.num copied.store).result = .ok 1 ∧
        (Store.getIdentifiable ⟨1⟩ Sample.study.num "S1_400" copied.store).result
          = .ok (some ⟨.voltageLevel, Sample.readIn (k := .voltageLevel) Sample.study.num
              (Sample.voltageLevel 1 400)⟩) := by
  have hs : Store.single.Available := ⟨rfl, by decide⟩
  have hfresh (k : Kind) : ∀ r ∈ Store.single.tables.rows k, r.isOf ⟨1⟩ = false := by
    cases k with
    | network =>
      rw [Tables.rows_single_network, List.forall_mem_singleton, Bool.eq_false_iff, ne_eq,
        Row.isOf_iff]
      exact fun h => absurd (Cell.ofUuid_inj.1 h) (by decide)
    | equipment k =>
      rw [Tables.rows_single_equipment]
      exact List.forall_mem_nil _
  obtain ⟨-, -, -, -, -, -, hcopied, -, hboth, -⟩ := stages_consistent 2 ⟨1⟩ default (by decide) hs
    Tables.keyed_single.present hfresh
  obtain ⟨hfound, -, -, -, -, hlines, -⟩ := hboth Sample.study.num (by decide)
  refine ⟨by decide, hs, Tables.keyed_single.present, hfresh, hcopied, hlines, ?_⟩
  exact hfound .voltageLevel (Sample.voltageLevel 1 400)
    (Sample.level_mem 400 (by decide) (.inl rfl))

end GridStore.Seed
