import GridStore.Proofs.Mappings
import GridStore.Proofs.Reachable
import GridStore.Proofs.Refinement
import GridStore.Proofs.VariantCopy

/-!
# Listing, looking up, and looking up by container

Whatever requests lead to holds contents (`Store.Reachable.holds`), so what a table has in a variant
are entries of a map, one for each id (`Table.Stores.exists_entries`). Listing a variant reads them
all (`getAll_of_entries`), and a container lookup those that name the container at one of their
sides (`getByContainer_of_entries`), so both agree with looking up one id
(`Store.Reachable.lookups_agree`).
-/

namespace GridStore

open Call

/-! ## Stores that requests lead to hold contents -/

theorem Tables.Tracks.exists_holds {α : Type} {statement : Tables → Except StoreError (Tables × α)}
    {change : Change} (h : Tables.Tracks statement change) {ts ts' : Tables} {a : α}
    (hts : ∃ c, ts.Holds c) (hdone : statement ts = .ok (ts', a)) : ∃ c, ts'.Holds c := by
  obtain ⟨c, hc⟩ := hts
  rcases h ts c hc with ⟨_, _, c', hok, -, hc'⟩ | ⟨⟨e, he⟩, -⟩
  · rw [hdone] at hok
    obtain ⟨rfl, -⟩ := Prod.mk.inj (Except.ok.inj hok)
    exact ⟨c', hc'⟩
  · rw [hdone] at he
    cases he

/-- A statement of a request leaves tables that hold contents. -/
theorem Request.Writes.exists_holds {q : Request} {ts ts' : Tables} (h : q.Writes ts ts')
    (hts : ∃ c, ts.Holds c) : ∃ c, ts'.Holds c := by
  cases h with
  | @create _ network _ r _ _ _ _ hdone =>
    exact (Tables.tracks_insert network r).exists_holds hts (a := ()) (by rw [hdone]; rfl)
  | @update _ network _ r _ _ _ _ _ hdone =>
    exact (Tables.tracks_replace network r).exists_holds hts hdone
  | @delete _ network n id _ _ _ hdone => exact (tracks_deleteAt n id).exists_holds hts hdone
  | @createNetworks _ _ r id _ _ _ _ hrow hdone =>
    obtain ⟨-, rfl⟩ := newNetworkRow_eq_ok_iff.1 hrow
    let x : Variant := ⟨r.attributes.effectiveVariantId r.variantNum id, r.variantNum⟩
    exact (Tables.tracks_insertVariant (x := x) (Row.isOf_iff.2 rfl)
      (Row.toVariant_eq_ok.2 ⟨rfl, rfl⟩)).exists_holds hts (a := ()) (by rw [hdone]; rfl)
  | @updateNetworks _ r _ _ _ _ _ hdone =>
    exact (Tables.tracks_replaceNetwork r).exists_holds hts hdone
  | @deleteNetwork network k _ _ _ hdone => exact (tracks_deleteOf network k).exists_holds hts hdone
  | @deleteVariant network v k _ _ _ _ hdone =>
    exact (tracks_deleteIn network v k).exists_holds hts hdone
  | @cloneVariant network source target _ _ id k _ _ _ _ _ hdone =>
    exact (tracks_copyToVariant network source target id k).exists_holds hts hdone
  | @cloneNetwork target source _ v k _ _ _ _ hdone =>
    exact (tracks_copyToNetwork target source v k).exists_holds hts hdone

theorem Store.Reachable.holds {P : Request → Prop} {s : Store} (h : s.Reachable P) :
    ∃ c, s.tables.Holds c :=
  h.induction ⟨_, Tables.holds_blank⟩ fun _ _ _ _ hwrite hts => hwrite.exists_holds hts

/-! ## The entries of a variant -/

section Entries

variable {A : Type} [Attributes A] {k : EquipmentKind} {rows : List Row} {m : EquipmentMap A}
  {u : Uuid} {v : Int32}

/-- The rows of a variant are those of its entries, one for each id. -/
theorem Table.Stores.exists_entries (h : Stores rows m) (hu : Unique (.equipment k) rows) (u : Uuid)
    (v : Int32) : ∃ es : List (String × A),
      rows.filter (·.isIn u v) = es.map (fun e => Row.ofEntry u v e.1 e.2) ∧
        (es.map Prod.fst).Nodup ∧ ∀ i a, (i, a) ∈ es ↔ m u v i = some a := by
  have hrows : rows.filter (·.isIn u v) ∈ Set.range (List.map
      fun e : { e : String × A // m u v e.1 = some e.2 } => Row.ofEntry u v e.1.1 e.1.2) := by
    rw [Set.range_list_map]
    intro r hr
    obtain ⟨hr, hin⟩ := List.mem_filter.1 hr
    obtain ⟨u', v', i, a, ha, rfl⟩ := h.exists hr
    obtain ⟨rfl, rfl⟩ := Row.isIn_ofEntry.1 hin
    exact ⟨⟨(i, a), ha⟩, rfl⟩
  obtain ⟨held, hheld⟩ := hrows
  have hmap : rows.filter (·.isIn u v)
      = (held.map Subtype.val).map (fun e => Row.ofEntry u v e.1 e.2) := by
    rw [List.map_map, ← hheld]
    rfl
  refine ⟨held.map Subtype.val, hmap, ?_, fun i a => ⟨fun hmem => ?_, fun ha => ?_⟩⟩
  · have hunique := hu.filter (·.isIn u v)
    rw [hmap, Unique, List.pairwise_map] at hunique
    rw [List.nodup_iff_pairwise_ne, List.pairwise_map]
    refine hunique.imp fun hclash heq => ?_
    rw [Row.clash_ofEntry.2 ⟨rfl, rfl, heq⟩] at hclash
    cases hclash
  · obtain ⟨⟨_, ha⟩, -, rfl⟩ := List.mem_map.1 hmem
    exact ha
  · have hrow := List.mem_filter.2 ⟨h.mem ha, Row.isIn_ofEntry.2 ⟨rfl, rfl⟩⟩
    rw [hmap] at hrow
    obtain ⟨⟨j, b⟩, he, heq⟩ := List.mem_map.1 hrow
    obtain rfl : j = i := by simpa [Row.ofEntry, Row.ofEquipment, Resource.of] using congrArg Row.id heq
    obtain ⟨⟨_, hb⟩, -, rfl⟩ := List.mem_map.1 he
    obtain rfl := Option.some.inj (ha.symm.trans hb)
    exact he

variable [StoredAttributes A]

/-- The resource that is read of an entry. -/
def Resource.ofEntry (v : Int32) (e : String × A) : Resource A :=
  .of e.1 v (StoredAttributes.settled e.2)

theorem mapM_toEquipment (es : List (String × A)) :
    (es.map fun e => Row.ofEntry u v e.1 e.2).mapM (fun r => r.toEquipment A v)
      = .ok (es.map (Resource.ofEntry v)) := by
  rw [List.mapM_map]
  exact Store.mapM_eq_ok fun e _ => Row.toEquipment_ofEntry e.2

theorem map_id_ofEntry (es : List (String × A)) :
    (es.map (Resource.ofEntry v)).map (·.id) = es.map Prod.fst := by
  rw [List.map_map]
  rfl

end Entries

/-! ## Containers -/

/-- The containers that an equipment is attached to, one for each of its sides. -/
def EquipmentKind.containerIds : (k : EquipmentKind) → k.Attributes → List String
  | .substation => fun _ => []
  | .voltageLevel => fun (a : VoltageLevel) => [a.substationId]
  | .generator => fun (a : Generator) => [a.voltageLevelId]
  | .battery => fun (a : Battery) => [a.voltageLevelId]
  | .load => fun (a : Load) => [a.voltageLevelId]
  | .shuntCompensator => fun (a : ShuntCompensator) => [a.voltageLevelId]
  | .vscConverterStation => fun (a : VscConverterStation) => [a.voltageLevelId]
  | .lccConverterStation => fun (a : LccConverterStation) => [a.voltageLevelId]
  | .staticVarCompensator => fun (a : StaticVarCompensator) => [a.voltageLevelId]
  | .busbarSection => fun (a : BusbarSection) => [a.voltageLevelId]
  | .switch => fun (a : Switch) => [a.voltageLevelId]
  | .twoWindingsTransformer => fun (a : TwoWindingsTransformer) =>
    [a.voltageLevelId1, a.voltageLevelId2]
  | .threeWindingsTransformer => fun (a : ThreeWindingsTransformer) =>
    [a.voltageLevelId1, a.voltageLevelId2, a.voltageLevelId3]
  | .line => fun (a : Line) => [a.voltageLevelId1, a.voltageLevelId2]
  | .hvdcLine => fun _ => []
  | .danglingLine => fun (a : DanglingLine) => [a.voltageLevelId]
  | .configuredBus => fun (a : ConfiguredBus) => [a.voltageLevelId]

section Containers

variable {k : EquipmentKind} {u : Uuid} {v : Int32} {i container : String}

theorem containerIds_settled (a : k.Attributes) :
    k.containerIds (StoredAttributes.settled a) = k.containerIds a := by
  cases k <;> rfl

/-- The container columns hold the containers. -/
theorem map_cell_containers (a : k.Attributes) :
    ((Attributes.mapping (A := k.Attributes)).fields.filter
        (·.name ∈ (Attributes.schema k.Attributes).containers)).map (·.cell a)
      = (k.containerIds a).map .text := by
  cases k <;> rfl

theorem isAttached_ofEntry (a : k.Attributes) :
    (Row.ofEntry u v i a).isAttached (Attributes.schema k.Attributes) container = true ↔
      container ∈ k.containerIds a := by
  have hzip : (Attributes.schema k.Attributes).columnNames.zip (Row.ofEntry u v i a).values
      = (Attributes.mapping (A := k.Attributes)).fields.map fun f => (f.name, f.cell a) := by
    have hvalues : (Row.ofEntry u v i a).values
        = (Attributes.mapping (A := k.Attributes)).fields.map (·.cell a) := Row.ofAttributes_eq a
    rw [hvalues, Attributes.schema, Mapping.columnNames_schema, List.zip_map']
  have hmem : container ∈ k.containerIds a ↔ Cell.text container ∈ (k.containerIds a).map .text := by
    rw [List.mem_map_of_injective fun _ _ => Cell.text.inj]
  rw [hmem, ← map_cell_containers, Row.isAttached, hzip]
  simp [and_assoc]

/-- A table has the statement that looks for a container if a column names one. -/
theorem hasContainer_iff :
    (Attributes.schema k.Attributes).hasContainer = true ↔ k ≠ .substation ∧ k ≠ .hvdcLine := by
  cases k <;> decide

theorem exists_statement (hcontainer : (Attributes.schema k.Attributes).hasContainer = true) :
    ∃ statement, Call.statement (Attributes.kind k.Attributes) .selectByContainer
      = answer statement := by
  cases k
  all_goals first | exact ⟨_, rfl⟩ | cases hcontainer

theorem statement_eq_fail (hcontainer : (Attributes.schema k.Attributes).hasContainer = false) :
    Call.statement (Attributes.kind k.Attributes) .selectByContainer
      = fail (.noStatement k.table .selectByContainer) := by
  cases k
  all_goals first | rfl | cases hcontainer

end Containers

/-! ## Reading a variant -/

theorem Store.distinctById_of_nodup {A : Type} [Attributes A] : ∀ {rs : List (Resource A)}
    {seen : List String}, (rs.map (·.id)).Nodup → (∀ r ∈ rs, r.id ∉ seen) →
      distinctById seen rs = rs
  | [], _, _, _ => rfl
  | r :: rs, seen, hnodup, hseen => by
    rw [List.map_cons, List.nodup_cons] at hnodup
    rw [List.forall_mem_cons] at hseen
    rw [distinctById, if_neg hseen.1, distinctById_of_nodup hnodup.2]
    intro s hs hmem
    rcases List.mem_cons.1 hmem with heq | hmem
    · exact hnodup.1 (heq ▸ List.mem_map_of_mem hs)
    · exact hseen.2 s hs hmem

section Variant

variable {s : Store} {c : Contents} {k : EquipmentKind} {u : Uuid} {v : Int32}
  {es : List (String × k.Attributes)}

theorem getAll_of_entries (hs : s.Available) (hpresent : (s.tables.table? (.equipment k)).isSome)
    (hes : s.tables.rowsIn (.equipment k) u v = es.map fun e => Row.ofEntry u v e.1 e.2) :
    (Store.getAll k.Attributes u v s).result = .ok (es.map (Resource.ofEntry v)) := by
  rw [← k.kind_attributes] at hpresent hes
  rw [Store.getAll_result hs u v hpresent, hes, mapM_toEquipment]

/-- A container is looked up among the entries that name it, and no entry is found twice. -/
theorem getByContainer_of_entries (hs : s.Available)
    (hpresent : (s.tables.table? (.equipment k)).isSome)
    (hes : s.tables.rowsIn (.equipment k) u v = es.map fun e => Row.ofEntry u v e.1 e.2)
    (hnodup : (es.map Prod.fst).Nodup)
    (hcontainer : (Attributes.schema k.Attributes).hasContainer = true) (container : String) :
    (Store.getByContainer k.Attributes u v container s).result
      = .ok ((es.filter fun e => container ∈ k.containerIds e.2).map (Resource.ofEntry v)) := by
  let attached := es.filter fun e => container ∈ k.containerIds e.2
  have hrows : (Call.query (fun ts => ts.select (Attributes.kind k.Attributes) fun row =>
      row.isIn u v && row.isAttached (Attributes.schema k.Attributes) container) s).result
        = .ok (attached.map fun e => Row.ofEntry u v e.1 e.2) := by
    have hfilter : (s.tables.rows (.equipment k)).filter (fun row =>
        row.isIn u v && row.isAttached (Attributes.schema k.Attributes) container)
          = attached.map fun e => Row.ofEntry u v e.1 e.2 := by
      simp only [Bool.and_comm (Row.isIn u v _)]
      rw [← List.filter_filter, ← Tables.rowsIn, hes, List.filter_map]
      refine congrArg _ (List.filter_congr fun e _ => ?_)
      rw [Function.comp_apply, Bool.eq_iff_iff, isAttached_ofEntry, decide_eq_true_iff]
    rw [result_query, k.kind_attributes, Tables.select, Tables.existing_of_isSome hpresent, ← hfilter]
    rfl
  have hdistinct : Store.distinctById [] (attached.map (Resource.ofEntry v))
      = attached.map (Resource.ofEntry v) := by
    refine Store.distinctById_of_nodup ?_ fun r _ => List.not_mem_nil
    rw [map_id_ofEntry]
    exact hnodup.sublist (List.filter_sublist.map _)
  obtain ⟨statement, hstatement⟩ := exists_statement hcontainer
  have hread : ((attached.map fun e => Row.ofEntry u v e.1 e.2).mapM
      (fun row => Call.ofExcept (row.toEquipment k.Attributes v)) s).result
        = .ok (attached.map (Resource.ofEntry v)) := by
    rw [mapM_ofExcept, result_ofExcept, mapM_toEquipment]
  unfold Store.getByContainer
  rw [bind_of_answer (congrFun hstatement s), (bind_of_ok (result_acquire hs) _).2, store_acquire,
    (bind_of_ok hrows _).2, store_query, (bind_of_ok hread _).2, hdistinct]
  rfl

theorem getByContainer_eq_error
    (hcontainer : (Attributes.schema k.Attributes).hasContainer = false) (u : Uuid) (v : Int32)
    (container : String) (s : Store) :
    (Store.getByContainer k.Attributes u v container s).result
      = .error (.noStatement k.table .selectByContainer) := by
  unfold Store.getByContainer
  rw [statement_eq_fail hcontainer]
  rfl

/-- Without a connection every way to look for equipment fails alike. -/
theorem lookups_of_not_available (hs : ¬ s.Available) (k : EquipmentKind) (u : Uuid) (v : Int32) :
    ∃ e, (Store.getAll k.Attributes u v s).result = .error e ∧
      (∀ id, (Store.getOne k.Attributes u v id s).result = .error e) ∧
      ((Attributes.schema k.Attributes).hasContainer = true → ∀ container,
        (Store.getByContainer k.Attributes u v container s).result = .error e) := by
  obtain ⟨e, he, -⟩ := result_acquire_of_not_available hs
  refine ⟨e, (bind_of_error he _).2, fun id => (bind_of_error he _).2, fun hcontainer container => ?_⟩
  obtain ⟨statement, hstatement⟩ := exists_statement hcontainer
  unfold Store.getByContainer
  rw [bind_of_answer (congrFun hstatement s), (bind_of_error he _).2]

end Variant

theorem mem_ofEntry_iff {s : Store} {c : Contents} (h : s.Holds c) {k : EquipmentKind} {u : Uuid}
    {v : Int32} {es : List (String × k.Attributes)}
    (hmem : ∀ i a, (i, a) ∈ es ↔ c.equipment k u v i = some a) (r : Resource k.Attributes) :
    r ∈ es.map (Resource.ofEntry v) ↔
      (Store.getOne k.Attributes u v r.id s).result = .ok (some r) := by
  rw [getOne_of_holds h, List.mem_map]
  constructor
  · rintro ⟨⟨i, a⟩, he, rfl⟩
    have ha := (hmem i a).1 he
    show _ = Except.ok (some (Resource.ofEntry v (i, a)))
    rw [show (Resource.ofEntry v (i, a)).id = i from rfl, ha]
    rfl
  · intro hread
    obtain ⟨a, ha, hr⟩ := Option.map_eq_some_iff.1 (Except.ok.inj hread)
    exact ⟨(r.id, a), (hmem r.id a).2 ha, hr⟩

/-- Wherever requests lead, listing a variant finds each id once, and a resource if and only if its
id is found as that resource. Looking for a container finds each id once, and what is listed if the
container is at one of its sides, at however many. Kinds without a container refuse to look for one,
in any store. -/
theorem Store.Reachable.lookups_agree {P : Request → Prop} {s : Store} (h : s.Reachable P) :
    (s.Available → ∀ (k : EquipmentKind) (u : Uuid) (v : Int32), ∃ listed,
        (Store.getAll k.Attributes u v s).result = .ok listed ∧
        (listed.map (·.id)).Nodup ∧
        (∀ r, r ∈ listed ↔ (Store.getOne k.Attributes u v r.id s).result = .ok (some r)) ∧
        (k ≠ .substation ∧ k ≠ .hvdcLine → ∀ container, ∃ attached,
          (Store.getByContainer k.Attributes u v container s).result = .ok attached ∧
          (attached.map (·.id)).Nodup ∧
          ∀ r, r ∈ attached ↔ r ∈ listed ∧ container ∈ k.containerIds r.attributes)) ∧
      (¬ s.Available → ∀ (k : EquipmentKind) (u : Uuid) (v : Int32), ∃ e,
        (Store.getAll k.Attributes u v s).result = .error e ∧
        (∀ id, (Store.getOne k.Attributes u v id s).result = .error e) ∧
        (k ≠ .substation ∧ k ≠ .hvdcLine → ∀ container,
          (Store.getByContainer k.Attributes u v container s).result = .error e)) ∧
      ∀ k : EquipmentKind, k = .substation ∨ k = .hvdcLine →
        ∀ (t : Store) (u : Uuid) (v : Int32) (container : String), ∃ e,
          (Store.getByContainer k.Attributes u v container t).result = .error e ∧
          e = .noStatement k.table .selectByContainer ∧ e.code = "Internal" := by
  refine ⟨fun hs k u v => ?_, fun hs k u v => ?_, fun k hk t u v container => ?_⟩
  · obtain ⟨c, hc⟩ := h.holds
    obtain ⟨es, hes, hnodup, hmem⟩ := (hc.stores k).exists_entries (hc.unique _) u v
    refine ⟨_, getAll_of_entries hs (hc.present _) hes, ?_, mem_ofEntry_iff ⟨hs, hc⟩ hmem,
      fun hk container => ⟨_, getByContainer_of_entries hs (hc.present _) hes hnodup
        (hasContainer_iff.2 hk) container, ?_, fun r => ?_⟩⟩
    · rw [map_id_ofEntry]
      exact hnodup
    · rw [map_id_ofEntry]
      exact hnodup.sublist (List.filter_sublist.map _)
    · have hattached (e : String × k.Attributes) :
          container ∈ k.containerIds (Resource.ofEntry v e).attributes ↔
            container ∈ k.containerIds e.2 := by
        rw [Resource.ofEntry, Resource.of, containerIds_settled]
      simp only [List.mem_map, List.mem_filter, decide_eq_true_iff]
      constructor
      · rintro ⟨e, ⟨he, hin⟩, rfl⟩
        exact ⟨⟨e, he, rfl⟩, (hattached e).2 hin⟩
      · rintro ⟨⟨e, he, rfl⟩, hin⟩
        exact ⟨e, ⟨he, (hattached e).1 hin⟩, rfl⟩
  · obtain ⟨e, hall, hone, hattached⟩ := lookups_of_not_available hs k u v
    exact ⟨e, hall, hone, fun hk => hattached (hasContainer_iff.2 hk)⟩
  · have hnone : (Attributes.schema k.Attributes).hasContainer = false := by
      rw [Bool.eq_false_iff, ne_eq, hasContainer_iff]
      rintro ⟨hsubstation, hline⟩
      exact hk.elim hsubstation hline
    exact ⟨_, getByContainer_eq_error hnone u v container t, rfl, rfl⟩

/-- A line with both sides in one voltage level. -/
def Line.loop : Line :=
  { (default : Line) with voltageLevelId1 := "v", voltageLevelId2 := "v" }

/-- It is found there once. -/
theorem Store.Reachable.lookups_agree_loop :
    let s := Request.runAll [.create .line .nil [.of "l" 0 Line.loop]] .blank
    s.Reachable (fun _ => True) ∧ ∃ attached,
      (Store.getByContainer Line .nil 0 "v" s).result = .ok attached ∧
        (attached.map (·.id)).Nodup ∧ .of "l" 0 Line.loop ∈ attached := by
  intro s
  have hreach : s.Reachable fun _ => True := reachable_runAll (.new rfl) fun _ _ => trivial
  have hblank : Store.blank.Available := ⟨rfl, by decide⟩
  have hone : (Store.getOne Line .nil 0 "l" s).result = .ok (some (.of "l" 0 Line.loop)) :=
    (getOne_runAll (s := Store.blank) rfl [.create .line .nil [.of "l" 0 Line.loop]] .line .nil 0
      "l").2 hblank
  obtain ⟨listed, -, -, hlisted, hcontainers⟩ :=
    hreach.lookups_agree.1 ((available_runAll _).2 hblank) .line .nil 0
  obtain ⟨attached, hread, hnodup, hattached⟩ := hcontainers (by decide) "v"
  refine ⟨hreach, attached, hread, hnodup, (hattached _).2 ⟨(hlisted _).2 hone, ?_⟩⟩
  exact List.mem_cons_self

end GridStore
