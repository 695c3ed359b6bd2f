import GridStore.Proofs.Variants
import GridStore.Store.Startup

/-!
# Requests

The calls of a store's repositories with their arguments, as data, and the store that each leaves
behind whether it answers or fails. A run makes requests one after another. A request keeps what
its statements keep, one that only reads keeps everything, and none changes anything but the tables
(`run_eq`).
-/

namespace GridStore

open Call

/-! ## New stores -/

/-- The tables of a new database. -/
def Tables.blank : Tables :=
  Kind.all.foldl create empty

/-- A store on a new database, with one connection to it. -/
def Store.blank : Store where
  tables := .blank
  migrations := some [⟨true, true⟩]
  pool := { isOpen := true, capacity := 1, held := 0 }
  batchSize := defaultBatchSize

theorem Tables.table?_blank (k : Kind) : blank.table? k = some ⟨k.columns, []⟩ := by
  rcases k with _ | k
  · rfl
  · cases k <;> rfl

@[simp]
theorem Tables.rows_blank (k : Kind) : blank.rows k = [] := by
  rw [rows, table?_blank]
  rfl

/-- A new store with the row of a network in its initial variant. -/
def Store.single : Store :=
  { blank with
    tables := Tables.blank.setRows .network [.ofNetwork initialVariantId (.of "grid" 0 default)] }

theorem Tables.rows_single_network :
    Store.single.tables.rows .network = [.ofNetwork initialVariantId (.of "grid" 0 default)] :=
  rows_setRows_self (by rw [table?_blank]; rfl) _

theorem Tables.rows_single_equipment (k : EquipmentKind) :
    Store.single.tables.rows (.equipment k) = [] := by
  rw [Store.single, rows_setRows_of_ne (by simp), rows_blank]

theorem Tables.keyed_single : Store.single.tables.Keyed where
  present k := by
    rw [Store.single, isSome_table?_setRows, table?_blank]
    rfl
  unique k := by
    rcases k with _ | k
    · rw [rows_single_network]
      exact List.pairwise_singleton _ _
    · rw [rows_single_equipment]
      exact List.Pairwise.nil
  named r hr := by
    rw [rows_single_network, List.mem_singleton] at hr
    subst hr
    exact ⟨0, initialVariantId, rfl, rfl⟩
  unnamed k r hr := by
    rw [rows_single_equipment] at hr
    exact absurd hr List.not_mem_nil

/-- Tables of every kind. -/
def Tables.ofKinds (table : Kind → Table) : Tables :=
  ⟨Kind.all.map fun k => (k, table k)⟩

theorem Tables.table?_ofKinds (table : Kind → Table) (k : Kind) :
    (ofKinds table).table? k = some (table k) := by
  rcases k with _ | k
  · rfl
  · cases k <;> rfl

/-- Two variants of a network, and equipment in each of them. -/
def Row.stock : Kind → List Row
  | .network =>
    [.ofNetwork initialVariantId (.of "grid" 0 default), .ofNetwork "peak" (.of "grid" 2 default)]
  | .equipment .load =>
    [.ofEquipment .nil (.of "L1" 0 (default : Load)), .ofEquipment .nil (.of "L2" 0 (default : Load)),
      .ofEquipment .nil (.of "L1" 2 (default : Load))]
  | .equipment .generator => [.ofEquipment .nil (.of "G1" 0 (default : Generator))]
  | _ => []

/-- A new store with these rows. -/
def Store.stocked : Store :=
  { blank with tables := .ofKinds fun k => ⟨k.columns, Row.stock k⟩ }

theorem Tables.rows_stocked (k : Kind) : Store.stocked.tables.rows k = Row.stock k := by
  rw [rows, Store.stocked, table?_ofKinds]
  rfl

theorem Tables.keyed_stocked : Store.stocked.tables.Keyed where
  present k := by
    rw [Store.stocked, table?_ofKinds]
    rfl
  unique k := by
    rw [rows_stocked]
    rcases k with _ | k
    · decide
    · cases k <;> decide
  named r hr := by
    rw [rows_stocked] at hr
    rcases List.mem_pair.1 hr with rfl | rfl
    · exact ⟨0, initialVariantId, rfl, rfl⟩
    · exact ⟨2, "peak", rfl, rfl⟩
  unnamed k r hr := by
    have hnone : ∀ r ∈ Row.stock (.equipment k), r.variantId = none := by
      cases k <;> decide
    rw [rows_stocked] at hr
    exact hnone r hr

/-! ## Requests -/

/-- A call of a repository. -/
inductive Request where
  | create (k : EquipmentKind) (network : Uuid) (resources : List (Resource k.Attributes))
  | update (k : EquipmentKind) (network : Uuid) (resources : List (Resource k.Attributes))
  | delete (k : EquipmentKind) (network : Uuid) (variantNum : Int32) (id : String)
  | getOne (k : EquipmentKind) (network : Uuid) (variantNum : Int32) (id : String)
  | getAll (k : EquipmentKind) (network : Uuid) (variantNum : Int32)
  | getByContainer (k : EquipmentKind) (network : Uuid) (variantNum : Int32) (container : String)
  | getIdentifiable (network : Uuid) (variantNum : Int32) (id : String)
  | createNetworks (fresh : Nat → String) (resources : List (Resource Network))
  | updateNetworks (resources : List (Resource Network))
  | getNetwork (network : Uuid) (variantNum : Int32)
  | listNetworks
  | listVariants (network : Uuid)
  | deleteNetwork (network : Uuid)
  | deleteVariant (network : Uuid) (variantNum : Int32)
  | cloneVariant (network : Uuid) (source target : Int32) (variantId : Option String)
      (fresh : String)
  | cloneNetwork (target source : Uuid) (variantIds : List String)

namespace Request

/-- The store that a request leaves. -/
def run : Request → Store → Store
  | create _ network rs, s => (Store.create network rs s).store
  | update _ network rs, s => (Store.update network rs s).store
  | delete k network n id, s => (Store.delete k.Attributes network n id s).store
  | getOne k network n id, s => (Store.getOne k.Attributes network n id s).store
  | getAll k network n, s => (Store.getAll k.Attributes network n s).store
  | getByContainer k network n c, s => (Store.getByContainer k.Attributes network n c s).store
  | getIdentifiable network n id, s => (Store.getIdentifiable network n id s).store
  | createNetworks fresh rs, s => (Store.createNetworks fresh rs s).store
  | updateNetworks rs, s => (Store.updateNetworks rs s).store
  | getNetwork network n, s => (Store.getNetwork network n s).store
  | listNetworks, s => (Store.listNetworks s).store
  | listVariants network, s => (Store.listVariants network s).store
  | deleteNetwork network, s => (Store.deleteNetwork network s).store
  | deleteVariant network n, s => (Store.deleteVariant network n s).store
  | cloneVariant network source target variantId fresh, s =>
    (Store.cloneVariant network source target variantId fresh s).store
  | cloneNetwork target source variantIds, s => (Store.cloneNetwork target source variantIds s).store

/-- The store that requests leave, made one after another. -/
def runAll (qs : List Request) (s : Store) : Store :=
  qs.foldl (fun s q => q.run s) s

/-- What a request answers. -/
def Answer : Request → Type
  | create .. | createNetworks .. => Unit
  | update .. | delete .. | updateNetworks .. | deleteNetwork .. | deleteVariant ..
  | cloneVariant .. | cloneNetwork .. => Nat
  | getOne k .. => Option (Resource k.Attributes)
  | getAll k .. | getByContainer k .. => List (Resource k.Attributes)
  | getIdentifiable .. => Option Identifiable
  | getNetwork .. => Option (Resource Network)
  | listNetworks => List ListedNetwork
  | listVariants .. => List Variant

/-- The call that a request makes. -/
def call : (q : Request) → Call q.Answer
  | create _ network rs => Store.create network rs
  | update _ network rs => Store.update network rs
  | delete k network n id => Store.delete k.Attributes network n id
  | getOne k network n id => Store.getOne k.Attributes network n id
  | getAll k network n => Store.getAll k.Attributes network n
  | getByContainer k network n c => Store.getByContainer k.Attributes network n c
  | getIdentifiable network n id => Store.getIdentifiable network n id
  | createNetworks fresh rs => Store.createNetworks fresh rs
  | updateNetworks rs => Store.updateNetworks rs
  | getNetwork network n => Store.getNetwork network n
  | listNetworks => Store.listNetworks
  | listVariants network => Store.listVariants network
  | deleteNetwork network => Store.deleteNetwork network
  | deleteVariant network n => Store.deleteVariant network n
  | cloneVariant network source target variantId fresh =>
    Store.cloneVariant network source target variantId fresh
  | cloneNetwork target source variantIds => Store.cloneNetwork target source variantIds

theorem store_call (q : Request) (s : Store) : (q.call s).store = q.run s := by
  cases q <;> rfl

end Request

/-! ## Requests that only read -/

section Reads

variable {A γ : Type} [Attributes A] {f : Store → γ}

theorem keeps_lookup (network : Uuid) (n : Int32) (id : String) :
    Keeps f (Store.lookup A network n id) := by
  refine (keeps_query _).bind fun row => ?_
  cases row
  · exact keeps_pure _
  · exact (keeps_ofExcept _).bind fun _ => keeps_pure _

theorem keeps_getOne (network : Uuid) (n : Int32) (id : String) :
    Keeps f (Store.getOne A network n id) :=
  keeps_acquire.bind fun _ => keeps_lookup network n id

theorem keeps_getAll (network : Uuid) (n : Int32) : Keeps f (Store.getAll A network n) :=
  keeps_acquire.bind fun _ => (keeps_query _).bind fun _ => (keeps_emit _).bind fun _ =>
    keeps_mapM fun _ => keeps_ofExcept _

theorem keeps_getByContainer (network : Uuid) (n : Int32) (container : String) :
    Keeps f (Store.getByContainer A network n container) :=
  (keeps_statement _ _).bind fun _ => keeps_acquire.bind fun _ => (keeps_query _).bind fun _ =>
    (keeps_mapM fun _ => keeps_ofExcept _).bind fun _ => (keeps_emit _).bind fun _ => keeps_pure _

theorem keeps_findIdentifiable (network : Uuid) (n : Int32) (id : String) :
    ∀ kinds, Keeps f (Store.findIdentifiable network n id kinds)
  | [] => keeps_pure _
  | k :: kinds => by
    refine (keeps_lookup network n id).bind fun found => ?_
    cases found
    · exact keeps_findIdentifiable network n id kinds
    · exact keeps_pure _

theorem keeps_getIdentifiable (network : Uuid) (n : Int32) (id : String) :
    Keeps f (Store.getIdentifiable network n id) :=
  keeps_acquire.bind fun _ => keeps_findIdentifiable network n id _

theorem keeps_getNetwork (network : Uuid) (n : Int32) : Keeps f (Store.getNetwork network n) := by
  refine keeps_acquire.bind fun _ => (keeps_query _).bind fun rows => ?_
  cases rows.head?
  · exact keeps_pure _
  · exact (keeps_ofExcept _).bind fun _ => keeps_pure _

theorem keeps_listNetworks : Keeps f Store.listNetworks :=
  keeps_acquire.bind fun _ => (keeps_query _).bind fun _ => keeps_mapM fun _ => keeps_ofExcept _

theorem keeps_readVariants (network : Uuid) : Keeps f (Store.readVariants network) :=
  ((keeps_query _).bind fun _ => keeps_pure _).bind fun _ => keeps_mapM fun _ => keeps_ofExcept _

theorem keeps_listVariants (network : Uuid) : Keeps f (Store.listVariants network) :=
  keeps_acquire.bind fun _ => keeps_readVariants network

end Reads

/-! ## Requests that write -/

section Writes

variable {A γ : Type} [Attributes A] {R : Store → Store → Prop} {E : StoreError → Prop}
  [IsPreorder Store R] {network : Uuid} {n : Int32}

theorem meets_report {c : Call Nat} {e : Event} (h : Meets R E c) :
    Meets R E (c >>= fun updated =>
      if updated = 0 then emit e >>= fun _ => pure updated else pure updated) := by
  refine h.bind fun updated => ?_
  split
  · exact (meets_emit _).bind fun _ => meets_pure _
  · exact meets_pure _

section Backend

variable (hE : ∀ e : StoreError, e.OfBackend → E e)

include hE

theorem meets_insertRow {k : Kind} {r : Row}
    (h : ∀ s ts, s.tables.insert k r = .ok ts → R s { s with tables := ts }) :
    Meets R E (Store.insertRow k r) := by
  refine meets_execute fun s => ⟨fun ts _ hs => ?_, ?_⟩
  · obtain ⟨ts, hinsert, hs⟩ := Except.bind_eq_ok hs
    obtain ⟨rfl, -⟩ := Prod.mk.inj (Except.ok.inj hs)
    exact h s ts hinsert
  · exact FailsWith.bind (fun e he => hE e (Tables.failsWith_insert _ k r e he)) fun _ =>
      failsWith_ok _

theorem meets_create {rs : List (Resource A)}
    (hrule : ∀ cause, Store.checkResources rs = .error cause → E (.invalidArgument cause))
    (h : Store.checkResources rs = .ok () → ∀ r ∈ rs,
      Meets R E (Store.insertRow (Attributes.kind A) (.ofEquipment network r))) :
    Meets R E (Store.create network rs) := by
  refine meets_require_bind hrule fun hok => Store.meets_forBatches fun batch _ hbatch => ?_
  refine (meets_acquire hE).bind fun _ => (meets_forM fun row hrow => ?_).bind fun _ => meets_emit _
  obtain ⟨r, hr, rfl⟩ := List.mem_map.1 (hbatch row hrow)
  exact h hok r hr

theorem meets_update {rs : List (Resource A)}
    (hrule : ∀ cause, Store.checkResources rs = .error cause → E (.invalidArgument cause))
    (h : Store.checkResources rs = .ok () → ∀ r ∈ rs, Meets R E (Store.updateRow network r)) :
    Meets R E (Store.update network rs) := by
  refine meets_require_bind hrule fun hok => Store.meets_sumBatches fun batch _ hbatch => ?_
  refine (meets_acquire hE).bind fun _ => (meets_foldlM fun r hr _ => ?_).bind fun _ =>
    (meets_emit _).bind fun _ => meets_pure _
  exact (h hok r (hbatch r hr)).bind fun _ => meets_pure _

theorem meets_delete {id : String}
    (h : StatementMeets R E fun ts => ts.delete (Attributes.kind A) (·.isAt network n id)) :
    Meets R E (Store.delete A network n id) :=
  (meets_acquire hE).bind fun _ => (meets_execute h).bind fun _ => (meets_emit _).bind fun _ =>
    meets_pure _

theorem meets_createNetworks {fresh : Nat → String} {rs : List (Resource Network)}
    (hrule : ∀ cause, (rs.zipIdx.mapM fun (r, i) => Store.newNetworkRow (fresh i) r) = .error cause →
      E (.invalidArgument cause))
    (h : ∀ r ∈ rs, ∀ id row, Store.newNetworkRow id r = .ok row →
      Meets R E (Store.insertRow .network row)) :
    Meets R E (Store.createNetworks fresh rs) := by
  unfold Store.createNetworks
  split
  · rename_i cause hcause
    exact fun s => ⟨refl s, failsWith_error (hrule cause hcause)⟩
  · rename_i rows hrows
    refine Store.meets_forBatches fun batch _ hbatch => (meets_acquire hE).bind fun _ => ?_
    refine (meets_forM fun row hrow => ?_).bind fun _ => meets_emit _
    obtain ⟨⟨r, i⟩, hr, hnew⟩ := Except.exists_of_mem_mapM hrows row (hbatch row hrow)
    exact h r (List.fst_mem_of_mem_zipIdx hr) (fresh i) row hnew

theorem meets_updateNetworks {rs : List (Resource Network)}
    (hrule : ∀ cause, Store.checkResources rs = .error cause → E (.invalidArgument cause))
    (h : Store.checkResources rs = .ok () → ∀ r ∈ rs, Meets R E (Store.updateNetwork r)) :
    Meets R E (Store.updateNetworks rs) := by
  refine meets_require_bind hrule fun hok => Store.meets_sumBatches fun batch _ hbatch => ?_
  refine (meets_acquire hE).bind fun _ => meets_foldlM fun r hr _ => ?_
  exact (h hok r (hbatch r hr)).bind fun _ => meets_pure _

theorem meets_deleteNetwork
    (h : ∀ k, StatementMeets R E fun ts => ts.delete k (·.isOf network)) :
    Meets R E (Store.deleteNetwork network) := by
  refine (meets_acquire hE).bind fun _ => (Store.meets_runSteps fun step hstep => ?_).bind
    fun _ => (meets_emit _).bind fun _ => meets_pure _
  obtain ⟨k, -, rfl⟩ := List.mem_map.1 hstep
  exact h k

theorem meets_deleteVariant
    (hrule : ∀ cause, Validation.deletableVariant network.text n = .error cause →
      E (.invalidArgument cause))
    (h : Validation.deletableVariant network.text n = .ok () →
      ∀ k, StatementMeets R E fun ts => ts.delete k (·.isIn network n)) :
    Meets R E (Store.deleteVariant network n) := by
  refine meets_require_bind hrule fun hok => (meets_acquire hE).bind fun _ =>
    (Store.meets_runSteps fun step hstep => ?_).bind
      fun _ => (meets_emit _).bind fun _ => meets_pure _
  obtain ⟨k, -, rfl⟩ := List.mem_map.1 hstep
  exact h hok k

theorem meets_cloneVariant {source target : Int32} {variantId : Option String} {fresh : String}
    (hrule : ∀ cause, Validation.cloneVariant source target = .error cause →
      E (.invalidArgument cause))
    (hid : ∀ cause, Store.targetVariantId target variantId fresh = .error cause →
      E (.invalidArgument cause))
    (h : Validation.cloneVariant source target = .ok () →
      ∀ id, Store.targetVariantId target variantId fresh = .ok id → ∀ k, StatementMeets R E fun ts =>
        ts.copy k (·.isIn network source) (·.toVariantNum target id)) :
    Meets R E (Store.cloneVariant network source target variantId fresh) := by
  refine meets_require_bind hrule fun hok => ?_
  rcases htarget : Store.targetVariantId target variantId fresh with cause | id
  · exact fun s => ⟨refl s, failsWith_error (hid cause htarget)⟩
  · refine (meets_acquire hE).bind fun _ => (Store.meets_runSteps fun step hstep => ?_).bind
      fun _ => (meets_emit _).bind fun _ => meets_pure _
    obtain ⟨k, -, rfl⟩ := List.mem_map.1 hstep
    exact h hok id htarget k

/-- A copy to another network meets what the copies of the selected variants meet. -/
theorem meetsAt_cloneNetwork {target source : Uuid} {variantIds : List String} {s : Store}
    (hrule : ∀ cause, Validation.cloneNetwork target.text source.text variantIds = .error cause →
      E (.invalidArgument cause))
    (hread : FailsWith E (Store.variantsOf source s.tables))
    (hmissing : ∀ variants, Store.variantsOf source s.tables = .ok variants → ∀ id ∈ variantIds,
      (∀ x ∈ variants, x.id ≠ id) → E (.notFound "Variant" id))
    (h : Validation.cloneNetwork target.text source.text variantIds = .ok () →
      ∀ variants, Store.variantsOf source s.tables = .ok variants →
      (∀ id ∈ variantIds, ∃ x ∈ variants, x.id = id) → ∀ x ∈ variants, x.id ∈ variantIds →
      ∀ k, StatementMeets R E fun ts =>
        ts.copy k (·.isIn source x.num) (·.toOtherNetwork target)) :
    MeetsAt R E s (Store.cloneNetwork target source variantIds) := by
  refine meetsAt_require_bind hrule fun hok => (meets_acquire hE s).bind fun _ _ => ?_
  rw [store_acquire, Store.readVariants_eq]
  refine (meetsAt_query hread).bind fun variants hvariants => ?_
  rw [result_query] at hvariants
  rw [store_query]
  rcases hfind : variantIds.find? fun id => ¬ variants.any (·.id = id) with _ | missing
  · have hnamed : ∀ id ∈ variantIds, ∃ x ∈ variants, x.id = id := by
      simpa using List.find?_eq_none.1 hfind
    refine (Store.meets_runSteps fun step hstep => ?_).bind
      (fun _ => (meets_emit _).bind fun _ => meets_pure _) s
    obtain ⟨x, hx, hstep⟩ := List.mem_flatMap.1 hstep
    obtain ⟨k, -, rfl⟩ := List.mem_map.1 hstep
    obtain ⟨hx, hid⟩ := List.mem_filter.1 hx
    exact h hok variants hvariants hnamed x hx (of_decide_eq_true hid) k
  · have hnone : ∀ x ∈ variants, x.id ≠ missing := by simpa using List.find?_some hfind
    exact meetsAt_fail (hmissing variants hvariants missing (List.mem_of_find?_eq_some hfind) hnone) s

end Backend

/-! ## What requests that write keep -/

variable {f : Store → γ}

theorem keeps_insertRow {k : Kind} {r : Row}
    (h : ∀ s ts, s.tables.insert k r = .ok ts → f { s with tables := ts } = f s) :
    Keeps f (Store.insertRow k r) :=
  keeps_of_meets (meets_insertRow (fun _ _ => trivial) h)

theorem keeps_create {rs : List (Resource A)}
    (h : ∀ r ∈ rs, Keeps f (Store.insertRow (Attributes.kind A) (.ofEquipment network r))) :
    Keeps f (Store.create network rs) :=
  keeps_of_meets (meets_create (fun _ _ => trivial) (fun _ _ => trivial)
    fun _ r hr => (h r hr).meets)

theorem keeps_updateRow {r : Resource A}
    (h : StatementKeeps f fun ts => ts.update (Attributes.kind A)
      (fun row => row.isAt network r.variantNum r.id &&
        row.matchesKey (Attributes.schema A) (Row.ofAttributes r.attributes))
      (·.assign (Attributes.schema A) (Row.ofAttributes r.attributes))) :
    Keeps f (Store.updateRow network r) :=
  keeps_of_meets (meets_report (keeps_execute h).meets)

theorem keeps_update {rs : List (Resource A)} (h : ∀ r ∈ rs, Keeps f (Store.updateRow network r)) :
    Keeps f (Store.update network rs) :=
  keeps_of_meets (meets_update (fun _ _ => trivial) (fun _ _ => trivial)
    fun _ r hr => (h r hr).meets)

theorem keeps_delete {id : String}
    (h : StatementKeeps f fun ts => ts.delete (Attributes.kind A) (·.isAt network n id)) :
    Keeps f (Store.delete A network n id) :=
  keeps_of_meets (meets_delete (fun _ _ => trivial) h.meets)

theorem keeps_createNetworks {fresh : Nat → String} {rs : List (Resource Network)}
    (h : ∀ r ∈ rs, ∀ id row, Store.newNetworkRow id r = .ok row →
      Keeps f (Store.insertRow .network row)) :
    Keeps f (Store.createNetworks fresh rs) :=
  keeps_of_meets (meets_createNetworks (fun _ _ => trivial) (fun _ _ => trivial)
    fun r hr id row hrow => (h r hr id row hrow).meets)

theorem keeps_updateNetwork {r : Resource Network}
    (h : StatementKeeps f fun ts => ts.update .network (·.isIn r.attributes.uuid r.variantNum)
      (Store.replaceNetwork r)) :
    Keeps f (Store.updateNetwork r) :=
  keeps_of_meets (meets_report (keeps_execute h).meets)

theorem keeps_updateNetworks {rs : List (Resource Network)}
    (h : ∀ r ∈ rs, Keeps f (Store.updateNetwork r)) : Keeps f (Store.updateNetworks rs) :=
  keeps_of_meets (meets_updateNetworks (fun _ _ => trivial) (fun _ _ => trivial)
    fun _ r hr => (h r hr).meets)

theorem keeps_deleteNetwork (h : ∀ k, StatementKeeps f fun ts => ts.delete k (·.isOf network)) :
    Keeps f (Store.deleteNetwork network) :=
  keeps_of_meets (meets_deleteNetwork (fun _ _ => trivial) fun k => (h k).meets)

theorem keeps_deleteVariant (h : ∀ k, StatementKeeps f fun ts => ts.delete k (·.isIn network n)) :
    Keeps f (Store.deleteVariant network n) :=
  keeps_of_meets (meets_deleteVariant (fun _ _ => trivial) (fun _ _ => trivial)
    fun _ k => (h k).meets)

theorem keeps_cloneVariant {source target : Int32} {variantId : Option String} {fresh : String}
    (h : ∀ k id, StatementKeeps f fun ts =>
      ts.copy k (·.isIn network source) (·.toVariantNum target id)) :
    Keeps f (Store.cloneVariant network source target variantId fresh) :=
  keeps_of_meets (meets_cloneVariant (fun _ _ => trivial) (fun _ _ => trivial) (fun _ _ => trivial)
    fun _ id _ k => (h k id).meets)

theorem kept_cloneNetwork {target source : Uuid} {variantIds : List String} {s : Store}
    (h : ∀ variants, Store.variantsOf source s.tables = .ok variants → ∀ x ∈ variants,
      x.id ∈ variantIds → ∀ k, StatementKeeps f fun ts =>
        ts.copy k (·.isIn source x.num) (·.toOtherNetwork target)) :
    f (Store.cloneNetwork target source variantIds s).store = f s :=
  (meetsAt_cloneNetwork (fun _ _ => trivial) (fun _ _ => trivial) (fun _ _ => trivial)
    (fun _ _ _ _ _ => trivial) fun _ variants hvariants _ x hx hid k =>
      (h variants hvariants x hx hid k).meets).1

end Writes

/-- A request changes nothing of a store but its tables. -/
theorem Request.run_eq (q : Request) (s : Store) :
    q.run s = { s with tables := (q.run s).tables } := by
  let rest (s : Store) := (s.migrations, s.pool, s.batchSize)
  suffices h : rest (q.run s) = rest s by
    obtain ⟨hmigrations, hpool, hsize⟩ := Prod.mk.inj h |>.imp id Prod.mk.inj
    rw [← hmigrations, ← hpool, ← hsize]
  cases q with
  | create k network rs => exact keeps_create (fun r _ => keeps_insertRow fun _ _ _ => rfl) s
  | update k network rs => exact keeps_update (fun r _ => keeps_updateRow fun _ _ _ _ => rfl) s
  | delete k network n id => exact keeps_delete (fun _ _ _ _ => rfl) s
  | getOne k network n id => exact keeps_getOne network n id s
  | getAll k network n => exact keeps_getAll network n s
  | getByContainer k network n container => exact keeps_getByContainer network n container s
  | getIdentifiable network n id => exact keeps_getIdentifiable network n id s
  | createNetworks fresh rs =>
    exact keeps_createNetworks (fun r _ _ _ _ => keeps_insertRow fun _ _ _ => rfl) s
  | updateNetworks rs =>
    exact keeps_updateNetworks (fun r _ => keeps_updateNetwork fun _ _ _ _ => rfl) s
  | getNetwork network n => exact keeps_getNetwork network n s
  | listNetworks => exact keeps_listNetworks s
  | listVariants network => exact keeps_listVariants network s
  | deleteNetwork network => exact keeps_deleteNetwork (fun _ _ _ _ _ => rfl) s
  | deleteVariant network n => exact keeps_deleteVariant (fun _ _ _ _ _ => rfl) s
  | cloneVariant network source target variantId fresh =>
    exact keeps_cloneVariant (fun _ _ _ _ _ _ => rfl) s
  | cloneNetwork target source variantIds =>
    rw [run]
    exact kept_cloneNetwork fun _ _ _ _ _ _ _ _ _ _ => rfl

end GridStore
