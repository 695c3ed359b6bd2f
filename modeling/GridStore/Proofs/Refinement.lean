import GridStore.Proofs.CallTracking

/-!
# A store refines a map

Every request tracks what it does to contents, whether it succeeds or stops part way (`holds_run`).
So an equipment is read from what requests leave of a new store, which holds nothing
(`openOn_empty`), as the map of its kind holds it (`getOne_runAll`).
-/

namespace GridStore

/-! ## Requests -/

section Requests

open Call Change

variable {k : EquipmentKind} {network : Uuid}

theorem tracks_create (rs : List (Resource k.Attributes)) :
    Tracks (Store.create network rs)
      (.given (Store.checkResources rs) (.inOrder (rs.map (.insert k network)))) := by
  refine tracks_require_bind fun _ => ?_
  rw [Store.forBatches_map]
  refine Store.tracks_forBatches fun batch _ _ => tracks_acquire.done_bind fun _ => ?_
  refine Tracks.bind_done (tracks_forM_map fun r _ => tracks_execute ?_) fun _ => tracks_emit _
  rw [EquipmentKind.kind_attributes]
  exact Tables.tracks_insert network r

theorem tracks_report {call : Call Nat} {a : Change} {e : Event} (h : Tracks call a) :
    Tracks (call >>= fun updated =>
      if updated = 0 then emit e >>= fun _ => pure updated else pure updated) a := by
  refine h.bind_done fun updated => ?_
  split
  · exact (tracks_emit e).bind_done fun _ => tracks_pure updated
  · exact tracks_pure updated

theorem tracks_update (rs : List (Resource k.Attributes)) :
    Tracks (Store.update network rs)
      (.given (Store.checkResources rs) (.inOrder (rs.map (.replace k network)))) := by
  refine tracks_require_bind fun _ => Store.tracks_sumBatches fun batch _ _ => ?_
  refine tracks_acquire.done_bind fun _ => ?_
  refine Tracks.bind_emit (tracks_foldlM fun r _ total => ?_) _
  refine Tracks.bind_done (tracks_report (tracks_execute ?_)) fun _ => tracks_pure _
  have hreplace := Tables.tracks_replace network r
  rw [← EquipmentKind.kind_attributes] at hreplace
  exact hreplace

theorem tracks_deleteAt (n : Int32) (id : String) :
    Tables.Tracks (fun ts => ts.delete (.equipment k) (·.isAt network n id))
      (.remove k fun u v i => u = network && v = n && i = id) := by
  refine Tables.tracks_remove fun u v i a => ?_
  rw [Bool.eq_iff_iff, Row.isAt_ofEntry]
  simp [and_assoc]

theorem tracks_delete (n : Int32) (id : String) :
    Tracks (Store.delete k.Attributes network n id)
      (.remove k fun u v i => u = network && v = n && i = id) := by
  refine tracks_acquire.done_bind fun _ => ?_
  refine Tracks.bind_emit (tracks_execute ?_) _
  rw [EquipmentKind.kind_attributes]
  exact tracks_deleteAt n id

theorem Except.mapM_of_forM {α β ε : Type} {rule : α → Except ε Unit} {f : α → β} : ∀ as : List α,
    (as.mapM fun a => (rule a).map fun _ => f a) = (as.forM rule).map fun _ => as.map f
  | [] => rfl
  | a :: as => by
    rw [List.mapM_cons, mapM_of_forM as]
    show _ = (rule a >>= fun _ => as.forM rule).map _
    rcases rule a with e | ⟨⟩
    · rfl
    · show _ = (as.forM rule).map _
      rcases as.forM rule with e | ⟨⟩ <;> rfl

theorem newNetworkRow_eq (fresh : String) (r : Resource Network) :
    Store.newNetworkRow fresh r
      = (Request.checkNetwork (r, r.attributes.effectiveVariantId r.variantNum fresh)).map
        fun _ => Row.ofNetwork (r.attributes.effectiveVariantId r.variantNum fresh) r := by
  unfold Store.newNetworkRow Request.checkNetwork
  dsimp only
  rcases Validation.resourceId r.id with e | ⟨⟩
  · rfl
  rcases Validation.variantNum r.variantNum with e | ⟨⟩
  · rfl
  rcases Validation.variantId (r.attributes.effectiveVariantId r.variantNum fresh) with e | ⟨⟩ <;> rfl

theorem mapM_newNetworkRow (fresh : Nat → String) (rs : List (Resource Network)) :
    (rs.zipIdx.mapM fun (r, i) => Store.newNetworkRow (fresh i) r)
      = ((Request.named fresh rs).forM Request.checkNetwork).map fun _ =>
        (Request.named fresh rs).map fun (r, id) => Row.ofNetwork id r := by
  simp only [newNetworkRow_eq]
  rw [Except.mapM_of_forM, Request.named, List.map_map]
  exact congrArg _ List.forM_map.symm

theorem tracks_createNetworks (fresh : Nat → String) (rs : List (Resource Network)) :
    Tracks (Store.createNetworks fresh rs) (Request.createNetworks fresh rs).act := by
  rw [Store.createNetworks, Request.act, mapM_newNetworkRow]
  rcases (Request.named fresh rs).forM Request.checkNetwork with e | ⟨⟩
  · exact tracks_fail _
  · show Tracks (Store.forBatches ((Request.named fresh rs).map fun (r, id) => Row.ofNetwork id r) _) _
    rw [Store.forBatches_map]
    refine Store.tracks_forBatches fun batch _ _ => tracks_acquire.done_bind fun _ => ?_
    refine Tracks.bind_done (tracks_forM_map fun (r, id) _ => tracks_execute ?_) fun _ => tracks_emit _
    exact Tables.tracks_insertVariant (Row.isOf_iff.2 rfl) (Row.toVariant_eq_ok.2 ⟨rfl, rfl⟩)

theorem tracks_updateNetworks (rs : List (Resource Network)) :
    Tracks (Store.updateNetworks rs) (Request.updateNetworks rs).act := by
  refine tracks_require_bind fun _ => Store.tracks_sumBatches fun batch _ _ => ?_
  refine tracks_acquire.done_bind fun _ => tracks_foldlM fun r _ total => ?_
  refine Tracks.bind_done (tracks_report (tracks_execute ?_)) fun _ => tracks_pure _
  exact Tables.tracks_replaceNetwork r

/-! ## Requests that span tables -/

/-- The changes of the tables of each kind. -/
def Change.onKind (first : Change) (rest : EquipmentKind → Change) : Kind → Change
  | .network => first
  | .equipment k => rest k

theorem inOrder_onKind (first : Change) (rest : EquipmentKind → Change) :
    inOrder (Kind.all.map (onKind first rest)) = inOrder (first :: EquipmentKind.all.map rest) :=
  rfl

section OnKind

variable {statement : Kind → Tables → Except StoreError (Tables × Nat)} {f : Row → Row}
  {source target : Uuid} {n n' : Int32}

theorem tracks_onKind {first : Change} {rest : EquipmentKind → Change}
    (hfirst : Tables.Tracks (statement .network) first)
    (hrest : ∀ k, Tables.Tracks (statement (.equipment k)) (rest k)) :
    ∀ k, Tables.Tracks (statement k) (onKind first rest k)
  | .network => hfirst
  | .equipment k => hrest k

theorem tracks_removeOnKind {p : Row → Bool} {q : Int32 → Bool}
    (hp : ∀ (r : Row) n, r.variantNum = .ofInt32 n → p r = (r.isOf network && q n)) :
    ∀ k, Tables.Tracks (fun ts => ts.delete k p)
      (onKind (removeVariants network q) (fun k => remove k fun u v _ => u = network && q v) k) := by
  refine tracks_onKind ?_ fun k => ?_
  · exact Tables.tracks_removeVariants fun r hr => hp r _ (Row.toVariant_eq_ok.1 hr).1
  · refine Tables.tracks_remove fun u v i a => ?_
    rw [hp _ v rfl, Bool.eq_iff_iff, Bool.and_eq_true, Row.isOf_ofEntry, Bool.and_eq_true,
      decide_eq_true_eq]

theorem tracks_copyOnKind {rename : String → String}
    (hnetwork : ∀ (r : Row) (x : Variant), r.isIn source n = true → r.toVariant = .ok x →
      (f r).isOf target = true ∧ (f r).toVariant = .ok ⟨rename x.id, n'⟩)
    (hequipment : ∀ (k : EquipmentKind) i (a : k.Attributes),
      f (Row.ofEntry source n i a) = Row.ofEntry target n' i a) :
    ∀ k, Tables.Tracks (fun ts => ts.copy k (·.isIn source n) f)
      (onKind (copyVariant source n target n' rename) (fun k => copy k source n target n') k) := by
  refine tracks_onKind ?_ fun k => ?_
  · exact Tables.tracks_copyVariant hnetwork
  · exact Tables.tracks_copy (hequipment k)

end OnKind

theorem tracks_deleteOf (network : Uuid) : ∀ k, Tables.Tracks (fun ts => ts.delete k (·.isOf network))
    (onKind (removeVariants network fun _ => true)
      (fun k => remove k fun u _ _ => u = network && true) k) :=
  tracks_removeOnKind fun _ _ _ => (Bool.and_true _).symm

theorem tracks_deleteIn (network : Uuid) (n : Int32) :
    ∀ k, Tables.Tracks (fun ts => ts.delete k (·.isIn network n))
      (onKind (removeVariants network fun v => v = n)
        (fun k => remove k fun u v _ => u = network && v = n) k) := by
  refine tracks_removeOnKind fun r v hv => ?_
  rw [Row.isIn, hv, Bool.and_comm]
  simp

theorem tracks_copyToVariant (network : Uuid) (source target : Int32) (id : String) :
    ∀ k, Tables.Tracks (fun ts => ts.copy k (·.isIn network source) (·.toVariantNum target id))
      (onKind (copyVariant network source network target fun _ => id)
        (fun k => copy k network source network target) k) := by
  refine tracks_copyOnKind (fun r x hin hr => ?_) fun k i a => Row.toVariantNum_ofEntry target id
  obtain ⟨-, hid⟩ := Row.toVariant_eq_ok.1 hr
  refine ⟨Row.isOf_iff.2 (Row.isIn_iff.1 hin).1, Row.toVariant_eq_ok.2 ⟨rfl, ?_⟩⟩
  rw [Row.toVariantNum, hid]
  rfl

theorem tracks_copyToNetwork (target source : Uuid) (n : Int32) :
    ∀ k, Tables.Tracks (fun ts => ts.copy k (·.isIn source n) (·.toOtherNetwork target))
      (onKind (copyVariant source n target n id) (fun k => copy k source n target n) k) := by
  refine tracks_copyOnKind (fun r x hin hr => ?_) fun k i a => Row.toOtherNetwork_ofEntry target
  obtain ⟨-, hid⟩ := Row.toVariant_eq_ok.1 hr
  exact ⟨Row.isOf_iff.2 rfl, Row.toVariant_eq_ok.2 ⟨(Row.isIn_iff.1 hin).2, hid⟩⟩

theorem tracks_deleteNetwork :
    Tracks (Store.deleteNetwork network) (removeAll network fun _ => true) := by
  refine tracks_acquire.done_bind fun _ => Tracks.bind_emit ?_ _
  rw [removeAll, ← inOrder_onKind]
  exact Store.tracks_runSteps (Store.stepsTrack_map (tracks_deleteOf network)) _ _

theorem tracks_deleteVariant (n : Int32) :
    Tracks (Store.deleteVariant network n)
      (.given (Validation.deletableVariant network.text n) (removeAll network fun v => v = n)) := by
  refine tracks_require_bind fun _ => tracks_acquire.done_bind fun _ => Tracks.bind_emit ?_ _
  rw [removeAll, ← inOrder_onKind]
  exact Store.tracks_runSteps (Store.stepsTrack_map (tracks_deleteIn network n)) _ _

theorem tracks_cloneVariant (source target : Int32) (variantId : Option String) (fresh : String) :
    Tracks (Store.cloneVariant network source target variantId fresh)
      (Request.cloneVariant network source target variantId fresh).act := by
  refine tracks_require_bind fun _ => ?_
  rcases Store.targetVariantId target variantId fresh with e | id
  · exact tracks_fail _
  · refine tracks_acquire.done_bind fun _ => Tracks.bind_emit ?_ _
    show Tracks _ (copyAll network source network target fun _ => id)
    rw [copyAll, ← inOrder_onKind]
    exact Store.tracks_runSteps (Store.stepsTrack_map (tracks_copyToVariant network source target id)) _ _

theorem stepsTrack_cloneInto (target source : Uuid) (selected : List Variant) :
    Store.StepsTrack (selected.flatMap (Store.cloneIntoNetworkSteps target source))
      (selected.flatMap fun x => Kind.all.map
        (onKind (copyVariant source x.num target x.num id) fun k => copy k source x.num target x.num)) := by
  refine List.rel_flatMap (R := Eq) (List.forall₂_same.2 fun _ _ => rfl) fun x y hxy => ?_
  subst hxy
  exact Store.stepsTrack_map (tracks_copyToNetwork target source x.num)

theorem tracks_cloneNetwork (target source : Uuid) (variantIds : List String) :
    Tracks (Store.cloneNetwork target source variantIds)
      (Request.cloneNetwork target source variantIds).act := by
  rw [Store.cloneNetwork, Request.act]
  refine tracks_require_bind fun _ => tracks_acquire.done_bind fun _ => ?_
  -- which variants are copied depends on what is read, so the rest is followed from one store
  intro s c h
  have hvariants : (Store.readVariants source s).result
      = .ok (Store.sortVariants (c.variants source)) := by
    rw [Store.readVariants_eq, result_query, Store.variantsOf_eq (h.tables.present _) _
      fun r hr => h.tables.lists.named r (List.mem_filter.1 hr).1, h.tables.lists.variants]
  have hany (id : String) : (Store.sortVariants (c.variants source)).any (·.id = id)
      = (c.variants source).any (·.id = id) := (List.mergeSort_perm _ _).any_eq
  rw [(bind_of_ok hvariants _).1, (bind_of_ok hvariants _).2, Store.readVariants_eq, store_query]
  rcases hmissing : variantIds.find? fun id =>
      ¬ (Store.sortVariants (c.variants source)).any (·.id = id) with _ | missing
  · have hall : variantIds.all fun id => (c.variants source).any (·.id = id) := by
      rw [List.all_eq_true]
      intro id hid
      simpa [hany] using List.find?_eq_none.1 hmissing id hid
    rw [copySelected, if_pos hall]
    have hsteps := Store.tracks_runSteps (stepsTrack_cloneInto target source
      ((Store.sortVariants (c.variants source)).filter (·.id ∈ variantIds))) .cloneNetwork target
    rw [inOrder_flatMap] at hsteps
    exact hsteps.bind_emit _ s c h
  · have hall : ¬ variantIds.all fun id => (c.variants source).any (·.id = id) := by
      rw [List.all_eq_true]
      intro hall
      have hnot := List.find?_some hmissing
      simp only [hany] at hnot
      simp [hall missing (List.mem_of_find?_eq_some hmissing)] at hnot
    rw [copySelected, if_neg hall]
    exact tracks_fail _ s c h

/-- Whether a request succeeds, fails, or stops part way, what it leaves holds what it is said to
leave of contents. -/
theorem holds_run (q : Request) {s : Store} {c : Contents} (h : s.Holds c) :
    (q.run s).Holds (q.act c).1 := by
  cases q with
  | create k network rs => exact (tracks_create rs s c h).1
  | update k network rs => exact (tracks_update rs s c h).1
  | delete k network n id => exact (tracks_delete n id s c h).1
  | createNetworks fresh rs => exact (tracks_createNetworks fresh rs s c h).1
  | updateNetworks rs => exact (tracks_updateNetworks rs s c h).1
  | deleteNetwork network => exact (tracks_deleteNetwork s c h).1
  | deleteVariant network n => exact (tracks_deleteVariant n s c h).1
  | cloneVariant network source target variantId fresh =>
    exact (tracks_cloneVariant source target variantId fresh s c h).1
  | cloneNetwork target source variantIds =>
    rw [Request.run]
    exact (tracks_cloneNetwork target source variantIds s c h).1
  | getOne k network n id => exact (keeps_getOne network n id).holds h
  | getAll k network n => exact (keeps_getAll network n).holds h
  | getByContainer k network n container => exact (keeps_getByContainer network n container).holds h
  | getIdentifiable network n id => exact (keeps_getIdentifiable network n id).holds h
  | getNetwork network n => exact (keeps_getNetwork network n).holds h
  | listNetworks => exact keeps_listNetworks.holds h
  | listVariants network => exact (keeps_listVariants network).holds h

theorem holds_runAll (qs : List Request) {s : Store} {c : Contents} (h : s.Holds c) :
    (Request.runAll qs s).Holds (Request.actAll qs c) := by
  induction qs generalizing s c with
  | nil => exact h
  | cons q qs ih => exact ih (holds_run q h)

end Requests

/-! ## Reading an equipment -/

section Read

open Call

variable {s : Store} {c : Contents} {k : EquipmentKind} {network : Uuid} {n : Int32} {id : String}

/-- The row of an entry is the only one at its place. -/
theorem Table.Stores.head?_filter {A : Type} [Attributes A] {rows : List Row} {m : EquipmentMap A}
    (h : Stores rows m) :
    (rows.filter (·.isAt network n id)).head? = (m network n id).map (Row.ofEntry network n id) := by
  rcases hm : m network n id with _ | a
  · have hnone : rows.filter (·.isAt network n id) = [] := by
      rw [List.filter_eq_nil_iff]
      intro r hr hat
      obtain ⟨u, v, i, a, ha, rfl⟩ := h.exists hr
      obtain ⟨rfl, rfl, rfl⟩ := Row.isAt_ofEntry.1 hat
      rw [hm] at ha
      cases ha
    rw [hnone]
    rfl
  · have hmem := List.mem_filter.2 ⟨h.mem hm, Row.isAt_ofEntry.2 ⟨rfl, rfl, rfl⟩⟩
    rcases hrows : rows.filter (·.isAt network n id) with _ | ⟨r, rest⟩
    · rw [hrows] at hmem
      cases hmem
    · obtain ⟨hr, hat⟩ := List.mem_filter.1 (hrows ▸ List.mem_cons_self : r ∈ rows.filter _)
      obtain ⟨u, v, i, b, hb, rfl⟩ := h.exists hr
      obtain ⟨rfl, rfl, rfl⟩ := Row.isAt_ofEntry.1 hat
      rw [hrows, Option.some.inj (hb.symm.trans hm)]
      rfl

theorem Row.toEquipment_ofEntry {A : Type} [Attributes A] [StoredAttributes A] (a : A) :
    (ofEntry network n id a).toEquipment A n = .ok (.of id n (StoredAttributes.settled a)) := by
  rw [toEquipment, toAttributes_of_values rfl]
  rfl

theorem getOne_of_holds (h : s.Holds c) :
    (Store.getOne k.Attributes network n id s).result
      = .ok ((c.equipment k network n id).map fun a => .of id n (StoredAttributes.settled a)) := by
  have hfound : (Store.findRow (Attributes.kind k.Attributes) network n id s).result
      = .ok ((c.equipment k network n id).map (Row.ofEntry network n id)) := by
    rw [EquipmentKind.kind_attributes, Store.findRow, result_query, Tables.select,
      Tables.existing_of_isSome (h.tables.present _), ← (h.tables.stores k).head?_filter]
    rfl
  rw [Store.getOne, (bind_of_ok (result_acquire h.available) _).2, store_acquire, Store.lookup,
    (bind_of_ok hfound _).2]
  rcases c.equipment k network n id with _ | a
  · rfl
  · dsimp only [Option.map_some]
    rw [Row.toEquipment_ofEntry]
    rfl

end Read

/-! ## Runs -/

theorem available_runAll (qs : List Request) {s : Store} :
    (Request.runAll qs s).Available ↔ s.Available := by
  have hpool : (Request.runAll qs s).pool = s.pool := by
    induction qs generalizing s with
    | nil => rfl
    | cons q qs ih =>
      have hq : (q.run s).pool = s.pool := by rw [Request.run_eq]
      exact ih.trans hq
  constructor
  · rintro ⟨hopen, hfree⟩
    exact ⟨hpool ▸ hopen, hpool ▸ hfree⟩
  · rintro ⟨hopen, hfree⟩
    exact ⟨hpool ▸ hopen, hpool ▸ hfree⟩

/-! ## New stores -/

theorem keeps_prepare {γ : Type} {f : Store → γ} : Call.Keeps f Store.prepare := by
  refine Call.keeps_acquire.bind fun _ => (Call.keeps_forM fun x _ s => ?_).bind fun _ =>
    (Call.keeps_emit _).bind fun _ => Call.keeps_pure _
  unfold Store.prepareStatement
  dsimp only
  split <;> rfl

/-- A store that is opened on an empty database starts with empty tables and a connection. -/
theorem openOn_empty {o : OpenOptions} (hmigrate : o.runMigrations = true)
    (hopen : (Store.openOn o (some .empty)).result = .ok ()) :
    (Store.openOn o (some .empty)).store.tables = .blank ∧
      (Store.openOn o (some .empty)).store.Available := by
  let migrated : Store :=
    { tables := .blank
      migrations := some [⟨true, true⟩]
      pool := { isOpen := true, capacity := o.maxConnections, held := 0 }
      batchSize := o.batchSize }
  have hprepare : (Store.openOn o (some .empty)).store
        = ((Store.prepare >>= fun _ => pure ()) migrated).store ∧
      (Store.openOn o (some .empty)).result
        = ((Store.prepare >>= fun _ => pure ()) migrated).result := by
    unfold Store.openOn Store.start at hopen ⊢
    rw [hmigrate] at hopen ⊢
    rcases hsize : Validation.batchSize o.batchSize with e | ⟨⟩
    · rw [hsize] at hopen
      cases hopen
    · exact ⟨rfl, rfl⟩
  have hkeeps : Call.Keeps id (Store.prepare >>= fun _ => pure ()) :=
    keeps_prepare.bind fun _ => Call.keeps_pure ()
  have hstore : ((Store.prepare >>= fun _ => pure ()) migrated).store = migrated := hkeeps migrated
  rw [hprepare.1, hstore]
  refine ⟨rfl, ?_⟩
  by_contra hfree
  obtain ⟨e, he, -⟩ := Call.result_acquire_of_not_available hfree
  have hfail : (Store.prepare migrated).result = .error e := (Call.bind_of_error he _).2
  rw [hprepare.2, (Call.bind_of_error hfail _).2] at hopen
  cases hopen

/-- After any run of requests on a new store an equipment is read as the map of its kind holds it
once the same has been done to the map, whether the requests succeeded, failed, or stopped part way;
it is not found if the map has no entry. Reading finds no attributes that cannot be read. What is
read are the attributes themselves but for the signs of zeros (`Binary64.settled`). -/
theorem getOne_runAll {s : Store} (hs : s.tables = .blank) (qs : List Request) (k : EquipmentKind)
    (network : Uuid) (n : Int32) (id : String) :
    let read := (Store.getOne k.Attributes network n id (Request.runAll qs s)).result
    (∀ cause, read ≠ .error (.mapping cause)) ∧
      (s.Available → read = .ok (((Request.actAll qs .empty).equipment k network n id).map fun a =>
        .of id n (StoredAttributes.settled a))) := by
  dsimp only
  -- a store without a connection to give has none after the run either
  by_cases hfree : s.Available
  · have hholds := holds_runAll qs ⟨hfree, hs ▸ Tables.holds_blank⟩
    rw [getOne_of_holds hholds]
    refine ⟨fun cause herror => ?_, fun _ => rfl⟩
    cases herror
  · refine ⟨fun cause => ?_, fun h => absurd h hfree⟩
    obtain ⟨e, he, hne⟩ := Call.result_acquire_of_not_available (mt (available_runAll qs).1 hfree)
    rw [Store.getOne, (Call.bind_of_error he _).2]
    exact fun herror => hne cause (Except.error.inj herror)

/-- What was stored before a key was found to be taken stays, and is replaced. -/
theorem getOne_runAll_partial :
    Store.blank.tables = .blank ∧ Store.blank.Available ∧
      (Store.getOne Load .nil 0 "a" (Request.runAll
        [.create .load .nil [.of "a" 0 (default : Load), .of "a" 0 (default : Load)],
         .update .load .nil [.of "a" 0 { (default : Load) with p0 := .nan }]] .blank)).result
        = .ok (some (.of "a" 0 { (default : Load) with p0 := .nan })) := by
  have hfree : Store.blank.Available := ⟨rfl, by decide⟩
  exact ⟨rfl, hfree, (getOne_runAll (s := Store.blank) rfl
    [.create .load .nil [.of "a" 0 (default : Load), .of "a" 0 (default : Load)],
     .update .load .nil [.of "a" 0 { (default : Load) with p0 := .nan }]] .load .nil 0 "a").2 hfree⟩

end GridStore
