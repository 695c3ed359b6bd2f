import GridStore.Proofs.CopyAgain
import GridStore.Proofs.Lookups
import GridStore.Proofs.VariantIds

/-!
# Equipment of any kind

Equipment is looked up without its kind in one table after the other, and the first that has the id
is the answer (`findIdentifiable_result`). So it is what looking in the table of its kind finds, and
no kind before it has the id (`Store.Reachable.getIdentifiable_first`). A variant that was copied to
a number without equipment is looked up there as where it was copied from
(`getIdentifiable_cloneVariant`).
-/

namespace GridStore

open Call

/-- The equipment in another variant. -/
def Identifiable.withVariant (n : Int32) (x : Identifiable) : Identifiable :=
  ⟨x.kind, x.resource.withVariant n⟩

/-! ## One table after the other -/

section Lookup

variable {A : Type} [Attributes A] {s t : Store} {u : Uuid} {v : Int32} {id : String}

theorem lookup_result (h : (s.tables.table? (Attributes.kind A)).isSome) :
    (Store.lookup A u v id s).result
      = ((s.tables.rowsIn (Attributes.kind A) u v).find? (·.id = .text id)).mapM
          (·.toEquipment A v) := by
  generalize hrow : (s.tables.rowsIn (Attributes.kind A) u v).find? (·.id = .text id) = row
  have hfound : (Store.findRow (Attributes.kind A) u v id s).result = .ok row := by
    rw [Store.findRow, result_query, Tables.select, Tables.existing_of_isSome h, ← hrow,
      ← List.head?_filter, Tables.rowsIn, List.filter_filter]
    rfl
  rw [Store.lookup, (bind_of_ok hfound _).2]
  cases row with
  | none => rfl
  | some r =>
    dsimp only [Option.mapM]
    rcases r.toEquipment A v with e | a <;> rfl

theorem getOne_result (hs : s.Available) :
    (Store.getOne A u v id s).result = (Store.lookup A u v id s).result := by
  rw [Store.getOne, (bind_of_ok (result_acquire hs) _).2, store_acquire]

theorem getIdentifiable_result (hs : s.Available) :
    (Store.getIdentifiable u v id s).result
      = (Store.findIdentifiable u v id EquipmentKind.all s).result := by
  rw [Store.getIdentifiable, (bind_of_ok (result_acquire hs) _).2, store_acquire]

/-- Looking in one table after the other finds what the first finds that finds anything. -/
theorem findIdentifiable_result {found : (k : EquipmentKind) → Option (Resource k.Attributes)}
    (h : ∀ k, (Store.lookup k.Attributes u v id s).result = .ok (found k)) :
    ∀ kinds, (Store.findIdentifiable u v id kinds s).result
      = .ok (kinds.findSome? fun k => (found k).map (Identifiable.mk k))
  | [] => rfl
  | k :: kinds => by
    have hkept : (Store.lookup k.Attributes u v id s).store = s := keeps_lookup (f := fun s => s) u v id s
    rw [Store.findIdentifiable, (bind_of_ok (h k) _).2, hkept, List.findSome?_cons]
    rcases found k with _ | r
    · exact findIdentifiable_result h kinds
    · rfl

theorem getIdentifiable_of_found (hs : s.Available)
    {found : (k : EquipmentKind) → Option (Resource k.Attributes)}
    (h : ∀ k, (Store.getOne k.Attributes u v id s).result = .ok (found k)) :
    (Store.getIdentifiable u v id s).result
      = .ok (EquipmentKind.all.findSome? fun k => (found k).map (Identifiable.mk k)) := by
  rw [getIdentifiable_result hs, findIdentifiable_result fun k => ?_]
  rw [← getOne_result hs, h]

/-- In a variant that holds copies of the rows of another the copy of what is found there is found. -/
theorem lookup_copied {n : Int32} {variantId : String}
    (hs : (s.tables.table? (Attributes.kind A)).isSome)
    (ht : (t.tables.table? (Attributes.kind A)).isSome)
    (hrows : t.tables.rowsIn (Attributes.kind A) u n
      = (s.tables.rowsIn (Attributes.kind A) u v).map (·.toVariantNum n variantId)) :
    (Store.lookup A u n id t).result
      = (Store.lookup A u v id s).result.map (Option.map (Resource.withVariant n)) := by
  rw [lookup_result hs, lookup_result ht, hrows, List.find?_map]
  show (((s.tables.rowsIn (Attributes.kind A) u v).find? (·.id = .text id)).map _).mapM _ = _
  generalize (s.tables.rowsIn (Attributes.kind A) u v).find? (·.id = .text id) = row
  cases row with
  | none => rfl
  | some r =>
    dsimp only [Option.map_some, Option.mapM]
    rw [Row.toEquipment_congr (r := r.toVariantNum n variantId) (s := r) rfl rfl v n]
    rcases r.toEquipment A v with e | a <;> rfl

end Lookup

section Found

variable {s : Store} {u : Uuid} {v : Int32} {id : String}

theorem exists_found {c : Contents} (h : s.Holds c) (u : Uuid) (v : Int32) (id : String) :
    ∃ found : (k : EquipmentKind) → Option (Resource k.Attributes),
      (∀ k, (Store.getOne k.Attributes u v id s).result = .ok (found k)) ∧
        ∀ k, ∀ r ∈ found k, r.kind = .equipment k ∧ r.id = id ∧ r.variantNum = v := by
  refine ⟨_, fun k => getOne_of_holds h, fun k r hr => ?_⟩
  obtain ⟨a, -, rfl⟩ := Option.map_eq_some_iff.1 hr
  exact ⟨k.kind_attributes, rfl, rfl⟩

/-- What is found in one table after the other is what the first kind with the id has. -/
theorem findSome?_eq_some_iff {found : (k : EquipmentKind) → Option (Resource k.Attributes)}
    {kinds : List EquipmentKind} {x : Identifiable} :
    (kinds.findSome? fun k => (found k).map (Identifiable.mk k)) = some x ↔
      found x.kind = some x.resource ∧
        ∃ before after, kinds = before ++ x.kind :: after ∧ ∀ j ∈ before, found j = none := by
  rw [List.findSome?_eq_some_iff]
  constructor
  · rintro ⟨before, k, after, hkinds, hfound, hnone⟩
    obtain ⟨r, hr, rfl⟩ := Option.map_eq_some_iff.1 hfound
    exact ⟨hr, before, after, hkinds, fun j hj => Option.map_eq_none_iff.1 (hnone j hj)⟩
  · rintro ⟨hr, before, after, hkinds, hnone⟩
    exact ⟨before, x.kind, after, hkinds, by rw [hr]; rfl, fun j hj => by rw [hnone j hj]; rfl⟩

/-- A connection is needed to look for equipment, whether of a kind or of any. -/
theorem getIdentifiable_of_not_available (hs : ¬ s.Available) (u : Uuid) (v : Int32) (id : String) :
    ∃ e, (Store.getIdentifiable u v id s).result = .error e ∧
      ∀ k : EquipmentKind, (Store.getOne k.Attributes u v id s).result = .error e := by
  obtain ⟨e, he, -⟩ := result_acquire_of_not_available hs
  exact ⟨e, (bind_of_error he _).2, fun k => (bind_of_error he _).2⟩

end Found

/-! ## Copied variants -/

section Copied

variable {s : Store} {u : Uuid} {source target : Int32} {variantId : Option String} {fresh : String}

theorem Validation.cloneVariant_eq_ok_iff :
    cloneVariant source target = .ok () ↔ 0 ≤ source ∧ 0 ≤ target ∧ source ≠ target := by
  constructor
  · intro h
    obtain ⟨⟨⟩, hsource, h⟩ := Except.bind_eq_ok h
    obtain ⟨⟨⟩, htarget, h⟩ := Except.bind_eq_ok h
    refine ⟨nonneg_of_variantNum hsource, nonneg_of_variantNum htarget, fun heq => ?_⟩
    rw [if_pos heq] at h
    cases h
  · rintro ⟨hsource, htarget, hne⟩
    exact cloneVariant_of_ne hsource htarget hne

/-- A copy that is done had valid arguments and a connection. -/
theorem Store.valid_of_cloneVariant {n : Nat}
    (h : (cloneVariant u source target variantId fresh s).result = .ok n) :
    s.Available ∧ 0 ≤ source ∧ 0 ≤ target ∧ source ≠ target ∧
      ∃ id, targetVariantId target variantId fresh = .ok id := by
  unfold cloneVariant at h
  obtain ⟨⟨⟩, hrule, h⟩ := of_bind_ok h
  rw [store_require] at h
  rcases hid : targetVariantId target variantId fresh with e | id
  · rw [hid] at h
    cases h
  rw [hid] at h
  obtain ⟨⟨⟩, hconnection, -⟩ := of_bind_ok h
  have hs : s.Available := by
    by_contra hs
    obtain ⟨e, he, -⟩ := result_acquire_of_not_available hs
    rw [he] at hconnection
    cases hconnection
  have hvalid : Validation.cloneVariant source target = .ok () := by
    rcases hx : Validation.cloneVariant source target with e | ⟨⟩
    · rw [hx] at hrule
      cases hrule
    · rfl
  obtain ⟨hsource, htarget, hne⟩ := Validation.cloneVariant_eq_ok_iff.1 hvalid
  exact ⟨hs, hsource, htarget, hne, id, rfl⟩

theorem getIdentifiable_cloneVariant {c : Contents} (hc : s.tables.Holds c) {n : Nat}
    (hempty : ∀ k : EquipmentKind, s.tables.rowsIn (.equipment k) u target = [])
    (hn : (Store.cloneVariant u source target variantId fresh s).result = .ok n) (id : String) :
    (Store.getIdentifiable u target id
        (Store.cloneVariant u source target variantId fresh s).store).result
      = (Store.getIdentifiable u source id s).result.map
          (Option.map (Identifiable.withVariant target)) := by
  obtain ⟨hs, hsource, htarget, hne, vid, hvid⟩ := Store.valid_of_cloneVariant hn
  obtain ⟨-, hpresent, hrows⟩ := Store.of_cloneVariant_ok hs hsource htarget hne hvid hn
  generalize hleft : (Store.cloneVariant u source target variantId fresh s).store = left at *
  have hs' : left.Available :=
    hleft ▸ hs.of_tables (Store.cloneVariant_eq hs hsource htarget hne hvid).1
  obtain ⟨found, hfound, -⟩ := exists_found ⟨hs, hc⟩ u source id
  have hcopied (k : EquipmentKind) : (Store.getOne k.Attributes u target id left).result
      = .ok ((found k).map (Resource.withVariant target)) := by
    have hkind := k.kind_attributes
    have hcopies := Store.rowsIn_target (hempty k) (hrows (.equipment k))
    rw [← hkind] at hcopies
    rw [getOne_result hs', lookup_copied _ _ hcopies, ← getOne_result hs, hfound]
    · rfl
    · rw [hkind]
      exact hc.present _
    · rw [hkind, hpresent]
      exact hc.present _
  rw [getIdentifiable_of_found hs' hcopied, getIdentifiable_of_found hs hfound]
  show _ = Except.ok _
  rw [List.map_findSome?]
  refine congrArg Except.ok (congrArg (List.findSome? · _) (funext fun k => ?_))
  rw [Function.comp_apply, Option.map_map, Option.map_map]
  rfl

end Copied

/-- Wherever requests lead, equipment of any kind is found if and only if some kind has the id. It is
then what the first such kind has, labelled with that kind, under the id and in the variant. After
a variant is copied to a number without equipment the same is found there as at its source. -/
theorem Store.Reachable.getIdentifiable_first {P : Request → Prop} {s : Store} (h : s.Reachable P) :
    (s.Available → ∀ (u : Uuid) (v : Int32) (id : String), ∃ found,
        (Store.getIdentifiable u v id s).result = .ok found ∧
        (found.isSome ↔ ∃ (k : EquipmentKind) (r : Resource k.Attributes),
          (Store.getOne k.Attributes u v id s).result = .ok (some r)) ∧
        ∀ x ∈ found,
          (Store.getOne x.kind.Attributes u v id s).result = .ok (some x.resource) ∧
          (∃ before after, EquipmentKind.all = before ++ x.kind :: after ∧
            ∀ j ∈ before, (Store.getOne j.Attributes u v id s).result = .ok none) ∧
          x.label = .equipment x.kind ∧ x.id = id ∧ x.variantNum = v) ∧
      (¬ s.Available → ∀ (u : Uuid) (v : Int32) (id : String), ∃ e,
        (Store.getIdentifiable u v id s).result = .error e ∧
        ∀ k : EquipmentKind, (Store.getOne k.Attributes u v id s).result = .error e) ∧
      ∀ (u : Uuid) (source target : Int32) (variantId : Option String) (fresh : String),
        (∀ k : EquipmentKind, s.tables.rowsIn (.equipment k) u target = []) →
        let left := Store.cloneVariant u source target variantId fresh s
        (s.Available → 0 ≤ source → 0 ≤ target → source ≠ target →
          s.tables.rowsIn .network u target = [] →
          ∀ vid, Store.targetVariantId target variantId fresh = .ok vid →
          (∀ r ∈ s.tables.rows .network, r.isOf u = true → r.variantId ≠ some (.text vid)) →
          ∃ n, left.result = .ok n) ∧
        ∀ n, left.result = .ok n → ∀ id,
          (Store.getIdentifiable u target id left.store).result
            = (Store.getIdentifiable u source id s).result.map
                (Option.map (Identifiable.withVariant target)) := by
  obtain ⟨c, hc⟩ := h.holds
  refine ⟨fun hs u v id => ?_, getIdentifiable_of_not_available,
    fun u source target variantId fresh hempty => ⟨?_, fun n hn id => ?_⟩⟩
  · obtain ⟨found, hfound, hlabels⟩ := exists_found ⟨hs, hc⟩ u v id
    refine ⟨_, getIdentifiable_of_found hs hfound, ?_, fun x hx => ?_⟩
    · rw [List.findSome?_isSome_iff]
      constructor
      · rintro ⟨k, -, hk⟩
        obtain ⟨r, hr⟩ := Option.isSome_iff_exists.1 (Option.isSome_map ▸ hk)
        exact ⟨k, r, hr ▸ hfound k⟩
      · rintro ⟨k, r, hr⟩
        obtain hr := Except.ok.inj ((hfound k).symm.trans hr)
        exact ⟨k, k.mem_all, by rw [hr]; rfl⟩
    · obtain ⟨hx, before, after, hall, hnone⟩ := findSome?_eq_some_iff.1 hx
      exact ⟨hx ▸ hfound x.kind, ⟨before, after, hall, fun j hj => hnone j hj ▸ hfound j⟩,
        hlabels x.kind x.resource hx⟩
  · intro hs hsource htarget hne hnetwork vid hvid hfree
    refine (cloneVariant_ok_iff hs hsource htarget hne hvid h.keyed).2
      (Tables.canCopyVariant_of_free (fun k => ?_) hfree)
    cases k with
    | network => exact hnetwork
    | equipment k => exact hempty k
  · exact getIdentifiable_cloneVariant hc hempty hn id

/-- A load is found, and found again where its variant is copied to. -/
theorem Store.Reachable.getIdentifiable_first_load :
    let s := Request.runAll [.create .load .nil [.of "a" 0 (default : Load)]] .blank
    let left := cloneVariant .nil 0 1 (some "peak") "" s
    s.Reachable (fun _ => True) ∧ (∃ n, left.result = .ok n) ∧
      ∃ x, (getIdentifiable .nil 0 "a" s).result = .ok (some x) ∧ x.id = "a" ∧
        (getIdentifiable .nil 1 "a" left.store).result = .ok (some (x.withVariant 1)) := by
  intro s left
  have hreach : s.Reachable fun _ => True := reachable_runAll (.new rfl) fun _ _ => trivial
  have hblank : Store.blank.Available := ⟨rfl, by decide⟩
  have hs : s.Available := (available_runAll _).2 hblank
  have hone : (getOne Load .nil 0 "a" s).result = .ok (some (.of "a" 0 default)) :=
    (getOne_runAll (s := Store.blank) rfl [.create .load .nil [.of "a" 0 (default : Load)]] .load .nil
      0 "a").2 hblank
  have hholds : s.Holds
      (Request.actAll [.create .load .nil [.of "a" 0 (default : Load)]] .empty) :=
    holds_runAll _ ⟨hblank, Tables.holds_blank⟩
  have hnetwork : (s.tables.rows .network).filter (·.isOf .nil) = [] :=
    List.map_eq_nil_iff.1 (hholds.tables.lists.variants .nil)
  have hempty (k : EquipmentKind) : s.tables.rowsIn (.equipment k) .nil 1 = [] := by
    refine List.filter_eq_nil_iff.2 fun r hr hin => ?_
    obtain ⟨u, v, i, a, ha, rfl⟩ := (hholds.tables.stores k).exists hr
    obtain ⟨rfl, rfl⟩ := Row.isIn_ofEntry.1 hin
    have hnone : (Request.actAll [.create .load .nil [.of "a" 0 (default : Load)]] .empty).equipment
        k .nil 1 i = none := by
      cases k <;> rfl
    rw [hnone] at ha
    cases ha
  rw [List.filter_eq_nil_iff] at hnetwork
  obtain ⟨hfirst, -, hcopied⟩ := hreach.getIdentifiable_first
  obtain ⟨hdone, hcopied⟩ := hcopied .nil 0 1 (some "peak") "" hempty
  obtain ⟨n, hn⟩ := hdone hs (by decide) (by decide) (by decide)
    (List.filter_eq_nil_iff.2 fun r hr hin => hnetwork r hr (Bool.and_eq_true_iff.1 hin).2)
    "peak" (by decide) fun r hr hof => absurd hof (hnetwork r hr)
  obtain ⟨found, hfound, hsome, hx⟩ := hfirst hs .nil 0 "a"
  obtain ⟨x, rfl⟩ := Option.isSome_iff_exists.1 (hsome.2 ⟨.load, _, hone⟩)
  refine ⟨hreach, ⟨n, hn⟩, x, hfound, (hx x rfl).2.2.2.1, ?_⟩
  rw [hcopied n hn, hfound]
  rfl

end GridStore
