import GridStore.Proofs.Requests

/-!
# Footprints of requests

A request changes rows of the variants in its footprint only (`rowsIn_run`): those that its
resources or arguments name, and for a copy to another network the selected variants there. This
holds of every store, whether the request is done, refused, or stopped between two statements.
-/

namespace GridStore

open Call

/-- The variants of networks whose rows a request may change: those that its resources are in or
its arguments name, and for a copy to another network those that its ids select at the source. -/
def Request.Touches (ts : Tables) : Request → Uuid → Int32 → Prop
  | create _ network rs, u, v | update _ network rs, u, v =>
    ∃ r ∈ rs, network = u ∧ r.variantNum = v
  | createNetworks _ rs, u, v | updateNetworks rs, u, v =>
    ∃ r ∈ rs, r.attributes.uuid = u ∧ r.variantNum = v
  | delete _ network n _, u, v | deleteVariant network n, u, v => network = u ∧ n = v
  | deleteNetwork network, u, _ => network = u
  | cloneVariant network _ target _ _, u, v => network = u ∧ target = v
  | cloneNetwork target source variantIds, u, v =>
    target = u ∧ ∃ row ∈ ts.rows .network, row.isIn source v = true ∧
      ∃ id ∈ variantIds, row.variantId = some (.text id)
  | getOne .., _, _ | getAll .., _, _ | getByContainer .., _, _ | getIdentifiable .., _, _
  | getNetwork .., _, _ | listNetworks, _, _ | listVariants _, _, _ => False

/-! ## Statements that leave rows alone -/

/-- The rows of a sort that a store holds, by the kind of their table. -/
def Store.rowsWhere (q : Row → Bool) (s : Store) (k : Kind) : List Row :=
  (s.tables.rows k).filter q

/-- The rows that a store holds of a network in a variant, by the kind of their table. -/
def Store.rowsIn (u : Uuid) (v : Int32) (s : Store) (k : Kind) : List Row :=
  s.tables.rowsIn k u v

section Statements

variable {k : Kind} {q p : Row → Bool} {f : Row → Row}

theorem keeps_insertRow_where {r : Row} (h : ¬ q r = true) :
    Keeps (Store.rowsWhere q) (Store.insertRow k r) :=
  keeps_insertRow fun _ _ hs =>
    funext fun j => Tables.filter_rows_insert hs (Bool.eq_false_iff.2 h) j

theorem statementKeeps_update_where (hp : ∀ r, p r = true → ¬ q r = true)
    (hf : ∀ r, q (f r) = q r) : StatementKeeps (Store.rowsWhere q) fun ts => ts.update k p f := by
  refine fun s ts _ hs => funext fun j => Tables.filter_rows_update hs (fun r hr => ?_) j
  rw [hf, and_self, Bool.eq_false_iff]
  exact hp r hr

theorem statementKeeps_delete_where (hp : ∀ r, p r = true → ¬ q r = true) :
    StatementKeeps (Store.rowsWhere q) fun ts => ts.delete k p :=
  fun _ _ _ hs => funext fun j =>
    Tables.filter_rows_delete hs (fun r hr => Bool.eq_false_iff.2 (hp r hr)) j

theorem statementKeeps_copy_where (hf : ∀ r, p r = true → ¬ q (f r) = true) :
    StatementKeeps (Store.rowsWhere q) fun ts => ts.copy k p f :=
  fun _ _ _ hs => funext fun j =>
    Tables.filter_rows_copy hs (fun r hr => Bool.eq_false_iff.2 (hf r hr)) j

variable {u network : Uuid} {v n : Int32}

theorem keeps_insertRow_outside {r : Row} (h : ¬ r.isIn u v = true) :
    Keeps (Store.rowsIn u v) (Store.insertRow k r) :=
  keeps_insertRow_where h

theorem statementKeeps_update_outside (hp : ∀ r, p r = true → ¬ r.isIn u v = true)
    (hf : ∀ r : Row, (f r).isIn u v = r.isIn u v) :
    StatementKeeps (Store.rowsIn u v) fun ts => ts.update k p f :=
  statementKeeps_update_where hp hf

theorem statementKeeps_delete_outside (hp : ∀ r, p r = true → ¬ r.isIn u v = true) :
    StatementKeeps (Store.rowsIn u v) fun ts => ts.delete k p :=
  statementKeeps_delete_where hp

theorem statementKeeps_copy_outside (hf : ∀ r, p r = true → ¬ (f r).isIn u v = true) :
    StatementKeeps (Store.rowsIn u v) fun ts => ts.copy k p f :=
  statementKeeps_copy_where hf

theorem isIn_of_newNetworkRow {fresh : String} {r : Resource Network} {row : Row}
    (h : Store.newNetworkRow fresh r = .ok row) :
    row.isIn u v = true ↔ r.attributes.uuid = u ∧ r.variantNum = v := by
  obtain ⟨_, -, h⟩ := Except.bind_eq_ok h
  obtain ⟨_, -, h⟩ := Except.bind_eq_ok h
  obtain ⟨_, -, h⟩ := Except.bind_eq_ok h
  rw [← Except.ok.inj h]
  exact Row.isIn_ofNetwork

end Statements

/-! ## Requests outside a variant -/

/-- A request keeps the rows of every variant outside its footprint, in every table, whether it is
done or fails. -/
theorem rowsIn_run (q : Request) (s : Store) (u : Uuid) (v : Int32) (h : ¬ q.Touches s.tables u v)
    (k : Kind) : (q.run s).tables.rowsIn k u v = s.tables.rowsIn k u v := by
  suffices hkept : (q.run s).rowsIn u v = s.rowsIn u v from congrFun hkept k
  cases q with
  | create k network rs =>
    exact keeps_create (fun r hr => keeps_insertRow_outside fun hin =>
      h ⟨r, hr, Row.isIn_ofEquipment.1 hin⟩) s
  | update k network rs =>
    refine keeps_update (fun r hr => keeps_updateRow ?_) s
    refine statementKeeps_update_outside (fun row hrow hin => h ⟨r, hr, ?_⟩) fun row => rfl
    exact Row.eq_of_isIn (Row.isAt_iff.1 (Bool.and_eq_true_iff.1 hrow).1).1 hin
  | delete k network n id =>
    refine keeps_delete (statementKeeps_delete_outside fun row hrow hin => h ?_) s
    exact Row.eq_of_isIn (Row.isAt_iff.1 hrow).1 hin
  | getOne k network n id => exact keeps_getOne network n id s
  | getAll k network n => exact keeps_getAll network n s
  | getByContainer k network n container => exact keeps_getByContainer network n container s
  | getIdentifiable network n id => exact keeps_getIdentifiable network n id s
  | createNetworks fresh rs =>
    exact keeps_createNetworks (fun r hr id row hrow => keeps_insertRow_outside fun hin =>
      h ⟨r, hr, (isIn_of_newNetworkRow hrow).1 hin⟩) s
  | updateNetworks rs =>
    refine keeps_updateNetworks (fun r hr => keeps_updateNetwork ?_) s
    exact statementKeeps_update_outside (fun row hrow hin => h ⟨r, hr, Row.eq_of_isIn hrow hin⟩)
      fun row => rfl
  | getNetwork network n => exact keeps_getNetwork network n s
  | listNetworks => exact keeps_listNetworks s
  | listVariants network => exact keeps_listVariants network s
  | deleteNetwork network =>
    refine keeps_deleteNetwork (fun k => statementKeeps_delete_outside fun row hrow hin => h ?_) s
    exact Cell.ofUuid_inj.1 ((Row.isOf_iff.1 hrow).symm.trans (Row.isIn_iff.1 hin).1)
  | deleteVariant network n =>
    refine keeps_deleteVariant (fun k => statementKeeps_delete_outside fun row hrow hin => h ?_) s
    exact Row.eq_of_isIn hrow hin
  | cloneVariant network source target variantId fresh =>
    refine keeps_cloneVariant (fun k id => statementKeeps_copy_outside fun row hrow hin => h ?_) s
    rw [Row.isIn_toVariantNum, (Row.isIn_iff.1 hrow).1, Cell.ofUuid_inj] at hin
    exact hin
  | cloneNetwork target source variantIds =>
    rw [Request.run]
    refine kept_cloneNetwork fun variants hvariants x hx hid k =>
      statementKeeps_copy_outside fun row hrow hin => h ?_
    rw [Row.isIn_toOtherNetwork, (Row.isIn_iff.1 hrow).2, Cell.ofInt32_inj] at hin
    obtain ⟨named, hnamed, hnamedIn, hnamedId⟩ := Store.exists_row_of_mem_variantsOf hvariants hx
    rw [hin.2] at hnamedIn
    exact ⟨hin.1, named, hnamed, hnamedIn, x.id, hid, hnamedId⟩

/-- A copied variant keeps its rows. -/
theorem rowsIn_run_source :
    ¬ (Request.cloneVariant .nil 0 1 none "peak").Touches Store.single.tables .nil 0 ∧
      ∀ k, ((Request.cloneVariant .nil 0 1 none "peak").run Store.single).tables.rowsIn k .nil 0
        = Store.single.tables.rowsIn k .nil 0 := by
  have h : ¬ (Request.cloneVariant .nil 0 1 none "peak").Touches Store.single.tables .nil 0 :=
    fun h => absurd h.2 (by decide)
  exact ⟨h, rowsIn_run _ _ _ _ h⟩

end GridStore
