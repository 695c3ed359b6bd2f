import GridStore.Proofs.EquipmentUpdate
import GridStore.Proofs.Placeholders
import GridStore.Proofs.Reachable

/-!
# Rows by column

A row that fills its table has a cell for each of the table's columns: the fixed ones hold its fields
and the mapped ones its values (`Row.cell?_fixed`, `Row.map_cell?_mapped`). Rows of stores that
requests lead to fill their tables (`Store.Reachable.fills`).
-/

namespace GridStore

/-! ## Cells by column -/

section Lookup

variable {names : List String} {cells : List Cell}

theorem lookup_zip_eq_some_iff {c : String} {v : Cell} : ∀ {names : List String} {cells : List Cell},
    names.Nodup → ((names.zip cells).lookup c = some v ↔ (c, v) ∈ names.zip cells)
  | [], _, _ => by simp
  | _ :: _, [], _ => by simp
  | name :: names, cell :: cells, h => by
    rw [List.nodup_cons] at h
    have hrest := @lookup_zip_eq_some_iff c v names cells h.2
    rw [List.zip_cons_cons, List.lookup_cons, List.mem_cons, Prod.mk.injEq]
    by_cases hname : c = name
    · subst hname
      have hnot : (c, v) ∉ names.zip cells := fun hmem => h.1 (List.of_mem_zip hmem).1
      simp [hnot, eq_comm]
    · rw [beq_false_of_ne hname, hrest]
      simp [hname]

/-- Some of the columns, looked up one after another, hold the cells beside them. -/
theorem map_lookup_filter (hnodup : names.Nodup) (hlength : names.length = cells.length)
    (p : String → Bool) : ((names.filter p).map fun c => (names.zip cells).lookup c)
      = (((names.zip cells).filter fun x => p x.1).map Prod.snd).map some := by
  have hnames : names.filter p = ((names.zip cells).filter fun x => p x.1).map Prod.fst := by
    conv_lhs => rw [← List.map_fst_zip (Nat.le_of_eq hlength)]
    rw [List.filter_map]
    rfl
  rw [hnames, List.map_map, List.map_map]
  exact List.map_congr_left fun x hx =>
    (lookup_zip_eq_some_iff hnodup).2 (List.mem_filter.1 hx).1

theorem map_lookup_zip (hnodup : names.Nodup) (hlength : names.length = cells.length) :
    (names.map fun c => (names.zip cells).lookup c) = cells.map some := by
  have hall := map_lookup_filter hnodup hlength fun _ => true
  rwa [List.filter_true, List.filter_true, List.map_snd_zip (Nat.le_of_eq hlength.symm)] at hall

/-- An update assigns every column but the one that it matches. -/
theorem lookup_zip_assign_of_ne {key : Option String} {c : String} (hc : some c ≠ key) :
    ∀ {names : List String} {xs ys : List Cell}, names.length ≤ xs.length →
      (names.zip ((names.zip (xs.zip ys)).map fun (name, old, new) =>
        if some name = key then old else new)).lookup c = (names.zip ys).lookup c
  | [], _, _, _ => rfl
  | _ :: _, [], _, h => absurd h (by simp)
  | _ :: _, _ :: _, [], _ => rfl
  | name :: names, x :: xs, y :: ys, h => by
    have hrest := @lookup_zip_assign_of_ne key c hc names xs ys (Nat.le_of_succ_le_succ h)
    simp only [List.zip_cons_cons, List.map_cons, List.lookup_cons, hrest]
    by_cases hname : c = name
    · subst hname
      simp [hc]
    · rw [beq_false_of_ne hname]

end Lookup

namespace Row

/-- What a row holds, in the order of its table's columns. -/
def cells (r : Row) : List Cell :=
  [r.network, r.variantNum] ++ r.variantId.toList ++ [r.id] ++ r.values

/-- What a row of a table holds in a column. -/
def cell? (s : TableSchema) (r : Row) (column : String) : Option Cell :=
  ((s.layout.insertedColumns ++ s.columnNames).zip r.cells).lookup column

/-- A row has a cell for each column of a table. -/
structure Fills (s : TableSchema) (r : Row) : Prop where
  variantId : r.variantId.isSome = s.layout.isNetwork
  values : r.values.length = s.columnNames.length

section Cells

variable {s : TableSchema} {r t : Row}

theorem length_fixed (h : r.Fills s) : s.layout.insertedColumns.length
    = ([r.network, r.variantNum] ++ r.variantId.toList ++ [r.id]).length := by
  have hvid : s.layout.variantIdColumn.toList.length = r.variantId.toList.length := by
    rw [Option.length_toList, Option.length_toList, h.variantId]
    rfl
  simp [TableLayout.insertedColumns, hvid]

theorem cell?_of_not_mem (h : r.Fills s) {c : String} (hc : c ∉ s.layout.insertedColumns) :
    r.cell? s c = (s.columnNames.zip r.values).lookup c := by
  rw [cell?, cells, List.zip_append (length_fixed h), List.lookup_append, lookup_zip_of_not_mem hc,
    Option.none_or]

theorem cell?_fixed (h : r.Fills s) :
    r.cell? s s.layout.networkColumn = some r.network ∧ r.cell? s "variantNum" = some r.variantNum ∧
      (∀ c ∈ s.layout.variantIdColumn, r.cell? s c = r.variantId) ∧ r.cell? s "id" = some r.id := by
  have hvid := h.variantId
  unfold cell? cells
  rw [TableSchema.layout] at hvid ⊢
  rcases hkind : s.kind with _ | k <;> rw [hkind] at hvid
  · obtain ⟨vid, hvid⟩ := Option.isSome_iff_exists.1 (hvid.trans rfl)
    rw [hvid]
    exact ⟨rfl, rfl, fun c hc => Option.mem_some.1 hc ▸ rfl, rfl⟩
  · have hvid : r.variantId = none := Option.isSome_eq_false_iff.1 hvid |> Option.isNone_iff_eq_none.1
    rw [hvid]
    exact ⟨rfl, rfl, fun c hc => absurd hc (Option.not_mem_none c), rfl⟩

theorem map_cell?_variantId (h : r.Fills s) :
    s.layout.variantIdColumn.toList.map (r.cell? s) = r.variantId.toList.map some := by
  obtain ⟨-, -, hcell, -⟩ := r.cell?_fixed h
  have hvid := h.variantId
  rw [TableLayout.isNetwork] at hvid
  rcases hcolumn : s.layout.variantIdColumn with _ | c <;> rcases hid : r.variantId with _ | id <;>
    rw [hcolumn, hid] at hvid
  · rfl
  · cases hvid
  · cases hvid
  · simp [hcell c hcolumn, hid]

theorem cell?_eq_lookup (hs : s.defect? = none) (h : r.Fills s) {c : String}
    (hc : c ∈ s.columnNames) : r.cell? s c = (s.columnNames.zip r.values).lookup c := by
  obtain ⟨-, hfixed, -⟩ := TableSchema.defect?_eq_none_iff.1 hs
  exact r.cell?_of_not_mem h fun hin => hfixed c hc (Sql.mem_insertedColumns.1 hin)

theorem map_cell?_mapped (hs : s.defect? = none) (h : r.Fills s) :
    s.columnNames.map (r.cell? s) = r.values.map some := by
  obtain ⟨hnodup, -⟩ := TableSchema.defect?_eq_none_iff.1 hs
  rw [← map_lookup_zip hnodup h.values.symm]
  exact List.map_congr_left fun c hc => cell?_eq_lookup hs h hc

theorem map_cell?_fixed (h : r.Fills s) : s.layout.insertedColumns.map (r.cell? s)
    = ([r.network, r.variantNum] ++ r.variantId.toList ++ [r.id]).map some := by
  obtain ⟨hnetwork, hnum, -, hid⟩ := r.cell?_fixed h
  simp [TableLayout.insertedColumns, hnetwork, hnum, hid, map_cell?_variantId h]

theorem map_cell? (hs : s.defect? = none) (h : r.Fills s) :
    (s.layout.insertedColumns ++ s.columnNames).map (r.cell? s) = r.cells.map some := by
  rw [List.map_append, map_cell?_fixed h, map_cell?_mapped hs h, cells, ← List.map_append]

theorem isSome_cell? (hs : s.defect? = none) (h : r.Fills s) {c : String}
    (hc : c ∈ s.layout.insertedColumns ++ s.columnNames) : (r.cell? s c).isSome := by
  have hcell : r.cell? s c ∈ r.cells.map some := map_cell? hs h ▸ List.mem_map_of_mem hc
  obtain ⟨v, -, hv⟩ := List.mem_map.1 hcell
  rw [← hv]
  rfl

theorem cell?_congr_fixed (h : r.Fills s) (ht : t.Fills s) (hnetwork : t.network = r.network)
    (hnum : t.variantNum = r.variantNum) (hvid : t.variantId = r.variantId) (hid : t.id = r.id)
    {c : String} (hc : c ∈ s.layout.insertedColumns) : t.cell? s c = r.cell? s c := by
  have hmap : s.layout.insertedColumns.map (t.cell? s) = s.layout.insertedColumns.map (r.cell? s) := by
    rw [map_cell?_fixed h, map_cell?_fixed ht, hnetwork, hnum, hvid, hid]
  exact List.map_inj_left.1 hmap c hc

theorem cell?_congr (hs : s.defect? = none) (h : r.Fills s) (ht : t.Fills s)
    (hvalues : t.values = r.values) {c : String} (hc : c ∈ s.columnNames) :
    (r.cell? s c).isSome ∧ t.cell? s c = r.cell? s c := by
  refine ⟨isSome_cell? hs h (List.mem_append_right _ hc), ?_⟩
  rw [cell?_eq_lookup hs ht hc, hvalues, cell?_eq_lookup hs h hc]

end Cells

end Row

/-! ## Rows that fill their tables -/

/-- The row of a network with its id and values replaced, and the id of its variant unless none is
given. -/
def Row.assignNetwork (id variantId : String) (assigned : List Cell) (r : Row) : Row :=
  { r with
    id := .text id
    variantId := if variantId = "" then r.variantId else some (.text variantId)
    values := assigned }

section Fills

variable {s : TableSchema} {r : Row}

theorem Row.fills_toVariantNum (h : r.Fills s) (n : Int32) (id : String) :
    (r.toVariantNum n id).Fills s where
  variantId := by
    rw [← h.variantId]
    exact Option.isSome_map
  values := h.values

theorem Row.fills_toOtherNetwork (h : r.Fills s) (u : Uuid) : (r.toOtherNetwork u).Fills s where
  variantId := h.variantId
  values := h.values

theorem Row.fills_ofEquipment {k : EquipmentKind} (network : Uuid) (r : Resource k.Attributes) :
    (ofEquipment network r).Fills (Kind.equipment k).schema where
  variantId := by
    rw [Kind.layout_schema]
    rfl
  values := length_ofAttributes r.attributes

theorem Row.fills_ofNetwork (id : String) (r : Resource Network) :
    (ofNetwork id r).Fills Kind.network.schema where
  variantId := rfl
  values := length_ofAttributes r.attributes

theorem Row.fills_assign (h : r.Fills s) {assigned : List Cell}
    (hassigned : assigned.length = s.columnNames.length) : (r.assign s assigned).Fills s where
  variantId := h.variantId
  values := by
    show ((s.columnNames.zip (r.values.zip assigned)).map _).length = _
    simp [h.values, hassigned]

theorem Row.fills_assignNetwork (h : r.Fills s) (hnetwork : s.layout.isNetwork = true)
    {assigned : List Cell} (hassigned : assigned.length = s.columnNames.length)
    (id variantId : String) : (r.assignNetwork id variantId assigned).Fills s where
  variantId := by
    rw [assignNetwork]
    split
    · exact h.variantId
    · exact hnetwork.symm
  values := hassigned

end Fills

/-- Every statement of a request leaves rows that fill their tables. -/
theorem Request.Writes.fills {q : Request} {ts ts' : Tables} (h : q.Writes ts ts')
    (hts : ts.Sound fun k r => r.Fills k.schema) : ts'.Sound fun k r => r.Fills k.schema := by
  cases h with
  | create _ _ hdone => exact hts.insert hdone (Row.fills_ofEquipment _ _)
  | update _ _ hdone =>
    exact hts.update hdone fun row _ hrow => Row.fills_assign hrow (Row.length_ofAttributes _)
  | delete hdone => exact hts.delete hdone
  | createNetworks _ hrow hdone =>
    obtain ⟨-, rfl⟩ := newNetworkRow_eq_ok_iff.1 hrow
    exact hts.insert hdone (Row.fills_ofNetwork _ _)
  | updateNetworks _ _ hdone =>
    exact hts.update hdone fun row _ hrow =>
      Row.fills_assignNetwork hrow rfl (Row.length_ofAttributes _) _ _
  | deleteNetwork hdone => exact hts.delete hdone
  | deleteVariant _ hdone => exact hts.delete hdone
  | cloneVariant _ _ hdone =>
    exact hts.copy hdone fun row _ hrow => Row.fills_toVariantNum hrow _ _
  | cloneNetwork _ hdone => exact hts.copy hdone fun row _ hrow => Row.fills_toOtherNetwork hrow _

theorem Store.Reachable.fills {P : Request → Prop} {s : Store} (h : s.Reachable P) (k : Kind) :
    ∀ r ∈ s.tables.rows k, r.Fills k.schema :=
  (h.induction Tables.sound_blank fun _ _ _ _ hwrite hts => hwrite.fills hts).each k

end GridStore
