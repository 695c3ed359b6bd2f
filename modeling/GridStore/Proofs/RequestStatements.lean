import GridStore.Proofs.BoundValues

/-!
# Statements that requests run

Every change that a request makes is that of a statement prepared for the table, run with the values
bound for its shape (`Request.Writes.leads`). So whatever comes of a request, such statements lead to
the tables that it leaves (`Store.Reachable.leads`). An update of equipment binds what the mapping
gives it (`EquipmentKind.values_update`). Statements that copy rows get each column from the right
place (`Sql.clones_aligned`).
-/

namespace GridStore

open Sql

/-! ## Statements run on tables -/

/-- What a request does with a statement that it runs. -/
def Sql.Run.execute (k : Kind) (run : Run) (ts : Tables) : Except StoreError Tables :=
  match run with
  | insert row => ts.insert k row
  | update .. => do return (← ts.update k (run.meets k.schema) (run.result k.schema)).1
  | deleteOne .. | deleteByVariant .. | deleteByNetwork .. => do
    return (← ts.delete k (run.meets k.schema)).1
  | cloneVariant .. | cloneNetwork .. => do
    return (← ts.copy k (run.meets k.schema) (run.result k.schema)).1
  | _ => .ok ts

/-- A statement of a table leads from tables to others: with the values that are bound it does to rows
what it is run for, and so to those that are stored. -/
def Sql.Leads (ts ts' : Tables) : Prop :=
  ∃ (k : Kind) (run : Run) (st : Statement), (run.shape, st) ∈ statements k.schema ∧
    (∀ r : Row, r.Fills k.schema →
      st.Does k.schema (run.values k.schema) r (run.meets k.schema r) (run.result k.schema r)) ∧
    (∀ r ∈ ts.rows k, r.Fills k.schema) ∧ run.execute k ts = .ok ts'

/-! ## Equipment and networks -/

section Runs

variable {network : Uuid} {n : Int32} {id : String}

theorem Kind.isNetwork_equipment (k : EquipmentKind) :
    (Kind.equipment k).schema.layout.isNetwork = false := by
  rw [Kind.layout_schema]
  rfl

namespace Sql.Run

theorem meets_deleteOne_equipment (k : EquipmentKind) :
    (deleteOne network n id).meets (Kind.equipment k).schema = (·.isAt network n id) := by
  funext row
  rw [meets, Row.isTarget, Kind.isNetwork_equipment]
  rfl

theorem meets_update_equipment (k : EquipmentKind) (assigned : List Cell) :
    (update network n id "" assigned).meets (Kind.equipment k).schema
      = fun row => row.isAt network n id && row.matchesKey (Kind.equipment k).schema assigned := by
  funext row
  rw [meets, Row.isTarget, Kind.isNetwork_equipment]
  rfl

theorem result_update_equipment (k : EquipmentKind) (assigned : List Cell) :
    (update network n id "" assigned).result (Kind.equipment k).schema
      = (·.assign (Kind.equipment k).schema assigned) := by
  funext row
  rw [result, Kind.isNetwork_equipment]
  rfl

/-- An update of a network matches no mapped column. -/
theorem meets_update_network (variantId : String) (assigned : List Cell) :
    (update network n id variantId assigned).meets Kind.network.schema = (·.isIn network n) := by
  funext row
  have hkey : row.matchesKey Kind.network.schema assigned = true := by
    simp [Row.matchesKey, show Kind.network.schema.updateKey = none from rfl]
  rw [meets, hkey, Bool.and_true]
  rfl

end Sql.Run

/-- What an update of equipment matches is the container of the resource, which is no null. -/
theorem EquipmentKind.keyValue?_ofAttributes (k : EquipmentKind) (a : k.Attributes) :
    keyValue? (Kind.equipment k).schema (Row.ofAttributes a)
      = (StoredAttributes.containerId a).map Cell.text :=
  k.keyCell_ofEquipment .nil (.of "" 0 a)

/-- What an update assigns is what the columns hold of the values that the mapping assigns. -/
theorem Sql.assignedValues_ofAttributes {A : Type} [Attributes A] (a : A) :
    assignedValues (Attributes.schema A) (Row.ofAttributes a)
      = Row.storeAll
          ((Attributes.schema A).columns.filter fun c => some c.name ≠ (Attributes.schema A).updateKey)
          ((Attributes.mapping (A := A)).updateValues a).1 := by
  generalize hm : (Attributes.mapping (A := A)) = m
  have hs : Attributes.schema A = m.schema := congrArg Mapping.schema hm
  have hcolumns : m.schema.columns.filter (fun c => some c.name ≠ m.schema.updateKey)
      = (m.fields.filter fun f => some f.name ≠ m.updateKey).map (·.info) := List.filter_map
  rw [assignedValues, Row.ofAttributes_eq, hm, hs, Mapping.columnNames_schema, List.zip_map',
    List.filter_map, List.map_map, Row.storeAll, Mapping.updateValues, List.partition_eq_filter_filter,
    hcolumns, List.zipWith_map, List.zipWith_self]
  rfl

/-- An update of equipment binds the values that the mapping assigns, then what finds the row, and the
value that the mapping matches, if there is one, last. -/
theorem EquipmentKind.values_update (k : EquipmentKind) (a : k.Attributes) :
    let s := (Kind.equipment k).schema
    let bound := (Attributes.mapping (A := k.Attributes)).updateValues a
    (Run.update network n id "" (Row.ofAttributes a)).values s
      = Row.storeAll (s.columns.filter fun c => some c.name ≠ s.updateKey) bound.1 ++
        [.ofUuid network, .ofInt32 n, .text id] ++ (bound.2.map (Cell.store .text)).toList := by
  intro s bound
  have hassigned : assignedValues s (Row.ofAttributes a)
      = Row.storeAll (s.columns.filter fun c => some c.name ≠ s.updateKey) bound.1 :=
    assignedValues_ofAttributes a
  have hmatched : keyValue? s (Row.ofAttributes a) = bound.2.map (Cell.store .text) := by
    cases k <;> rfl
  have hnetwork : s.layout.isNetwork = false := Kind.isNetwork_equipment k
  simp [Run.values, hassigned, hmatched, rowValues, hnetwork]

end Runs

/-! ## Copies to other networks -/

theorem Tables.copy_congr {ts : Tables} {k : Kind} {p : Row → Bool} {f g : Row → Row}
    (h : ∀ r ∈ ts.rows k, p r = true → f r = g r) : ts.copy k p f = ts.copy k p g := by
  unfold copy existing
  rcases ht : ts.table? k with _ | t
  · rfl
  · have hcopies : (t.rows.filter p).map f = (t.rows.filter p).map g := by
      refine List.map_congr_left fun r hr => ?_
      obtain ⟨hr, hp⟩ := List.mem_filter.1 hr
      exact h r (by rwa [rows, ht]) hp
    show (do return (ts.setRows k (← ((t.rows.filter p).map f).foldlM (Table.insertRow k) t.rows),
      ((t.rows.filter p).map f).length)) = _
    rw [hcopies]
    rfl

/-- What a copy to another network makes of a row of a variant under its id is the row itself but for
the network. -/
theorem toVariantNum_of_isIn {r : Row} {source : Uuid} {x : Variant} (h : r.isIn source x.num = true)
    (hid : ∀ id ∈ r.variantId, id = .text x.id) : r.toVariantNum x.num x.id = r := by
  have hids : (r.variantId.map fun _ => Cell.text x.id) = r.variantId := by
    rcases hvid : r.variantId with _ | id
    · rfl
    · rw [hid id hvid]
      rfl
  rw [Row.toVariantNum, hids, ← (Row.isIn_iff.1 h).2]

/-- Rows of a variant that name one name the same. -/
theorem Tables.Sound.exists_variantId {ts : Tables} (h : ts.Sound (Row.Follows fun _ => True))
    (k : Kind) (network : Uuid) (n : Int32) :
    ∃ id, ∀ r ∈ ts.rows k, r.isIn network n = true → ∀ cell ∈ r.variantId, cell = .text id := by
  rcases k with _ | k
  · by_cases hstored : ∃ r ∈ ts.rows .network, r.isIn network n = true
    · obtain ⟨r, hr, hin⟩ := hstored
      obtain ⟨id, hid, -⟩ := (h.each .network r hr).variantId
      refine ⟨id, fun t ht htin cell hcell => ?_⟩
      have hsame := (h.unique .network).eq_of_clash hr ht (Table.clash_of_isIn_network hin htin)
      rw [← hsame, hid] at hcell
      exact (Option.mem_some.1 hcell).symm
    · exact ⟨"", fun r hr hin => absurd ⟨r, hr, hin⟩ hstored⟩
  · refine ⟨"", fun r hr _ cell hcell => ?_⟩
    rw [show r.variantId = none from (h.each (.equipment k) r hr).variantId] at hcell
    cases hcell

/-! ## Requests -/

/-- Every statement that a request makes is a prepared one with the values that are bound. -/
theorem Request.Writes.leads {q : Request} {ts ts' : Tables} (h : q.Writes ts ts')
    (hfills : ts.Sound fun k r => r.Fills k.schema)
    (hfollows : ts.Sound (Row.Follows fun _ => True)) : Leads ts ts' := by
  suffices hrun : ∃ (k : Kind) (run : Run), run.execute k ts = .ok ts' ∧ run.Suits k.schema ∧
      run.IsFor k.schema by
    obtain ⟨k, run, hdone, hsuits, hfor⟩ := hrun
    have hst := Run.mem_statements.2 ⟨rfl, hfor⟩
    exact ⟨k, run, _, hst, fun r => Run.does k.defect?_schema hsuits hst, hfills.each k, hdone⟩
  have hcount {x : Except StoreError (Tables × Nat)} {n : Nat} (hx : x = .ok (ts', n)) :
      (do return (← x).1) = Except.ok ts' := hx ▸ rfl
  cases h with
  | @create k network rs r _ _ _ _ hdone =>
    exact ⟨.equipment k, .insert (.ofEquipment network r), hdone,
      Row.fills_ofEquipment network r, trivial⟩
  | @update k network rs r _ _ n _ _ hdone =>
    refine ⟨.equipment k, .update network r.variantNum r.id "" (Row.ofAttributes r.attributes), ?_,
      ⟨Row.length_ofAttributes r.attributes, ?_⟩, trivial⟩
    · rw [Run.execute, Run.meets_update_equipment, Run.result_update_equipment]
      exact hcount hdone
    · rw [k.keyValue?_ofAttributes]
      rcases StoredAttributes.containerId r.attributes with _ | id <;> simp
  | @delete k network n id _ _ _ hdone =>
    refine ⟨.equipment k, .deleteOne network n id, ?_, trivial, Kind.isNetwork_equipment k⟩
    rw [Run.execute, Run.meets_deleteOne_equipment]
    exact hcount hdone
  | createNetworks hr hrow hdone =>
    obtain ⟨-, rfl⟩ := newNetworkRow_eq_ok_iff.1 hrow
    exact ⟨.network, .insert _, hdone, Row.fills_ofNetwork _ _, trivial⟩
  | @updateNetworks rs r _ _ _ hrule hr hdone =>
    refine ⟨.network, .update r.attributes.uuid r.variantNum r.id r.attributes.variantId
      (Row.ofAttributes r.attributes), ?_, ⟨Row.length_ofAttributes r.attributes, ?_⟩, trivial⟩
    · rw [Run.execute, Run.meets_update_network]
      exact hcount hdone
    · rw [show keyValue? Kind.network.schema (Row.ofAttributes r.attributes) = none from rfl]
      simp
  | @deleteNetwork network k _ _ _ hdone =>
    exact ⟨k, .deleteByNetwork network, hcount hdone, trivial, trivial⟩
  | @deleteVariant network n k _ _ _ hrule hdone =>
    exact ⟨k, .deleteByVariant network n, hcount hdone, trivial, trivial⟩
  | @cloneVariant network source target variantId fresh id k _ _ _ hrule hid hdone =>
    exact ⟨k, .cloneVariant network source target id, hcount hdone, trivial, trivial⟩
  | @cloneNetwork target source variantIds n k _ _ _ hrule hdone =>
    obtain ⟨id, hid⟩ := hfollows.exists_variantId k source n
    refine ⟨k, .cloneNetwork target source ⟨id, n⟩, ?_, trivial, trivial⟩
    have hcopy : ts.copy k (·.isIn source n) (·.toOtherNetwork target)
        = ts.copy k (·.isIn source n) fun r => (r.toVariantNum n id).toOtherNetwork target :=
      Tables.copy_congr fun r hr hin => congrArg (Row.toOtherNetwork target)
        (toVariantNum_of_isIn (x := ⟨id, n⟩) hin (hid r hr hin)).symm
    exact hcount (hcopy ▸ hdone)

/-- Whatever comes of a request, prepared statements with the values that are bound lead to the tables
that it leaves. -/
theorem Store.Reachable.leads {P : Request → Prop} {s : Store} (h : s.Reachable P) (q : Request) :
    Relation.ReflTransGen Leads s.tables (q.run s).tables := by
  have hrun : Relation.ReflTransGen q.Writes s.tables (q.run s).tables := reaches_run q s
  have hfills : s.tables.Sound fun k r => r.Fills k.schema :=
    h.induction Tables.sound_blank fun _ _ _ _ hwrite hts => hwrite.fills hts
  have hfollows := h.sound_any
  generalize s.tables = ts at hrun hfills hfollows
  induction hrun using Relation.ReflTransGen.head_induction_on with
  | refl => exact .refl
  | head hwrite _ ih =>
    exact .head (hwrite.leads hfills hfollows)
      (ih (hwrite.fills hfills) (hwrite.sound hfollows fun _ _ => trivial))

/-! ## Copies -/

/-- Statements that copy rows shift no column. For all names, the text inserts into as many columns
as it selects: placeholders for the number of the variant, the id of a network's variant and, in a
copy to another network, the network, and for each other column the column itself. The remaining
placeholders are compared with the network and the number. What is bound for them in this order
makes of every stored row the copy that is to be made of it, a cell for each column, and copies it
if it is in the source. -/
theorem Sql.clones_aligned :
    (∀ (l : TableLayout) (columns : List String),
      (∃ ts, Token.ofText? (cloneVariant l columns).text.toList = some ts ∧
        Token.Copies ts ("variantNum" :: l.variantIdColumn.toList)
          (l.networkColumn :: "id" :: columns) [l.networkColumn, "variantNum"]) ∧
      ∃ ts, Token.ofText? (cloneNetwork l columns).text.toList = some ts ∧
        Token.Copies ts ("variantNum" :: l.variantIdColumn.toList ++ [l.networkColumn])
          ("id" :: columns) [l.networkColumn, "variantNum"]) ∧
    ∀ s : Store, s.Reachable (fun _ => True) → ∀ k, ∀ r ∈ s.tables.rows k,
      (∀ (network : Uuid) (source target : Int32) (id : String), ∃ cells,
        (cloneVariant k.layout k.schema.columnNames).effect? (r.cell? k.schema)
            (cloneVariantValues network source target id k)
          = some (r.isIn network source, cells) ∧
        (cells.map Prod.fst).Perm k.columns ∧
        ∀ x ∈ cells, (r.toVariantNum target id).cell? k.schema x.1 = some x.2) ∧
      ∀ (target source : Uuid) (variant : Variant), ∃ cells,
        (cloneNetwork k.layout k.schema.columnNames).effect? (r.cell? k.schema)
            (cloneNetworkValues target source variant k)
          = some (r.isIn source variant.num, cells) ∧
        (cells.map Prod.fst).Perm k.columns ∧
        (r.isIn source variant.num = true → (∀ id ∈ r.variantId, id = .text variant.id) →
          ∀ x ∈ cells, (r.toOtherNetwork target).cell? k.schema x.1 = some x.2) := by
  refine ⟨fun l columns => ⟨copies_cloneVariant l columns, copies_cloneNetwork l columns⟩,
    fun s hs k r hr => ?_⟩
  have hdoes (run : Run) (hsuits : run.Suits k.schema) (hfor : run.IsFor k.schema) :=
    Run.does k.defect?_schema hsuits (Run.mem_statements.2 ⟨rfl, hfor⟩) (hs.fills k r hr)
  have hcolumns := perm_insertedColumns k.schema
  rw [k.layout_schema] at hcolumns
  constructor
  · intro network source target id
    obtain ⟨cells, hcells, hnames, hcopy⟩ :=
      (hdoes (.cloneVariant network source target id) trivial trivial).effect
    rw [Run.statement, Run.values, k.layout_schema, k.kind_schema] at hcells
    rw [Run.statement, k.layout_schema, columnsGiven_cloneVariant] at hnames
    exact ⟨cells, hcells, hnames ▸ hcolumns, hcopy⟩
  · intro target source x
    obtain ⟨cells, hcells, hnames, hcopy⟩ :=
      (hdoes (.cloneNetwork target source x) trivial trivial).effect
    rw [Run.statement, Run.values, k.layout_schema, k.kind_schema] at hcells
    rw [Run.statement, k.layout_schema, columnsGiven_cloneNetwork] at hnames
    rw [Run.result] at hcopy
    refine ⟨cells, hcells, hnames ▸ hcolumns, fun hin hid => ?_⟩
    rwa [toVariantNum_of_isIn hin hid] at hcopy

/-- A network's row is copied to another number under another id. -/
theorem Sql.clones_aligned_single :
    Store.single.Reachable (fun _ => True) ∧
      .ofNetwork initialVariantId (.of "grid" 0 default) ∈ Store.single.tables.rows .network ∧
      ∃ cells, (cloneVariant Kind.network.layout Kind.network.schema.columnNames).effect?
          (Row.cell? Kind.network.schema (.ofNetwork initialVariantId (.of "grid" 0 default)))
          [.ofInt32 1, .text "peak", .ofUuid .nil, .ofInt32 0] = some (true, cells) ∧
        ∀ x ∈ cells, x.1 = "variantId" → x.2 = .text "peak" := by
  have hreach := Store.reachable_single (P := fun _ => True) trivial
  have hrow : .ofNetwork initialVariantId (.of "grid" 0 default)
      ∈ Store.single.tables.rows .network := by
    rw [Tables.rows_single_network]
    exact List.mem_singleton_self _
  obtain ⟨cells, hcells, -, hcopy⟩ :=
    (Sql.clones_aligned.2 _ hreach _ _ hrow).1 .nil 0 1 "peak"
  refine ⟨hreach, hrow, cells, hcells, fun x hx hname => ?_⟩
  have hcell := hcopy x hx
  rw [hname] at hcell
  exact (Option.some.inj hcell).symm

end GridStore
