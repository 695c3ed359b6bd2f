import GridStore.Proofs.StatementEffects

/-!
# Values bound to placeholders

What calls bind is listed for every shape of statement (`Sql.Run.values`), with the rows that the call
is about and what it leaves of them or makes of them. On rows that fill their table the statement with
these values does just that: it finds the rows, and gives columns what the rows that the call leaves
hold in them (`Sql.Run.does`).
-/

namespace GridStore

namespace Sql

/-! ## What calls bind -/

/-- What a statement of a table is run for. -/
inductive Run where
  | selectOne (network : Uuid) (variantNum : Int32) (id : String)
  | selectAll (network : Uuid) (variantNum : Int32)
  | selectByContainer (network : Uuid) (variantNum : Int32) (container : String)
  | insert (row : Row)
  /-- A network's row is assigned its id too, and the id of its variant unless none is given. -/
  | update (network : Uuid) (variantNum : Int32) (id variantId : String) (assigned : List Cell)
  | deleteOne (network : Uuid) (variantNum : Int32) (id : String)
  | deleteByVariant (network : Uuid) (variantNum : Int32)
  | deleteByNetwork (network : Uuid)
  | cloneVariant (network : Uuid) (source target : Int32) (variantId : String)
  | cloneNetwork (target source : Uuid) (variant : Variant)
  | listVariants (network : Uuid)
  | selectNetworkInfos

/-- What a copy of a variant binds in a table. -/
def cloneVariantValues (network : Uuid) (source target : Int32) (variantId : String) :
    Kind → List Cell
  | .network => [.ofInt32 target, .text variantId, .ofUuid network, .ofInt32 source]
  | .equipment _ => [.ofInt32 target, .ofUuid network, .ofInt32 source]

/-- What a copy of a variant to another network binds in a table. -/
def cloneNetworkValues (target source : Uuid) (x : Variant) : Kind → List Cell
  | .network => [.ofInt32 x.num, .text x.id, .ofUuid target, .ofUuid source, .ofInt32 x.num]
  | .equipment _ => [.ofInt32 x.num, .ofUuid target, .ofUuid source, .ofInt32 x.num]

/-- What is bound to find a row. -/
def rowValues (l : TableLayout) (network : Uuid) (variantNum : Int32) (id : String) : List Cell :=
  [.ofUuid network, .ofInt32 variantNum] ++ if l.isNetwork then [] else [.text id]

/-- What an update binds for the columns that it assigns. -/
def assignedValues (s : TableSchema) (assigned : List Cell) : List Cell :=
  ((s.columnNames.zip assigned).filter fun x => some x.1 ≠ s.updateKey).map Prod.snd

/-- What an update binds for the column that it matches. -/
def keyValue? (s : TableSchema) (assigned : List Cell) : Option Cell :=
  s.updateKey.bind fun key => (s.columnNames.zip assigned).lookup key

end Sql

/-- Whether a row of a table is the one that is to be found. -/
def Row.isTarget (l : TableLayout) (network : Uuid) (variantNum : Int32) (id : String) (r : Row) :
    Bool :=
  if l.isNetwork then r.isIn network variantNum else r.isAt network variantNum id

namespace Sql.Run

/-- The shape of the statement. -/
def shape : Run → Shape
  | selectOne .. => .selectOne
  | selectAll .. => .selectAll
  | selectByContainer .. => .selectByContainer
  | insert .. => .insert
  | update .. => .update
  | deleteOne .. => .deleteOne
  | deleteByVariant .. => .deleteByVariant
  | deleteByNetwork .. => .deleteByNetwork
  | cloneVariant .. => .cloneVariant
  | cloneNetwork .. => .cloneNetwork
  | listVariants .. => .listVariants
  | selectNetworkInfos => .selectNetworkInfos

/-- The values that are bound, in order. -/
def values (s : TableSchema) : Run → List Cell
  | selectOne network n id | deleteOne network n id => rowValues s.layout network n id
  | selectAll network n | deleteByVariant network n => [.ofUuid network, .ofInt32 n]
  | selectByContainer network n container =>
    [.ofUuid network, .ofInt32 n] ++ List.replicate s.containers.length (.text container)
  | insert row => row.cells
  | update network n id variantId assigned =>
    (if s.layout.isNetwork then [.text id, if variantId = "" then .null else .text variantId]
      else []) ++ assignedValues s assigned ++
      (rowValues s.layout network n id ++ (keyValue? s assigned).toList)
  | deleteByNetwork network | listVariants network => [.ofUuid network]
  | cloneVariant network source target variantId =>
    cloneVariantValues network source target variantId s.kind
  | cloneNetwork target source x => cloneNetworkValues target source x s.kind
  | selectNetworkInfos => []

/-- The rows that the call is about. -/
def meets (s : TableSchema) : Run → Row → Bool
  | selectOne network n id, r | deleteOne network n id, r => r.isTarget s.layout network n id
  | selectAll network n, r | deleteByVariant network n, r => r.isIn network n
  | selectByContainer network n container, r => r.isIn network n && r.isAttached s container
  | insert _, _ => true
  | update network n id _ assigned, r =>
    r.isTarget s.layout network n id && r.matchesKey s assigned
  | deleteByNetwork network, r | listVariants network, r => r.isOf network
  | cloneVariant network source _ _, r => r.isIn network source
  | cloneNetwork _ source x, r => r.isIn source x.num
  | selectNetworkInfos, r => r.variantNum = .ofInt32 initialVariantNum

/-- The row that a call leaves of such a row or makes of it. -/
def result (s : TableSchema) : Run → Row → Row
  | insert row, _ => row
  | update _ _ id variantId assigned, r =>
    if s.layout.isNetwork then r.assignNetwork id variantId assigned else r.assign s assigned
  | cloneVariant _ _ target variantId, r => r.toVariantNum target variantId
  | cloneNetwork target _ x, r => (r.toVariantNum x.num x.id).toOtherNetwork target
  | _, r => r

/-- What calls see to: rows have all columns, and no column is matched that holds nothing. -/
def Suits (s : TableSchema) : Run → Prop
  | insert row => row.Fills s
  | update _ _ _ _ assigned =>
    assigned.length = s.columnNames.length ∧ keyValue? s assigned ≠ some .null
  | _ => True

end Sql.Run

namespace Sql

/-! ## Conditions of a table's statements -/

section Conditions

variable {s : TableSchema} {r : Row} {network : Uuid} {variantNum : Int32} {id : String}

theorem meets_ofNetwork (h : r.Fills s) :
    Meets (r.cell? s) [.equals s.layout.networkColumn] [.ofUuid network] (r.isOf network) :=
  meets_cell (r.cell?_fixed h).1 (by simp [Cell.ofUuid])

theorem meets_ofVariant (h : r.Fills s) :
    Meets (r.cell? s) (ofVariant s.layout) [.ofUuid network, .ofInt32 variantNum]
      (r.isIn network variantNum) := by
  rw [Row.isIn, Bool.and_comm]
  exact (meets_ofNetwork h).append
    (meets_cell (r.cell?_fixed h).2.1 (by simp [Cell.ofInt32]))

theorem meets_ofRow (h : r.Fills s) :
    Meets (r.cell? s) (ofRow s.layout) (rowValues s.layout network variantNum id)
      (r.isTarget s.layout network variantNum id) := by
  unfold ofRow rowValues Row.isTarget
  split
  · simpa using meets_ofVariant h
  · rw [Row.isAt, Bool.and_comm]
    exact (meets_ofVariant h).append (meets_cell (r.cell?_fixed h).2.2.2 (by simp))

theorem meets_key (hs : s.defect? = none) (h : r.Fills s) {assigned : List Cell}
    (hlength : assigned.length = s.columnNames.length) (hkey : keyValue? s assigned ≠ some .null) :
    Meets (r.cell? s) (s.updateKey.toList.map .equals) (keyValue? s assigned).toList
      (r.matchesKey s assigned) := by
  obtain ⟨hnodup, -, -, hmapped⟩ := TableSchema.defect?_eq_none_iff.1 hs
  have hmatched : r.matchesKey s assigned = true ↔ r.keyCell s = keyValue? s assigned :=
    Row.matchesKey_iff_keyCell (t := { r with values := assigned }) hnodup h.values.symm hlength.symm
  rw [Bool.eq_iff_iff.2 (hmatched.trans decide_eq_true_iff.symm)]
  unfold Row.keyCell
  unfold keyValue? at hkey ⊢
  rcases hk : s.updateKey with _ | key
  · exact meets_nil
  · have hmem := hmapped key hk
    have hbound : (s.columnNames.zip assigned).lookup key ∈ assigned.map some :=
      map_lookup_zip hnodup hlength.symm ▸ List.mem_map_of_mem hmem
    obtain ⟨v, -, hv⟩ := List.mem_map.1 hbound
    rw [hk, Option.bind_some, ← hv] at hkey
    rw [Option.bind_some, Option.bind_some, ← hv, ← Row.cell?_eq_lookup hs h hmem]
    exact meets_equals fun hnull => hkey (congrArg some hnull)

/-- A look for a container binds it once for each column that names one. -/
theorem meets_containers (hs : s.defect? = none) (h : r.Fills s) {container : String} :
    Meets (r.cell? s) [.anyOf s.containers] (List.replicate s.containers.length (.text container))
      (r.isAttached s container) := by
  obtain ⟨hnodup, -, hcontainers, -⟩ := TableSchema.defect?_eq_none_iff.1 hs
  have hattached : (s.containers.any fun c => decide (r.cell? s c = some (.text container)))
      = r.isAttached s container := by
    rw [Bool.eq_iff_iff, List.any_eq_true, Row.isAttached, List.any_eq_true]
    constructor
    · rintro ⟨c, hc, hcell⟩
      have hcell := of_decide_eq_true hcell
      rw [Row.cell?_eq_lookup hs h (hcontainers c hc), lookup_zip_eq_some_iff hnodup] at hcell
      exact ⟨_, hcell, by simpa using hc⟩
    · rintro ⟨⟨c, cell⟩, hmem, hnamed⟩
      obtain ⟨hc, rfl⟩ : c ∈ s.containers ∧ cell = .text container := by simpa using hnamed
      refine ⟨c, hc, decide_eq_true ?_⟩
      rw [Row.cell?_eq_lookup hs h (hcontainers c hc), lookup_zip_eq_some_iff hnodup]
      exact hmem
  rw [← hattached]
  exact meets_anyOf (by simp)

end Conditions

/-! ## Statements of a table -/

section Statements

variable {s : TableSchema} {r : Row} {table : String} {conditions : List Condition}
  {values : List Cell} {met : Bool}

theorem does_select {columns : List String} {orderBy : Option String}
    (hcolumns : ∀ c ∈ (Statement.select columns table conditions orderBy).columns,
      (r.cell? s c).isSome)
    (hmeets : Meets (r.cell? s) conditions values met) :
    (Statement.select columns table conditions orderBy).Does s values r met r where
  effect := by
    refine effect?_of_gives (List.nil_append values).symm (gives_cells fun c hc => ⟨?_, rfl⟩) hmeets
    exact hcolumns c (List.mem_append_left _ (List.mem_append_left _ hc))
  others _ _ _ _ := rfl

theorem does_delete (hmeets : Meets (r.cell? s) conditions values met) :
    (Statement.delete table conditions).Does s values r met r where
  effect := effect?_of_gives (List.nil_append values).symm gives_nil hmeets
  others _ _ _ _ := rfl

theorem does_insert (hs : s.defect? = none) {row : Row} (h : row.Fills s) :
    (Sql.insert s.layout s.columnNames).Does s row.cells r true row where
  effect := effect?_of_gives (List.append_nil _).symm (gives_values (Row.map_cell? hs h)) meets_nil
  others _ _ hc hnot := absurd hc hnot

theorem gives_assigned (hs : s.defect? = none) {cell? : String → Option Cell} {t : Row}
    (ht : t.Fills s) {assigned : List Cell} (hlength : assigned.length = s.columnNames.length)
    (hassigned : ∀ c, some c ≠ s.updateKey →
      (s.columnNames.zip t.values).lookup c = (s.columnNames.zip assigned).lookup c) :
    Gives cell? (t.cell? s) (s.columnNames.filter fun c => some c ≠ s.updateKey)
      (((s.columnNames.filter fun c => some c ≠ s.updateKey).map .set).map Assignment.given)
      (assignedValues s assigned) := by
  obtain ⟨hnodup, -⟩ := TableSchema.defect?_eq_none_iff.1 hs
  have hcells : (s.columnNames.filter fun c => some c ≠ s.updateKey).map (t.cell? s)
      = (assignedValues s assigned).map some := by
    rw [assignedValues, ← map_lookup_filter hnodup hlength.symm fun c => some c ≠ s.updateKey]
    refine List.map_congr_left fun c hc => ?_
    obtain ⟨hmem, hne⟩ := List.mem_filter.1 hc
    rw [Row.cell?_eq_lookup hs ht hmem, hassigned c (of_decide_eq_true hne)]
  rw [List.map_map]
  exact gives_values hcells

section Update

variable {assigned : List Cell} {network : Uuid} {variantNum : Int32} {id : String}
  (hs : s.defect? = none) (h : r.Fills s) (hlength : assigned.length = s.columnNames.length)
  (hkey : keyValue? s assigned ≠ some .null)

include hs h hlength hkey

/-- An update gives the values that are bound to the columns that it assigns, and leaves the others of
a row that it matches. -/
theorem does_update {t : Row} (ht : t.Fills s) {fixed : List Cell}
    (hgives : Gives (r.cell? s) (t.cell? s) (fixedAssigned s.layout)
      ((fixedAssignments s.layout).map Assignment.given) fixed)
    (hfixed : ∀ c ∈ s.layout.insertedColumns, c ∉ fixedAssigned s.layout →
      t.cell? s c = r.cell? s c)
    (hassigned : ∀ c, some c ≠ s.updateKey →
      (s.columnNames.zip t.values).lookup c = (s.columnNames.zip assigned).lookup c)
    (hmatched : r.matchesKey s assigned = true → ∀ key ∈ s.updateKey,
      (s.columnNames.zip t.values).lookup key = (s.columnNames.zip r.values).lookup key) :
    (Sql.update s.layout s.columnNames s.updateKey).Does s
      (fixed ++ assignedValues s assigned ++
        (rowValues s.layout network variantNum id ++ (keyValue? s assigned).toList)) r
      (r.isTarget s.layout network variantNum id && r.matchesKey s assigned) t := by
  have hcolumns : (Sql.update s.layout s.columnNames s.updateKey).columnsGiven
      = assignedColumns s.layout s.columnNames s.updateKey := map_assignments ..
  have hgivens : (Sql.update s.layout s.columnNames s.updateKey).givens
      = (fixedAssignments s.layout).map Assignment.given ++
        ((s.columnNames.filter fun c => some c ≠ s.updateKey).map .set).map Assignment.given :=
    List.map_append
  refine ⟨effect?_of_gives rfl ?_ ((meets_ofRow h).append (meets_key hs h hlength hkey)),
    fun hmet c hc hnot => ?_⟩
  · rw [hcolumns, hgivens]
    exact hgives.append (gives_assigned hs ht hlength hassigned)
  · rw [hcolumns, assignedColumns, List.mem_append, not_or, List.mem_filter] at hnot
    rcases List.mem_append.1 hc with hc | hc
    · exact hfixed c hc hnot.1
    · have hkey : some c = s.updateKey := by simpa [hc] using hnot.2
      rw [Row.cell?_eq_lookup hs ht hc, Row.cell?_eq_lookup hs h hc]
      exact hmatched (Bool.and_eq_true_iff.1 hmet).2 c hkey.symm

theorem does_update_equipment (hlayout : s.layout.variantIdColumn = none) :
    (Sql.update s.layout s.columnNames s.updateKey).Does s
      ([] ++ assignedValues s assigned ++
        (rowValues s.layout network variantNum id ++ (keyValue? s assigned).toList)) r
      (r.isTarget s.layout network variantNum id && r.matchesKey s assigned)
      (r.assign s assigned) := by
  have ht := Row.fills_assign h hlength
  refine does_update hs h hlength hkey ht ?_
    (fun c hc _ => Row.cell?_congr_fixed h ht rfl rfl rfl rfl hc)
    (fun c hc => lookup_zip_assign_of_ne hc h.values.ge) fun _ key hk => ?_
  · rw [fixedAssigned, fixedAssignments, hlayout]
    exact gives_nil
  · rw [Row.assign, Option.mem_def.1 hk]
    exact lookup_zip_assign hlength.ge

/-- An update of a network assigns the id too, and the id of the variant if one is given. -/
theorem does_update_network {column variantId : String}
    (hlayout : s.layout.variantIdColumn = some column) :
    (Sql.update s.layout s.columnNames s.updateKey).Does s
      ([.text id, if variantId = "" then .null else .text variantId] ++ assignedValues s assigned ++
        (rowValues s.layout network variantNum id ++ (keyValue? s assigned).toList)) r
      (r.isTarget s.layout network variantNum id && r.matchesKey s assigned)
      (r.assignNetwork id variantId assigned) := by
  obtain ⟨hnodup, -⟩ := TableSchema.defect?_eq_none_iff.1 hs
  have hisNetwork : s.layout.isNetwork = true := by rw [TableLayout.isNetwork, hlayout]; rfl
  have ht := Row.fills_assignNetwork h hisNetwork hlength id variantId
  obtain ⟨hnetwork, hnum, hvid, -⟩ := r.cell?_fixed h
  obtain ⟨htnetwork, htnum, htvid, htid⟩ := (r.assignNetwork id variantId assigned).cell?_fixed ht
  refine does_update hs h hlength hkey ht ?_ (fun c hc hnot => ?_) (fun c _ => rfl)
    fun hmatch key hk => ?_
  · obtain ⟨old, hold⟩ := Option.isSome_iff_exists.1 (h.variantId.trans hisNetwork)
    rw [fixedAssigned, fixedAssignments, hlayout]
    refine (gives_value htid).append
      (gives_valueOr ((hvid column hlayout).trans hold) ((htvid column hlayout).trans ?_))
    by_cases hgiven : variantId = "" <;> simp [Row.assignNetwork, hgiven, hold]
  · rw [fixedAssigned, hlayout] at hnot
    rw [TableLayout.insertedColumns, hlayout] at hc
    have hc : c = s.layout.networkColumn ∨ c = "variantNum" := by grind
    rcases hc with rfl | rfl
    · rw [hnetwork, htnetwork]
      rfl
    · rw [hnum, htnum]
      rfl
  · rw [Row.matchesKey, Option.mem_def.1 hk] at hmatch
    exact ((all_zip_iff_lookup hnodup h.values.symm hlength.symm).1 hmatch).symm

end Update

theorem columnsGiven_cloneVariant (l : TableLayout) (columns : List String) :
    (Sql.cloneVariant l columns).columnsGiven
      = "variantNum" :: l.variantIdColumn.toList ++ l.networkColumn :: "id" :: columns := by
  rw [cloneVariant_eq]
  rfl

theorem columnsGiven_cloneNetwork (l : TableLayout) (columns : List String) :
    (Sql.cloneNetwork l columns).columnsGiven
      = "variantNum" :: l.variantIdColumn.toList ++ l.networkColumn :: "id" :: columns := by
  rw [cloneNetwork_eq]
  exact (List.append_cons ..).symm

/-- A copy binds some columns, and the others hold what they hold in the row. -/
theorem does_copy (h : r.Fills s) {t : Row} {bound kept : List String}
    (hbound : bound.map (t.cell? s) = values.map some)
    (hkept : ∀ c ∈ kept, (r.cell? s c).isSome ∧ t.cell? s c = r.cell? s c)
    (hall : ∀ c ∈ s.layout.insertedColumns ++ s.columnNames, c ∈ bound ++ kept)
    {network : Uuid} {variantNum : Int32} :
    (Statement.copy table (bound ++ kept) (sources bound kept) (ofVariant s.layout)).Does s
      (values ++ [.ofUuid network, .ofInt32 variantNum]) r (r.isIn network variantNum) t := by
  have hgivens : (sources bound kept).map Source.given
      = (bound.map fun _ => Given.value) ++ kept.map .cell := by
    simp [sources, Function.comp_def, Source.given]
  refine ⟨effect?_of_gives rfl ?_ (meets_ofVariant h), fun _ c hc hnot => absurd (hall c hc) hnot⟩
  have hgives := (gives_values hbound).append (gives_cells hkept)
  rw [List.append_nil] at hgives
  show Gives _ _ (bound ++ kept) ((sources bound kept).map Source.given) _
  rwa [hgivens]

theorem perm_insertedColumns (s : TableSchema) :
    ("variantNum" :: s.layout.variantIdColumn.toList ++
        s.layout.networkColumn :: "id" :: s.columnNames).Perm
      (s.layout.insertedColumns ++ s.columnNames) := by
  refine List.perm_middle.trans (.of_eq ?_)
  simp [TableLayout.insertedColumns]

theorem map_cell?_variant (h : r.Fills s) :
    ("variantNum" :: s.layout.variantIdColumn.toList).map (r.cell? s)
      = (r.variantNum :: r.variantId.toList).map some := by
  rw [List.map_cons, List.map_cons, (r.cell?_fixed h).2.1, Row.map_cell?_variantId h]

theorem variantId_toVariantNum (h : r.Fills s) (n : Int32) (id : String) :
    (r.toVariantNum n id).variantId = s.layout.variantIdColumn.map fun _ => .text id := by
  have hvid := h.variantId
  rw [TableLayout.isNetwork] at hvid
  rw [Row.toVariantNum]
  rcases hcolumn : s.layout.variantIdColumn with _ | c <;> rcases hid : r.variantId with _ | old <;>
    rw [hcolumn, hid] at hvid
  · rfl
  · cases hvid
  · cases hvid
  · rfl

theorem does_cloneVariant (hs : s.defect? = none) (h : r.Fills s) (network : Uuid)
    (source target : Int32) (id : String) :
    (Sql.cloneVariant s.layout s.columnNames).Does s
      (cloneVariantValues network source target id s.kind) r (r.isIn network source)
      (r.toVariantNum target id) := by
  have ht := Row.fills_toVariantNum h target id
  obtain ⟨hnetwork, -, -, hid⟩ := r.cell?_fixed h
  obtain ⟨htnetwork, -, -, htid⟩ := (r.toVariantNum target id).cell?_fixed ht
  have hkept : ∀ c ∈ s.layout.networkColumn :: "id" :: s.columnNames, (r.cell? s c).isSome ∧
      (r.toVariantNum target id).cell? s c = r.cell? s c := by
    rw [List.forall_mem_cons, List.forall_mem_cons, hnetwork, hid, htnetwork, htid]
    exact ⟨⟨rfl, rfl⟩, ⟨rfl, rfl⟩, fun c hc => Row.cell?_congr hs h ht rfl hc⟩
  have hvalues : cloneVariantValues network source target id s.kind
      = .ofInt32 target :: (r.toVariantNum target id).variantId.toList ++
        [.ofUuid network, .ofInt32 source] := by
    rw [variantId_toVariantNum h, TableSchema.layout]
    rcases s.kind with _ | k <;> rfl
  rw [hvalues, cloneVariant_eq]
  exact does_copy h (map_cell?_variant ht) hkept fun c hc => (perm_insertedColumns s).symm.subset hc

theorem does_cloneNetwork (hs : s.defect? = none) (h : r.Fills s) (target source : Uuid)
    (x : Variant) :
    (Sql.cloneNetwork s.layout s.columnNames).Does s (cloneNetworkValues target source x s.kind) r
      (r.isIn source x.num) ((r.toVariantNum x.num x.id).toOtherNetwork target) := by
  have ht := Row.fills_toOtherNetwork (Row.fills_toVariantNum h x.num x.id) target
  obtain ⟨-, -, -, hid⟩ := r.cell?_fixed h
  obtain ⟨htnetwork, -, -, htid⟩ :=
    ((r.toVariantNum x.num x.id).toOtherNetwork target).cell?_fixed ht
  have hkept : ∀ c ∈ "id" :: s.columnNames, (r.cell? s c).isSome ∧
      ((r.toVariantNum x.num x.id).toOtherNetwork target).cell? s c = r.cell? s c := by
    rw [List.forall_mem_cons, hid, htid]
    exact ⟨⟨rfl, rfl⟩, fun c hc => Row.cell?_congr hs h ht rfl hc⟩
  have hbound : ("variantNum" :: s.layout.variantIdColumn.toList ++ [s.layout.networkColumn]).map
      (((r.toVariantNum x.num x.id).toOtherNetwork target).cell? s)
        = (Cell.ofInt32 x.num :: (r.toVariantNum x.num x.id).variantId.toList ++
            [Cell.ofUuid target]).map some := by
    rw [List.map_append, map_cell?_variant ht, List.map_singleton, htnetwork, List.map_append]
    rfl
  have hvalues : cloneNetworkValues target source x s.kind
      = .ofInt32 x.num :: (r.toVariantNum x.num x.id).variantId.toList ++ [.ofUuid target] ++
        [.ofUuid source, .ofInt32 x.num] := by
    rw [variantId_toVariantNum h, TableSchema.layout]
    rcases s.kind with _ | k <;> rfl
  rw [hvalues, cloneNetwork_eq]
  refine does_copy h hbound hkept fun c hc => ?_
  rw [List.append_assoc]
  exact (perm_insertedColumns s).symm.subset hc

end Statements

/-! ## Statements by what they are run for -/

/-- The statement of a run. -/
def Run.statement (s : TableSchema) : Run → Statement
  | selectOne .. => Sql.selectOne s.layout s.columnNames
  | selectAll .. => Sql.selectAll s.layout s.columnNames
  | selectByContainer .. => Sql.selectByContainer s.layout s.columnNames s.containers
  | insert .. => Sql.insert s.layout s.columnNames
  | update .. => Sql.update s.layout s.columnNames s.updateKey
  | deleteOne .. => Sql.deleteOne s.layout
  | deleteByVariant .. => Sql.deleteByVariant s.layout
  | deleteByNetwork .. => Sql.deleteByNetwork s.layout
  | cloneVariant .. => Sql.cloneVariant s.layout s.columnNames
  | cloneNetwork .. => Sql.cloneNetwork s.layout s.columnNames
  | listVariants .. => Sql.listVariants s.layout
  | selectNetworkInfos => Sql.selectNetworkInfos s.layout

/-- Whether statements of the shape are prepared for a table. -/
def Run.IsFor (s : TableSchema) : Run → Prop
  | selectAll .. | deleteOne .. => s.layout.isNetwork = false
  | selectByContainer .. => s.layout.isNetwork = false ∧ s.hasContainer = true
  | listVariants .. | selectNetworkInfos => s.layout.isNetwork = true
  | _ => True

theorem Run.mem_statements {s : TableSchema} {run : Run} {st : Statement} :
    (run.shape, st) ∈ statements s ↔ st = run.statement s ∧ run.IsFor s := by
  unfold statements
  cases run <;> simp [shape, statement, IsFor] <;> grind

/-- With the values that calls bind, the statements of a table do to rows that fill it what the calls are
to do. -/
theorem Run.does {s : TableSchema} (hs : s.defect? = none) {run : Run} (hrun : run.Suits s)
    {st : Statement} (hst : (run.shape, st) ∈ statements s) {r : Row} (h : r.Fills s) :
    st.Does s (run.values s) r (run.meets s r) (run.result s r) := by
  have hcolumns : ∀ c ∈ st.columns, (r.cell? s c).isSome := fun c hc =>
    Row.isSome_cell? hs h ((isOn_statements hs _ hst).2 hc)
  obtain ⟨rfl, -⟩ := mem_statements.1 hst
  cases run with
  | selectOne network n id => exact does_select hcolumns (meets_ofRow h)
  | selectAll network n => exact does_select hcolumns (meets_ofVariant h)
  | selectByContainer network n container =>
    exact does_select hcolumns ((meets_ofVariant h).append (meets_containers hs h))
  | insert row => exact does_insert hs hrun
  | update network n id variantId assigned =>
    unfold meets result values
    rcases hlayout : s.layout.variantIdColumn with _ | column
    · have hnetwork : s.layout.isNetwork = false := by rw [TableLayout.isNetwork, hlayout]; rfl
      rw [hnetwork]
      exact does_update_equipment hs h hrun.1 hrun.2 hlayout
    · have hnetwork : s.layout.isNetwork = true := by rw [TableLayout.isNetwork, hlayout]; rfl
      rw [hnetwork]
      exact does_update_network hs h hrun.1 hrun.2 hlayout
  | deleteOne network n id => exact does_delete (meets_ofRow h)
  | deleteByVariant network n => exact does_delete (meets_ofVariant h)
  | deleteByNetwork network => exact does_delete (meets_ofNetwork h)
  | cloneVariant network source target id => exact does_cloneVariant hs h network source target id
  | cloneNetwork target source x => exact does_cloneNetwork hs h target source x
  | listVariants network => exact does_select hcolumns (meets_ofNetwork h)
  | selectNetworkInfos =>
    have hzero : Cell.ofInt32 initialVariantNum = .integer 0 := rfl
    have hmeets := @meets_isZero (r.cell? s) "variantNum"
    rw [(r.cell?_fixed h).2.1] at hmeets
    refine does_select hcolumns ?_
    simpa [meets, values, hzero] using hmeets

end Sql

end GridStore
