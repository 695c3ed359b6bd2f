import GridStore.Proofs.CloneStatements

/-!
# Columns that statements name

The statements of a table are about that table and name no columns but its fixed and its mapped
ones, in whatever place (`isOn_statements`).
-/

namespace GridStore.Sql

/-- The columns that a condition names. -/
def Condition.columns : Condition → List String
  | equals column => [column]
  | isZero column => [column]
  | anyOf columns => columns

/-- The columns that a source names. -/
def Source.columns : Source → List String
  | bound => []
  | column name => [name]

/-- The columns that a statement names. -/
def Statement.columns : Statement → List String
  | select columns _ conditions orderBy =>
    columns ++ conditions.flatMap Condition.columns ++ orderBy.toList
  | insert _ columns => columns
  | update _ assignments conditions =>
    assignments.map Assignment.column ++ conditions.flatMap Condition.columns
  | delete _ conditions => conditions.flatMap Condition.columns
  | copy _ target source conditions =>
    target ++ source.flatMap Source.columns ++ conditions.flatMap Condition.columns

/-! ## Statements of a table -/

variable {s : TableSchema}

/-- Whether a statement names a table and no columns but these. -/
def Statement.IsOn (table : String) (columns : List String) (st : Statement) : Prop :=
  st.table = table ∧ st.columns ⊆ columns

theorem columns_ofRow (l : TableLayout) : (ofRow l).flatMap Condition.columns = rowColumns l := by
  rw [ofRow, rowColumns]
  cases l.isNetwork <;> rfl

theorem columns_equals (names : List String) :
    (names.map Condition.equals).flatMap Condition.columns = names := by
  rw [List.flatMap_map]
  exact List.flatMap_singleton' names

theorem map_assignments (l : TableLayout) (columns : List String) (key : Option String) :
    (assignments l columns key).map Assignment.column = assignedColumns l columns key := by
  rw [assignments, assignedColumns, fixedAssignments, fixedAssigned, List.map_append, List.map_map]
  congr 1
  · cases l.variantIdColumn <;> rfl
  · exact List.map_id _

theorem selectedColumns_subset (l : TableLayout) : l.selectedColumns ⊆ l.insertedColumns := by
  rw [TableLayout.selectedColumns, TableLayout.insertedColumns]
  rcases l.variantIdColumn with _ | variantId <;> simp

theorem rowColumns_subset (l : TableLayout) : rowColumns l ⊆ l.insertedColumns := by
  rw [rowColumns, TableLayout.insertedColumns]
  split <;> simp

theorem fixedAssigned_subset (l : TableLayout) : fixedAssigned l ⊆ l.insertedColumns := by
  rw [fixedAssigned, TableLayout.insertedColumns]
  rcases l.variantIdColumn with _ | variantId <;> simp

theorem variantColumns_subset (l : TableLayout) :
    "variantNum" :: l.variantIdColumn.toList ⊆ l.insertedColumns := by
  rw [TableLayout.insertedColumns]
  rcases l.variantIdColumn with _ | variantId <;> simp

section

variable {l : TableLayout} {columns : List String}

theorem fixed_subset {names : List String} (h : names ⊆ l.insertedColumns) :
    names ⊆ l.insertedColumns ++ columns :=
  List.subset_append_of_subset_left _ h

theorem mapped_subset : columns ⊆ l.insertedColumns ++ columns :=
  List.subset_append_right _ _

theorem ofVariant_subset :
    (ofVariant l).flatMap Condition.columns ⊆ l.insertedColumns ++ columns :=
  fixed_subset (List.subset_append_of_subset_left _ (List.subset_append_left _ _))

theorem ofRow_subset : (ofRow l).flatMap Condition.columns ⊆ l.insertedColumns ++ columns :=
  columns_ofRow l ▸ fixed_subset (rowColumns_subset l)

theorem isOn_select {selected : List String} {conditions : List Condition} {orderBy : Option String}
    (hselected : selected ⊆ l.insertedColumns ++ columns)
    (hconditions : conditions.flatMap Condition.columns ⊆ l.insertedColumns ++ columns)
    (horder : orderBy.toList ⊆ l.insertedColumns ++ columns) :
    (Statement.select selected l.table conditions orderBy).IsOn l.table
      (l.insertedColumns ++ columns) :=
  ⟨rfl, List.append_subset.2 ⟨List.append_subset.2 ⟨hselected, hconditions⟩, horder⟩⟩

/-- Rows are selected with all of their columns. -/
theorem isOn_select_row {conditions : List Condition}
    (h : conditions.flatMap Condition.columns ⊆ l.insertedColumns ++ columns) :
    (Statement.select (l.selectedColumns ++ columns) l.table conditions none).IsOn l.table
      (l.insertedColumns ++ columns) :=
  isOn_select (List.append_subset.2 ⟨fixed_subset (selectedColumns_subset l), mapped_subset⟩) h
    (List.nil_subset _)

theorem isOn_selectByContainer {containers : List String} (h : containers ⊆ columns) :
    (selectByContainer l columns containers).IsOn l.table (l.insertedColumns ++ columns) := by
  refine isOn_select_row ?_
  rw [List.flatMap_append, List.flatMap_singleton]
  exact List.append_subset.2 ⟨ofVariant_subset, List.Subset.trans h mapped_subset⟩

theorem isOn_update {key : Option String} (hkey : ∀ c ∈ key, c ∈ columns) :
    (update l columns key).IsOn l.table (l.insertedColumns ++ columns) := by
  refine ⟨rfl, List.append_subset.2 ⟨?_, ?_⟩⟩
  · show (assignments l columns key).map Assignment.column ⊆ _
    rw [map_assignments, assignedColumns]
    exact List.append_subset.2 ⟨fixed_subset (fixedAssigned_subset l),
      List.Subset.trans (List.filter_subset_self _) mapped_subset⟩
  · rw [List.flatMap_append, columns_equals]
    exact List.append_subset.2
      ⟨ofRow_subset, fun c hc => mapped_subset (hkey c (Option.mem_toList.1 hc))⟩

theorem columns_sources (bound kept : List String) :
    (sources bound kept).flatMap Source.columns = kept := by
  simp [sources, List.flatMap_map, Source.columns]

/-- Copies get some of the fixed columns bound and the others from the rows that are copied. -/
theorem isOn_copy {bound copies : List String} (hbound : bound ⊆ l.insertedColumns)
    (hcopies : copies ⊆ l.insertedColumns) :
    (Statement.copy l.table (bound ++ (copies ++ columns)) (sources bound (copies ++ columns))
      (ofVariant l)).IsOn l.table (l.insertedColumns ++ columns) := by
  have hkept : copies ++ columns ⊆ l.insertedColumns ++ columns :=
    List.append_subset.2 ⟨fixed_subset hcopies, mapped_subset⟩
  refine ⟨rfl, List.append_subset.2 ⟨List.append_subset.2 ⟨?_, ?_⟩, ofVariant_subset⟩⟩
  · exact List.append_subset.2 ⟨fixed_subset hbound, hkept⟩
  · rwa [columns_sources]

theorem isOn_cloneVariant :
    (cloneVariant l columns).IsOn l.table (l.insertedColumns ++ columns) := by
  rw [cloneVariant_eq]
  exact @isOn_copy l columns _ [l.networkColumn, "id"] (variantColumns_subset l)
    (by simp [TableLayout.insertedColumns])

theorem isOn_cloneNetwork :
    (cloneNetwork l columns).IsOn l.table (l.insertedColumns ++ columns) := by
  have hbound : "variantNum" :: l.variantIdColumn.toList ++ [l.networkColumn] ⊆ l.insertedColumns :=
    List.append_subset.2 ⟨variantColumns_subset l, by simp [TableLayout.insertedColumns]⟩
  rw [cloneNetwork_eq]
  exact @isOn_copy l columns _ ["id"] hbound (by simp [TableLayout.insertedColumns])

theorem isOn_listVariants (h : l.isNetwork = true) :
    (listVariants l).IsOn l.table (l.insertedColumns ++ columns) := by
  obtain ⟨variantId, hvariantId⟩ := Option.isSome_iff_exists.1 h
  refine isOn_select (fixed_subset ?_) (fixed_subset ?_) (fixed_subset ?_) <;>
    simp [TableLayout.insertedColumns, Condition.columns, hvariantId]

theorem isOn_selectNetworkInfos :
    (selectNetworkInfos l).IsOn l.table (l.insertedColumns ++ columns) := by
  refine isOn_select (fixed_subset ?_) (fixed_subset ?_) (fixed_subset ?_) <;>
    simp [TableLayout.insertedColumns, Condition.columns]

end

/-- The statements of a table name the table and no columns but the fixed and the mapped ones. -/
theorem isOn_statements (h : s.defect? = none) : ∀ x ∈ statements s,
    x.2.IsOn s.layout.table (s.layout.insertedColumns ++ s.columnNames) := by
  obtain ⟨-, -, hcontainers, hkey⟩ := TableSchema.defect?_eq_none_iff.1 h
  simp only [statements, List.mem_append, List.mem_cons, List.not_mem_nil, or_false]
  rintro x ((rfl | rfl | rfl | rfl | rfl | rfl | rfl) | hx)
  · exact isOn_select_row ofRow_subset
  · exact ⟨rfl, List.Subset.refl _⟩
  · exact isOn_update hkey
  · exact ⟨rfl, ofVariant_subset⟩
  · exact ⟨rfl, List.Subset.trans (List.cons_subset_cons _ (List.nil_subset _)) ofVariant_subset⟩
  · exact isOn_cloneVariant
  · exact isOn_cloneNetwork
  · split at hx
    · rename_i hnetwork
      simp only [List.mem_cons, List.not_mem_nil, or_false] at hx
      rcases hx with rfl | rfl
      · exact isOn_listVariants hnetwork
      · exact isOn_selectNetworkInfos
    · simp only [List.mem_append, List.mem_cons, List.not_mem_nil, or_false] at hx
      rcases hx with (rfl | rfl) | hx
      · exact isOn_select_row ofVariant_subset
      · exact ⟨rfl, ofRow_subset⟩
      · split at hx
        · obtain rfl := List.mem_singleton.1 hx
          exact isOn_selectByContainer hcontainers
        · exact absurd hx List.not_mem_nil

theorem newRowColumns_subset : ∀ st : Statement, st.newRowColumns ⊆ st.columns
  | .select .. => List.nil_subset _
  | .insert .. => List.Subset.refl _
  | .update .. => List.nil_subset _
  | .delete .. => List.nil_subset _
  | .copy .. =>
    List.subset_append_of_subset_left _ (List.subset_append_of_subset_left _ (List.Subset.refl _))

end GridStore.Sql
