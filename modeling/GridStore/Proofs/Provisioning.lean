import GridStore.Proofs.Requests
import GridStore.Proofs.StatementNames
import GridStore.Proofs.Steps

/-!
# Provisioned tables

An engine refuses what is about a missing table or gives a new row a missing column, but may take a
missing column elsewhere for a text. The insert of a table names all of its columns, so preparing
the statements of all tables succeeds exactly if all tables are there with their columns, and fails
at the first that is not (`Store.prepareOn_provisioned`).
-/

namespace GridStore

/-! ## Schemas -/

/-- Whether a kind's table is there with all of its fixed and mapped columns. The columns of the
tables that there are are given by the names of the tables. -/
def Kind.IsProvisioned (columns? : String → Option (List String)) (k : Kind) : Prop :=
  ∃ columns, columns? k.table = some columns ∧
    ∀ c ∈ k.layout.fixedColumns ++ k.schema.columnNames, c ∈ columns

/-- What an engine takes of the statements of the tables: none on a missing table, none that gives
a new row a missing column, and those that name nothing that is missing. It may or may not take a
statement that names a missing column elsewhere. -/
structure Sql.Engine (columns? : String → Option (List String))
    (takes : Kind → Sql.Statement → Bool) : Prop where
  missing_table : ∀ x ∈ preparedStatements, columns? x.2.2.table = none → takes x.1 x.2.2 = false
  missing_column : ∀ x ∈ preparedStatements, ∀ columns, columns? x.2.2.table = some columns →
    (∃ c ∈ x.2.2.newRowColumns, c ∉ columns) → takes x.1 x.2.2 = false
  present : ∀ x ∈ preparedStatements, ∀ columns, columns? x.2.2.table = some columns →
    (∀ c ∈ x.2.2.columns, c ∈ columns) → takes x.1 x.2.2 = true

theorem mem_preparedStatements {k : Kind} {shape : Sql.Shape} {st : Sql.Statement} :
    (k, shape, st) ∈ preparedStatements ↔ (shape, st) ∈ Sql.statements k.schema := by
  simp [preparedStatements, k.mem_all]

theorem Kind.table_layout : ∀ k : Kind, k.layout.table = k.table
  | .network => rfl
  | .equipment _ => rfl

theorem Kind.isOn_statements (k : Kind) : ∀ x ∈ Sql.statements k.schema,
    x.2.IsOn k.table (k.layout.insertedColumns ++ k.schema.columnNames) := by
  have h := Sql.isOn_statements k.defect?_schema
  rwa [k.layout_schema, k.table_layout] at h

variable {columns? : String → Option (List String)} {takes : Kind → Sql.Statement → Bool}

namespace Sql.Engine

/-- The insert of a table names all of its columns. -/
theorem takes_insert (h : Engine columns? takes) {k : Kind}
    (htakes : takes k (insert k.layout k.schema.columnNames) = true) :
    k.IsProvisioned columns? := by
  have hmem : (k, .insert, insert k.layout k.schema.columnNames) ∈ preparedStatements := by
    rw [mem_preparedStatements, ← k.layout_schema]
    exact List.mem_cons_of_mem _ List.mem_cons_self
  have htable : (insert k.layout k.schema.columnNames).table = k.table := k.table_layout
  rcases hcolumns : columns? k.table with _ | columns
  · have hrefused := h.missing_table _ hmem (htable ▸ hcolumns)
    rw [htakes] at hrefused
    cases hrefused
  · refine ⟨columns, hcolumns, fun c hc => ?_⟩
    by_contra hmissing
    have hnamed : c ∈ k.layout.insertedColumns ++ k.schema.columnNames := by
      rw [List.mem_append, mem_insertedColumns, ← List.mem_append]
      exact hc
    have hrefused := h.missing_column _ hmem columns (htable ▸ hcolumns) ⟨c, hnamed, hmissing⟩
    rw [htakes] at hrefused
    cases hrefused

theorem takes_of_isProvisioned (h : Engine columns? takes) {k : Kind}
    (hk : k.IsProvisioned columns?) : ∀ x ∈ statements k.schema, takes k x.2 = true := by
  obtain ⟨columns, hcolumns, hall⟩ := hk
  intro x hx
  obtain ⟨htable, hnamed⟩ := k.isOn_statements x hx
  refine h.present (k, x) (mem_preparedStatements.2 hx) columns (htable ▸ hcolumns) fun c hc => ?_
  have hmem := hnamed hc
  rw [List.mem_append, mem_insertedColumns, ← List.mem_append] at hmem
  exact hall c hmem

end Sql.Engine

/-! ## Preparing -/

/-- The first statement of a kind's table that is refused. -/
def Kind.refused? (takes : Kind → Sql.Statement → Bool) (k : Kind) :
    Option (Sql.Shape × Sql.Statement) :=
  (Sql.statements k.schema).find? fun x => !takes k x.2

theorem Kind.refused?_eq_none_iff (h : Sql.Engine columns? takes) {k : Kind} :
    k.refused? takes = none ↔ k.IsProvisioned columns? := by
  simp only [refused?, List.find?_eq_none, Bool.not_eq_true', Bool.not_eq_false]
  constructor
  · intro htakes
    refine h.takes_insert (htakes (.insert, _) ?_)
    rw [← k.layout_schema]
    exact List.mem_cons_of_mem _ List.mem_cons_self
  · exact h.takes_of_isProvisioned

/-- Only the select of a row is prepared before the insert, which the engine refuses. -/
theorem Kind.shape_of_refused? (h : Sql.Engine columns? takes) {k : Kind}
    {x : Sql.Shape × Sql.Statement} (hx : k.refused? takes = some x) :
    x.1 = .selectOne ∧ takes k (Sql.selectOne k.schema.layout k.schema.columnNames) = false ∨
      x.1 = .insert := by
  have hinsert : takes k (Sql.insert k.schema.layout k.schema.columnNames) = false := by
    by_contra htakes
    rw [Bool.not_eq_false, k.layout_schema] at htakes
    rw [(refused?_eq_none_iff h).2 (h.takes_insert htakes)] at hx
    cases hx
  rw [refused?, Sql.statements, List.cons_append, List.find?_cons] at hx
  split at hx
  · rename_i hselect
    exact .inl ⟨Option.some.inj hx ▸ rfl, by simpa using hselect⟩
  · rw [List.cons_append, List.find?_cons_of_pos (by simp [hinsert])] at hx
    exact .inr (Option.some.inj hx ▸ rfl)

namespace Store

variable {takes : Backend → Kind → Sql.Statement → Bool}

/-- Statements are prepared up to the first that the backend refuses. -/
theorem forM_prepareStatement (s : Store) : ∀ xs : List (Kind × Sql.Shape × Sql.Statement),
    (xs.forM (prepareStatement takes) s).store = s ∧
      (xs.forM (prepareStatement takes) s).result
        = match xs.find? fun x => !takes s.toBackend x.1 x.2.2 with
          | none => .ok ()
          | some x => .error (.schemaMismatch x.1.table x.2.1)
  | [] => ⟨rfl, rfl⟩
  | (k, shape, st) :: xs => by
    have hrest := forM_prepareStatement s xs
    have hfirst : prepareStatement takes (k, shape, st) s
        = if takes s.toBackend k st then Call.emit (.prepared k.table shape) s
          else Call.fail (.schemaMismatch k.table shape) s := rfl
    have hcons : ((k, shape, st) :: xs).forM (prepareStatement takes)
        = prepareStatement takes (k, shape, st) >>= fun _ => xs.forM (prepareStatement takes) := rfl
    rw [hcons]
    by_cases htakes : takes s.toBackend k st = true
    · rw [if_pos htakes] at hfirst
      have hbind := Call.bind_of_ok (c := prepareStatement takes (k, shape, st)) (s := s) (a := ())
        (by rw [hfirst]; rfl) fun _ => xs.forM (prepareStatement takes)
      rw [hbind.1, hbind.2, hfirst, List.find?_cons_of_neg (by simp [htakes])]
      exact hrest
    · rw [if_neg htakes] at hfirst
      have hbind := Call.bind_of_error (c := prepareStatement takes (k, shape, st)) (s := s)
        (by rw [hfirst]; rfl) fun _ => xs.forM (prepareStatement takes)
      rw [hbind.1, hbind.2, hfirst, List.find?_cons_of_pos (by simp [htakes])]
      exact ⟨rfl, rfl⟩

/-- Preparing fails at the first table with a statement that the backend refuses. -/
theorem result_prepareOn {s : Store} (hs : s.Available) : (prepareOn takes s).result
    = match Kind.all.findSome? fun k => (k.refused? (takes s.toBackend)).map (k, ·) with
      | none => .ok preparedStatements.length
      | some (k, x) => .error (.schemaMismatch k.table x.1) := by
  have hfind : preparedStatements.find? (fun x => !takes s.toBackend x.1 x.2.2)
      = Kind.all.findSome? fun k => (k.refused? (takes s.toBackend)).map (k, ·) := by
    rw [preparedStatements, List.find?_flatMap]
    exact congrArg (List.findSome? · Kind.all) (funext fun k => List.find?_map)
  obtain ⟨-, hresult⟩ := @forM_prepareStatement takes s preparedStatements
  rw [prepareOn, Call.bind_of_answer (Call.acquire_of_available hs), ← hfind]
  cases hrefused : preparedStatements.find? fun x => !takes s.toBackend x.1 x.2.2 with
  | none =>
    rw [hrefused] at hresult
    rw [(Call.bind_of_ok hresult _).2]
    rfl
  | some x =>
    rw [hrefused] at hresult
    exact (Call.bind_of_error hresult _).2

end Store

/-! ## The backend's tables -/

/-- The columns of a backend's tables. -/
def Backend.tableColumns? (b : Backend) (table : String) : Option (List String) :=
  (Kind.all.find? (·.table = table)).bind fun k => (b.tables.table? k).map (·.columns)

theorem Kind.find?_table (k : Kind) : Kind.all.find? (·.table = k.table) = some k := by
  rcases k with _ | k
  · rfl
  · cases k <;> decide

theorem Backend.tableColumns?_table (b : Backend) (k : Kind) :
    b.tableColumns? k.table = (b.tables.table? k).map (·.columns) := by
  rw [tableColumns?, k.find?_table, Option.bind_some]

/-- The backend takes a statement if its table is there with the columns of a new row. -/
theorem Backend.engine_accepts (b : Backend) : Sql.Engine b.tableColumns? b.accepts where
  missing_table := by
    rintro ⟨k, x⟩ hx hmissing
    rw [(k.isOn_statements x (mem_preparedStatements.1 hx)).1, b.tableColumns?_table,
      Option.map_eq_none_iff] at hmissing
    rw [accepts, hmissing]
    rfl
  missing_column := by
    rintro ⟨k, x⟩ hx columns hcolumns ⟨c, hc, hmissing⟩
    rw [(k.isOn_statements x (mem_preparedStatements.1 hx)).1, b.tableColumns?_table] at hcolumns
    obtain ⟨t, ht, rfl⟩ := Option.map_eq_some_iff.1 hcolumns
    rw [accepts, ht, Option.any_some, Bool.eq_false_iff]
    intro hall
    exact hmissing (of_decide_eq_true (List.all_eq_true.1 hall c hc))
  present := by
    rintro ⟨k, x⟩ hx columns hcolumns hall
    rw [(k.isOn_statements x (mem_preparedStatements.1 hx)).1, b.tableColumns?_table] at hcolumns
    obtain ⟨t, ht, rfl⟩ := Option.map_eq_some_iff.1 hcolumns
    rw [accepts, ht, Option.any_some, List.all_eq_true]
    exact fun c hc => decide_eq_true (hall c (Sql.newRowColumns_subset x.2 hc))

/-- Preparing succeeds exactly if every table is there with all of its fixed and mapped columns, and
fails otherwise for the first table that is missing or incomplete. -/
theorem Store.prepareOn_provisioned {takes : Backend → Kind → Sql.Statement → Bool} {s : Store}
    (hs : s.Available) (h : Sql.Engine columns? (takes s.toBackend)) :
    ((∃ n, (prepareOn takes s).result = .ok n) ↔ ∀ k : Kind, k.IsProvisioned columns?) ∧
      (¬ (∀ k : Kind, k.IsProvisioned columns?) → ∃ before k after shape,
        Kind.all = before ++ k :: after ∧ (∀ j ∈ before, j.IsProvisioned columns?) ∧
          ¬ k.IsProvisioned columns? ∧ (shape = .selectOne ∨ shape = .insert) ∧
          (prepareOn takes s).result = .error (.schemaMismatch k.table shape)) := by
  rw [result_prepareOn hs]
  have hnone {k : Kind} : (k.refused? (takes s.toBackend)).map (k, ·) = none
      ↔ k.IsProvisioned columns? := by
    rw [Option.map_eq_none_iff, Kind.refused?_eq_none_iff h]
  cases hfirst : Kind.all.findSome? fun k => (k.refused? (takes s.toBackend)).map (k, ·) with
  | none =>
    have hall (k : Kind) : k.IsProvisioned columns? :=
      hnone.1 (List.findSome?_eq_none_iff.1 hfirst k k.mem_all)
    exact ⟨iff_of_true ⟨_, rfl⟩ hall, fun hnot => absurd hall hnot⟩
  | some x =>
    obtain ⟨before, k, after, hkinds, hk, hbefore⟩ := List.findSome?_eq_some_iff.1 hfirst
    obtain ⟨y, hy, rfl⟩ := Option.map_eq_some_iff.1 hk
    have hmissing : ¬ k.IsProvisioned columns? := by
      rw [← Kind.refused?_eq_none_iff h, hy]
      exact Option.some_ne_none y
    refine ⟨iff_of_false (fun ⟨n, hn⟩ => by cases hn) fun hall => hmissing (hall k), fun _ => ?_⟩
    exact ⟨before, k, after, y.1, hkinds, fun j hj => hnone.1 (hbefore j hj), hmissing,
      (Kind.shape_of_refused? h hy).imp_left And.left, rfl⟩

/-- Preparing fails at an insert if the engine takes the selects of rows, whatever they name. -/
theorem Store.shape_of_schemaMismatch {takes : Backend → Kind → Sql.Statement → Bool} {s : Store}
    (hs : s.Available) (h : Sql.Engine columns? (takes s.toBackend))
    (hselects : ∀ k : Kind,
      takes s.toBackend k (Sql.selectOne k.schema.layout k.schema.columnNames) = true)
    {table : String} {shape : Sql.Shape}
    (hresult : (prepareOn takes s).result = .error (.schemaMismatch table shape)) :
    shape = .insert := by
  rw [result_prepareOn hs] at hresult
  cases hfirst : Kind.all.findSome? fun k => (k.refused? (takes s.toBackend)).map (k, ·) with
  | none =>
    rw [hfirst] at hresult
    cases hresult
  | some x =>
    rw [hfirst] at hresult
    obtain ⟨-, k, -, -, hk, -⟩ := List.findSome?_eq_some_iff.1 hfirst
    obtain ⟨y, hy, rfl⟩ := Option.map_eq_some_iff.1 hk
    obtain ⟨-, rfl⟩ := StoreError.schemaMismatch.inj (Except.error.inj hresult)
    rcases Kind.shape_of_refused? h hy with ⟨-, hrefused⟩ | hinsert
    · rw [hselects k] at hrefused
      cases hrefused
    · exact hinsert

/-- The table of loads lacks a mapped column. The backend takes the select that names it, and is refused
at the insert; the tables before it are provisioned. -/
theorem Store.prepareOn_provisioned_lacking :
    let s : Store :=
      { Store.blank with
        tables := .ofKinds fun k =>
          ⟨if k = .equipment .load then k.columns.erase "q0" else k.columns, []⟩ }
    let load := (Kind.equipment .load).schema
    s.Available ∧ Sql.Engine s.tableColumns? s.accepts ∧
      "q0" ∈ (Sql.selectOne load.layout load.columnNames).columns ∧
      s.accepts (.equipment .load) (Sql.selectOne load.layout load.columnNames) = true ∧
      ¬ (Kind.equipment .load).IsProvisioned s.tableColumns? ∧
      (∀ k : Kind, k ≠ .equipment .load → k.IsProvisioned s.tableColumns?) ∧
      (prepareOn Backend.accepts s).result = .error (.schemaMismatch "load" .insert) := by
  intro s load
  have hs : s.Available := ⟨rfl, by decide⟩
  have htable (k : Kind) : s.tables.table? k
      = some ⟨if k = .equipment .load then k.columns.erase "q0" else k.columns, []⟩ :=
    Tables.table?_ofKinds _ k
  have hload : ¬ (Kind.equipment .load).IsProvisioned s.tableColumns? := by
    rintro ⟨columns, hcolumns, hall⟩
    rw [s.tableColumns?_table, htable] at hcolumns
    obtain rfl := Option.some.inj hcolumns
    exact absurd (hall "q0" (by decide)) (by decide)
  have hothers (k : Kind) (hk : k ≠ .equipment .load) : k.IsProvisioned s.tableColumns? := by
    refine ⟨k.columns, ?_, fun c hc => ?_⟩
    · rw [s.tableColumns?_table, htable, if_neg hk]
      rfl
    · rwa [Kind.columns, List.mem_append, Sql.mem_insertedColumns, ← List.mem_append]
  obtain ⟨-, k, -, shape, -, -, hk, -, hresult⟩ :=
    (@prepareOn_provisioned _ Backend.accepts s hs s.engine_accepts).2 fun hall => hload (hall _)
  have hselects (k : Kind) :
      s.accepts k (Sql.selectOne k.schema.layout k.schema.columnNames) = true := by
    rw [Backend.accepts, htable]
    rfl
  obtain rfl := shape_of_schemaMismatch hs s.engine_accepts hselects hresult
  obtain rfl : k = .equipment .load := by
    by_contra hne
    exact hk (hothers k hne)
  exact ⟨hs, s.engine_accepts, by decide, hselects (.equipment .load), hload, hothers, hresult⟩

end GridStore
