import GridStore.Mapping.Declaration
import GridStore.Proofs.Mappings

/-!
# Declared mappings

A declaration is refused for the first thing that is wrong with it: a column, in the order of the
columns, then a container, then the update key (`TableSchema.exists_defect_iff`). In a mapping that
is not refused a column has one position, and its value is the one that stands there in the values
of all columns (`DeclaredMapping.valueOf?_of_values`). The mapping of every kind is what the calls
that declare its fields give, and all of its columns can be read (`Kind.build_mapping`).
-/

namespace GridStore

namespace TableSchema

/-! ## The first defect -/

/-- Columns of different names, none of them a fixed one. -/
def Distinct (fixed names : List String) : Prop :=
  names.Nodup ∧ ∀ name ∈ names, name ∉ fixed

/-- The wording of what is wrong first with a declaration. -/
inductive FirstViolation (kind : Kind) (names containers : List String)
    (updateKey : Option String) : String → Prop where
  | mappedTwice {before after : List String} {name : String}
      (hnames : names = before ++ name :: after)
      (hbefore : Distinct kind.layout.fixedColumns before) (hname : name ∈ before) :
      FirstViolation kind names containers updateKey
        (kind.table ++ ": column " ++ name ++ " mapped twice")
  | keyColumn {before after : List String} {name : String}
      (hnames : names = before ++ name :: after) (hbefore : Distinct kind.layout.fixedColumns before)
      (hnew : name ∉ before) (hname : name ∈ kind.layout.fixedColumns) :
      FirstViolation kind names containers updateKey
        (kind.table ++ ": column " ++ name ++ " collides with a key column")
  | unmappedContainer (hcolumns : Distinct kind.layout.fixedColumns names)
      (hcontainer : ∃ name ∈ containers, name ∉ names) :
      FirstViolation kind names containers updateKey (kind.table ++ ": unmapped container column")
  | unmappedUpdateKey (hcolumns : Distinct kind.layout.fixedColumns names)
      (hcontainers : ∀ name ∈ containers, name ∈ names) (hkey : ∃ name ∈ updateKey, name ∉ names) :
      FirstViolation kind names containers updateKey (kind.table ++ ": unmapped update key")

theorem columnDefect?_nil_eq_none_iff {fixed names : List String} :
    columnDefect? fixed [] names = none ↔ Distinct fixed names := by
  rw [columnDefect?_eq_none_iff]
  simp [Distinct]

/-- Columns without a defect are passed over, and are seen from then on. -/
theorem columnDefect?_append {fixed rest : List String} : ∀ {names seen : List String},
    columnDefect? fixed seen names = none →
      columnDefect? fixed seen (names ++ rest) = columnDefect? fixed (seen ++ names) rest
  | [], seen, _ => by rw [List.nil_append, List.append_nil]
  | name :: names, seen, h => by
    rw [columnDefect?] at h
    split at h
    · cases h
    · rename_i hseen
      split at h
      · cases h
      · rename_i hfixed
        rw [List.cons_append, columnDefect?, if_neg hseen, if_neg hfixed, columnDefect?_append h,
          List.append_assoc, List.singleton_append]

/-- The columns before the first defect have none. -/
theorem exists_of_columnDefect?_eq_some {fixed : List String} {defect : Defect} :
    ∀ {names seen : List String}, columnDefect? fixed seen names = some defect →
      ∃ before name after, names = before ++ name :: after ∧
        columnDefect? fixed seen before = none ∧ (name ∈ seen ++ before ∨ name ∈ fixed)
  | [], _, h => by cases h
  | name :: names, seen, h => by
    rw [columnDefect?] at h
    split at h
    · rename_i hseen
      exact ⟨[], name, names, rfl, rfl, .inl (by simpa using hseen)⟩
    · rename_i hseen
      split at h
      · rename_i hfixed
        exact ⟨[], name, names, rfl, rfl, .inr hfixed⟩
      · rename_i hfixed
        obtain ⟨before, next, after, rfl, hbefore, hnext⟩ := exists_of_columnDefect?_eq_some h
        refine ⟨name :: before, next, after, rfl, ?_, ?_⟩
        · rw [columnDefect?, if_neg hseen, if_neg hfixed, hbefore]
        · rwa [List.append_assoc, List.singleton_append] at hnext

theorem columnDefect?_of_mem {fixed before after : List String} {name : String}
    (hbefore : Distinct fixed before) (hname : name ∈ before) :
    columnDefect? fixed [] (before ++ name :: after) = some (.mappedTwice name) := by
  rw [columnDefect?_append (columnDefect?_nil_eq_none_iff.2 hbefore), List.nil_append,
    columnDefect?, if_pos hname]

theorem columnDefect?_of_fixed {fixed before after : List String} {name : String}
    (hbefore : Distinct fixed before) (hnew : name ∉ before) (hname : name ∈ fixed) :
    columnDefect? fixed [] (before ++ name :: after) = some (.keyColumn name) := by
  rw [columnDefect?_append (columnDefect?_nil_eq_none_iff.2 hbefore), List.nil_append,
    columnDefect?, if_neg hnew, if_pos hname]

variable {s : TableSchema}

theorem defect?_of_columnDefect? {defect : Defect}
    (h : columnDefect? s.layout.fixedColumns [] s.columnNames = some defect) :
    s.defect? = some defect := by
  rw [defect?, h]

theorem defect?_of_distinct (h : Distinct s.layout.fixedColumns s.columnNames) : s.defect?
    = if ¬ s.containers.all (· ∈ s.columnNames) then some .unmappedContainer
      else if ¬ s.updateKey.all (· ∈ s.columnNames) then some .unmappedUpdateKey
      else none := by
  rw [defect?, columnDefect?_nil_eq_none_iff.2 h]

/-- A defect of a column is of the first that has one. -/
theorem firstViolation_of_column {defect : Defect}
    (h : columnDefect? s.layout.fixedColumns [] s.columnNames = some defect) :
    FirstViolation s.kind s.columnNames s.containers s.updateKey (defect.message s.table) := by
  obtain ⟨before, name, after, hnames, hbefore, hname⟩ := exists_of_columnDefect?_eq_some h
  rw [columnDefect?_nil_eq_none_iff] at hbefore
  rw [List.nil_append] at hname
  rw [hnames] at h
  by_cases hseen : name ∈ before
  · rw [columnDefect?_of_mem hbefore hseen] at h
    obtain rfl := Option.some.inj h
    exact .mappedTwice hnames hbefore hseen
  · have hfixed := hname.resolve_left hseen
    rw [columnDefect?_of_fixed hbefore hseen hfixed] at h
    obtain rfl := Option.some.inj h
    exact .keyColumn hnames hbefore hseen hfixed

/-- Where the columns have none, a defect is of the containers or else of the update key. -/
theorem firstViolation_of_distinct (hcolumns : Distinct s.layout.fixedColumns s.columnNames)
    {defect : Defect} (h : s.defect? = some defect) :
    FirstViolation s.kind s.columnNames s.containers s.updateKey (defect.message s.table) := by
  rw [defect?_of_distinct hcolumns] at h
  split at h
  · rename_i hcontainers
    obtain rfl := Option.some.inj h
    exact .unmappedContainer hcolumns (by simpa using hcontainers)
  · rename_i hcontainers
    split at h
    · rename_i hkey
      obtain rfl := Option.some.inj h
      refine .unmappedUpdateKey hcolumns (by simpa using hcontainers) ?_
      rcases hupdate : s.updateKey with _ | key
      · simp [hupdate] at hkey
      · exact ⟨key, rfl, by simpa [hupdate] using hkey⟩
    · cases h

/-- The defect of a declaration is what is wrong with it first. -/
theorem exists_defect_iff {text : String} :
    (∃ defect, s.defect? = some defect ∧ defect.message s.table = text)
      ↔ FirstViolation s.kind s.columnNames s.containers s.updateKey text := by
  constructor
  · rintro ⟨defect, hdefect, rfl⟩
    rcases hcolumns : columnDefect? s.layout.fixedColumns [] s.columnNames with _ | first
    · exact firstViolation_of_distinct (columnDefect?_nil_eq_none_iff.1 hcolumns) hdefect
    · obtain rfl := Option.some.inj ((defect?_of_columnDefect? hcolumns).symm.trans hdefect)
      exact firstViolation_of_column hcolumns
  · rintro (⟨hnames, hbefore, hname⟩ | ⟨hnames, hbefore, hnew, hname⟩ | ⟨hcolumns, hcontainer⟩ |
      ⟨hcolumns, hcontainers, hkey⟩)
    · refine ⟨.mappedTwice _, defect?_of_columnDefect? ?_, rfl⟩
      rw [hnames]
      exact columnDefect?_of_mem hbefore hname
    · refine ⟨.keyColumn _, defect?_of_columnDefect? ?_, rfl⟩
      rw [hnames]
      exact columnDefect?_of_fixed hbefore hnew hname
    · refine ⟨.unmappedContainer, ?_, rfl⟩
      rw [defect?_of_distinct hcolumns, if_pos (by simpa using hcontainer)]
    · refine ⟨.unmappedUpdateKey, ?_, rfl⟩
      obtain ⟨key, hkey, hunmapped⟩ := hkey
      rw [defect?_of_distinct hcolumns, if_neg (by simpa using hcontainers),
        if_pos (by simpa [Option.mem_def.1 hkey] using hunmapped)]

/-! ## Views of distinct columns -/

/-- A column stands at a position if its name stands there in the list of names. -/
theorem position?_eq_some_iff (h : s.columnNames.Nodup) {name : String} {i : Nat} :
    s.position? name = some i ↔ s.columnNames[i]? = some name := by
  rw [position?, List.findIdx?_eq_some_iff_getElem, columnNames, List.getElem?_map]
  constructor
  · rintro ⟨hi, hname, -⟩
    rw [List.getElem?_eq_getElem hi]
    simpa using hname
  · intro hname
    obtain ⟨c, hc, rfl⟩ := Option.map_eq_some_iff.1 hname
    obtain ⟨hi, rfl⟩ := List.getElem?_eq_some_iff.1 hc
    refine ⟨hi, by simp, fun j hj => ?_⟩
    have hne := List.pairwise_iff_getElem.1 (List.pairwise_map.1 h) j i (Nat.lt_trans hj hi) hi hj
    simpa using hne

/-- An update assigns all columns but the update key, in their order. -/
theorem updateColumns_eq (h : s.columnNames.Nodup) {key : String} (hkey : s.updateKey = some key)
    (hmapped : key ∈ s.columnNames) : ∃ before after,
      s.columnNames = before ++ key :: after ∧ s.updateColumns = before ++ after := by
  obtain ⟨before, after, hnames⟩ := List.append_of_mem hmapped
  refine ⟨before, after, hnames, ?_⟩
  rw [hnames, List.nodup_middle, List.nodup_cons, List.mem_append, not_or] at h
  have hkept {names : List String} (hnot : key ∉ names) :
      names.filter (fun name => decide (some name ≠ some key)) = names := by
    refine List.filter_eq_self.2 fun name hname => ?_
    simpa using ne_of_mem_of_not_mem hname hnot
  rw [updateColumns, hkey, hnames, List.filter_append, List.filter_cons_of_neg (by simp),
    hkept h.1.1, hkept h.1.2]

end TableSchema

/-! ## Calls -/

namespace Declaration

variable {A : Type}

namespace Call

/-- The name of the column that a call declares. -/
def columnNames : Call A → List String
  | column c => [c.name]
  | _ => []

/-- The containers that a call declares. -/
def containers : Call A → List String
  | container columns => columns
  | _ => []

/-- The update key that a call declares. -/
def updateKey? : Call A → Option String
  | updateKey key => some key
  | _ => none

end Call

theorem foldl_call : ∀ (calls : List (Call A)) (d : Declaration A),
    (calls.foldl call d).schema.kind = d.kind ∧
      (calls.foldl call d).schema.columnNames
        = d.schema.columnNames ++ calls.flatMap Call.columnNames ∧
      (calls.foldl call d).schema.containers = d.containers ++ calls.flatMap Call.containers ∧
      (calls.foldl call d).schema.updateKey
        = (calls.filterMap Call.updateKey?).getLast?.or d.updateKey
  | [], d => by simp [schema]
  | c :: calls, d => by
    obtain ⟨hkind, hnames, hcontainers, hkey⟩ := foldl_call calls (d.call c)
    rw [List.foldl_cons, hkind, hnames, hcontainers, hkey]
    cases c with
    | column c =>
      simp [call, schema, TableSchema.columnNames, Call.columnNames, Call.containers,
        Call.updateKey?]
    | container columns =>
      simp [call, schema, TableSchema.columnNames, Call.columnNames, Call.containers,
        Call.updateKey?]
    | updateKey key =>
      refine ⟨rfl, rfl, rfl, ?_⟩
      show _ = (key :: calls.filterMap Call.updateKey?).getLast?.or d.updateKey
      rw [List.getLast?_cons]
      cases (calls.filterMap Call.updateKey?).getLast? <;> rfl

/-- What calls declare: the columns and the containers in the order of the calls, and the last of
the update keys. -/
theorem schema_ofCalls (kind : Kind) (calls : List (Call A)) :
    (ofCalls kind calls).schema.kind = kind ∧
      (ofCalls kind calls).schema.columnNames = calls.flatMap Call.columnNames ∧
      (ofCalls kind calls).schema.containers = calls.flatMap Call.containers ∧
      (ofCalls kind calls).schema.updateKey = (calls.filterMap Call.updateKey?).getLast? := by
  have h := foldl_call calls (begin kind)
  simpa [ofCalls, begin, schema, TableSchema.columnNames] using h

theorem build_eq_ok_iff {d : Declaration A} :
    (∃ m, d.build = .ok m) ↔ d.schema.defect? = none := by
  unfold build
  split <;> simp_all

theorem build_eq_error_iff {d : Declaration A} {defect : TableSchema.Defect} :
    d.build = .error defect ↔ d.schema.defect? = some defect := by
  unfold build
  split <;> simp_all

theorem of_build_ok {d : Declaration A} {m : DeclaredMapping A} (h : d.build = .ok m) :
    m.toDeclaration = d := by
  unfold build at h
  split at h
  · cases h
  · obtain rfl := Except.ok.inj h
    rfl

end Declaration

/-! ## Values -/

theorem Except.mapM_getElem? {ε α β : Type} {g : α → Except ε β} : ∀ {as : List α} {bs : List β},
    as.mapM g = .ok bs → bs.length = as.length ∧ ∀ i : Nat, as[i]?.mapM g = .ok bs[i]?
  | [], bs, h => by
    obtain rfl := Except.ok.inj h
    exact ⟨rfl, fun _ => rfl⟩
  | a :: as, bs, h => by
    rw [List.mapM_cons] at h
    rcases hb : g a with e | b
    · rw [hb] at h
      cases h
    rcases hbs : as.mapM g with e | bs
    · rw [hb, hbs] at h
      cases h
    rw [hb, hbs] at h
    obtain rfl := Except.ok.inj h
    obtain ⟨hlength, hrest⟩ := mapM_getElem? hbs
    refine ⟨congrArg Nat.succ hlength, fun i => ?_⟩
    cases i with
    | zero =>
      show (g a).map some = _
      rw [hb]
      rfl
    | succ i => exact hrest i

namespace DeclaredMapping

variable {A : Type} {m : DeclaredMapping A}

theorem distinct_columnNames (m : DeclaredMapping A) : m.schema.columnNames.Nodup :=
  (TableSchema.defect?_eq_none_iff.1 m.defect?_schema).1

theorem length_of_values {a : A} {vs : List ColumnValue} (h : m.values a = .ok vs) :
    vs.length = m.schema.columnNames.length := by
  rw [(Except.mapM_getElem? h).1, TableSchema.columnNames, Declaration.schema, List.length_map,
    List.length_map]

/-- If the values of all columns are had, that of one column stands at its position. -/
theorem valueOf?_of_values {a : A} {vs : List ColumnValue} (h : m.values a = .ok vs)
    (name : String) : m.valueOf? a name = .ok ((m.schema.position? name).bind (vs[·]?)) := by
  obtain ⟨-, hcolumns⟩ := Except.mapM_getElem? h
  rw [valueOf?]
  cases m.schema.position? name with
  | none => rfl
  | some i => exact hcolumns i

/-- A column that is not mapped has no value, and that is no error. -/
theorem valueOf?_of_not_mem {name : String} (h : name ∉ m.schema.columnNames) (a : A) :
    m.valueOf? a name = .ok none := by
  have hposition : m.schema.position? name = none := by
    rw [Option.eq_none_iff_forall_ne_some]
    intro i hi
    rw [TableSchema.position?_eq_some_iff m.distinct_columnNames] at hi
    exact h (List.mem_of_getElem? hi)
  rw [valueOf?, hposition]
  rfl

end DeclaredMapping

/-! ## Mappings of fields -/

namespace Mapping

variable {A : Type}

/-- The declaration of a mapping's fields. -/
def declaration (m : Mapping A) : Declaration A where
  kind := m.kind
  columns := m.fields.map (·.declared)
  containers := m.containers
  updateKey := m.updateKey

theorem schema_declaration (m : Mapping A) : m.declaration.schema = m.schema := by
  rw [Declaration.schema, schema, declaration, List.map_map]
  rfl

/-- A mapping without a defect as a declared one. -/
def declared (m : Mapping A) (h : m.schema.defect? = none) : DeclaredMapping A :=
  { m.declaration with defect?_schema := m.schema_declaration ▸ h }

/-- The calls that declare a mapping: its columns, what names a container, and the update key. -/
def calls (m : Mapping A) : List (Declaration.Call A) :=
  m.fields.map (.column ·.declared) ++ .container m.containers :: m.updateKey.toList.map .updateKey

theorem ofCalls_calls (m : Mapping A) : Declaration.ofCalls m.kind m.calls = m.declaration := by
  have hcolumns (fields : List (Field A)) (d : Declaration A) :
      (fields.map fun f => .column f.declared).foldl Declaration.call d
        = { d with columns := d.columns ++ fields.map (·.declared) } := by
    induction fields generalizing d with
    | nil => simp
    | cons f fields ih => simp [ih, Declaration.call]
  rw [Declaration.ofCalls, calls, List.foldl_append, hcolumns, declaration]
  cases m.updateKey <;> rfl

variable {m : Mapping A} (h : m.schema.defect? = none)

theorem build_declaration : m.declaration.build = .ok (m.declared h) := by
  unfold Declaration.build
  split
  · rename_i hdefect
    rw [m.schema_declaration, h] at hdefect
    cases hdefect
  · rfl

/-- All fields are read. -/
theorem values_declared (a : A) : (m.declared h).values a = .ok (m.values a) := by
  rw [DeclaredMapping.values, values]
  show (m.fields.map (·.declared)).mapM ((m.declared h).valueOfColumn a) = _
  induction m.fields with
  | nil => rfl
  | cons f fields ih =>
    rw [List.map_cons, List.mapM_cons, ih]
    rfl

theorem valueOf?_declared (a : A) (name : String) :
    (m.declared h).valueOf? a name = .ok (m.valueOf? a name) := by
  have hposition : (m.declared h).schema.position? name = m.fields.findIdx? (·.name = name) := by
    show List.findIdx? _ (((m.fields.map (·.declared)).map (·.toColumnInfo))) = _
    rw [List.map_map, List.findIdx?_map]
    rfl
  have hcolumn : ((m.declared h).schema.position? name).bind ((m.declared h).columns[·]?)
      = (m.fields.find? (·.name = name)).map (·.declared) := by
    rw [hposition, List.find?_eq_bind_findIdx?_getElem?, Option.map_bind]
    exact Option.bind_congr fun i _ => List.getElem?_map
  rw [DeclaredMapping.valueOf?, hcolumn, valueOf?]
  cases m.fields.find? (·.name = name) <;> rfl

end Mapping

/-- The declaration of every kind is finished, and what it gives has the values that the mapping of the
kind has, of all columns and of each. -/
theorem Kind.build_mapping (k : Kind) :
    let m := Attributes.mapping (A := k.Attributes)
    ∃ d, (Declaration.ofCalls k m.calls).build = .ok d ∧ d.schema = k.schema ∧
      ∀ a, d.values a = .ok (m.values a) ∧ ∀ name, d.valueOf? a name = .ok (m.valueOf? a name) := by
  intro m
  have hkind : m.kind = k := k.kind_schema
  refine ⟨m.declared k.defect?_schema, ?_, m.schema_declaration, fun a =>
    ⟨m.values_declared _ a, m.valueOf?_declared _ a⟩⟩
  rw [← m.build_declaration k.defect?_schema, ← m.ofCalls_calls, hkind]

/-- Declarations that calls make are finished exactly if they are well formed, and are refused for
what is wrong first otherwise; a finished one has the columns, the containers and the key that were
declared, each column at its place. -/
theorem Declaration.build_ofCalls {A : Type} (kind : Kind) (calls : List (Declaration.Call A)) :
    let names := calls.flatMap Call.columnNames
    let containers := calls.flatMap Call.containers
    let updateKey := (calls.filterMap Call.updateKey?).getLast?
    ((∃ m, (ofCalls kind calls).build = .ok m) ↔
      names.Nodup ∧ (∀ name ∈ names, name ∉ kind.layout.fixedColumns) ∧
        (∀ name ∈ containers, name ∈ names) ∧ ∀ key ∈ updateKey, key ∈ names) ∧
    (∀ text, (∃ defect, (ofCalls kind calls).build = .error defect ∧
        defect.message kind.table = text) ↔
      TableSchema.FirstViolation kind names containers updateKey text) ∧
    ∀ m, (ofCalls kind calls).build = .ok m →
      m.schema.columnNames = names ∧ m.schema.containers = containers ∧
      m.schema.updateKey = updateKey ∧
      (∀ name i, m.schema.position? name = some i ↔ names[i]? = some name) ∧
      (∀ a vs, m.values a = .ok vs → vs.length = names.length ∧
        ∀ name i, m.schema.position? name = some i →
          ∃ v, vs[i]? = some v ∧ m.valueOf? a name = .ok (some v)) ∧
      (∀ a, ∀ name ∉ names, m.valueOf? a name = .ok none) ∧
      (updateKey = none → m.schema.updateColumns = names) ∧
      ∀ key ∈ updateKey, ∃ before after,
        names = before ++ key :: after ∧ m.schema.updateColumns = before ++ after := by
  intro names containers updateKey
  obtain ⟨hkind, (hnames : _ = names), (hcontainers : _ = containers), (hkey : _ = updateKey)⟩ :=
    schema_ofCalls kind calls
  clear_value names containers updateKey
  refine ⟨?_, fun text => ?_, fun m hm => ?_⟩
  · rw [build_eq_ok_iff, TableSchema.defect?_eq_none_iff, hnames, hcontainers, hkey,
      TableSchema.layout, hkind]
  · simp only [build_eq_error_iff]
    have h := @TableSchema.exists_defect_iff (ofCalls kind calls).schema text
    rwa [hnames, hcontainers, hkey, hkind, TableSchema.table, hkind] at h
  · have hschema : m.schema = (ofCalls kind calls).schema := by rw [of_build_ok hm]
    rw [← hschema] at hnames hcontainers hkey
    have hdistinct := m.distinct_columnNames
    refine ⟨hnames, hcontainers, hkey, fun name i => ?_, fun a vs hvs => ⟨?_, fun name i hi => ?_⟩,
      fun a name hname => ?_, fun hnone => ?_, fun key hmem => ?_⟩
    · rw [TableSchema.position?_eq_some_iff hdistinct, hnames]
    · rw [DeclaredMapping.length_of_values hvs, hnames]
    · have hi' := (TableSchema.position?_eq_some_iff hdistinct).1 hi
      have hlt : i < vs.length := by
        rw [DeclaredMapping.length_of_values hvs]
        exact (List.getElem?_eq_some_iff.1 hi').1
      refine ⟨vs[i], List.getElem?_eq_getElem hlt, ?_⟩
      rw [DeclaredMapping.valueOf?_of_values hvs, hi, Option.bind_some, List.getElem?_eq_getElem hlt]
    · exact DeclaredMapping.valueOf?_of_not_mem (hnames ▸ hname) a
    · rw [TableSchema.updateColumns, hkey, hnone, hnames]
      simp
    · obtain ⟨-, -, -, hmapped⟩ := TableSchema.defect?_eq_none_iff.1 m.defect?_schema
      have hsome := hkey.trans (Option.mem_def.1 hmem)
      rw [← hnames]
      exact TableSchema.updateColumns_eq hdistinct hsome (hmapped key (Option.mem_def.2 hsome))

/-- Containers of two calls, and two update keys of which the later one counts. -/
theorem Declaration.build_ofCalls_two_keys :
    let column (name : String) : DeclaredColumn Bool :=
      { name, columnType := .boolean, read := fun b => .ok (.boolean b) }
    let calls : List (Call Bool) := [.column (column "first"), .container ["first"],
      .updateKey "second", .column (column "second"), .container ["second"], .updateKey "first"]
    ∃ m, (ofCalls .network calls).build = .ok m ∧ m.schema.containers = ["first", "second"] ∧
      m.schema.updateColumns = ["second"] := by
  intro column calls
  obtain ⟨hbuilt, -, hviews⟩ := build_ofCalls .network calls
  obtain ⟨m, hm⟩ := hbuilt.2 (by decide)
  obtain ⟨hnames, hcontainers, hkey, -⟩ := hviews m hm
  refine ⟨m, hm, hcontainers, ?_⟩
  rw [TableSchema.updateColumns, hnames, hkey]
  decide

end GridStore
