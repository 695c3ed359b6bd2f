import GridStore.Proofs.Mappings
import GridStore.Proofs.StatementText
import GridStore.Sql.Catalog

/-!
# Placeholders and bound values

A placeholder is about the column that stands before the last `=`. In the text of a table's
statements the placeholders are about the columns whose values are bound, in that order, and the
mapped columns stand where the values of a row do (`TableSchema.placeholders_agree`).
-/

namespace GridStore.Sql

open Sql.Token

/-! ## Columns and placeholders in tokens -/

namespace Token

/-- What a column is used for. -/
inductive Use where
  /-- An `=` stands after the column. -/
  | target (column : Option String)
  /-- A placeholder is about the column. -/
  | bound (column : Option String)
deriving DecidableEq, Repr

/-- The column that an `=` stands after. -/
def Use.target? : Use → Option (Option String)
  | target column => some column
  | bound _ => none

/-- The column that a placeholder is about. -/
def Use.bound? : Use → Option (Option String)
  | target _ => none
  | bound column => some column

/-- The uses of columns, after the name that stands last and the one before the last `=`. -/
def uses : Option String → Option String → List Token → List Use
  | _, _, [] => []
  | _, target, quoted name :: ts => uses (some name) target ts
  | last, target, placeholder :: ts => .bound target :: uses last target ts
  | last, _, mark '=' :: ts => .target last :: uses last last ts
  | last, target, mark _ :: ts => uses last target ts
  | last, target, word _ :: ts => uses last target ts

/-- The columns that an `=` stands after. -/
def targets (ts : List Token) : List (Option String) :=
  (uses none none ts).filterMap Use.target?

/-- The columns that the placeholders are about. -/
def boundColumns (ts : List Token) : List (Option String) :=
  (uses none none ts).filterMap Use.bound?

/-- The names in tokens. -/
def names (ts : List Token) : List String :=
  ts.filterMap fun
    | quoted name => some name
    | _ => none

end Token

/-! ## Uses in the parts -/

/-- A column and the value bound for it. -/
def boundUses (column : String) : List Use :=
  [.target (some column), .bound (some column)]

/-- The uses in a condition. -/
def Condition.uses : Condition → List Use
  | equals column => boundUses column
  | isZero column => [.target (some column)]
  | anyOf columns => columns.flatMap boundUses

/-- The column that is assigned. -/
def Assignment.column : Assignment → String
  | set column => column
  | setUnlessNull column => column

/-- Whether tokens use columns in this way, whatever stands before and after them. -/
def Using (ts : List Token) (us : List Use) : Prop :=
  ∀ last target, ∃ last' target', ∀ rest,
    uses last target (ts ++ rest) = us ++ uses last' target' rest

variable {ts ts' : List Token} {us us' : List Use}

theorem Using.uses (h : Using ts us) (last target : Option String) : uses last target ts = us := by
  obtain ⟨last', target', hrest⟩ := h last target
  simpa [Token.uses] using hrest []

theorem Using.append (h : Using ts us) (h' : Using ts' us') : Using (ts ++ ts') (us ++ us') := by
  intro last target
  obtain ⟨last', target', hrest⟩ := h last target
  obtain ⟨last'', target'', hrest'⟩ := h' last' target'
  exact ⟨last'', target'', fun rest => by rw [List.append_assoc, hrest, hrest', List.append_assoc]⟩

theorem using_nil : Using [] [] :=
  fun last target => ⟨last, target, fun _ => rfl⟩

theorem using_quoted (name : String) : Using [quoted name] [] :=
  fun _ target => ⟨some name, target, fun _ => rfl⟩

theorem using_word (s : String) : Using [word s] [] :=
  fun last target => ⟨last, target, fun _ => rfl⟩

theorem using_mark {c : Char} (h : c ≠ '=') : Using [mark c] [] :=
  fun last target => ⟨last, target, fun _ => by simp [Token.uses]⟩

theorem using_equals (column : String) :
    Using [quoted column, mark '='] [.target (some column)] :=
  fun _ _ => ⟨some column, some column, fun _ => by simp [Token.uses]⟩

theorem using_bound (column : String) : Using (boundTokens column) (boundUses column) :=
  fun _ _ => ⟨some column, some column, fun _ => by simp [Token.uses, boundTokens, boundUses]⟩

theorem using_intercalate {α : Type} {f : α → List Token} {g : α → List Use} (hsep : Using ts [])
    (h : ∀ a, Using (f a) (g a)) : ∀ as : List α,
      Using (ts.intercalate (as.map f)) (as.flatMap g)
  | [] => using_nil
  | [a] => by simpa using h a
  | a :: b :: as => by
    have hrest := using_intercalate hsep h (b :: as)
    rw [List.map_cons, List.map_cons, List.intercalate_cons_cons, List.flatMap_cons,
      ← List.append_nil (g a)]
    exact ((h a).append hsep).append hrest

theorem using_condition : ∀ c : Condition, Using c.tokens c.uses
  | .equals column => using_bound column
  | .isZero column => (using_equals column).append (using_word "0")
  | .anyOf columns => by
    have hcolumns := using_intercalate (using_word "OR") using_bound columns
    have hall := ((using_mark (c := '(') (by decide)).append hcolumns).append
      (using_mark (c := ')') (by decide))
    rwa [List.nil_append, List.append_nil] at hall

theorem using_where (conditions : List Condition) :
    Using (whereTokens conditions) (conditions.flatMap Condition.uses) :=
  using_intercalate (using_word "AND") using_condition conditions

theorem using_assignment : ∀ a : Assignment, Using a.tokens (boundUses a.column)
  | .set column => using_bound column
  | .setUnlessNull column => fun _ _ => ⟨some column, some column, fun _ => by
      simp [Token.uses, Assignment.tokens, Assignment.column, boundUses]⟩

theorem using_list {α : Type} {f : α → List Token} {g : α → List Use}
    (h : ∀ a, Using (f a) (g a)) (as : List α) : Using (listTokens (as.map f)) (as.flatMap g) :=
  using_intercalate (using_mark (by decide)) h as

theorem using_names (names : List String) : Using (nameTokens names) [] := by
  have hnames := using_list using_quoted names
  rwa [List.flatMap_eq_nil_iff.2 fun _ _ => rfl] at hnames

/-! ## Statements -/

theorem using_select (columns : List String) (table : String) (conditions : List Condition) :
    Using (Statement.select columns table conditions none).tokens
      (conditions.flatMap Condition.uses) := by
  have huses := (((((using_word "SELECT").append (using_names columns)).append
    (using_word "FROM")).append (using_quoted table)).append (using_word "WHERE")).append
      (using_where conditions)
  simpa only [Statement.tokens, List.append_nil, List.nil_append] using huses

/-- What an update's text has up to its conditions. -/
def assigningTokens (table : String) (assignments : List Assignment) : List Token :=
  [word "UPDATE"] ++ [quoted table] ++ [word "SET"] ++ listTokens (assignments.map Assignment.tokens)

theorem using_assigning (table : String) (assignments : List Assignment) :
    Using (assigningTokens table assignments)
      (assignments.flatMap fun a => boundUses a.column) :=
  (((using_word "UPDATE").append (using_quoted table)).append (using_word "SET")).append
    (using_list using_assignment assignments)

theorem using_update (table : String) (assignments : List Assignment)
    (conditions : List Condition) :
    Using (Statement.update table assignments conditions).tokens
      (assignments.flatMap (fun a => boundUses a.column) ++ conditions.flatMap Condition.uses) := by
  have huses := ((using_assigning table assignments).append (using_word "WHERE")).append
    (using_where conditions)
  rwa [List.append_nil] at huses

theorem forall_mem_intercalate {α : Type} {p : α → Prop} {sep : List α} (hsep : ∀ a ∈ sep, p a) :
    ∀ {parts : List (List α)}, (∀ part ∈ parts, ∀ a ∈ part, p a) → ∀ a ∈ sep.intercalate parts, p a
  | [], _ => by simp
  | [part], h => by simpa using h
  | part :: next :: parts, h => by
    have hnext : ∀ part ∈ next :: parts, ∀ a ∈ part, p a :=
      fun q hq => h q (List.mem_cons_of_mem _ hq)
    have hrest := forall_mem_intercalate hsep hnext
    have hpart := h part List.mem_cons_self
    rw [List.intercalate_cons_cons]
    simp only [List.mem_append]
    rintro a ((ha | ha) | ha)
    · exact hpart a ha
    · exact hsep a ha
    · exact hrest a ha

theorem takeWhile_update (table : String) (assignments : List Assignment)
    (conditions : List Condition) :
    (Statement.update table assignments conditions).tokens.takeWhile (· ≠ word "WHERE")
      = assigningTokens table assignments := by
  have hassigned : ∀ t ∈ listTokens (assignments.map Assignment.tokens), t ≠ word "WHERE" := by
    refine forall_mem_intercalate (by simp) fun part hpart => ?_
    obtain ⟨a, -, rfl⟩ := List.mem_map.1 hpart
    cases a <;> simp [Assignment.tokens, boundTokens]
  have htokens : (Statement.update table assignments conditions).tokens
      = assigningTokens table assignments ++ (word "WHERE" :: whereTokens conditions) := by
    rw [Statement.tokens, List.append_assoc]
    rfl
  have hbefore : ∀ t ∈ assigningTokens table assignments, decide (t ≠ word "WHERE") = true := by
    simpa [assigningTokens] using hassigned
  rw [htokens, List.takeWhile_append_of_pos hbefore, List.takeWhile_cons_of_neg (by simp),
    List.append_nil]

theorem names_append (ts us : List Token) : names (ts ++ us) = names ts ++ names us :=
  List.filterMap_append

theorem names_intercalate {sep : List Token} (hsep : names sep = []) : ∀ parts : List (List Token),
    names (sep.intercalate parts) = parts.flatMap names
  | [] => rfl
  | [part] => by simp
  | part :: next :: parts => by
    rw [List.intercalate_cons_cons, names_append, names_append, hsep,
      names_intercalate hsep (next :: parts), List.append_nil]
    rfl

theorem names_listTokens (parts : List (List Token)) :
    names (listTokens parts) = parts.flatMap names :=
  names_intercalate rfl parts

theorem names_nameTokens (columns : List String) : names (nameTokens columns) = columns := by
  rw [nameTokens, names_listTokens, List.flatMap_map]
  exact List.flatMap_singleton' columns

theorem names_select (columns : List String) (table : String) (conditions : List Condition) :
    names ((Statement.select columns table conditions none).tokens.takeWhile (· ≠ word "FROM"))
      = columns := by
  have hcolumns : ∀ t ∈ nameTokens columns, t ≠ word "FROM" := by
    refine forall_mem_intercalate (by simp) fun part hpart => ?_
    obtain ⟨name, -, rfl⟩ := List.mem_map.1 hpart
    simp
  have htokens : (Statement.select columns table conditions none).tokens
      = ([word "SELECT"] ++ nameTokens columns) ++
        (word "FROM" :: quoted table :: word "WHERE" :: whereTokens conditions) := by
    simp [Statement.tokens]
  have hbefore : ∀ t ∈ [word "SELECT"] ++ nameTokens columns, decide (t ≠ word "FROM") = true := by
    simpa using hcolumns
  rw [htokens, List.takeWhile_append_of_pos hbefore, List.takeWhile_cons_of_neg (by simp),
    List.append_nil, names_append, names_nameTokens]
  rfl

theorem names_insert (table : String) (columns : List String) :
    names (Statement.insert table columns).tokens = table :: columns := by
  have hbound : names (listTokens (columns.map fun _ => [placeholder])) = [] := by
    rw [names_listTokens, List.flatMap_map]
    exact List.flatMap_eq_nil_iff.2 fun _ _ => rfl
  simp only [Statement.tokens, names_append, names_nameTokens, hbound]
  simp [names]

theorem count_intercalate {sep : List Token} (hsep : placeholder ∉ sep) :
    ∀ parts : List (List Token),
      (sep.intercalate parts).count placeholder = parts.flatten.count placeholder
  | [] => rfl
  | [part] => by simp
  | part :: next :: parts => by
    have hparts : (part :: next :: parts).flatten = part ++ (next :: parts).flatten := rfl
    rw [List.intercalate_cons_cons, List.count_append, List.count_append,
      count_intercalate hsep (next :: parts), hparts, List.count_append, List.count_eq_zero.2 hsep,
      Nat.add_zero]

theorem count_listTokens (parts : List (List Token)) :
    (listTokens parts).count placeholder = parts.flatten.count placeholder :=
  count_intercalate (by simp) parts

theorem count_insert (table : String) (columns : List String) :
    (Statement.insert table columns).tokens.count placeholder = columns.length := by
  have hnames : (nameTokens columns).count placeholder = 0 := by
    rw [nameTokens, count_listTokens, ← List.flatMap_def]
    simp [List.count_eq_zero]
  have hbound : (listTokens (columns.map fun _ => [placeholder])).count placeholder
      = columns.length := by
    have hflatten : (columns.map fun _ => [placeholder]).flatten
        = List.replicate columns.length placeholder := by
      simp
    rw [count_listTokens, hflatten, List.count_replicate_self]
  simp only [Statement.tokens, List.count_append, hnames, hbound]
  simp

/-! ## Columns of the catalog -/

theorem columns_of_uses {columns : List String} (h : uses none none ts = columns.flatMap boundUses) :
    boundColumns ts = columns.map some ∧ targets ts = columns.map some := by
  rw [boundColumns, targets, h]
  clear h
  induction columns with
  | nil => exact ⟨rfl, rfl⟩
  | cons c columns ih =>
    rw [List.flatMap_cons, List.filterMap_append, List.filterMap_append, ih.1, ih.2]
    exact ⟨rfl, rfl⟩

/-- The columns that say which row a statement is about. -/
def rowColumns (l : TableLayout) : List String :=
  [l.networkColumn, "variantNum"] ++ if l.isNetwork then [] else ["id"]

theorem flatMap_ofRow (l : TableLayout) :
    (ofRow l).flatMap Condition.uses = (rowColumns l).flatMap boundUses := by
  rw [ofRow, rowColumns]
  cases l.isNetwork <;> rfl

/-- The fixed columns that an update assigns. -/
def fixedAssigned (l : TableLayout) : List String :=
  match l.variantIdColumn with
  | some variantId => ["id", variantId]
  | none => []

/-- The columns that an update assigns. -/
def assignedColumns (l : TableLayout) (columns : List String) (key : Option String) : List String :=
  fixedAssigned l ++ columns.filter fun c => some c ≠ key

/-- An update assigns the fixed columns that do not say which row it is. -/
theorem fixedAssigned_perm (k : Kind) :
    (fixedAssigned k.layout ++ rowColumns k.layout).Perm k.layout.fixedColumns := by
  rcases k with _ | k
  · decide
  · exact .rfl

/-- The columns of a new row are the fixed ones and the mapped ones. -/
theorem mem_insertedColumns {k : Kind} {c : String} :
    c ∈ k.layout.insertedColumns ↔ c ∈ k.layout.fixedColumns := by
  rcases k with _ | k
  · have hperm : TableLayout.network.insertedColumns.Perm TableLayout.network.fixedColumns := by
      decide
    exact hperm.mem_iff
  · exact Iff.rfl

/-- The assignments to fixed columns of an update. -/
def fixedAssignments (l : TableLayout) : List Assignment :=
  match l.variantIdColumn with
  | some variantId => [.set "id", .setUnlessNull variantId]
  | none => []

/-- The assignments of an update. -/
def assignments (l : TableLayout) (columns : List String) (key : Option String) : List Assignment :=
  fixedAssignments l ++ (columns.filter fun c => some c ≠ key).map .set

theorem flatMap_assignments (l : TableLayout) (columns : List String) (key : Option String) :
    (assignments l columns key).flatMap (fun a => boundUses a.column)
      = (assignedColumns l columns key).flatMap boundUses := by
  rw [assignments, assignedColumns, fixedAssignments, fixedAssigned, List.flatMap_append,
    List.flatMap_append, List.flatMap_map]
  cases l.variantIdColumn <;> rfl

theorem uses_updateTokens (l : TableLayout) (columns : List String) (key : Option String) :
    uses none none (update l columns key).tokens
      = (assignedColumns l columns key ++ rowColumns l ++ key.toList).flatMap boundUses := by
  rw [List.flatMap_append, List.flatMap_append, ← flatMap_assignments, ← flatMap_ofRow]
  have huses := using_update l.table (assignments l columns key) (ofRow l ++ key.toList.map .equals)
  rw [List.flatMap_append, List.flatMap_map, ← List.append_assoc] at huses
  exact huses.uses none none

theorem updateTokens_columns (l : TableLayout) (columns : List String) (key : Option String) :
    boundColumns (update l columns key).tokens
        = (assignedColumns l columns key ++ rowColumns l ++ key.toList).map some ∧
      targets ((update l columns key).tokens.takeWhile (· ≠ word "WHERE"))
        = (assignedColumns l columns key).map some := by
  have huses := (using_assigning l.table (assignments l columns key)).uses none none
  rw [flatMap_assignments] at huses
  refine ⟨(columns_of_uses (uses_updateTokens l columns key)).1, ?_⟩
  rw [← (columns_of_uses huses).2, ← takeWhile_update]
  rfl

/-- No column is assigned twice, and none of those that an update matches. -/
theorem assignedColumns_spec {s : TableSchema} (h : s.defect? = none) :
    (assignedColumns s.layout s.columnNames s.updateKey).Nodup ∧
      ∀ c ∈ rowColumns s.layout ++ s.updateKey.toList,
        c ∉ assignedColumns s.layout s.columnNames s.updateKey := by
  obtain ⟨hnodup, hfixed, -, hkey⟩ := TableSchema.defect?_eq_none_iff.1 h
  have hperm := fixedAssigned_perm s.kind
  have hdistinct : s.layout.fixedColumns.Nodup := by
    rw [TableSchema.layout]
    rcases s.kind with _ | k
    · decide
    · show ["networkUuid", "variantNum", "id"].Nodup
      decide
  have hsplit := List.nodup_append'.1 (hperm.nodup_iff.2 hdistinct)
  have hfixedAssigned : ∀ c ∈ fixedAssigned s.layout, c ∈ s.layout.fixedColumns :=
    fun c hc => hperm.subset (List.mem_append_left _ hc)
  have hrow : ∀ c ∈ rowColumns s.layout, c ∈ s.layout.fixedColumns :=
    fun c hc => hperm.subset (List.mem_append_right _ hc)
  constructor
  · refine List.nodup_append'.2 ⟨hsplit.1, hnodup.filter _, fun c hc hmapped => ?_⟩
    exact hfixed c (List.mem_filter.1 hmapped).1 (hfixedAssigned c hc)
  · intro c hc hassigned
    rcases List.mem_append.1 hc with hc | hc <;> rcases List.mem_append.1 hassigned with ha | ha
    · exact hsplit.2.2 ha hc
    · exact hfixed c (List.mem_filter.1 ha).1 (hrow c hc)
    · exact hfixed c (hkey c (Option.mem_toList.1 hc)) (hfixedAssigned c ha)
    · have hkept := (List.mem_filter.1 ha).2
      exact of_decide_eq_true hkept (Option.mem_toList.1 hc).symm

end GridStore.Sql

namespace GridStore.TableSchema

open Sql Sql.Token

/-- Whether a query selects the mapped columns after the fixed ones of its table, and its
placeholders are about a variant and these columns. -/
def Selects (s : TableSchema) (filter : List String) (st : Statement) : Prop :=
  ∃ ts, ofText? st.text.toList = some ts ∧
    (∀ j, (names (ts.takeWhile (· ≠ word "FROM")))[s.layout.selectedColumns.length + j]?
      = s.columnNames[j]?) ∧
    boundColumns ts = ([s.layout.networkColumn, "variantNum"] ++ filter).map some

theorem selects_of_uses {s : TableSchema} {filter : List String} {conditions : List Condition}
    (h : conditions.flatMap Condition.uses
      = ([s.layout.networkColumn, "variantNum"] ++ filter).flatMap boundUses) :
    s.Selects filter
      (.select (s.layout.selectedColumns ++ s.columnNames) s.layout.table conditions none) := by
  refine ⟨_, Statement.ofText?_text _, fun j => ?_, ?_⟩
  · rw [names_select, List.getElem?_append_right (Nat.le_add_right _ _), Nat.add_sub_cancel_left]
  · exact (columns_of_uses (((using_select _ _ _).uses none none).trans h)).1

/-- The placeholders in the statements of a table are about the columns whose values are bound, and
the mapped columns stand where the values of a row do: in a new row, in an update, which assigns
no column twice and none of those that it matches, and in what a query selects. -/
theorem placeholders_agree {s : TableSchema} (h : s.defect? = none) :
    (∃ ts, ofText? (insert s.layout s.columnNames).text.toList = some ts ∧
      names ts = s.layout.table :: ([s.layout.networkColumn, "variantNum"] ++
        (if s.layout.isNetwork then ["variantId"] else []) ++ ["id"] ++ s.columnNames) ∧
      ts.count placeholder = (names ts).tail.length) ∧
    (∃ ts, ofText? (update s.layout s.columnNames s.updateKey).text.toList = some ts ∧
      boundColumns ts = ((if s.layout.isNetwork then ["id", "variantId"] else []) ++
        s.updateColumns ++ [s.layout.networkColumn, "variantNum"] ++
        (if s.layout.isNetwork then [] else ["id"]) ++ s.updateKey.toList).map some ∧
      (targets (ts.takeWhile (· ≠ word "WHERE"))).Nodup ∧
      ∀ c ∈ [s.layout.networkColumn, "variantNum"] ++
          (if s.layout.isNetwork then [] else ["id"]) ++ s.updateKey.toList,
        some c ∉ targets (ts.takeWhile (· ≠ word "WHERE"))) ∧
    (∀ {A : Type} (m : Mapping A) (a : A), m.schema = s →
      (m.updateValues a).1.map some = s.updateColumns.map (m.valueOf? a) ∧
      (m.updateValues a).2 = s.updateKey.bind (m.valueOf? a) ∧
      (m.updateValues a).2.isSome = s.updateKey.isSome) ∧
    s.Selects (if s.layout.isNetwork then [] else ["id"]) (selectOne s.layout s.columnNames) ∧
    s.Selects [] (selectAll s.layout s.columnNames) ∧
    s.Selects s.containers (selectByContainer s.layout s.columnNames s.containers) := by
  obtain ⟨hnodup, -, -, hkey⟩ := defect?_eq_none_iff.1 h
  have hvariantId : s.layout.variantIdColumn
      = if s.layout.isNetwork then some "variantId" else none := by
    rw [layout]
    cases s.kind <;> rfl
  refine ⟨⟨_, Statement.ofText?_text _, ?_, ?_⟩, ⟨_, Statement.ofText?_text _, ?_, ?_, ?_⟩, ?_,
    ?_, ?_, ?_⟩
  · unfold Sql.insert
    rw [names_insert, TableLayout.insertedColumns, hvariantId]
    cases s.layout.isNetwork <;> rfl
  · unfold Sql.insert
    rw [count_insert, names_insert, List.tail_cons]
  · rw [(updateTokens_columns _ _ _).1, assignedColumns, fixedAssigned, hvariantId, rowColumns]
    cases s.layout.isNetwork <;> simp [updateColumns]
  · rw [(updateTokens_columns _ _ _).2]
    exact (assignedColumns_spec h).1.map fun _ _ => Option.some.inj
  · intro c hc
    rw [(updateTokens_columns _ _ _).2, List.mem_map_of_injective fun _ _ => Option.some.inj]
    exact (assignedColumns_spec h).2 c hc
  · rintro A m a rfl
    have hmatched := Mapping.updateValues_matched hnodup a
    refine ⟨Mapping.updateValues_assigned hnodup a, hmatched, ?_⟩
    rw [hmatched]
    show (m.updateKey.bind _).isSome = m.updateKey.isSome
    rcases hk : m.updateKey with _ | key
    · rfl
    · obtain ⟨f, hf, rfl⟩ := List.mem_map.1 (m.columnNames_schema ▸ hkey key hk)
      rw [Option.bind_some, Mapping.valueOf?_name hnodup hf]
      rfl
  · refine selects_of_uses ?_
    rw [flatMap_ofRow]
    rfl
  · exact selects_of_uses rfl
  · refine selects_of_uses ?_
    simp [ofVariant, Condition.uses]

/-- Names with quotes, placeholders and words of statements in them divide the text as any others,
in the text of an update that matches one of them. -/
theorem placeholders_agree_odd_names :
    let s : TableSchema :=
      { kind := .network
        columns := [⟨"a\" = ?, \"b", .text⟩, ⟨"WHERE", .integer⟩, ⟨"?", .real⟩]
        containers := []
        updateKey := some "WHERE" }
    s.defect? = none ∧
      ∃ ts, ofText? (update s.layout s.columnNames s.updateKey).text.toList = some ts ∧
        boundColumns ts
          = ["id", "variantId", "a\" = ?, \"b", "?", "uuid", "variantNum", "WHERE"].map some := by
  intro s
  have hdefect : s.defect? = none := by decide
  obtain ⟨-, ⟨ts, hts, hbound, -⟩, -⟩ := placeholders_agree hdefect
  exact ⟨hdefect, ts, hts, hbound⟩

end GridStore.TableSchema
