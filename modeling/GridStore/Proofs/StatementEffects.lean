import GridStore.Proofs.RowCells
import GridStore.Proofs.StatementNames

/-!
# What statements do to rows

A statement runs on the rows of a table with values to bind, of which each placeholder takes the next.
It finds the rows that meet its conditions, and gives columns values or what the row holds
(`Sql.Statement.effect?`). Statements are built of parts, and so is what they do: parts that bind some
values each are put one after another (`Sql.Gives.append`, `Sql.Meets.append`).
-/

namespace GridStore.Sql

/-! ## Effects -/

/-- What a statement gives a column. -/
inductive Given where
  /-- The next value. -/
  | value
  /-- The next value, or what the row holds in a column if that is null. -/
  | valueOr (column : String)
  /-- What the row holds in a column. -/
  | cell (column : String)

/-- What an assignment gives its column. -/
def Assignment.given : Assignment → Given
  | set _ => .value
  | setUnlessNull column => .valueOr column

/-- What a copy gets from a source. -/
def Source.given : Source → Given
  | bound => .value
  | column name => .cell name

namespace Statement

/-- The columns that a statement gives something: those of a result, of a new row, or of a row that it
assigns to. -/
def columnsGiven : Statement → List String
  | select columns _ _ _ => columns
  | insert _ columns => columns
  | update _ assignments _ => assignments.map Assignment.column
  | delete _ _ => []
  | copy _ target _ _ => target

/-- What it gives them, in the same order. -/
def givens : Statement → List Given
  | select columns _ _ _ => columns.map .cell
  | insert _ columns => columns.map fun _ => .value
  | update _ assignments _ => assignments.map Assignment.given
  | delete _ _ => []
  | copy _ _ source _ => source.map Source.given

/-- The conditions on the rows that a statement is about. -/
def conditions : Statement → List Condition
  | select _ _ conditions _ => conditions
  | insert _ _ => []
  | update _ _ conditions => conditions
  | delete _ conditions => conditions
  | copy _ _ _ conditions => conditions

end Statement

/-- Takes the next value. -/
def takeValue : StateT (List Cell) Option Cell := fun
  | [] => none
  | v :: values => some (v, values)

@[simp] theorem run_takeValue (v : Cell) (values : List Cell) :
    takeValue.run (v :: values) = some (v, values) := rfl

/-- What is given to a column, on a row that holds these cells. -/
def Given.bind (cell? : String → Option Cell) : Given → StateT (List Cell) Option Cell
  | value => takeValue
  | valueOr c => do
    let v ← takeValue
    if v = .null then cell? c else return v
  | cell c => cell? c

/-- Whether a column holds the next value. Nothing equals null. -/
def equalsNext (cell : Option Cell) : StateT (List Cell) Option Bool := do
  let v ← takeValue
  return v ≠ .null && cell = some v

/-- Whether a row that holds these cells meets a condition. -/
def Condition.bind (cell? : String → Option Cell) : Condition → StateT (List Cell) Option Bool
  | equals c => equalsNext (cell? c)
  | isZero c => return cell? c = some (.integer 0)
  | anyOf columns => do return (← columns.mapM fun c => equalsNext (cell? c)).any id

/-- Whether a row meets the conditions of a statement, and what the statement gives to columns. As many
values have to be bound as there are placeholders, and something has to be given to each column. -/
def Statement.effect? (st : Statement) (cell? : String → Option Cell) (values : List Cell) :
    Option (Bool × List (String × Cell)) := do
  let (cells, values) ← st.givens.mapM (Given.bind cell?) |>.run values
  let (met, values) ← st.conditions.mapM (Condition.bind cell?) |>.run values
  if values = [] ∧ cells.length = st.columnsGiven.length then
    some (met.all id, st.columnsGiven.zip cells)
  else none

/-! ## Parts of statements -/

section Bound

variable {cell? t : String → Option Cell} {columns columns' : List String}
  {givens givens' : List Given} {conditions conditions' : List Condition} {values values' : List Cell}
  {met met' : Bool} {c : String} {v : Cell}

/-- Whether values, in this place among others, give columns what another row holds in them. -/
def Gives (cell? t : String → Option Cell) (columns : List String) (givens : List Given)
    (values : List Cell) : Prop :=
  ∀ rest, ∃ cells, (givens.mapM (Given.bind cell?)).run (values ++ rest) = some (cells, rest) ∧
    cells.map some = columns.map t

theorem gives_nil : Gives cell? t [] [] [] :=
  fun _ => ⟨[], rfl, rfl⟩

theorem Gives.append (h : Gives cell? t columns givens values)
    (h' : Gives cell? t columns' givens' values') :
    Gives cell? t (columns ++ columns') (givens ++ givens') (values ++ values') := by
  intro rest
  obtain ⟨cells, hcells, hheld⟩ := h (values' ++ rest)
  obtain ⟨cells', hcells', hheld'⟩ := h' rest
  refine ⟨cells ++ cells', ?_, by rw [List.map_append, List.map_append, hheld, hheld']⟩
  rw [List.append_assoc, List.mapM_append, StateT.run_bind, hcells]
  simp [hcells']

theorem gives_value (h : t c = some v) : Gives cell? t [c] [.value] [v] :=
  fun rest => ⟨[v], rfl, by simp [h]⟩

theorem gives_values : ∀ {columns : List String} {values : List Cell},
    columns.map t = values.map some →
      Gives cell? t columns (columns.map fun _ => .value) values
  | [], [], _ => gives_nil
  | [], _ :: _, h => by cases h
  | _ :: _, [], h => by cases h
  | _ :: _, _ :: _, h => by
    rw [List.map_cons, List.map_cons, List.cons.injEq] at h
    exact (gives_value h.1).append (gives_values h.2)

theorem gives_valueOr {old : Cell} (hold : cell? c = some old)
    (h : t c = some (if v = .null then old else v)) : Gives cell? t [c] [.valueOr c] [v] := by
  intro rest
  refine ⟨[if v = .null then old else v], ?_, by simp [h]⟩
  by_cases hv : v = .null <;> simp [Given.bind, hold, hv]

theorem gives_cell (hcell : (cell? c).isSome) (h : t c = cell? c) :
    Gives cell? t [c] [.cell c] [] := by
  intro rest
  obtain ⟨v, hv⟩ := Option.isSome_iff_exists.1 hcell
  exact ⟨[v], by simp [Given.bind, hv], by simp [h, hv]⟩

theorem gives_cells : ∀ {columns : List String}, (∀ c ∈ columns, (cell? c).isSome ∧ t c = cell? c) →
    Gives cell? t columns (columns.map .cell) []
  | [], _ => gives_nil
  | _ :: _, h => by
    rw [List.forall_mem_cons] at h
    exact (gives_cell h.1.1 h.1.2).append (gives_cells h.2)

/-- Whether conditions, with values in this place among others, are met or not. -/
def Meets (cell? : String → Option Cell) (conditions : List Condition) (values : List Cell)
    (met : Bool) : Prop :=
  ∀ rest, ∃ each, (conditions.mapM (Condition.bind cell?)).run (values ++ rest) = some (each, rest) ∧
    each.all id = met

theorem meets_nil : Meets cell? [] [] true :=
  fun _ => ⟨[], rfl, rfl⟩

theorem Meets.append (h : Meets cell? conditions values met)
    (h' : Meets cell? conditions' values' met') :
    Meets cell? (conditions ++ conditions') (values ++ values') (met && met') := by
  intro rest
  obtain ⟨each, heach, rfl⟩ := h (values' ++ rest)
  obtain ⟨each', heach', rfl⟩ := h' rest
  refine ⟨each ++ each', ?_, List.all_append⟩
  rw [List.append_assoc, List.mapM_append, StateT.run_bind, heach]
  simp [heach']

theorem run_equalsNext (hv : v ≠ .null) (cell : Option Cell) (rest : List Cell) :
    (equalsNext cell).run (v :: rest) = some (decide (cell = some v), rest) := by
  simp [equalsNext, hv]

theorem meets_equals (hv : v ≠ .null) : Meets cell? [.equals c] [v] (cell? c = some v) := by
  intro rest
  refine ⟨[decide (cell? c = some v)], ?_, by simp⟩
  simp [Condition.bind, run_equalsNext hv]

theorem meets_cell {old : Cell} (hcell : cell? c = some old) (hv : v ≠ .null) :
    Meets cell? [.equals c] [v] (old = v) := by
  simpa [hcell] using @meets_equals cell? c v hv

theorem meets_isZero : Meets cell? [.isZero c] [] (cell? c = some (.integer 0)) :=
  fun rest => ⟨[decide (cell? c = some (.integer 0))], rfl, by simp⟩

/-- A value that is bound for each of some columns is looked for in all of them. -/
theorem meets_anyOf (hv : v ≠ .null) : Meets cell? [.anyOf columns]
    (List.replicate columns.length v) (columns.any fun c => cell? c = some v) := by
  intro rest
  have heach : (columns.mapM fun c => equalsNext (cell? c)).run
      (List.replicate columns.length v ++ rest)
        = some (columns.map fun c => decide (cell? c = some v), rest) := by
    induction columns with
    | nil => rfl
    | cons c columns ih =>
      rw [List.length_cons, List.replicate_succ, List.cons_append, List.mapM_cons, StateT.run_bind,
        run_equalsNext hv]
      simp [ih]
  refine ⟨[columns.any fun c => cell? c = some v], ?_, by simp⟩
  simp [Condition.bind, heach]

/-- What a statement does to a row of a table, given the values to bind, if it is to leave another: it
finds the row met or not, and gives columns what the other row holds in them. Where the row is met,
the two hold the same in all other columns. -/
structure Statement.Does (st : Statement) (s : TableSchema) (values : List Cell) (r : Row)
    (met : Bool) (t : Row) : Prop where
  effect : ∃ cells, st.effect? (r.cell? s) values = some (met, cells) ∧
    cells.map Prod.fst = st.columnsGiven ∧ ∀ x ∈ cells, t.cell? s x.1 = some x.2
  others : met = true → ∀ c ∈ s.layout.insertedColumns ++ s.columnNames, c ∉ st.columnsGiven →
    t.cell? s c = r.cell? s c

theorem eq_some_of_mem_zip : ∀ {columns : List String} {cells : List Cell},
    columns.map t = cells.map some → ∀ x ∈ columns.zip cells, t x.1 = some x.2
  | [], _, _ => by simp
  | _ :: _, [], h => by cases h
  | c :: columns, v :: cells, h => by
    rw [List.map_cons, List.map_cons, List.cons.injEq] at h
    exact List.forall_mem_cons.2 ⟨h.1, eq_some_of_mem_zip h.2⟩

theorem effect?_of_gives {st : Statement} {bound : List Cell} (hbound : bound = values ++ values')
    (h : Gives cell? t st.columnsGiven st.givens values)
    (hmet : Meets cell? st.conditions values' met) :
    ∃ cells, st.effect? cell? bound = some (met, cells) ∧
      cells.map Prod.fst = st.columnsGiven ∧ ∀ x ∈ cells, t x.1 = some x.2 := by
  subst hbound
  obtain ⟨cells, hcells, hheld⟩ := h values'
  obtain ⟨each, heach, hall⟩ := hmet []
  rw [List.append_nil] at heach
  have hlength : cells.length = st.columnsGiven.length := by simpa using congrArg List.length hheld
  refine ⟨st.columnsGiven.zip cells, ?_, List.map_fst_zip (Nat.le_of_eq hlength.symm), ?_⟩
  · simp [Statement.effect?, hcells, heach, hall, hlength]
  · exact eq_some_of_mem_zip hheld.symm

end Bound

end GridStore.Sql
