import GridStore.Store.Table

/-!
# Statements

What one statement leaves of the tables when it is done: rows are added at the end of their table,
replaced in place, removed, or copied to the end (`insert_ok`, `update_ok`, `delete_ok`, `copy_ok`).
Other tables stay as they are. Rows of a sort, such as those of a network in a variant, stay when the
statement neither matches one of them nor puts one there (`filter_rows_insert`,
`filter_rows_update`, `filter_rows_delete`, `filter_rows_copy`).
-/

namespace GridStore

theorem Except.bind_eq_ok {ε α β : Type} {x : Except ε α} {f : α → Except ε β} {b : β}
    (h : x >>= f = .ok b) : ∃ a, x = .ok a ∧ f a = .ok b := by
  rcases x with e | a
  · simp [bind, Except.bind] at h
  · exact ⟨a, rfl, h⟩

theorem Except.exists_of_mem_mapM {ε α β : Type} {g : α → Except ε β} : ∀ {as : List α} {bs : List β},
    as.mapM g = .ok bs → ∀ b ∈ bs, ∃ a ∈ as, g a = .ok b
  | [], bs, h, b, hb => by
    rw [List.mapM_nil] at h
    rw [← Except.ok.inj h] at hb
    exact absurd hb List.not_mem_nil
  | a :: as, bs, h, b, hb => by
    rw [List.mapM_cons] at h
    obtain ⟨b', hb', h⟩ := Except.bind_eq_ok h
    obtain ⟨bs', hbs', h⟩ := Except.bind_eq_ok h
    rw [← Except.ok.inj h, List.mem_cons] at hb
    rcases hb with rfl | hb
    · exact ⟨a, List.mem_cons_self, hb'⟩
    · obtain ⟨a', ha', hg⟩ := Except.exists_of_mem_mapM hbs' b hb
      exact ⟨a', List.mem_cons_of_mem _ ha', hg⟩

namespace Table

theorem insertRow_ok {k : Kind} {rows rows' : List Row} {r : Row}
    (h : insertRow k rows r = .ok rows') : rows' = rows ++ [r] := by
  obtain ⟨_, -, h⟩ := Except.bind_eq_ok h
  exact (Except.ok.inj h).symm

theorem foldlM_insertRow_ok {k : Kind} : ∀ {new rows rows' : List Row},
    new.foldlM (insertRow k) rows = .ok rows' → rows' = rows ++ new
  | [], rows, rows', h => by
    rw [List.append_nil]
    exact (Except.ok.inj h).symm
  | r :: new, rows, rows', h => by
    rw [List.foldlM_cons] at h
    obtain ⟨more, hr, h⟩ := Except.bind_eq_ok h
    rw [foldlM_insertRow_ok h, insertRow_ok hr, List.append_assoc, List.singleton_append]

theorem updateRows_ok {k : Kind} {p : Row → Bool} {f : Row → Row} :
    ∀ {before rows rows' : List Row}, updateRows k p f before rows = .ok rows' →
      rows' = rows.map fun r => if p r then f r else r
  | before, [], rows', h => (Except.ok.inj h).symm
  | before, r :: rest, rows', h => by
    rw [updateRows] at h
    rw [List.map_cons]
    split at h
    · rename_i hp
      obtain ⟨_, -, h⟩ := Except.bind_eq_ok h
      obtain ⟨rest', hrest, h⟩ := Except.bind_eq_ok h
      rw [if_pos hp, ← updateRows_ok hrest]
      exact (Except.ok.inj h).symm
    · rename_i hp
      obtain ⟨rest', hrest, h⟩ := Except.bind_eq_ok h
      rw [if_neg hp, ← updateRows_ok hrest]
      exact (Except.ok.inj h).symm

end Table

namespace Tables

variable {ts ts' : Tables} {j k : Kind}

/-! ## Tables by kind -/

theorem existing_of_isSome (h : (ts.table? k).isSome) : ts.existing k = .ok (ts.rows k) := by
  obtain ⟨t, ht⟩ := Option.isSome_iff_exists.1 h
  simp only [existing, rows, ht]
  rfl

theorem isSome_of_existing {rows : List Row} (h : ts.existing k = .ok rows) :
    (ts.table? k).isSome := by
  rcases ht : ts.table? k with _ | t
  · simp [existing, ht] at h
  · rfl

theorem rows_of_existing {rows : List Row} (h : ts.existing k = .ok rows) : ts.rows k = rows :=
  Except.ok.inj ((existing_of_isSome (isSome_of_existing h)).symm.trans h)

theorem table?_setRows (ts : Tables) (k : Kind) (rows : List Row) (j : Kind) :
    (ts.setRows k rows).table? j
      = (ts.table? j).map fun t => if j = k then { t with rows } else t := by
  obtain ⟨entries⟩ := ts
  simp only [table?, setRows]
  induction entries with
  | nil => rfl
  | cons e entries ih =>
    obtain ⟨i, t⟩ := e
    rw [List.map_cons, List.lookup_cons, List.lookup_cons]
    by_cases hij : j = i
    · subst hij
      simp
    · rw [beq_false_of_ne hij]
      exact ih

@[simp]
theorem isSome_table?_setRows (rows : List Row) :
    ((ts.setRows k rows).table? j).isSome = (ts.table? j).isSome := by
  rw [table?_setRows, Option.isSome_map]

theorem rows_setRows_self (h : (ts.table? k).isSome) (rows : List Row) :
    (ts.setRows k rows).rows k = rows := by
  obtain ⟨t, ht⟩ := Option.isSome_iff_exists.1 h
  rw [Tables.rows, table?_setRows, ht, Option.map_some, if_pos rfl]
  rfl

theorem rows_setRows_of_ne (h : j ≠ k) (rows : List Row) :
    (ts.setRows k rows).rows j = ts.rows j := by
  rw [Tables.rows, table?_setRows, Tables.rows]
  simp only [if_neg h, Option.map_id']

/-! ## What a statement does -/

/-- A statement puts rows in the place of those of one table, which has to be there. -/
structure Puts (ts : Tables) (k : Kind) (rows : List Row) (ts' : Tables) : Prop where
  isSome : (ts.table? k).isSome
  eq : ts' = ts.setRows k rows

namespace Puts

variable {rows : List Row}

theorem rows_self (h : ts.Puts k rows ts') : ts'.rows k = rows := by
  rw [h.eq, rows_setRows_self h.isSome]

theorem rows_of_ne (h : ts.Puts k rows ts') (hj : j ≠ k) : ts'.rows j = ts.rows j := by
  rw [h.eq, rows_setRows_of_ne hj]

/-- A row that is there afterwards was put there or was there before. -/
theorem mem {r : Row} (h : ts.Puts k rows ts') (hr : r ∈ ts'.rows j) :
    (k = j ∧ r ∈ rows) ∨ r ∈ ts.rows j := by
  by_cases hj : j = k
  · subst hj
    rw [h.rows_self] at hr
    exact .inl ⟨rfl, hr⟩
  · rw [h.rows_of_ne hj] at hr
    exact .inr hr

theorem isSome_table? (h : ts.Puts k rows ts') (j : Kind) :
    (ts'.table? j).isSome = (ts.table? j).isSome := by
  rw [h.eq, isSome_table?_setRows]

end Puts

theorem insert_ok {r : Row} (h : ts.insert k r = .ok ts') : ts.Puts k (ts.rows k ++ [r]) ts' := by
  obtain ⟨rows, hrows, h⟩ := Except.bind_eq_ok h
  obtain ⟨rows', hrows', h⟩ := Except.bind_eq_ok h
  obtain rfl := Table.insertRow_ok hrows'
  obtain rfl := rows_of_existing hrows
  exact ⟨isSome_of_existing hrows, (Except.ok.inj h).symm⟩

theorem update_ok {p : Row → Bool} {f : Row → Row} {n : Nat} (h : ts.update k p f = .ok (ts', n)) :
    ts.Puts k ((ts.rows k).map fun r => if p r then f r else r) ts' ∧ n = (ts.rows k).countP p := by
  obtain ⟨rows, hrows, h⟩ := Except.bind_eq_ok h
  obtain ⟨rows', hrows', h⟩ := Except.bind_eq_ok h
  obtain rfl := Table.updateRows_ok hrows'
  obtain rfl := rows_of_existing hrows
  obtain ⟨rfl, rfl⟩ := Prod.mk.inj (Except.ok.inj h)
  exact ⟨⟨isSome_of_existing hrows, rfl⟩, rfl⟩

theorem delete_ok {p : Row → Bool} {n : Nat} (h : ts.delete k p = .ok (ts', n)) :
    ts.Puts k ((ts.rows k).filter fun r => !p r) ts' ∧ n = (ts.rows k).countP p := by
  obtain ⟨rows, hrows, h⟩ := Except.bind_eq_ok h
  obtain rfl := rows_of_existing hrows
  obtain ⟨rfl, rfl⟩ := Prod.mk.inj (Except.ok.inj h)
  exact ⟨⟨isSome_of_existing hrows, rfl⟩, rfl⟩

/-- The copies of the rows of a kind's table that match. -/
def copies (ts : Tables) (p : Row → Bool) (f : Row → Row) (k : Kind) : List Row :=
  ((ts.rows k).filter p).map f

theorem copies_congr {p : Row → Bool} {f : Row → Row} (h : ts'.rows k = ts.rows k) :
    ts'.copies p f k = ts.copies p f k := by
  rw [copies, h, copies]

theorem copy_ok {p : Row → Bool} {f : Row → Row} {n : Nat} (h : ts.copy k p f = .ok (ts', n)) :
    ts.Puts k (ts.rows k ++ ts.copies p f k) ts' ∧ n = ((ts.rows k).filter p).length := by
  obtain ⟨rows, hrows, h⟩ := Except.bind_eq_ok h
  obtain ⟨rows', hrows', h⟩ := Except.bind_eq_ok h
  obtain rfl := Table.foldlM_insertRow_ok hrows'
  obtain rfl := rows_of_existing hrows
  obtain ⟨rfl, rfl⟩ := Prod.mk.inj (Except.ok.inj h)
  exact ⟨⟨isSome_of_existing hrows, rfl⟩, List.length_map _⟩

/-! ## Rows that a statement leaves alone -/

section Frame

variable {q p : Row → Bool} {f : Row → Row} {n : Nat}

theorem Puts.filter_rows {rows : List Row} (h : ts.Puts k rows ts')
    (hrows : rows.filter q = (ts.rows k).filter q) (j : Kind) :
    (ts'.rows j).filter q = (ts.rows j).filter q := by
  by_cases hj : j = k
  · subst hj
    rw [h.rows_self, hrows]
  · rw [h.rows_of_ne hj]

theorem filter_rows_insert {r : Row} (h : ts.insert k r = .ok ts') (hr : q r = false) (j : Kind) :
    (ts'.rows j).filter q = (ts.rows j).filter q := by
  refine (insert_ok h).filter_rows ?_ j
  rw [List.filter_append, List.filter_cons_of_neg (by simp [hr]), List.filter_nil, List.append_nil]

theorem filter_rows_update (h : ts.update k p f = .ok (ts', n))
    (hp : ∀ r, p r = true → q r = false ∧ q (f r) = false) (j : Kind) :
    (ts'.rows j).filter q = (ts.rows j).filter q := by
  refine (update_ok h).1.filter_rows ?_ j
  induction ts.rows k with
  | nil => rfl
  | cons r rows ih =>
    rw [List.map_cons]
    by_cases hr : p r = true
    · obtain ⟨hold, hnew⟩ := hp r hr
      rw [if_pos hr, List.filter_cons_of_neg (by simp [hnew]), List.filter_cons_of_neg (by simp [hold])]
      exact ih
    · rw [if_neg hr, List.filter_cons, List.filter_cons, ih]

theorem filter_rows_delete (h : ts.delete k p = .ok (ts', n)) (hp : ∀ r, p r = true → q r = false)
    (j : Kind) : (ts'.rows j).filter q = (ts.rows j).filter q := by
  refine (delete_ok h).1.filter_rows ?_ j
  rw [List.filter_filter]
  refine List.filter_congr fun r _ => ?_
  cases hr : p r
  · simp
  · simp [hp r hr]

theorem filter_rows_copy (h : ts.copy k p f = .ok (ts', n)) (hf : ∀ r, p r = true → q (f r) = false)
    (j : Kind) : (ts'.rows j).filter q = (ts.rows j).filter q := by
  refine (copy_ok h).1.filter_rows ?_ j
  have hnone : (ts.copies p f k).filter q = [] := by
    rw [List.filter_eq_nil_iff]
    intro s hs
    obtain ⟨r, hr, rfl⟩ := List.mem_map.1 hs
    simp [hf r (List.mem_filter.1 hr).2]
  rw [List.filter_append, hnone, List.append_nil]

/-! ## Rows of a variant -/

/-- The rows of a network in a variant, in the table of a kind. -/
def rowsIn (ts : Tables) (k : Kind) (network : Uuid) (variantNum : Int32) : List Row :=
  (ts.rows k).filter (·.isIn network variantNum)

theorem rowsIn_copy {u : Uuid} {v : Int32} (h : ts.copy k p f = .ok (ts', n))
    (hf : ∀ r, p r = true → (f r).isIn u v = false) (j : Kind) :
    ts'.rowsIn j u v = ts.rowsIn j u v :=
  filter_rows_copy h hf j

end Frame

end Tables

end GridStore
