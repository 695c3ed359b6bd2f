import GridStore.Proofs.Batches
import GridStore.Proofs.Footprint
import GridStore.Proofs.Rules

/-!
# Networks apart

What is done to a table for a network is local to it: done to the network's rows alone it leaves the
same of them and says the same (`Table.LocalTo`), since rows share a key only with rows of their
network. So a request about a network answers the same on stores that hold the same of it, whatever
they hold of others, and leaves stores that hold the same of it (`Request.IsAbout.respects`), and it
leaves the rows of others as they are (`Request.IsAbout.keeps`).
-/

namespace GridStore

open Call

/-! ## Tables -/

namespace Table

variable {α : Type} {u : Uuid} {k : Kind} {p : Row → Bool} {f : Row → Row} {r : Row}

/-- What is done to the rows of a table and what it says are the same for the rows of a network
alone. -/
def LocalTo (u : Uuid) (change : List Row → Except StoreError (List Row × α)) : Prop :=
  ∀ rows, (change rows).map (Prod.map (List.filter (·.isOf u)) id) = change (rows.filter (·.isOf u))

theorem any_filter_isOf {same : Row → Bool} (h : ∀ s, same s = true → s.isOf u = true)
    (rows : List Row) : (rows.filter (·.isOf u)).any same = rows.any same := by
  rw [List.any_filter]
  refine congrArg (rows.any ·) (funext fun s => ?_)
  rcases hs : same s with _ | _
  · exact Bool.and_false _
  · rw [h s hs]
    rfl

/-- A row shares a key only with rows of its network. -/
theorem check_filter (hr : r.isOf u = true) (others : List Row) :
    check k (others.filter (·.isOf u)) r = check k others r := by
  have hof {s : Row} (h : r.network = s.network) : s.isOf u = true :=
    Row.isOf_iff.2 (h.symm.trans (Row.isOf_iff.1 hr))
  have hconflict : conflict? k (others.filter (·.isOf u)) r = conflict? k others r := by
    cases k with
    | network =>
      dsimp only [conflict?]
      rw [any_filter_isOf fun s hs => hof (by simp_all [sameVariantId]),
        any_filter_isOf fun s hs => hof (by simp_all [sameVariantNum])]
    | equipment k =>
      dsimp only [conflict?]
      rw [any_filter_isOf fun s hs => hof (by simp_all [sameResource])]
  rw [check, hconflict, check]

theorem insertRow_filter (hr : r.isOf u = true) (rows : List Row) :
    (insertRow k rows r).map (List.filter (·.isOf u)) = insertRow k (rows.filter (·.isOf u)) r := by
  unfold insertRow
  rw [check_filter hr]
  rcases check k rows r with e | ⟨⟩
  · rfl
  · refine congrArg Except.ok ?_
    rw [List.filter_append, List.filter_cons_of_pos hr, List.filter_nil]

theorem foldlM_insertRow_filter : ∀ {new : List Row}, (∀ r ∈ new, r.isOf u = true) →
    ∀ rows, (new.foldlM (insertRow k) rows).map (List.filter (·.isOf u))
      = new.foldlM (insertRow k) (rows.filter (·.isOf u))
  | [], _, _ => rfl
  | r :: new, h, rows => by
    rw [List.forall_mem_cons] at h
    rw [List.foldlM_cons, List.foldlM_cons, ← insertRow_filter h.1]
    rcases insertRow k rows r with e | rows'
    · rfl
    · exact foldlM_insertRow_filter h.2 rows'

theorem updateRows_filter (hp : ∀ r, p r = true → r.isOf u = true)
    (hf : ∀ r, (f r).isOf u = r.isOf u) : ∀ before rows,
      (updateRows k p f before rows).map (List.filter (·.isOf u))
        = updateRows k p f (before.filter (·.isOf u)) (rows.filter (·.isOf u))
  | before, [] => rfl
  | before, r :: rest => by
    by_cases hr : r.isOf u = true
    · rw [List.filter_cons_of_pos hr, updateRows, updateRows]
      split
      · have hfr : (f r).isOf u = true := (hf r).trans hr
        have hrest := updateRows_filter hp hf (f r :: before) rest
        rw [List.filter_cons_of_pos hfr] at hrest
        rw [← List.filter_append, check_filter hfr]
        rcases check k (before ++ rest) (f r) with e | ⟨⟩
        · rfl
        · show Except.map _
              (updateRows k p f (f r :: before) rest >>= fun rest => pure (f r :: rest))
            = (updateRows k p f _ _ >>= fun rest => pure (f r :: rest))
          rw [← hrest]
          rcases updateRows k p f (f r :: before) rest with e | rest'
          · rfl
          · exact congrArg Except.ok (List.filter_cons_of_pos hfr)
      · have hrest := updateRows_filter hp hf (r :: before) rest
        rw [List.filter_cons_of_pos hr] at hrest
        rw [← hrest]
        rcases updateRows k p f (r :: before) rest with e | rest'
        · rfl
        · exact congrArg Except.ok (List.filter_cons_of_pos hr)
    · -- a row of another network does not match
      have hrest := updateRows_filter hp hf (r :: before) rest
      rw [List.filter_cons_of_neg hr] at hrest
      rw [List.filter_cons_of_neg hr, updateRows, if_neg fun h => hr (hp r h), ← hrest]
      rcases updateRows k p f (r :: before) rest with e | rest'
      · rfl
      · exact congrArg Except.ok (List.filter_cons_of_neg hr)

theorem filter_filter_isOf (hp : ∀ r, p r = true → r.isOf u = true) (rows : List Row) :
    (rows.filter (·.isOf u)).filter p = rows.filter p := by
  rw [List.filter_filter]
  refine List.filter_congr fun r _ => ?_
  rcases hr : p r with _ | _
  · exact Bool.false_and _
  · rw [hp r hr]
    rfl

theorem countP_filter_isOf (hp : ∀ r, p r = true → r.isOf u = true) (rows : List Row) :
    (rows.filter (·.isOf u)).countP p = rows.countP p := by
  rw [List.countP_eq_length_filter, filter_filter_isOf hp, List.countP_eq_length_filter]

theorem localTo_insert (hr : r.isOf u = true) (a : α) :
    LocalTo u fun rows => do return (← insertRow k rows r, a) := by
  intro rows
  dsimp only
  rw [← insertRow_filter hr]
  cases insertRow k rows r <;> rfl

theorem localTo_update (hp : ∀ r, p r = true → r.isOf u = true)
    (hf : ∀ r, (f r).isOf u = r.isOf u) :
    LocalTo u fun rows => do return (← updateRows k p f [] rows, rows.countP p) := by
  intro rows
  have hrows := updateRows_filter (k := k) hp hf [] rows
  rw [List.filter_nil] at hrows
  dsimp only
  rw [← hrows, countP_filter_isOf hp]
  cases updateRows k p f [] rows <;> rfl

theorem localTo_delete (hp : ∀ r, p r = true → r.isOf u = true) :
    LocalTo u fun rows => .ok (rows.filter fun r => !p r, rows.countP p) := by
  intro rows
  dsimp only
  rw [countP_filter_isOf hp, List.filter_comm]
  rfl

theorem localTo_copy (hp : ∀ r, p r = true → r.isOf u = true ∧ (f r).isOf u = true) :
    LocalTo u fun rows => do
      return (← ((rows.filter p).map f).foldlM (insertRow k) rows,
        ((rows.filter p).map f).length) := by
  intro rows
  have hcopies : ∀ r ∈ (rows.filter p).map f, r.isOf u = true := by
    intro c hc
    obtain ⟨r, hr, rfl⟩ := List.mem_map.1 hc
    exact (hp r (List.mem_filter.1 hr).2).2
  dsimp only
  rw [filter_filter_isOf fun r hr => (hp r hr).1, ← foldlM_insertRow_filter hcopies]
  cases ((rows.filter p).map f).foldlM (insertRow k) rows <;> rfl

end Table

/-! ## Statements -/

/-- Two stores hold the same of a network: their tables have the same rows of it, and they have a
connection to give, or not, for the same reason. -/
structure Store.SameFor (u : Uuid) (s t : Store) : Prop where
  connection : (acquire s).result = (acquire t).result
  present : ∀ k, (s.tables.table? k).isSome = (t.tables.table? k).isSome
  rows : ∀ k, (s.tables.rows k).filter (·.isOf u) = (t.tables.rows k).filter (·.isOf u)

namespace Tables

variable {α : Type} {k : Kind}

/-- The statement that changes the rows of one table. -/
def change (k : Kind) (F : List Row → Except StoreError (List Row × α)) (ts : Tables) :
    Except StoreError (Tables × α) := do
  let (rows, a) ← F (← ts.existing k)
  return (ts.setRows k rows, a)

theorem insert_eq_change (r : Row) (a : α) (ts : Tables) :
    (do return (← ts.insert k r, a))
      = ts.change k fun rows => do return (← Table.insertRow k rows r, a) := by
  unfold insert change
  rcases ts.existing k with e | rows
  · rfl
  · show (Table.insertRow k rows r >>= _) >>= _ = (Table.insertRow k rows r >>= _) >>= _
    cases Table.insertRow k rows r <;> rfl

theorem update_eq_change (p : Row → Bool) (f : Row → Row) (ts : Tables) :
    ts.update k p f
      = ts.change k fun rows => do return (← Table.updateRows k p f [] rows, rows.countP p) := by
  unfold update change
  rcases ts.existing k with e | rows
  · rfl
  · show Table.updateRows k p f [] rows >>= _ = (Table.updateRows k p f [] rows >>= _) >>= _
    cases Table.updateRows k p f [] rows <;> rfl

theorem delete_eq_change (p : Row → Bool) (ts : Tables) :
    ts.delete k p = ts.change k fun rows => .ok (rows.filter fun r => !p r, rows.countP p) := by
  unfold delete change
  cases ts.existing k <;> rfl

theorem copy_eq_change (p : Row → Bool) (f : Row → Row) (ts : Tables) :
    ts.copy k p f = ts.change k fun rows => do
      return (← ((rows.filter p).map f).foldlM (Table.insertRow k) rows,
        ((rows.filter p).map f).length) := by
  unfold copy change
  rcases ts.existing k with e | rows
  · rfl
  · show ((rows.filter p).map f).foldlM (Table.insertRow k) rows >>= _
      = (((rows.filter p).map f).foldlM (Table.insertRow k) rows >>= _) >>= _
    cases ((rows.filter p).map f).foldlM (Table.insertRow k) rows <;> rfl

end Tables

namespace Store.SameFor

variable {α : Type} {u : Uuid} {k : Kind} {s t : Store}

theorem existing_of_none (h : s.SameFor u t) (hs : s.tables.table? k = none) :
    s.tables.existing k = t.tables.existing k := by
  have ht : t.tables.table? k = none := by
    have hpresent := h.present k
    rw [hs] at hpresent
    exact Option.isSome_eq_false_iff.1 hpresent.symm |> Option.isNone_iff_eq_none.1
  rw [Tables.existing, Tables.existing, hs, ht]

theorem setRows (h : s.SameFor u t) (hk : (s.tables.table? k).isSome) {rows rows' : List Row}
    (hrows : rows.filter (·.isOf u) = rows'.filter (·.isOf u)) :
    Store.SameFor u { s with tables := s.tables.setRows k rows }
      { t with tables := t.tables.setRows k rows' } where
  connection := by
    have hpool (s : Store) (ts : Tables) : (acquire { s with tables := ts }).result
        = (acquire s).result := result_acquire_congr rfl
    exact (hpool s _).trans (h.connection.trans (hpool t _).symm)
  present j := by
    rw [Tables.isSome_table?_setRows, Tables.isSome_table?_setRows]
    exact h.present j
  rows j := by
    by_cases hj : j = k
    · subst hj
      rw [Tables.rows_setRows_self hk, Tables.rows_setRows_self (h.present j ▸ hk)]
      exact hrows
    · rw [Tables.rows_setRows_of_ne hj, Tables.rows_setRows_of_ne hj]
      exact h.rows j

theorem select {p : Row → Bool} (h : s.SameFor u t) (hp : ∀ r, p r = true → r.isOf u = true) :
    s.tables.select k p = t.tables.select k p := by
  unfold Tables.select
  rcases hs : s.tables.table? k with _ | _
  · rw [h.existing_of_none hs]
  · have hsome : (s.tables.table? k).isSome := hs ▸ rfl
    rw [Tables.existing_of_isSome hsome, Tables.existing_of_isSome (h.present k ▸ hsome)]
    have hrows := congrArg (List.filter p) (h.rows k)
    rw [Table.filter_filter_isOf hp, Table.filter_filter_isOf hp] at hrows
    exact congrArg Except.ok hrows

end Store.SameFor

section Statements

variable {α : Type} {u : Uuid} {k : Kind} {p : Row → Bool} {f : Row → Row}

theorem statementRespects_change {F : List Row → Except StoreError (List Row × α)}
    (hF : Table.LocalTo u F) : StatementRespects (Store.SameFor u) (Tables.change k F) := by
  intro s t h
  unfold Tables.change
  rcases hs : s.tables.table? k with _ | _
  · have hnone : s.tables.existing k = .error (.queryFailed (.noSuchTable k.table)) := by
      rw [Tables.existing, hs]
    rw [← h.existing_of_none hs, hnone]
    exact ⟨rfl, fun _ _ _ hdone => by cases hdone⟩
  · have hsome : (s.tables.table? k).isSome := hs ▸ rfl
    rw [Tables.existing_of_isSome hsome, Tables.existing_of_isSome (h.present k ▸ hsome)]
    have hsame : (F (s.tables.rows k)).map (Prod.map (List.filter (·.isOf u)) id)
        = (F (t.tables.rows k)).map (Prod.map (List.filter (·.isOf u)) id) := by
      rw [hF, hF, h.rows k]
    show ((F (s.tables.rows k) >>= _).map _ = (F (t.tables.rows k) >>= _).map _) ∧
      ∀ ts ts' a, F (s.tables.rows k) >>= _ = _ → F (t.tables.rows k) >>= _ = _ → _
    obtain ⟨e, hs, ht⟩ | ⟨⟨rows, a⟩, ⟨rows', a'⟩, hs, ht, hleft⟩ := Except.cases_of_map_eq hsame
    · rw [hs, ht]
      exact ⟨rfl, fun _ _ _ hdone => by cases hdone⟩
    · obtain ⟨hrows, rfl⟩ := Prod.mk.inj hleft
      rw [hs, ht]
      refine ⟨rfl, fun ts ts' _ hts hts' => ?_⟩
      obtain ⟨rfl, -⟩ := Prod.mk.inj (Except.ok.inj hts)
      obtain ⟨rfl, -⟩ := Prod.mk.inj (Except.ok.inj hts')
      exact h.setRows hsome hrows

theorem statementRespects_insert {r : Row} (hr : r.isOf u = true) (a : α) :
    StatementRespects (Store.SameFor u) fun ts => do return (← ts.insert k r, a) := by
  simp only [Tables.insert_eq_change]
  exact statementRespects_change (Table.localTo_insert hr a)

theorem statementRespects_update (hp : ∀ r, p r = true → r.isOf u = true)
    (hf : ∀ r, (f r).isOf u = r.isOf u) :
    StatementRespects (Store.SameFor u) fun ts => ts.update k p f := by
  simp only [Tables.update_eq_change]
  exact statementRespects_change (Table.localTo_update hp hf)

theorem statementRespects_delete (hp : ∀ r, p r = true → r.isOf u = true) :
    StatementRespects (Store.SameFor u) fun ts => ts.delete k p := by
  simp only [Tables.delete_eq_change]
  exact statementRespects_change (Table.localTo_delete hp)

theorem statementRespects_copy (hp : ∀ r, p r = true → r.isOf u = true ∧ (f r).isOf u = true) :
    StatementRespects (Store.SameFor u) fun ts => ts.copy k p f := by
  simp only [Tables.copy_eq_change]
  exact statementRespects_change (Table.localTo_copy hp)

end Statements

/-! ## Calls -/

section Calls

variable {A : Type} [Attributes A] {u : Uuid} {n : Int32}

theorem isOf_of_isIn {r : Row} (h : r.isIn u n = true) : r.isOf u = true :=
  Row.isOf_iff.2 (Row.isIn_iff.1 h).1

theorem isOf_of_isAt {id : String} {r : Row} (h : r.isAt u n id = true) : r.isOf u = true :=
  isOf_of_isIn (Row.isAt_iff.1 h).1

theorem isOf_of_newNetworkRow {fresh : String} {r : Resource Network} {row : Row}
    (h : Store.newNetworkRow fresh r = .ok row) (hr : r.attributes.uuid = u) :
    row.isOf u = true := by
  rw [(newNetworkRow_eq_ok_iff.1 h).2, Row.isOf_iff]
  exact hr ▸ rfl

theorem isOf_toVariantNum (r : Row) (variantId : String) :
    (r.toVariantNum n variantId).isOf u = r.isOf u :=
  rfl

theorem respects_connection : Respects (Store.SameFor u) acquire :=
  respects_acquire fun _ _ h => h.connection

theorem respects_lookup (id : String) : Respects (Store.SameFor u) (Store.lookup A u n id) := by
  refine (respects_query fun s t h => ?_).bind fun row => ?_
  · rw [h.select fun _ => isOf_of_isAt]
  · cases row
    · exact respects_pure _
    · exact (respects_ofExcept _).bind fun _ => respects_pure _

theorem respects_getAll : Respects (Store.SameFor u) (Store.getAll A u n) :=
  respects_connection.bind fun _ =>
    (respects_query fun _ _ h => h.select fun _ => isOf_of_isIn).bind fun _ =>
      (respects_emit _).bind fun _ => respects_mapM fun _ => respects_ofExcept _

theorem respects_getByContainer (container : String) :
    Respects (Store.SameFor u) (Store.getByContainer A u n container) := by
  refine Respects.bind ?_ fun _ => respects_connection.bind fun _ =>
    (respects_query fun s t h => h.select fun r hr => ?_).bind fun _ =>
      (respects_mapM fun _ => respects_ofExcept _).bind fun _ => (respects_emit _).bind fun _ =>
        respects_pure _
  · unfold Call.statement
    split
    · exact respects_pure _
    · exact respects_fail _
  · exact isOf_of_isIn (Bool.and_eq_true_iff.1 hr).1

theorem respects_findIdentifiable (id : String) : ∀ kinds,
    Respects (Store.SameFor u) (Store.findIdentifiable u n id kinds)
  | [] => respects_pure _
  | k :: kinds => by
    refine (respects_lookup id).bind fun found => ?_
    cases found
    · exact respects_findIdentifiable id kinds
    · exact respects_pure _

theorem respects_getNetwork : Respects (Store.SameFor u) (Store.getNetwork u n) := by
  refine respects_connection.bind fun _ =>
    (respects_query fun _ _ h => h.select fun _ => isOf_of_isIn).bind fun rows => ?_
  cases rows.head?
  · exact respects_pure _
  · exact (respects_ofExcept _).bind fun _ => respects_pure _

theorem respects_listVariants : Respects (Store.SameFor u) (Store.listVariants u) := by
  refine respects_connection.bind fun _ => Respects.bind ?_ fun _ =>
    respects_mapM fun _ => respects_ofExcept _
  exact (respects_query fun _ _ h => h.select fun _ hr => hr).bind fun _ => respects_pure _

theorem respects_delete (id : String) : Respects (Store.SameFor u) (Store.delete A u n id) :=
  respects_connection.bind fun _ =>
    (respects_execute (statementRespects_delete fun _ => isOf_of_isAt)).bind fun _ =>
      (respects_emit _).bind fun _ => respects_pure _

theorem respects_deleteNetwork : Respects (Store.SameFor u) (Store.deleteNetwork u) := by
  refine respects_connection.bind fun _ => (respects_runSteps fun step hstep => ?_).bind
    fun _ => (respects_emit _).bind fun _ => respects_pure _
  obtain ⟨k, -, rfl⟩ := List.mem_map.1 hstep
  exact statementRespects_delete fun _ hr => hr

theorem respects_deleteVariant : Respects (Store.SameFor u) (Store.deleteVariant u n) := by
  refine respects_require_bind fun _ => respects_connection.bind fun _ =>
    (respects_runSteps fun step hstep => ?_).bind fun _ => (respects_emit _).bind fun _ =>
      respects_pure _
  obtain ⟨k, -, rfl⟩ := List.mem_map.1 hstep
  exact statementRespects_delete fun _ => isOf_of_isIn

theorem respects_cloneVariant (source target : Int32) (variantId : Option String) (fresh : String) :
    Respects (Store.SameFor u) (Store.cloneVariant u source target variantId fresh) := by
  refine respects_require_bind fun _ => ?_
  split
  · exact respects_fail _
  · refine respects_connection.bind fun _ => (respects_runSteps fun step hstep => ?_).bind
      fun _ => (respects_emit _).bind fun _ => respects_pure _
    obtain ⟨k, -, rfl⟩ := List.mem_map.1 hstep
    refine statementRespects_copy fun r hr => ⟨isOf_of_isIn hr, ?_⟩
    rw [isOf_toVariantNum, isOf_of_isIn hr]

/-- A write is about a network: the row it puts in, or those it replaces, are the network's. -/
def RowWrite.IsAbout (u : Uuid) {k : Kind} : RowWrite k → Prop
  | insert r => r.isOf u = true
  | replace p f _ => (∀ r, p r = true → r.isOf u = true) ∧ ∀ r, (f r).isOf u = r.isOf u

theorem respects_writeEach {k : Kind} {writes : List (RowWrite k)}
    (h : ∀ w ∈ writes, w.IsAbout u) : Respects (Store.SameFor u) (Store.writeEach writes) := by
  refine .total (fun w hw => respects_connection.bind fun _ => respects_execute ?_)
  cases w with
  | insert r => exact statementRespects_insert (h _ hw) 0
  | replace p f _ => exact statementRespects_update (h _ hw).1 (h _ hw).2

end Calls

/-! ## Requests about a network -/

/-- The requests about a network: those that name it, or that write resources of it only. -/
def Request.IsAbout (u : Uuid) : Request → Prop
  | create _ network _ | update _ network _ | delete _ network _ _ | getOne _ network _ _
  | getAll _ network _ | getByContainer _ network _ _ | getIdentifiable network _ _
  | getNetwork network _ | listVariants network | deleteNetwork network | deleteVariant network _
  | cloneVariant network _ _ _ _ => network = u
  | createNetworks _ rs | updateNetworks rs => ∀ r ∈ rs, r.attributes.uuid = u
  | listNetworks | cloneNetwork .. => False

namespace Request

variable {u v : Uuid} {q : Request}

theorem InBatches.respects {k : Kind} {writes : List (RowWrite k)} {answer : Nat → q.Answer}
    (h : q.InBatches k writes answer) (hwrites : ∀ w ∈ writes, w.IsAbout u) :
    Respects (Store.SameFor u) q.call :=
  ((respects_writeEach hwrites).map answer).of_alike h.alike

/-- A request about a network answers the same on stores that hold the same of it, and leaves stores
that hold the same of it. -/
theorem IsAbout.respects (h : q.IsAbout u) : Respects (Store.SameFor u) q.call := by
  -- a list that the rules refuse is refused in both stores
  have hrefused {α : Type} {rule : Except ValidationError Unit} (hrule : ¬ rule = .ok ())
      (c : Unit → Call α) : Respects (Store.SameFor u) (require rule >>= c) :=
    respects_require_bind fun hok => absurd hok hrule
  cases q with
  | create k network rs =>
    obtain rfl : network = u := h
    by_cases hrule : Store.checkResources rs = .ok ()
    · refine (InBatches.create hrule).respects fun w hw => ?_
      obtain ⟨r, -, rfl⟩ := List.mem_map.1 hw
      exact Row.isOf_iff.2 rfl
    · exact hrefused hrule _
  | update k network rs =>
    obtain rfl : network = u := h
    by_cases hrule : Store.checkResources rs = .ok ()
    · refine (InBatches.update hrule).respects fun w hw => ?_
      obtain ⟨r, -, rfl⟩ := List.mem_map.1 hw
      exact ⟨fun row hrow => isOf_of_isAt (Bool.and_eq_true_iff.1 hrow).1, fun _ => rfl⟩
    · exact hrefused hrule _
  | createNetworks fresh rs =>
    rcases hrows : rs.zipIdx.mapM fun p => Store.newNetworkRow (fresh p.2) p.1 with cause | rows
    · show Respects _ (Store.createNetworks fresh rs)
      unfold Store.createNetworks
      rw [hrows]
      exact respects_fail _
    · refine (InBatches.createNetworks hrows).respects fun w hw => ?_
      obtain ⟨row, hrow, rfl⟩ := List.mem_map.1 hw
      obtain ⟨⟨r, i⟩, hr, hnew⟩ := Except.exists_of_mem_mapM hrows row hrow
      exact isOf_of_newNetworkRow hnew (h r (List.fst_mem_of_mem_zipIdx hr))
  | updateNetworks rs =>
    by_cases hrule : Store.checkResources rs = .ok ()
    · refine (InBatches.updateNetworks hrule).respects fun w hw => ?_
      obtain ⟨r, hr, rfl⟩ := List.mem_map.1 hw
      obtain rfl := h r hr
      exact ⟨fun _ => isOf_of_isIn, fun _ => rfl⟩
    · exact hrefused hrule _
  | delete k network n id => exact h ▸ respects_delete id
  | getOne k network n id => exact h ▸ respects_connection.bind fun _ => respects_lookup id
  | getAll k network n => exact h ▸ respects_getAll
  | getByContainer k network n container => exact h ▸ respects_getByContainer container
  | getIdentifiable network n id =>
    exact h ▸ respects_connection.bind fun _ => respects_findIdentifiable id _
  | getNetwork network n => exact h ▸ respects_getNetwork
  | listVariants network => exact h ▸ respects_listVariants
  | deleteNetwork network => exact h ▸ respects_deleteNetwork
  | deleteVariant network n => exact h ▸ respects_deleteVariant
  | cloneVariant network source target variantId fresh =>
    exact h ▸ respects_cloneVariant source target variantId fresh
  | listNetworks | cloneNetwork => exact h.elim

/-- A request about a network keeps the rows of every other. -/
theorem IsAbout.keeps (h : q.IsAbout u) (hv : v ≠ u) :
    Keeps (Store.rowsWhere (·.isOf v)) q.call := by
  have hother {r : Row} (hr : r.isOf u = true) : ¬ r.isOf v = true := by
    rw [Table.isOf_of_ne hr hv.symm]
    exact Bool.false_ne_true
  cases q with
  | create k network rs =>
    obtain rfl : network = u := h
    exact keeps_create fun r _ => keeps_insertRow_where (hother (Row.isOf_iff.2 rfl))
  | update k network rs =>
    obtain rfl : network = u := h
    exact keeps_update fun r _ => keeps_updateRow (statementKeeps_update_where
      (fun row hrow => hother (isOf_of_isAt (Bool.and_eq_true_iff.1 hrow).1)) fun _ => rfl)
  | createNetworks fresh rs =>
    exact keeps_createNetworks fun r hr id row hrow =>
      keeps_insertRow_where (hother (isOf_of_newNetworkRow hrow (h r hr)))
  | updateNetworks rs =>
    refine keeps_updateNetworks fun r hr => keeps_updateNetwork (statementKeeps_update_where
      (fun row hrow => hother ?_) fun _ => rfl)
    exact h r hr ▸ isOf_of_isIn hrow
  | delete k network n id =>
    obtain rfl : network = u := h
    exact keeps_delete (statementKeeps_delete_where fun _ hr => hother (isOf_of_isAt hr))
  | deleteNetwork network =>
    obtain rfl : network = u := h
    exact keeps_deleteNetwork fun _ => statementKeeps_delete_where fun _ hr => hother hr
  | deleteVariant network n =>
    obtain rfl : network = u := h
    exact keeps_deleteVariant fun _ => statementKeeps_delete_where fun _ hr =>
      hother (isOf_of_isIn hr)
  | cloneVariant network source target variantId fresh =>
    obtain rfl : network = u := h
    refine keeps_cloneVariant fun _ id => statementKeeps_copy_where fun r hr => ?_
    rw [isOf_toVariantNum]
    exact hother (isOf_of_isIn hr)
  | getOne k network n id => exact keeps_getOne network n id
  | getAll k network n => exact keeps_getAll network n
  | getByContainer k network n container => exact keeps_getByContainer network n container
  | getIdentifiable network n id => exact keeps_getIdentifiable network n id
  | getNetwork network n => exact keeps_getNetwork network n
  | listVariants network => exact keeps_listVariants network
  | listNetworks | cloneNetwork => exact h.elim

/-! ## Runs -/

/-- What the requests of a run answer, step by step. -/
def answers : List Request → Store → List (Σ q : Request, Except StoreError q.Answer)
  | [], _ => []
  | q :: qs, s => ⟨q, (q.call s).result⟩ :: answers qs (q.run s)

theorem sameFor_runAll {s t : Store} : ∀ {qs : List Request}, (∀ q ∈ qs, q.IsAbout u) →
    s.SameFor u t → answers qs s = answers qs t ∧ (runAll qs s).SameFor u (runAll qs t)
  | [], _, h => ⟨rfl, h⟩
  | q :: qs, hqs, h => by
    rw [List.forall_mem_cons] at hqs
    obtain ⟨hresult, hstore⟩ := hqs.1.respects s t h
    rw [store_call, store_call] at hstore
    obtain ⟨hanswers, hleft⟩ := sameFor_runAll hqs.2 hstore
    rw [answers, answers, hresult, hanswers]
    exact ⟨rfl, hleft⟩

theorem filter_isOf_runAll (hv : v ≠ u) (k : Kind) : ∀ {qs : List Request},
    (∀ q ∈ qs, q.IsAbout u) → ∀ s,
      ((runAll qs s).tables.rows k).filter (·.isOf v) = (s.tables.rows k).filter (·.isOf v)
  | [], _, _ => rfl
  | q :: qs, hqs, s => by
    rw [List.forall_mem_cons] at hqs
    have hkept := hqs.1.keeps hv s
    rw [store_call] at hkept
    exact (filter_isOf_runAll hv k hqs.2 (q.run s)).trans (congrFun hkept k)

/-- Networks do not observe each other. Requests about a network, made one after another on stores
that hold the same rows of it, answer the same step by step, errors and counts of rows included, and
leave the same rows of it; in neither store do they change a row of another network. -/
theorem networks_apart {s t : Store} {qs : List Request} (h : s.SameFor u t)
    (hqs : ∀ q ∈ qs, q.IsAbout u) :
    answers qs s = answers qs t ∧
      (∀ k, ((runAll qs s).tables.rows k).filter (·.isOf u)
        = ((runAll qs t).tables.rows k).filter (·.isOf u)) ∧
      ∀ v ≠ u, ∀ k,
        ((runAll qs s).tables.rows k).filter (·.isOf v) = (s.tables.rows k).filter (·.isOf v) ∧
        ((runAll qs t).tables.rows k).filter (·.isOf v) = (t.tables.rows k).filter (·.isOf v) := by
  obtain ⟨hanswers, hleft⟩ := sameFor_runAll hqs h
  exact ⟨hanswers, hleft.rows, fun v hv k =>
    ⟨filter_isOf_runAll hv k hqs s, filter_isOf_runAll hv k hqs t⟩⟩

/-- A network is copied, listed and deleted as if another were not there. -/
theorem networks_apart_single :
    let other : Row :=
      .ofNetwork initialVariantId (.of "other" 0 { (default : Network) with uuid := ⟨1⟩ })
    let s := Store.single
    let t := { s with tables := s.tables.setRows .network (other :: s.tables.rows .network) }
    let qs := [.cloneVariant .nil 0 1 none "peak", .listVariants .nil, .deleteNetwork .nil]
    s.SameFor .nil t ∧ (∀ q ∈ qs, q.IsAbout .nil) ∧ answers qs s = answers qs t ∧
      ((runAll qs t).tables.rows .network).filter (·.isOf ⟨1⟩) = [other] := by
  intro other s t qs
  have hrows : t.tables.rows .network = other :: s.tables.rows .network :=
    Tables.rows_setRows_self (Tables.keyed_single.present _) _
  have hother {u : Uuid} : other.isOf u = true ↔ ⟨1⟩ = u := by
    rw [Row.isOf_iff]
    exact Cell.ofUuid_inj
  have hsame : s.SameFor .nil t := by
    have hpool : t.pool = s.pool := rfl
    refine ⟨result_acquire_congr hpool.symm, fun k => (Tables.isSome_table?_setRows _).symm,
      fun k => ?_⟩
    cases k with
    | network => rw [hrows, List.filter_cons_of_neg (by rw [hother]; decide)]
    | equipment k => rw [Tables.rows_setRows_of_ne (by simp)]
  have hqs : ∀ q ∈ qs, q.IsAbout .nil := by simp [qs, IsAbout]
  obtain ⟨hanswers, -, hothers⟩ := networks_apart hsame hqs
  refine ⟨hsame, hqs, hanswers, ?_⟩
  have hgrid : s.tables.rows .network = [.ofNetwork initialVariantId (.of "grid" 0 default)] :=
    Tables.rows_single_network
  have hnot : ¬ (Row.ofNetwork initialVariantId (.of "grid" 0 default)).isOf ⟨1⟩ = true := by
    rw [Row.isOf_iff]
    exact fun h => absurd (Cell.ofUuid_inj.1 h) (by decide)
  rw [(hothers ⟨1⟩ (by decide) .network).2, hrows, List.filter_cons_of_pos (hother.2 rfl), hgrid,
    List.filter_cons_of_neg hnot, List.filter_nil]

end Request

end GridStore
