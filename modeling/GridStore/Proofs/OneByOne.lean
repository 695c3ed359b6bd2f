import GridStore.Proofs.Batches
import GridStore.Proofs.Rules

/-!
# Writing in order

Writes are made in order as long as none of them makes two rows share a key (`RowWrite.Fit`). The
first that would is refused with the columns of that key: what stands before it is in the table,
and it and what comes after it are not. Requests that write in batches do just this, for every size
of batches (`Store.batching_invisible`).
-/

namespace GridStore

/-! ## Keys by their columns -/

/-- The keys of a kind's table, by the names of their columns. -/
def Kind.keys : Kind → List (List String)
  | .network => [["uuid", "variantId"], ["uuid", "variantNum"]]
  | .equipment _ => [["networkUuid", "variantNum", "id"]]

namespace Row

/-- What a row holds in a fixed column. -/
def column? (r : Row) : String → Option Cell
  | "networkUuid" | "uuid" => some r.network
  | "variantNum" => some r.variantNum
  | "variantId" => r.variantId
  | "id" => some r.id
  | _ => none

/-- What a row holds in the columns of a key. -/
def key (columns : List String) (r : Row) : List (Option Cell) :=
  columns.map r.column?

end Row

namespace Table

variable {k : Kind}

theorem of_conflict? {others : List Row} {r : Row} {columns : List String}
    (h : conflict? k others r = some columns) :
    columns ∈ k.keys ∧ ∃ s ∈ others, s.key columns = r.key columns := by
  cases k with
  | network =>
    dsimp only [conflict?] at h
    split at h
    · rename_i hid
      obtain rfl := Option.some.inj h
      obtain ⟨s, hs, hsame⟩ := List.any_eq_true.1 hid
      simp only [sameVariantId, Bool.and_eq_true, decide_eq_true_eq] at hsame
      refine ⟨List.mem_cons_self, s, hs, ?_⟩
      simp [Row.key, Row.column?, hsame]
    · split at h
      · rename_i hnum
        obtain rfl := Option.some.inj h
        obtain ⟨s, hs, hsame⟩ := List.any_eq_true.1 hnum
        simp only [sameVariantNum, Bool.and_eq_true, decide_eq_true_eq] at hsame
        refine ⟨List.mem_cons_of_mem _ List.mem_cons_self, s, hs, ?_⟩
        simp [Row.key, Row.column?, hsame]
      · cases h
  | equipment k =>
    dsimp only [conflict?] at h
    split at h
    · rename_i hany
      obtain rfl := Option.some.inj h
      obtain ⟨s, hs, hsame⟩ := List.any_eq_true.1 hany
      simp only [sameResource, Bool.and_eq_true, decide_eq_true_eq] at hsame
      refine ⟨List.mem_cons_self, s, hs, ?_⟩
      simp [Row.key, Row.column?, hsame]
    · cases h

/-- The error with which a row is refused that would leave rows with the same key. -/
def Refuses (k : Kind) (rows : List Row) (e : StoreError) : Prop :=
  ∃ columns ∈ k.keys, e = .uniqueViolation k.table columns ∧ ¬ (rows.map (Row.key columns)).Nodup

theorem refuses_of_check {before rest : List Row} {r : Row} {e : StoreError}
    (h : check k (before ++ rest) r = .error e) : Refuses k (before ++ r :: rest) e := by
  unfold check at h
  split at h
  · rename_i columns hconflict
    obtain rfl := Except.error.inj h
    obtain ⟨hkey, s, hs, hsame⟩ := of_conflict? hconflict
    refine ⟨columns, hkey, rfl, fun hnodup => ?_⟩
    rw [(List.perm_middle.map _).nodup_iff, List.map_cons, List.nodup_cons] at hnodup
    exact hnodup.1 (List.mem_map.2 ⟨s, hs, hsame⟩)
  · cases h

theorem Refuses.perm {rows rows' : List Row} {e : StoreError} (h : Refuses k rows e)
    (hperm : rows.Perm rows') : Refuses k rows' e := by
  obtain ⟨columns, hkey, he, hnodup⟩ := h
  exact ⟨columns, hkey, he, fun h => hnodup ((hperm.map _).nodup_iff.2 h)⟩

theorem refuses_of_insertRow {rows : List Row} {r : Row} {e : StoreError}
    (h : insertRow k rows r = .error e) : Refuses k (rows ++ [r]) e := by
  unfold insertRow at h
  rcases hcheck : check k rows r with e' | ⟨⟩ <;> rw [hcheck] at h
  · obtain rfl := Except.error.inj h
    exact refuses_of_check (by rwa [List.append_nil])
  · cases h

theorem refuses_of_updateRows {p : Row → Bool} {f : Row → Row} {e : StoreError}
    (hone : ∀ r s, p r = true → p s = true → clash k r s = true) :
    ∀ {before rows : List Row}, Unique k (before ++ rows) →
      updateRows k p f before rows = .error e →
        Refuses k (before ++ rows.map fun r => if p r then f r else r) e
  | before, [], _, h => by cases h
  | before, r :: rest, hunique, h => by
    rw [unique_middle] at hunique
    rw [updateRows] at h
    rw [List.map_cons]
    by_cases hp : p r = true
    · -- no other row matches, so the others stay and the new row is what shares a key
      have hrest := hunique.forall_not hone hp
      rw [if_pos hp, updateRows_of_forall_not hrest] at h
      rw [if_pos hp, map_of_forall_not hrest]
      rcases hcheck : check k (before ++ rest) (f r) with e' | ⟨⟩ <;> rw [hcheck] at h
      · obtain rfl := Except.error.inj h
        exact refuses_of_check hcheck
      · cases h
    · rw [if_neg hp] at h
      rw [if_neg hp]
      rcases hdone : updateRows k p f (r :: before) rest with e' | rest' <;> rw [hdone] at h
      · obtain rfl := Except.error.inj h
        exact (refuses_of_updateRows hone hunique hdone).perm List.perm_middle.symm
      · cases h

end Table

/-! ## Writes on the rows of a table -/

namespace RowWrite

variable {k : Kind}

/-- The rows that a write leaves of those of a table. -/
def apply : RowWrite k → List Row → List Row
  | insert r, rows => rows ++ [r]
  | replace p f _, rows => rows.map fun r => if p r then f r else r

/-- How many rows a write replaces. -/
def count : RowWrite k → List Row → Nat
  | insert _, _ => 0
  | replace p _ _, rows => rows.countP p

/-- The rows that writes leave, made in order. -/
def applyAll (writes : List (RowWrite k)) (rows : List Row) : List Row :=
  writes.foldl (fun rows w => w.apply rows) rows

/-- How many rows writes replace, made in order. -/
def countAll : List (RowWrite k) → List Row → Nat
  | [], _ => 0
  | w :: writes, rows => w.count rows + countAll writes (w.apply rows)

/-- Whether writes can be made in order: none of them leaves two rows that share a key. -/
def Fit : List (RowWrite k) → List Row → Prop
  | [], _ => True
  | w :: writes, rows => Table.Unique k (w.apply rows) ∧ Fit writes (w.apply rows)

/-- Writes that cannot all be made have a first that cannot. -/
theorem exists_of_not_fit : ∀ {writes : List (RowWrite k)} {rows : List Row}, ¬ Fit writes rows →
    ∃ before w after, writes = before ++ w :: after ∧ Fit before rows ∧
      ¬ Table.Unique k (w.apply (applyAll before rows))
  | [], _, h => absurd trivial h
  | w :: writes, rows, h => by
    by_cases hw : Table.Unique k (w.apply rows)
    · have hrest : ¬ Fit writes (w.apply rows) := fun hrest => h ⟨hw, hrest⟩
      obtain ⟨before, v, after, rfl, hbefore, hv⟩ := exists_of_not_fit hrest
      exact ⟨w :: before, v, after, rfl, ⟨hw, hbefore⟩, hv⟩
    · exact ⟨[], w, writes, rfl, trivial, hw⟩

/-- Writes that can be made keep keys unique. -/
theorem Fit.unique_applyAll : ∀ {writes : List (RowWrite k)} {rows : List Row}, Fit writes rows →
    Table.Unique k rows → Table.Unique k (applyAll writes rows)
  | [], _, _, h => h
  | _ :: _, _, hfit, _ => hfit.2.unique_applyAll hfit.1

theorem applyAll_insert (new rows : List Row) :
    applyAll (new.map (insert (k := k))) rows = rows ++ new := by
  induction new generalizing rows with
  | nil => exact (List.append_nil rows).symm
  | cons r new ih =>
    rw [List.map_cons, List.append_cons]
    exact ih (rows ++ [r])

/-- Rows can be put into a table if keys stay unique. -/
theorem fit_insert_iff {new rows : List Row} (h : Table.Unique k rows) :
    Fit (new.map (insert (k := k))) rows ↔ Table.Unique k (rows ++ new) := by
  induction new generalizing rows with
  | nil =>
    rw [List.append_nil]
    exact iff_of_true trivial h
  | cons r new ih =>
    rw [List.map_cons, List.append_cons]
    show Table.Unique k (rows ++ [r]) ∧ Fit _ (rows ++ [r]) ↔ _
    constructor
    · exact fun hfit => (ih hfit.1).1 hfit.2
    · intro hunique
      have hr := (Table.unique_append.1 hunique).1
      exact ⟨hr, (ih hr).2 hunique⟩

/-- An update leaves the keys of equipment as they are. -/
theorem fit_update {k : EquipmentKind} {network : Uuid} {rs : List (Resource k.Attributes)} :
    ∀ {rows : List Row}, Table.Unique (.equipment k) rows → Fit (rs.map (update network)) rows := by
  induction rs with
  | nil => exact fun _ => trivial
  | cons r rs ih => exact fun h => ⟨h.map_update, ih h.map_update⟩

variable {ts ts' : Tables} {w : RowWrite k} {n : Nat}

theorem run_eq_ok_iff (h : (ts.table? k).isSome) (hunique : Table.Unique k (ts.rows k)) :
    w.run ts = .ok (ts', n) ↔ Table.Unique k (w.apply (ts.rows k)) ∧
      ts' = ts.setRows k (w.apply (ts.rows k)) ∧ n = w.count (ts.rows k) := by
  cases w with
  | insert r =>
    have hinsert {ts' : Tables} := @Tables.insert_eq_ok_iff ts ts' k h hunique r
    constructor
    · intro hdone
      obtain ⟨ts'', hrun, hdone⟩ := Except.bind_eq_ok hdone
      obtain ⟨rfl, rfl⟩ := Prod.mk.inj (Except.ok.inj hdone)
      obtain ⟨hnew, hput⟩ := hinsert.1 hrun
      exact ⟨hnew, hput, rfl⟩
    · rintro ⟨hnew, rfl, rfl⟩
      show (ts.insert k r >>= fun ts => pure (ts, 0)) = _
      rw [hinsert.2 ⟨hnew, rfl⟩]
      rfl
  | replace p f hone => exact Tables.update_eq_ok_iff h hunique hone

theorem refuses_of_run {e : StoreError} (h : (ts.table? k).isSome)
    (hunique : Table.Unique k (ts.rows k)) (hrun : w.run ts = .error e) :
    Table.Refuses k (w.apply (ts.rows k)) e := by
  cases w with
  | insert r =>
    rcases hrows : Table.insertRow k (ts.rows k) r with e' | rows
    · have hinsert : ts.insert k r = .error e' := by
        rw [Tables.insert, Tables.existing_of_isSome h]
        show (Table.insertRow k (ts.rows k) r >>= _) = _
        rw [hrows]
        rfl
      have hsame : (RowWrite.insert (k := k) r).run ts = .error e' := by
        show (ts.insert k r >>= _) = _
        rw [hinsert]
        rfl
      obtain rfl := Except.error.inj (hsame.symm.trans hrun)
      exact Table.refuses_of_insertRow hrows
    · obtain ⟨hnew, -⟩ := (Table.insertRow_eq_ok_iff hunique).1 hrows
      have hdone := (run_eq_ok_iff (w := .insert r) h hunique).2 ⟨hnew, rfl, rfl⟩
      rw [hrun] at hdone
      cases hdone
  | replace p f hone =>
    rcases hrows : Table.updateRows k p f [] (ts.rows k) with e' | rows
    · have hsame : ts.update k p f = .error e' := by
        rw [Tables.update, Tables.existing_of_isSome h]
        show (Table.updateRows k p f [] (ts.rows k) >>= _) = _
        rw [hrows]
        rfl
      obtain rfl := Except.error.inj (hsame.symm.trans hrun)
      exact Table.refuses_of_updateRows hone hunique hrows
    · obtain ⟨hnew, -⟩ := (Table.updateRows_eq_ok_iff hone hunique).1 hrows
      have hdone := (run_eq_ok_iff (w := .replace p f hone) h hunique).2 ⟨hnew, rfl, rfl⟩
      rw [hrun] at hdone
      cases hdone

end RowWrite

/-! ## Calls -/

/-- A store for calls on the table of a kind: there is a connection for them, and the table is
there, with no key taken twice. -/
structure Store.Ready (s : Store) (k : Kind) : Prop where
  available : s.Available
  present : (s.tables.table? k).isSome
  unique : Table.Unique k (s.tables.rows k)

/-- A call puts rows in the place of those of one table, and leaves the rest of the store. -/
structure Store.Puts (s : Store) (k : Kind) (rows : List Row) (t : Store) : Prop where
  rest : t = { s with tables := t.tables }
  present : ∀ j, (t.tables.table? j).isSome = (s.tables.table? j).isSome
  rows_self : t.tables.rows k = rows
  rows_of_ne : ∀ j, j ≠ k → t.tables.rows j = s.tables.rows j

namespace Store

open Call

variable {k : Kind} {s t : Store} {rows : List Row} {w : RowWrite k} {writes : List (RowWrite k)}

theorem puts_self (s : Store) (k : Kind) : s.Puts k (s.tables.rows k) s :=
  ⟨rfl, fun _ => rfl, rfl, fun _ _ => rfl⟩

/-- The store with these rows in the place of those of a kind's table. -/
def withRows (s : Store) (k : Kind) (rows : List Row) : Store :=
  { s with tables := s.tables.setRows k rows }

theorem puts_setRows (h : (s.tables.table? k).isSome) (rows : List Row) :
    s.Puts k rows { s with tables := s.tables.setRows k rows } :=
  ⟨rfl, fun _ => Tables.isSome_table?_setRows rows, Tables.rows_setRows_self h rows,
    fun _ hj => Tables.rows_setRows_of_ne hj rows⟩

theorem Puts.trans {rows' : List Row} {u : Store} (h : s.Puts k rows t) (h' : t.Puts k rows' u) :
    s.Puts k rows' u where
  rest := h'.rest.trans (by rw [h.rest])
  present j := (h'.present j).trans (h.present j)
  rows_self := h'.rows_self
  rows_of_ne j hj := (h'.rows_of_ne j hj).trans (h.rows_of_ne j hj)

theorem Puts.ready (h : s.Puts k rows t) (hs : s.Ready k) (hrows : Table.Unique k rows) :
    t.Ready k where
  available := hs.available.of_tables h.rest
  present := (h.present k).trans hs.present
  unique := h.rows_self.symm ▸ hrows

theorem writeEach_cons_of_ok {ts : Tables} {n : Nat} (hs : s.Available)
    (h : w.run s.tables = .ok (ts, n)) :
    (writeEach (w :: writes) s).store = (writeEach writes { s with tables := ts }).store ∧
      (writeEach (w :: writes) s).result
        = (writeEach writes { s with tables := ts }).result.map (n + ·) := by
  have hwrite : (acquire >>= fun _ => execute w.run) s = answer n { s with tables := ts } :=
    (bind_of_answer (acquire_of_available hs) _).trans (execute_of_ok h)
  have hcons : writeEach (w :: writes) s
      = (writeEach writes >>= fun rest => pure (n + rest)) { s with tables := ts } := by
    rw [writeEach, total, bind_apply, andThen, hwrite]
    rfl
  rw [hcons]
  rcases hrest : (writeEach writes { s with tables := ts }).result with e | m
  · exact bind_of_error hrest _
  · exact bind_of_ok hrest _

theorem writeEach_cons_of_error {e : StoreError} (hs : s.Available)
    (h : w.run s.tables = .error e) :
    (writeEach (w :: writes) s).store = s ∧ (writeEach (w :: writes) s).result = .error e := by
  have hwrite : (acquire >>= fun _ => execute w.run) s = fail e s :=
    (bind_of_answer (acquire_of_available hs) _).trans (execute_of_error h)
  rw [writeEach, total, bind_apply, andThen, hwrite]
  exact ⟨rfl, rfl⟩

/-- Rows that are put into a table one after another are there up to one of them. -/
theorem rows_writeEach_insert : ∀ (new : List Row) (s : Store), ∃ made, made <+: new ∧
    (writeEach (new.map (RowWrite.insert (k := k))) s).store.tables.rows k = s.tables.rows k ++ made
  | [], s => ⟨[], List.nil_prefix, (List.append_nil _).symm⟩
  | r :: new, s => by
    have hnone {t : Store} (h : t = s) : ∃ made, made <+: r :: new ∧
        t.tables.rows k = s.tables.rows k ++ made :=
      ⟨[], List.nil_prefix, by rw [h, List.append_nil]⟩
    rw [List.map_cons]
    by_cases hs : s.Available
    · rcases hrun : (RowWrite.insert (k := k) r).run s.tables with e | ⟨ts, n⟩
      · exact hnone (writeEach_cons_of_error hs hrun).1
      · obtain ⟨ts', hput, hrest⟩ := Except.bind_eq_ok hrun
        obtain ⟨rfl, -⟩ := Prod.mk.inj (Except.ok.inj hrest)
        obtain ⟨made, hmade, hrows⟩ := rows_writeEach_insert new { s with tables := ts' }
        refine ⟨r :: made, List.cons_prefix_cons.2 ⟨rfl, hmade⟩, ?_⟩
        rw [(writeEach_cons_of_ok hs hrun).1, hrows, (Tables.insert_ok hput).rows_self,
          List.append_assoc, List.singleton_append]
    · obtain ⟨hleft, e, he⟩ := acquire_bind_of_not_available hs fun _ =>
        execute (RowWrite.insert (k := k) r).run
      exact hnone ((bind_of_error he _).1.trans hleft)

/-- Writes that can be made are made before the others. -/
theorem exists_writeEach_append (after : List (RowWrite k)) : ∀ {before : List (RowWrite k)}
    {s : Store}, s.Ready k → RowWrite.Fit before (s.tables.rows k) →
      ∃ t, t.Ready k ∧ s.Puts k (RowWrite.applyAll before (s.tables.rows k)) t ∧
        (writeEach (before ++ after) s).store = (writeEach after t).store ∧
        (writeEach (before ++ after) s).result = (writeEach after t).result.map
          (RowWrite.countAll before (s.tables.rows k) + ·)
  | [], s, hs, _ => by
    refine ⟨s, hs, puts_self s k, rfl, ?_⟩
    have hzero : (0 + · : Nat → Nat) = id := funext Nat.zero_add
    rw [RowWrite.countAll, hzero, List.nil_append]
    cases (writeEach after s).result <;> rfl
  | w :: before, s, hs, hfit => by
    have hrun := (RowWrite.run_eq_ok_iff hs.present hs.unique).2 ⟨hfit.1, rfl, rfl⟩
    have hputs := puts_setRows hs.present (w.apply (s.tables.rows k))
    obtain ⟨hstore, hresult⟩ := @writeEach_cons_of_ok k s w (before ++ after) _ _ hs.available hrun
    have hrest : RowWrite.Fit before
        ((s.tables.setRows k (w.apply (s.tables.rows k))).rows k) := by
      rw [Tables.rows_setRows_self hs.present]
      exact hfit.2
    obtain ⟨t, ht, hputs', hstore', hresult'⟩ :=
      exists_writeEach_append after (hputs.ready hs hfit.1) hrest
    dsimp only at hputs' hstore' hresult'
    rw [Tables.rows_setRows_self hs.present] at hputs' hresult'
    refine ⟨t, ht, hputs.trans hputs', hstore.trans hstore', ?_⟩
    rw [List.cons_append, hresult, hresult']
    rcases (writeEach after t).result with e | n
    · rfl
    · exact congrArg _ (Nat.add_assoc _ _ _).symm

theorem writeEach_of_fit (hs : s.Ready k) (h : RowWrite.Fit writes (s.tables.rows k)) :
    s.Puts k (RowWrite.applyAll writes (s.tables.rows k)) (writeEach writes s).store ∧
      (writeEach writes s).result = .ok (RowWrite.countAll writes (s.tables.rows k)) := by
  obtain ⟨t, -, hputs, hstore, hresult⟩ := exists_writeEach_append [] hs h
  rw [List.append_nil] at hstore hresult
  exact ⟨hstore ▸ hputs, hresult⟩

/-- The first write that cannot be made is refused, and those after it are not made. -/
theorem writeEach_of_not_unique {before after : List (RowWrite k)} (hs : s.Ready k)
    (hbefore : RowWrite.Fit before (s.tables.rows k))
    (hw : ¬ Table.Unique k (w.apply (RowWrite.applyAll before (s.tables.rows k)))) :
    s.Puts k (RowWrite.applyAll before (s.tables.rows k))
        (writeEach (before ++ w :: after) s).store ∧
      ∃ e, (writeEach (before ++ w :: after) s).result = .error e ∧
        Table.Refuses k (w.apply (RowWrite.applyAll before (s.tables.rows k))) e := by
  obtain ⟨t, ht, hputs, hstore, hresult⟩ := exists_writeEach_append (w :: after) hs hbefore
  rcases hrun : w.run t.tables with e | ⟨ts, n⟩
  · obtain ⟨hleft, hfails⟩ := @writeEach_cons_of_error k t w after e ht.available hrun
    have hrefuses := RowWrite.refuses_of_run ht.present ht.unique hrun
    rw [hputs.rows_self] at hrefuses
    rw [hleft] at hstore
    rw [hfails] at hresult
    exact ⟨hstore ▸ hputs, e, hresult, hrefuses⟩
  · rw [← hputs.rows_self] at hw
    exact absurd ((RowWrite.run_eq_ok_iff ht.present ht.unique).1 hrun).1 hw

/-- Stores that may differ in the size of batches. -/
def SameButSize (s t : Store) : Prop :=
  s.toBackend = t.toBackend ∧ s.pool = t.pool

theorem respects_writeEach_sameButSize (writes : List (RowWrite k)) :
    Respects SameButSize (writeEach writes) := by
  refine .total fun w _ => .bind ?_ fun _ => respects_execute fun s t h => ?_
  · exact respects_acquire fun s t h => result_acquire_congr h.2
  · have htables : s.tables = t.tables := congrArg Backend.tables h.1
    have hmigrations : s.migrations = t.migrations := congrArg Backend.migrations h.1
    rw [htables]
    refine ⟨rfl, fun ts ts' n hs ht => ⟨?_, h.2⟩⟩
    obtain ⟨rfl, -⟩ := Prod.mk.inj (Except.ok.inj (hs.symm.trans ht))
    exact congrArg (Backend.mk ts) hmigrations

end Store

/-! ## Requests -/

/-- A request makes writes in order, up to the first that would make two rows share a key. -/
structure Request.WritesInOrder (q : Request) (k : Kind) (writes : List (RowWrite k))
    (answer : Nat → q.Answer) : Prop where
  /-- The size of batches does not matter. -/
  size : ∀ s n, (q.call { s with batchSize := n }).result = (q.call s).result ∧
    (q.call { s with batchSize := n }).store = { (q.call s).store with batchSize := n }
  ok_iff : ∀ s : Store, s.Ready k →
    ((∃ a, (q.call s).result = .ok a) ↔ RowWrite.Fit writes (s.tables.rows k))
  done : ∀ s : Store, s.Ready k → RowWrite.Fit writes (s.tables.rows k) →
    s.Puts k (RowWrite.applyAll writes (s.tables.rows k)) (q.call s).store ∧
      (q.call s).result = .ok (answer (RowWrite.countAll writes (s.tables.rows k)))
  /-- What stands before a write that cannot be made is made, the others are not. -/
  stopped : ∀ s : Store, s.Ready k → ∀ before w after, writes = before ++ w :: after →
    RowWrite.Fit before (s.tables.rows k) →
      ¬ Table.Unique k (w.apply (RowWrite.applyAll before (s.tables.rows k))) →
        s.Puts k (RowWrite.applyAll before (s.tables.rows k)) (q.call s).store ∧
          ∃ e, (q.call s).result = .error e ∧
            Table.Refuses k (w.apply (RowWrite.applyAll before (s.tables.rows k))) e

namespace Request.InBatches

variable {q : Request} {k : Kind} {writes : List (RowWrite k)} {answer : Nat → q.Answer}

theorem store_eq (h : q.InBatches k writes answer) (s : Store) :
    (q.call s).store = (Store.writeEach writes s).store :=
  (h.alike s).1.trans (Call.map_apply answer _ s).1

theorem result_eq (h : q.InBatches k writes answer) (s : Store) :
    (q.call s).result = (Store.writeEach writes s).result.map answer :=
  (h.alike s).2.trans (Call.map_apply answer _ s).2

theorem size (h : q.InBatches k writes answer) (s : Store) (n : Nat) :
    (q.call { s with batchSize := n }).result = (q.call s).result ∧
      (q.call { s with batchSize := n }).store = { (q.call s).store with batchSize := n } := by
  have hrespects := ((Store.respects_writeEach_sameButSize writes).map answer).of_alike h.alike
  obtain ⟨hsame, hbackend, -⟩ := hrespects { s with batchSize := n } s ⟨rfl, rfl⟩
  refine ⟨hsame, ?_⟩
  have htables : (q.run { s with batchSize := n }).tables = (q.run s).tables := by
    rw [← store_call, ← store_call]
    exact congrArg Backend.tables hbackend
  rw [store_call, store_call, Request.run_eq, Request.run_eq q s, htables]

theorem done (h : q.InBatches k writes answer) {s : Store} (hs : s.Ready k)
    (hfit : RowWrite.Fit writes (s.tables.rows k)) :
    s.Puts k (RowWrite.applyAll writes (s.tables.rows k)) (q.call s).store ∧
      (q.call s).result = .ok (answer (RowWrite.countAll writes (s.tables.rows k))) := by
  obtain ⟨hputs, hok⟩ := Store.writeEach_of_fit hs hfit
  rw [h.store_eq, h.result_eq, hok]
  exact ⟨hputs, rfl⟩

theorem stopped (h : q.InBatches k writes answer) {s : Store} (hs : s.Ready k)
    {before after : List (RowWrite k)} {w : RowWrite k} (hwrites : writes = before ++ w :: after)
    (hbefore : RowWrite.Fit before (s.tables.rows k))
    (hw : ¬ Table.Unique k (w.apply (RowWrite.applyAll before (s.tables.rows k)))) :
    s.Puts k (RowWrite.applyAll before (s.tables.rows k)) (q.call s).store ∧
      ∃ e, (q.call s).result = .error e ∧
        Table.Refuses k (w.apply (RowWrite.applyAll before (s.tables.rows k))) e := by
  obtain ⟨hputs, e, he, hrefuses⟩ :=
    @Store.writeEach_of_not_unique k s w before after hs hbefore hw
  rw [h.store_eq, h.result_eq, hwrites, he]
  exact ⟨hputs, e, rfl, hrefuses⟩

theorem ok_iff (h : q.InBatches k writes answer) {s : Store} (hs : s.Ready k) :
    (∃ a, (q.call s).result = .ok a) ↔ RowWrite.Fit writes (s.tables.rows k) := by
  refine ⟨fun ⟨a, ha⟩ => ?_, fun hfit => ⟨_, (h.done hs hfit).2⟩⟩
  by_contra hfit
  obtain ⟨before, w, after, hwrites, hbefore, hw⟩ := RowWrite.exists_of_not_fit hfit
  obtain ⟨-, e, he, -⟩ := h.stopped hs hwrites hbefore hw
  rw [he] at ha
  cases ha

theorem writesInOrder (h : q.InBatches k writes answer) : q.WritesInOrder k writes answer where
  size := h.size
  ok_iff _ hs := h.ok_iff hs
  done _ hs hfit := h.done hs hfit
  stopped _ hs _ _ _ hwrites hbefore hw := h.stopped hs hwrites hbefore hw

end Request.InBatches

/-! ## Resources with new keys -/

section New

variable {k : EquipmentKind} {network : Uuid} {s : Store}

/-- The keys of resources are new: none of them is stored, and no two of them have the same. -/
structure Store.New (s : Store) (network : Uuid) {k : EquipmentKind}
    (rs : List (Resource k.Attributes)) : Prop where
  stored : ∀ r ∈ rs, ∀ row ∈ s.tables.rows (.equipment k),
    ¬ row.isAt network r.variantNum r.id = true
  distinct : rs.Pairwise fun r t => ¬ (r.variantNum = t.variantNum ∧ r.id = t.id)

theorem Table.clash_ofEquipment {r : Resource k.Attributes} {row : Row} :
    clash (.equipment k) row (.ofEquipment network r) = true ↔
      row.isAt network r.variantNum r.id = true := by
  rw [clash_equipment, Row.isAt_iff, Row.isIn_iff, and_assoc]
  exact Iff.rfl

theorem Store.unique_append_iff_new {rs : List (Resource k.Attributes)}
    (h : Table.Unique (.equipment k) (s.tables.rows (.equipment k))) :
    Table.Unique (.equipment k)
        (s.tables.rows (.equipment k) ++ rs.map (Row.ofEquipment network)) ↔
      s.New network rs := by
  rw [Table.unique_append, and_iff_right h, and_comm]
  refine Iff.trans (and_congr ?_ ?_) ⟨fun h => ⟨h.1, h.2⟩, fun h => ⟨h.stored, h.distinct⟩⟩
  · constructor
    · intro hfree r hr row hrow hat
      have hclash := hfree row hrow _ (List.mem_map_of_mem hr)
      rw [Table.clash_ofEquipment.2 hat] at hclash
      cases hclash
    · intro hstored row hrow new hnew
      obtain ⟨r, hr, rfl⟩ := List.mem_map.1 hnew
      rw [Bool.eq_false_iff]
      exact fun hclash => hstored r hr row hrow (Table.clash_ofEquipment.1 hclash)
  · refine List.pairwise_map.trans (List.Pairwise.iff fun r t => ?_)
    have hclash : Table.clash (.equipment k) (.ofEquipment network r) (.ofEquipment network t)
        = true ↔ r.variantNum = t.variantNum ∧ r.id = t.id := by
      rw [Table.clash_ofEquipment, Row.isAt_iff, Row.isIn_ofEquipment, and_assoc,
        and_iff_right rfl]
      simp [Row.ofEquipment]
    rw [Bool.eq_false_iff]
    exact not_congr hclash

end New

namespace Store

/-- Batching is invisible. Requests that write lists of resources make one write for each of them in
order, up to the first that would make two rows share a key, for every size of batches. So equipment
is stored up to the first whose number and id are taken, by a row that was there or by one before it
in the list, and all of it only if there is none such; an update of equipment is never refused. -/
theorem batching_invisible :
    (∀ (k : EquipmentKind) (network : Uuid) (rs : List (Resource k.Attributes)),
      checkResources rs = .ok () →
        (Request.create k network rs).WritesInOrder (.equipment k)
          (rs.map fun r => .insert (.ofEquipment network r)) (fun _ => ()) ∧
        (Request.update k network rs).WritesInOrder (.equipment k) (rs.map (.update network)) id ∧
        ∀ s : Store, s.Ready (.equipment k) →
          ((create network rs s).result = .ok () ↔ s.New network rs) ∧
          (∀ before r after, rs = before ++ r :: after → s.New network before →
            ¬ s.New network (before ++ [r]) →
              s.Puts (.equipment k)
                (s.tables.rows (.equipment k) ++ before.map (Row.ofEquipment network))
                (create network rs s).store ∧
              (create network rs s).result
                = .error (.uniqueViolation k.table ["networkUuid", "variantNum", "id"])) ∧
          ∃ n, (update network rs s).result = .ok n) ∧
    (∀ fresh (rs : List (Resource Network)) rows,
      (rs.zipIdx.mapM fun (r, i) => newNetworkRow (fresh i) r) = .ok rows →
        (Request.createNetworks fresh rs).WritesInOrder .network (rows.map .insert) (fun _ => ()) ∧
        ∀ s : Store, s.Ready .network → ((createNetworks fresh rs s).result = .ok () ↔
          Table.Unique .network (s.tables.rows .network ++ rows))) ∧
    ∀ rs : List (Resource Network), checkResources rs = .ok () →
      (Request.updateNetworks rs).WritesInOrder .network (rs.map .updateNetwork) id := by
  refine ⟨fun k network rs hrule => ?_, fun fresh rs rows hrows => ?_, fun rs hrule => ?_⟩
  · have hcreate := (@Request.InBatches.create k network rs hrule).writesInOrder
    have hupdate := (@Request.InBatches.update k network rs hrule).writesInOrder
    have hinserts (rs : List (Resource k.Attributes)) :
        (rs.map fun r => RowWrite.insert (k := .equipment k) (.ofEquipment network r))
          = (rs.map (Row.ofEquipment network)).map .insert :=
      List.map_map.symm
    refine ⟨hcreate, hupdate, fun s hs => ⟨?_, fun before r after hrs hnew hold => ?_, ?_⟩⟩
    · have hok := hcreate.ok_iff s hs
      rw [hinserts, RowWrite.fit_insert_iff hs.unique, unique_append_iff_new hs.unique] at hok
      exact ⟨fun h => hok.1 ⟨(), h⟩, fun hnew => (hok.2 hnew).elim fun _ h => h⟩
    · rw [← unique_append_iff_new hs.unique] at hnew hold
      rw [List.map_append, List.map_singleton, ← List.append_assoc] at hold
      have hstopped := hcreate.stopped s hs (before.map fun r => .insert (.ofEquipment network r))
        (.insert (.ofEquipment network r)) (after.map fun r => .insert (.ofEquipment network r))
        (by rw [hrs, List.map_append, List.map_cons])
      rw [hinserts before, RowWrite.fit_insert_iff hs.unique, RowWrite.applyAll_insert] at hstopped
      obtain ⟨hputs, e, he, columns, hcolumns, rfl, -⟩ := hstopped hnew hold
      obtain rfl := List.mem_singleton.1 hcolumns
      exact ⟨hputs, he⟩
    · exact (hupdate.ok_iff s hs).2 (RowWrite.fit_update hs.unique)
  · have hcreate := (Request.InBatches.createNetworks hrows).writesInOrder
    refine ⟨hcreate, fun s hs => ?_⟩
    have hok := hcreate.ok_iff s hs
    rw [RowWrite.fit_insert_iff hs.unique] at hok
    exact ⟨fun h => hok.1 ⟨(), h⟩, fun hunique => (hok.2 hunique).elim fun _ h => h⟩
  · exact (Request.InBatches.updateNetworks hrule).writesInOrder

/-- A load that comes again in the next batch is refused there; the loads before it are stored. -/
theorem batching_invisible_across :
    let rs : List (Resource Load) := [.of "L1" 0 default, .of "L2" 0 default, .of "L1" 0 default]
    let s := { single with batchSize := 2 }
    checkResources rs = .ok () ∧ s.Ready (.equipment .load) ∧
      s.Puts (.equipment .load)
        ([.of "L1" 0 default, .of "L2" 0 default].map (Row.ofEquipment (A := Load) .nil))
        (create .nil rs s).store ∧
      (create .nil rs s).result
        = .error (.uniqueViolation "load" ["networkUuid", "variantNum", "id"]) := by
  intro rs s
  have hrule : checkResources rs = .ok () := by decide
  have hs : s.Ready (.equipment .load) :=
    ⟨⟨rfl, by decide⟩, Tables.keyed_single.present _, Tables.keyed_single.unique _⟩
  have hrows : s.tables.rows (.equipment .load) = [] := Tables.rows_single_equipment .load
  have hnew : s.New .nil (k := .load) [.of "L1" 0 default, .of "L2" 0 default] :=
    ⟨by rw [hrows]; simp, by decide⟩
  have hold : ¬ s.New .nil (k := .load)
      ([.of "L1" 0 default, .of "L2" 0 default] ++ [.of "L1" 0 default]) :=
    fun h => absurd h.distinct (by decide)
  obtain ⟨-, -, hcreate⟩ := batching_invisible.1 .load .nil rs hrule
  obtain ⟨hputs, hresult⟩ := (hcreate s hs).2.1 _ _ [] rfl hnew hold
  rw [hrows] at hputs
  exact ⟨hrule, hs, hputs, hresult⟩

end Store

end GridStore
