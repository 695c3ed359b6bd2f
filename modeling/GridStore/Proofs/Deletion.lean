import GridStore.Proofs.Interrupted

/-!
# Deleting again

A network or a variant is deleted table by table, by statements that say which rows go and not
where the call stands. So what is left of an interrupted call can be done by the same call: after
the first tables alone the rows are gone from these (`Tables.without`), a call that is done removes
what is left in the others, and both together count what one call counts
(`Store.deletions_resumable`).
-/

namespace GridStore

namespace Tables

variable {p : Row → Bool} {ts ts' : Tables} {j k : Kind}

/-! ## Tables without rows of a sort -/

/-- The tables without the rows of a sort in one of them. -/
def clear (p : Row → Bool) (ts : Tables) (k : Kind) : Tables :=
  ts.setRows k ((ts.rows k).filter fun r => !p r)

/-- The tables without the rows of a sort in those of some kinds. -/
def without (p : Row → Bool) (kinds : List Kind) (ts : Tables) : Tables :=
  kinds.foldl (clear p) ts

/-- How many rows of a sort the tables of some kinds hold. -/
def countIn (p : Row → Bool) (kinds : List Kind) (ts : Tables) : Nat :=
  (kinds.map fun k => (ts.rows k).countP p).sum

@[simp]
theorem without_nil : ts.without p [] = ts :=
  rfl

@[simp]
theorem without_cons (kinds : List Kind) :
    ts.without p (k :: kinds) = (ts.clear p k).without p kinds :=
  rfl

@[simp]
theorem countIn_nil : ts.countIn p [] = 0 :=
  rfl

@[simp]
theorem countIn_cons (kinds : List Kind) :
    ts.countIn p (k :: kinds) = (ts.rows k).countP p + ts.countIn p kinds := by
  simp [countIn]

theorem rows_of_table?_eq_none (h : ts.table? k = none) : ts.rows k = [] := by
  rw [rows, h]
  rfl

theorem setRows_setRows_self (rows rows' : List Row) :
    (ts.setRows k rows).setRows k rows' = ts.setRows k rows' := by
  simp only [setRows, List.map_map, Tables.mk.injEq]
  refine List.map_congr_left fun e _ => ?_
  by_cases h : e.1 = k <;> simp [h]

theorem setRows_comm (h : j ≠ k) (rows rows' : List Row) :
    (ts.setRows j rows).setRows k rows' = (ts.setRows k rows').setRows j rows := by
  simp only [setRows, List.map_map, Tables.mk.injEq]
  refine List.map_congr_left fun e _ => ?_
  by_cases hj : e.1 = j
  · simp [hj, h]
  · by_cases hk : e.1 = k <;> simp [hj, hk, Ne.symm h]

theorem rows_clear_self : (ts.clear p k).rows k = (ts.rows k).filter fun r => !p r := by
  cases ht : ts.table? k with
  | none =>
    have hnone : (ts.clear p k).table? k = none := by
      rw [clear, table?_setRows, ht]
      rfl
    rw [rows_of_table?_eq_none hnone, rows_of_table?_eq_none ht]
    rfl
  | some t => exact rows_setRows_self (by simp [ht]) _

theorem rows_clear_of_ne (h : j ≠ k) : (ts.clear p k).rows j = ts.rows j :=
  rows_setRows_of_ne h _

@[simp]
theorem isSome_table?_clear : ((ts.clear p k).table? j).isSome = (ts.table? j).isSome :=
  isSome_table?_setRows _

theorem clear_clear_self : (ts.clear p k).clear p k = ts.clear p k := by
  rw [clear, rows_clear_self, List.filter_filter, clear, setRows_setRows_self]
  simp

theorem clear_comm : (ts.clear p j).clear p k = (ts.clear p k).clear p j := by
  by_cases h : j = k
  · rw [h]
  · rw [clear, rows_clear_of_ne (Ne.symm h), clear, setRows_comm h, clear, rows_clear_of_ne h, clear]

/-- Rows that are taken from all tables may be gone from one before. -/
theorem without_clear {kinds : List Kind} (hk : k ∈ kinds) :
    (ts.clear p k).without p kinds = ts.without p kinds := by
  induction kinds generalizing ts with
  | nil => simp at hk
  | cons j kinds ih =>
    simp only [without_cons]
    by_cases hj : k = j
    · rw [hj, clear_clear_self]
    · rw [clear_comm]
      exact ih ((List.mem_cons.1 hk).resolve_left hj)

theorem without_without {some all : List Kind} (h : some ⊆ all) :
    (ts.without p some).without p all = ts.without p all := by
  induction some generalizing ts with
  | nil => rfl
  | cons k some ih =>
    rw [List.cons_subset] at h
    exact (ih h.2).trans (without_clear h.1)

theorem rows_without (kinds : List Kind) (k : Kind) :
    (ts.without p kinds).rows k = if k ∈ kinds then (ts.rows k).filter fun r => !p r else ts.rows k := by
  induction kinds generalizing ts with
  | nil => simp
  | cons j kinds ih =>
    rw [without_cons, ih]
    by_cases hj : k = j
    · subst hj
      simp [rows_clear_self]
    · simp [rows_clear_of_ne hj, hj]

@[simp]
theorem isSome_table?_without (kinds : List Kind) :
    ((ts.without p kinds).table? k).isSome = (ts.table? k).isSome := by
  induction kinds generalizing ts with
  | nil => rfl
  | cons j kinds ih => exact ih.trans isSome_table?_clear

/-! ## Counts -/

theorem countIn_congr {kinds : List Kind} (h : ∀ k ∈ kinds, ts'.rows k = ts.rows k) :
    ts'.countIn p kinds = ts.countIn p kinds := by
  rw [countIn, countIn, List.map_congr_left fun k hk => by rw [h k hk]]

theorem countIn_append (kinds more : List Kind) :
    ts.countIn p (kinds ++ more) = ts.countIn p kinds + ts.countIn p more := by
  simp [countIn]

theorem countIn_eq_zero {kinds : List Kind} (h : ∀ k ∈ kinds, ∀ r ∈ ts.rows k, p r = false) :
    ts.countIn p kinds = 0 := by
  induction kinds with
  | nil => rfl
  | cons k kinds ih =>
    rw [List.forall_mem_cons] at h
    have hzero : (ts.rows k).countP p = 0 := by
      rw [List.countP_eq_zero]
      exact fun r hr => Bool.eq_false_iff.1 (h.1 r hr)
    rw [countIn_cons, hzero, ih h.2]

theorem countIn_without {kinds all : List Kind} (h : kinds ⊆ all) :
    (ts.without p all).countIn p kinds = 0 := by
  refine countIn_eq_zero fun k hk r hr => ?_
  rw [rows_without, if_pos (h hk)] at hr
  simpa using (List.mem_filter.1 hr).2

/-- What is gone from the first tables and what is left in all of them is what there was. -/
theorem countIn_add_countIn_without {first rest : List Kind} (h : (first ++ rest).Nodup) :
    ts.countIn p first + (ts.without p first).countIn p (first ++ rest)
      = ts.countIn p (first ++ rest) := by
  have hfirst : (ts.without p first).countIn p first = 0 := countIn_without (List.Subset.refl _)
  have hrest : (ts.without p first).countIn p rest = ts.countIn p rest :=
    countIn_congr fun k hk => by
      rw [rows_without, if_neg fun hk' => (List.nodup_append.1 h).2.2 k hk' k hk rfl]
  rw [countIn_append, countIn_append, hfirst, hrest]
  omega

theorem countIn_take_add (k : Nat) :
    ts.countIn p (Kind.all.take k) + (ts.without p (Kind.all.take k)).countIn p Kind.all
      = ts.countIn p Kind.all := by
  have hnodup : (Kind.all.take k ++ Kind.all.drop k).Nodup := by
    rw [List.take_append_drop]
    exact Kind.nodup_all
  have hsplit := @countIn_add_countIn_without p ts _ _ hnodup
  rwa [List.take_append_drop] at hsplit

theorem rows_without_all (k : Kind) :
    (ts.without p Kind.all).rows k = (ts.rows k).filter fun r => !p r := by
  rw [rows_without, if_pos (Kind.mem_all k)]

end Tables

/-! ## Calls that delete -/

namespace Store

section Steps

variable {p : Row → Bool} {step : Kind → Step}

/-- Steps that delete are done to the end if their tables are there. -/
theorem deleteSteps_eq_ok_iff (hstep : ∀ k ts, (step k).run ts = ts.delete k p) :
    ∀ {kinds : List Kind}, kinds.Nodup → ∀ {ts ts' : Tables} {rows n : Nat},
      applySteps (kinds.map step) rows ts = (ts', .ok n) ↔
        (∀ k ∈ kinds, (ts.table? k).isSome) ∧ ts' = ts.without p kinds ∧
          n = rows + ts.countIn p kinds
  | [], _, ts, ts', rows, n => by
    simp only [List.map_nil, applySteps, Prod.mk.injEq, Except.ok.injEq, List.not_mem_nil]
    simp [eq_comm (a := ts), eq_comm (a := rows)]
  | k :: kinds, hnodup, ts, ts', rows, n => by
    obtain ⟨hk, hnodup⟩ := List.nodup_cons.1 hnodup
    rw [List.map_cons, applySteps, hstep, List.forall_mem_cons]
    by_cases hsome : (ts.table? k).isSome
    · have hdelete : ts.delete k p = .ok (ts.clear p k, (ts.rows k).countP p) :=
        Tables.delete_eq hsome
      have hcount : (ts.clear p k).countIn p kinds = ts.countIn p kinds :=
        Tables.countIn_congr fun j hj => Tables.rows_clear_of_ne (ne_of_mem_of_not_mem hj hk)
      rw [hdelete]
      simp [deleteSteps_eq_ok_iff hstep hnodup, hcount, hsome, Nat.add_assoc]
    · have hnone : ts.table? k = none := by simpa using hsome
      have hdelete : ts.delete k p = .error (.queryFailed (.noSuchTable k.table)) := by
        rw [Tables.delete, Tables.existing, hnone]
        rfl
      simp [hdelete, hsome]

theorem deleteAll_eq_ok_iff (hstep : ∀ k ts, (step k).run ts = ts.delete k p) {ts ts' : Tables}
    {n : Nat} :
    applySteps (Kind.all.map step) 0 ts = (ts', .ok n) ↔
      (∀ k, (ts.table? k).isSome) ∧ ts' = ts.without p Kind.all ∧ n = ts.countIn p Kind.all := by
  rw [deleteSteps_eq_ok_iff hstep Kind.nodup_all, Nat.zero_add]
  simp [Kind.mem_all]

end Steps

/-- A call that removes the rows of a sort by steps, one a table, and can be taken up where it was
left. -/
structure Resumable (call : Call Nat) (steps : List Step) (p : Row → Bool) : Prop where
  /-- Where all tables are there the call is done, and so are its first steps, however many. -/
  completes : ∀ s : Store, (∀ k, (s.tables.table? k).isSome) →
    (s.Available → ∃ n, (call s).result = .ok n) ∧
      ∀ k, ∃ ts m, applySteps (steps.take k) 0 s.tables = (ts, .ok m)
  /-- A call that is done leaves none of the rows and all others, and counts those removed. -/
  done : ∀ s n, (call s).result = .ok n →
    (∀ k, (call s).store.tables.rows k = (s.tables.rows k).filter fun r => !p r) ∧
      n = s.tables.countIn p Kind.all
  /-- There is nothing left to remove. -/
  again : ∀ s n, (call s).result = .ok n →
    (call (call s).store).result = .ok 0 ∧ (call (call s).store).store = (call s).store
  /-- After some of its steps a call that is done leaves what it would have left before them, and
  answers what is left of the count. -/
  resumed : ∀ (s : Store) ts m n k, applySteps (steps.take k) 0 s.tables = (ts, .ok m) →
    (call { s with tables := ts }).result = .ok n →
      m = s.tables.countIn p (Kind.all.take k) ∧ (call s).result = .ok (m + n) ∧
        (call { s with tables := ts }).store = (call s).store
  /-- A call that fails has done some of its steps, and a later one that finds the rows as they were
  left does the rest. -/
  stopped : ∀ s e, (call s).result = .error e → ∃ k < Kind.all.length, ∃ ts m,
    applySteps (steps.take k) 0 s.tables = (ts, .ok m) ∧
      (call s).store = { s with tables := ts } ∧
      ∀ t n, (∀ j, t.tables.rows j = ts.rows j) → (call t).result = .ok n →
        (∀ j, (call t).store.tables.rows j = (s.tables.rows j).filter fun r => !p r) ∧
          m + n = s.tables.countIn p Kind.all

/-- A call that takes steps which delete. -/
structure Deletes (call : Call Nat) (step : Kind → Step) (p : Row → Bool) : Prop where
  run : ∀ k ts, (step k).run ts = ts.delete k p
  available : ∀ s : Store, s.Available →
    (call s).store = { s with tables := (applySteps (Kind.all.map step) 0 s.tables).1 } ∧
      (call s).result = (applySteps (Kind.all.map step) 0 s.tables).2
  unavailable : ∀ s : Store, ¬ s.Available → (call s).store = s ∧ ∃ e, (call s).result = .error e

namespace Deletes

variable {call : Call Nat} {step : Kind → Step} {p : Row → Bool} {s : Store} {ts ts' : Tables}
  {k m n : Nat}

theorem take_eq_ok_iff (h : Deletes call step p) :
    applySteps ((Kind.all.map step).take k) 0 ts = (ts', .ok m) ↔
      (∀ j ∈ Kind.all.take k, (ts.table? j).isSome) ∧ ts' = ts.without p (Kind.all.take k) ∧
        m = ts.countIn p (Kind.all.take k) := by
  rw [← List.map_take, deleteSteps_eq_ok_iff h.run (Kind.nodup_all.sublist (List.take_sublist ..)),
    Nat.zero_add]

theorem result_eq_ok_iff (h : Deletes call step p) :
    (call s).result = .ok n ↔
      s.Available ∧ (∀ j, (s.tables.table? j).isSome) ∧ n = s.tables.countIn p Kind.all := by
  by_cases hs : s.Available
  · have hall {ts' : Tables} {n : Nat} := @deleteAll_eq_ok_iff p step h.run s.tables ts' n
    rw [(h.available s hs).2, and_iff_right hs]
    constructor
    · intro hok
      obtain ⟨hsome, -, hn⟩ := hall.1 (Prod.ext rfl hok)
      exact ⟨hsome, hn⟩
    · intro hdone
      rw [hall.2 ⟨hdone.1, rfl, hdone.2⟩]
  · obtain ⟨-, e, he⟩ := h.unavailable s hs
    simp [he, hs]

theorem store_eq (h : Deletes call step p) (hok : (call s).result = .ok n) :
    (call s).store = { s with tables := s.tables.without p Kind.all } := by
  obtain ⟨hs, hdone⟩ := h.result_eq_ok_iff.1 hok
  have hall := (deleteAll_eq_ok_iff h.run).2 ⟨hdone.1, rfl, hdone.2⟩
  rw [(h.available s hs).1, hall]

/-- A later call that finds the rows as the first steps left them does the rest. -/
theorem rest (h : Deletes call step p) {t : Store}
    (ht : ∀ j, t.tables.rows j = (ts.without p (Kind.all.take k)).rows j)
    (hok : (call t).result = .ok n) :
    (∀ j, (call t).store.tables.rows j = (ts.rows j).filter fun r => !p r) ∧
      ts.countIn p (Kind.all.take k) + n = ts.countIn p Kind.all := by
  refine ⟨fun j => ?_, ?_⟩
  · rw [h.store_eq hok, Tables.rows_without_all, ht, ← Tables.rows_without_all,
      Tables.without_without (List.take_subset ..), Tables.rows_without_all]
  · rw [(h.result_eq_ok_iff.1 hok).2.2, Tables.countIn_congr fun j _ => ht j, Tables.countIn_take_add]

theorem again (h : Deletes call step p) (hok : (call s).result = .ok n) :
    (call (call s).store).result = .ok 0 ∧ (call (call s).store).store = (call s).store := by
  obtain ⟨hs, hsome, -⟩ := h.result_eq_ok_iff.1 hok
  rw [h.store_eq hok]
  have hagain : (call { s with tables := s.tables.without p Kind.all }).result = .ok 0 :=
    h.result_eq_ok_iff.2 ⟨⟨hs.isOpen, hs.free⟩, fun j => by simpa using hsome j,
      (Tables.countIn_without (List.Subset.refl _)).symm⟩
  refine ⟨hagain, ?_⟩
  rw [h.store_eq hagain]
  simp [Tables.without_without]

theorem resumed (h : Deletes call step p)
    (hdone : applySteps ((Kind.all.map step).take k) 0 s.tables = (ts, .ok m))
    (hok : (call { s with tables := ts }).result = .ok n) :
    m = s.tables.countIn p (Kind.all.take k) ∧ (call s).result = .ok (m + n) ∧
      (call { s with tables := ts }).store = (call s).store := by
  obtain ⟨-, rfl, rfl⟩ := h.take_eq_ok_iff.1 hdone
  obtain ⟨hs, hsome, -⟩ := h.result_eq_ok_iff.1 hok
  have hcount := (@rest call step p s.tables k n h _ (fun _ => rfl) hok).2
  have hwhole : (call s).result = .ok (s.tables.countIn p (Kind.all.take k) + n) :=
    h.result_eq_ok_iff.2 ⟨⟨hs.isOpen, hs.free⟩, fun j => by simpa using hsome j, hcount⟩
  refine ⟨rfl, hwhole, ?_⟩
  rw [h.store_eq hok, h.store_eq hwhole]
  simp [Tables.without_without, List.take_subset]

theorem stopped (h : Deletes call step p) {e : StoreError} (herror : (call s).result = .error e) :
    ∃ k < Kind.all.length, ∃ m, applySteps ((Kind.all.map step).take k) 0 s.tables
        = ((call s).store.tables, .ok m) ∧
      (call s).store = { s with tables := (call s).store.tables } := by
  by_cases hs : s.Available
  · obtain ⟨hstore, hresult⟩ := h.available s hs
    obtain ⟨k, hk, m, hdone⟩ := exists_take_of_applySteps_error (hresult.symm.trans herror)
    rw [List.length_map] at hk
    rw [hstore]
    exact ⟨k, hk, m, hdone, rfl⟩
  · refine ⟨0, by decide, 0, ?_, ?_⟩ <;> rw [(h.unavailable s hs).1]
    rfl

theorem resumable (h : Deletes call step p) : Resumable call (Kind.all.map step) p where
  completes s hsome :=
    ⟨fun hs => ⟨_, h.result_eq_ok_iff.2 ⟨hs, hsome, rfl⟩⟩,
      fun k => ⟨_, _, h.take_eq_ok_iff.2 ⟨fun j _ => hsome j, rfl, rfl⟩⟩⟩
  done s n hok := by
    rw [h.store_eq hok]
    exact ⟨Tables.rows_without_all, (h.result_eq_ok_iff.1 hok).2.2⟩
  again s n := h.again
  resumed s ts m n k := h.resumed
  stopped s e herror := by
    obtain ⟨k, hk, m, hdone, hstore⟩ := h.stopped herror
    refine ⟨k, hk, _, m, hdone, hstore, fun t n ht hok => ?_⟩
    obtain ⟨-, hleft, rfl⟩ := h.take_eq_ok_iff.1 hdone
    exact h.rest (fun j => by rw [ht, hleft]) hok

end Deletes

theorem deletes_deleteNetwork (network : Uuid) :
    Deletes (deleteNetwork network)
      (fun k => ⟨k, none, fun ts => ts.delete k (·.isOf network), fun _ => []⟩)
      (·.isOf network) where
  run _ _ := rfl
  available _ hs := acquire_runSteps hs _ _ _ _
  unavailable _ hs := acquire_bind_of_not_available hs _

theorem deletes_deleteVariant (network : Uuid) {n : Int32} (hn : 0 < n) :
    Deletes (deleteVariant network n)
      (fun k => ⟨k, none, fun ts => ts.delete k (·.isIn network n), fun _ => []⟩)
      (·.isIn network n) := by
  have hcall (s : Store) : deleteVariant network n s
      = (Call.acquire >>= fun _ =>
          runSteps .deleteVariant network [] 0 (deleteVariantSteps network n) >>= fun deleted =>
            Call.emit (.variantDeleted network n deleted) >>= fun _ => pure deleted) s := by
    unfold deleteVariant
    rw [Validation.deletableVariant_of_pos network.text hn]
    exact Call.bind_of_answer rfl _
  refine ⟨fun _ _ => rfl, fun s hs => ?_, fun s hs => ?_⟩
  · rw [hcall]
    exact acquire_runSteps hs _ _ _ _
  · rw [hcall]
    exact acquire_bind_of_not_available hs _

/-- Deleting a network, or a variant other than the initial one, can be taken up after any of the
tables. -/
theorem deletions_resumable :
    (∀ network, Resumable (deleteNetwork network) (deleteNetworkSteps network) (·.isOf network)) ∧
      ∀ network n, 0 < n →
        Resumable (deleteVariant network n) (deleteVariantSteps network n) (·.isIn network n) :=
  ⟨fun network => (deletes_deleteNetwork network).resumable,
    fun network _ hn => (deletes_deleteVariant network hn).resumable⟩

/-- Of a variant with a generator and a load only the generator was deleted. -/
theorem deletions_resumable_after_generators :
    let s : Store := { Store.single with
      tables := (Store.single.tables.setRows (.equipment .generator)
          [.ofEquipment .nil (.of "g" 1 (default : Generator))]).setRows (.equipment .load)
            [.ofEquipment .nil (.of "l" 1 (default : Load))] }
    ∃ ts, applySteps ((deleteVariantSteps .nil 1).take 4) 0 s.tables = (ts, .ok 1) ∧
      (deleteVariant .nil 1 { s with tables := ts }).result = .ok 1 ∧
        (deleteVariant .nil 1 s).result = .ok 2 ∧
          (deleteVariant .nil 1 { s with tables := ts }).store = (deleteVariant .nil 1 s).store := by
  intro s
  have h := deletes_deleteVariant .nil (n := 1) (by decide)
  have hsome (j : Kind) : (s.tables.table? j).isSome := by
    simp only [s, Tables.isSome_table?_setRows]
    exact Tables.keyed_single.present j
  let ts := s.tables.without (·.isIn .nil 1) (Kind.all.take 4)
  have hfirst : applySteps ((deleteVariantSteps .nil 1).take 4) 0 s.tables = (ts, .ok 1) :=
    h.take_eq_ok_iff.2 ⟨fun j _ => hsome j, rfl, by decide⟩
  have hrest : (deleteVariant .nil 1 { s with tables := ts }).result = .ok 1 :=
    h.result_eq_ok_iff.2 ⟨⟨rfl, by decide⟩, fun j => by simpa [ts] using hsome j, by decide⟩
  obtain ⟨-, hwhole, hleft⟩ :=
    (deletions_resumable.2 .nil 1 (by decide)).resumed s ts 1 1 4 hfirst hrest
  exact ⟨ts, hfirst, hrest, hwhole, hleft⟩

end Store

end GridStore
