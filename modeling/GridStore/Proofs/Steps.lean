import GridStore.Proofs.Calls
import GridStore.Proofs.Keys
import GridStore.Proofs.Mappings

/-!
# Writes that span tables

What a sequence of steps leaves of the tables and answers, without the events that it reports
(`runSteps_store`, `runSteps_result`). Steps that copy rows within the tables of different kinds are
all done if keys stay unique in each table (`copySteps_ok_iff`), and then each table has its copies
after its rows (`of_copySteps_ok`).
-/

namespace GridStore

/-- A call that needs a connection gets one. -/
structure Store.Available (s : Store) : Prop where
  isOpen : s.pool.isOpen = true
  free : s.pool.held < s.pool.capacity

/-- Whatever is in the tables, the connections are the same. -/
theorem Store.Available.of_tables {s t : Store} {ts : Tables} (h : t = { s with tables := ts })
    (hs : s.Available) : t.Available := by
  subst h
  exact ⟨hs.isOpen, hs.free⟩

theorem Call.acquire_of_available {s : Store} (h : s.Available) : acquire s = answer () s := by
  unfold acquire
  rw [h.isOpen, if_neg (by simp), if_neg (Nat.not_le.2 h.free)]

theorem Call.result_acquire {s : Store} (h : s.Available) : (Call.acquire s).result = .ok () := by
  rw [acquire_of_available h]
  rfl

/-- A store without a connection to give says so. -/
theorem Call.result_acquire_of_not_available {s : Store} (h : ¬ s.Available) :
    ∃ e, (acquire s).result = .error e ∧ ∀ cause, e ≠ .mapping cause := by
  unfold acquire
  split
  · exact ⟨_, rfl, fun cause => by simp⟩
  · split
    · exact ⟨_, rfl, fun cause => by simp⟩
    · rename_i hopen hfree
      exact absurd ⟨by simpa using hopen, Nat.lt_of_not_le hfree⟩ h

namespace Store

/-- What steps leave of the tables, and what they answer. -/
def applySteps : List Step → Nat → Tables → Tables × Except StoreError Nat
  | [], rows, ts => (ts, .ok rows)
  | step :: steps, rows, ts =>
    match step.run ts with
    | .error e => (ts, .error e)
    | .ok (ts', n) => applySteps steps (rows + n) ts'

theorem applySteps_append : ∀ {steps more : List Step} {rows n : Nat} {ts ts' : Tables},
    applySteps steps rows ts = (ts', .ok n) →
      applySteps (steps ++ more) rows ts = applySteps more n ts'
  | [], _, _, _, _, _, h => by
    obtain ⟨rfl, hn⟩ := Prod.mk.inj h
    obtain rfl := Except.ok.inj hn
    rfl
  | step :: steps, more, rows, n, ts, ts', h => by
    rw [applySteps] at h
    rw [List.cons_append, applySteps]
    rcases hrun : step.run ts with e | ⟨ts₁, m⟩
    · rw [hrun] at h
      cases (Prod.mk.inj h).2
    · rw [hrun] at h
      exact applySteps_append h

/-- What each of the steps keeps holds of what they leave, whether they are done or one fails. -/
theorem applySteps_induction {I : Tables → Prop} : ∀ {steps : List Step} {rows : Nat} {ts : Tables},
    I ts → (∀ step ∈ steps, ∀ ts ts' n, step.run ts = .ok (ts', n) → I ts → I ts') →
      I (applySteps steps rows ts).1
  | [], _, _, h, _ => h
  | step :: steps, rows, ts, h, hstep => by
    rw [List.forall_mem_cons] at hstep
    rw [applySteps]
    rcases hrun : step.run ts with e | ⟨ts', n⟩
    · exact h
    · exact applySteps_induction (hstep.1 ts ts' n hrun h) hstep.2

theorem forM_emit (s : Store) : ∀ events : List Event,
    events.forM Call.emit s = { store := s, events, result := .ok () }
  | [] => rfl
  | e :: events => by
    show Call.andThen (Call.emit e) (fun _ => events.forM Call.emit) s = _
    rw [Call.andThen]
    dsimp only [Call.emit]
    rw [forM_emit s events]
    rfl

section RunSteps

variable {operation : Operation} {network : Uuid} {completed : List String} {rows : Nat} {step : Step}
  {steps : List Step} {s : Store}

theorem runSteps_cons_of_error {e : StoreError} (h : step.run s.tables = .error e) :
    runSteps operation network completed rows (step :: steps) s
      = { store := s
          events := [.writeStopped operation network step.name completed e]
          result := .error e } := by
  unfold runSteps
  rw [h]

theorem runSteps_cons_of_ok {ts : Tables} {n : Nat} (h : step.run s.tables = .ok (ts, n)) :
    runSteps operation network completed rows (step :: steps) s
      = (let rest := runSteps operation network (completed ++ [step.name]) (rows + n) steps
          { s with tables := ts }
        { rest with events := step.report n ++ rest.events }) := by
  conv_lhs => unfold runSteps
  rw [h]
  show Call.andThen ((step.report n).forM Call.emit)
    (fun () => runSteps operation network (completed ++ [step.name]) (rows + n) steps)
    { s with tables := ts } = _
  rw [Call.andThen, forM_emit]

end RunSteps

theorem runSteps_eq (operation : Operation) (network : Uuid) : ∀ (steps : List Step)
    (completed : List String) (rows : Nat) (s : Store),
      (runSteps operation network completed rows steps s).store
          = { s with tables := (applySteps steps rows s.tables).1 } ∧
        (runSteps operation network completed rows steps s).result
          = (applySteps steps rows s.tables).2
  | [], _, _, _ => ⟨rfl, rfl⟩
  | step :: steps, completed, rows, s => by
    unfold applySteps
    rcases hrun : step.run s.tables with e | ⟨ts, n⟩
    · rw [runSteps_cons_of_error hrun]
      exact ⟨rfl, rfl⟩
    · rw [runSteps_cons_of_ok hrun]
      exact runSteps_eq operation network steps (completed ++ [step.name]) (rows + n)
        { s with tables := ts }

theorem runSteps_store (operation : Operation) (network : Uuid) (completed : List String)
    (rows : Nat) (steps : List Step) (s : Store) :
    (runSteps operation network completed rows steps s).store
      = { s with tables := (applySteps steps rows s.tables).1 } :=
  (runSteps_eq operation network steps completed rows s).1

theorem runSteps_result (operation : Operation) (network : Uuid) (completed : List String)
    (rows : Nat) (steps : List Step) (s : Store) :
    (runSteps operation network completed rows steps s).result = (applySteps steps rows s.tables).2 :=
  (runSteps_eq operation network steps completed rows s).2

section Calls

open Call

variable {s : Store}

/-- Steps whose count is reported leave and answer what they do without the report. -/
theorem runSteps_emit (operation : Operation) (network : Uuid) (steps : List Step)
    (report : Nat → Event) (s : Store) :
    let call := runSteps operation network [] 0 steps >>= fun n => emit (report n) >>= fun _ => pure n
    (call s).store = { s with tables := (applySteps steps 0 s.tables).1 } ∧
      (call s).result = (applySteps steps 0 s.tables).2 := by
  obtain ⟨hstore, hresult⟩ := bind_emit (runSteps operation network [] 0 steps) report s
  exact ⟨hstore.trans (runSteps_store ..), hresult.trans (runSteps_result ..)⟩

/-- A connection is all that such steps need. -/
theorem acquire_runSteps (hs : s.Available) (operation : Operation) (network : Uuid)
    (steps : List Step) (report : Nat → Event) :
    let call := acquire >>= fun _ => runSteps operation network [] 0 steps >>= fun n =>
      emit (report n) >>= fun _ => pure n
    (call s).store = { s with tables := (applySteps steps 0 s.tables).1 } ∧
      (call s).result = (applySteps steps 0 s.tables).2 := by
  dsimp only
  rw [bind_of_answer (acquire_of_available hs)]
  exact runSteps_emit operation network steps report s

theorem acquire_bind_of_not_available {α : Type} (hs : ¬ s.Available) (call : Unit → Call α) :
    ((acquire >>= call) s).store = s ∧ ∃ e, ((acquire >>= call) s).result = .error e := by
  obtain ⟨e, he, -⟩ := result_acquire_of_not_available hs
  obtain ⟨hstore, hresult⟩ := bind_of_error he call
  exact ⟨hstore.trans (store_acquire s), e, hresult⟩

end Calls

end Store

/-! ## Copies -/

namespace Store

variable {p : Row → Bool} {f : Row → Row} {step : Kind → Step}

/-- Steps that copy are done to the end if keys stay unique in each table. -/
theorem copySteps_ok_iff (hstep : ∀ k ts, (step k).run ts = ts.copy k p f) :
    ∀ {kinds : List Kind}, kinds.Nodup → ∀ {ts : Tables},
      (∀ k ∈ kinds, (ts.table? k).isSome ∧ Table.Unique k (ts.rows k)) → ∀ rows,
        ((∃ n, (applySteps (kinds.map step) rows ts).2 = .ok n) ↔
          ∀ k ∈ kinds, Table.Unique k (ts.rows k ++ ts.copies p f k))
  | [], _, ts, _, rows => by simp [applySteps]
  | k :: kinds, hnodup, ts, hts, rows => by
    obtain ⟨hk, hnodup⟩ := List.nodup_cons.1 hnodup
    obtain ⟨⟨hsome, hunique⟩, hts⟩ := List.forall_mem_cons.1 hts
    have hcopy {ts' : Tables} {n : Nat} := @Tables.copy_eq_ok_iff ts ts' k p f n hsome hunique
    rw [List.map_cons, applySteps, hstep, List.forall_mem_cons]
    rcases hrun : ts.copy k p f with e | ⟨ts', n⟩
    · refine iff_of_false (fun ⟨n, h⟩ => ?_) fun h => ?_
      · cases h
      · have hdone := hcopy.2 ⟨h.1, rfl, rfl⟩
        rw [hrun] at hdone
        cases hdone
    · obtain ⟨hnew, rfl, -⟩ := hcopy.1 hrun
      have hrows : ∀ j ∈ kinds, (ts.setRows k (ts.rows k ++ ts.copies p f k)).rows j = ts.rows j :=
        fun j hj => Tables.rows_setRows_of_ne (ne_of_mem_of_not_mem hj hk) _
      have hrest := @copySteps_ok_iff hstep kinds hnodup (ts.setRows k (ts.rows k ++ ts.copies p f k))
        (fun j hj => by rw [Tables.isSome_table?_setRows, hrows j hj]; exact hts j hj) (rows + n)
      refine hrest.trans ((forall₂_congr fun j hj => ?_).trans (and_iff_right hnew).symm)
      rw [hrows j hj, Tables.copies_congr (hrows j hj)]

/-- What steps that copy leave when they are done: the copies after the rows of each table. -/
theorem of_copySteps_ok (hstep : ∀ k ts, (step k).run ts = ts.copy k p f) :
    ∀ {kinds : List Kind}, kinds.Nodup → ∀ {ts ts' : Tables} {rows n : Nat},
      applySteps (kinds.map step) rows ts = (ts', .ok n) →
        n = rows + (kinds.map fun k => ((ts.rows k).filter p).length).sum ∧
          (∀ j, (ts'.table? j).isSome = (ts.table? j).isSome) ∧
            ∀ j, ts'.rows j = if j ∈ kinds then ts.rows j ++ ts.copies p f j else ts.rows j
  | [], _, ts, ts', rows, n, h => by
    obtain ⟨rfl, hn⟩ := Prod.mk.inj h
    exact ⟨(Except.ok.inj hn).symm, fun _ => rfl, fun _ => by simp⟩
  | k :: kinds, hnodup, ts, ts', rows, n, h => by
    obtain ⟨hk, hnodup⟩ := List.nodup_cons.1 hnodup
    rw [List.map_cons, applySteps, hstep] at h
    rcases hrun : ts.copy k p f with e | ⟨ts₁, m⟩
    · rw [hrun] at h
      cases (Prod.mk.inj h).2
    · rw [hrun] at h
      obtain ⟨hputs, rfl⟩ := Tables.copy_ok hrun
      obtain ⟨hn, hsome, hrows⟩ := of_copySteps_ok hstep hnodup h
      have hother : ∀ j ∈ kinds, ts₁.rows j = ts.rows j :=
        fun j hj => hputs.rows_of_ne (ne_of_mem_of_not_mem hj hk)
      refine ⟨?_, fun j => (hsome j).trans (hputs.isSome_table? j), fun j => ?_⟩
      · have hsum : (kinds.map fun k => ((ts₁.rows k).filter p).length)
            = kinds.map fun k => ((ts.rows k).filter p).length :=
          List.map_congr_left fun j hj => by rw [hother j hj]
        rw [hn, hsum, List.map_cons, List.sum_cons, Nat.add_assoc]
      · rw [hrows j]
        by_cases hj : j = k
        · subst hj
          rw [if_neg hk, if_pos List.mem_cons_self, hputs.rows_self]
        · by_cases hmem : j ∈ kinds
          · rw [if_pos hmem, if_pos (List.mem_cons_of_mem _ hmem), hother j hmem,
              Tables.copies_congr (hother j hmem)]
          · rw [if_neg hmem, if_neg (by simp [hj, hmem]), hputs.rows_of_ne hj]

end Store

/-! ## Every table -/

theorem Kind.mem_all : ∀ k : Kind, k ∈ Kind.all
  | .network => List.mem_cons_self
  | .equipment k => List.mem_cons_of_mem _ (List.mem_map_of_mem (EquipmentKind.mem_all k))

theorem Kind.nodup_all : Kind.all.Nodup := by
  decide

end GridStore
