import GridStore.Proofs.Calls

/-!
# Calls side by side

Two calls are alike if they leave the same store and answer the same, whatever they report
(`Call.Alike`). A call respects a relation of stores if from related stores it answers the same, or
fails with the same error, and leads to related stores (`Call.Respects`): what the stores may differ
in is then neither read nor, where they agree, written differently. Both are shown of a call by what
it is made of.
-/

namespace GridStore

/-- Two computations with the same image fail with the same error, or both give a value. -/
theorem Except.cases_of_map_eq {ε α β γ : Type} {x : Except ε α} {y : Except ε β} {f : α → γ}
    {g : β → γ} (h : x.map f = y.map g) :
    (∃ e, x = .error e ∧ y = .error e) ∨ ∃ a b, x = .ok a ∧ y = .ok b ∧ f a = g b := by
  cases x with
  | error e =>
    cases y with
    | error e' => exact .inl ⟨e, rfl, congrArg _ (Except.error.inj h).symm⟩
    | ok b => cases h
  | ok a =>
    cases y with
    | error e => cases h
    | ok b => exact .inr ⟨a, b, rfl, rfl, Except.ok.inj h⟩

namespace Call

variable {α β : Type}

/-- Calls that answer the same and lead to related stores, followed by such calls. -/
theorem bind_related {R : Store → Store → Prop} {c d : Call α} {f g : α → Call β} {s t : Store}
    (h : (c s).result = (d t).result ∧ R (c s).store (d t).store)
    (hfg : ∀ a s t, R s t → (f a s).result = (g a t).result ∧ R (f a s).store (g a t).store) :
    ((c >>= f) s).result = ((d >>= g) t).result ∧ R ((c >>= f) s).store ((d >>= g) t).store := by
  obtain ⟨hresult, hstore⟩ := h
  rcases hd : (d t).result with e | a
  · rw [(bind_of_error (hresult.trans hd) f).1, (bind_of_error (hresult.trans hd) f).2,
      (bind_of_error hd g).1, (bind_of_error hd g).2]
    exact ⟨rfl, hstore⟩
  · rw [(bind_of_ok (hresult.trans hd) f).1, (bind_of_ok (hresult.trans hd) f).2,
      (bind_of_ok hd g).1, (bind_of_ok hd g).2]
    exact hfg a _ _ hstore

/-- Calls that leave the same store and answer the same, whatever they report. -/
def Alike (c d : Call α) : Prop :=
  ∀ s, (c s).store = (d s).store ∧ (c s).result = (d s).result

namespace Alike

variable {c d e : Call α}

theorem refl (c : Call α) : Alike c c :=
  fun _ => ⟨rfl, rfl⟩

theorem symm (h : Alike c d) : Alike d c :=
  fun s => ⟨(h s).1.symm, (h s).2.symm⟩

theorem trans (h : Alike c d) (h' : Alike d e) : Alike c e :=
  fun s => ⟨(h s).1.trans (h' s).1, (h s).2.trans (h' s).2⟩

theorem bind {f g : α → Call β} (h : Alike c d) (hfg : ∀ a, Alike (f a) (g a)) :
    Alike (c >>= f) (d >>= g) := by
  intro s
  refine (bind_related (R := Eq) (h s).symm fun a s t hst => ?_).symm
  subst hst
  exact (hfg a s).symm

end Alike

theorem alike_bind_emit (c : Call α) (e : α → Event) :
    Alike (c >>= fun a => emit (e a) >>= fun _ => pure a) c :=
  bind_emit c e

theorem alike_emit_bind (e : Event) (c : Call α) : Alike (emit e >>= fun _ => c) c :=
  fun _ => bind_of_ok rfl _

theorem view_bind (f : Store → α) (g : α → Call β) (s : Store) : (view f >>= g) s = g (f s) s :=
  bind_of_answer rfl g

theorem map_apply (f : α → β) (c : Call α) (s : Store) :
    ((f <$> c) s).store = (c s).store ∧ ((f <$> c) s).result = (c s).result.map f := by
  rw [map_eq_pure_bind]
  rcases h : (c s).result with e | a
  · exact bind_of_error h _
  · exact bind_of_ok h _

theorem require_bind_of_ok {x : Except ValidationError Unit} (h : x = .ok ()) (g : Unit → Call β) :
    (require x >>= g) = g () := by
  subst h
  exact pure_bind () g

theorem execute_of_ok {statement : Tables → Except StoreError (Tables × α)} {s : Store}
    {ts : Tables} {a : α} (h : statement s.tables = .ok (ts, a)) :
    execute statement s = answer a { s with tables := ts } := by
  rw [execute, h]

theorem execute_of_error {statement : Tables → Except StoreError (Tables × α)} {s : Store}
    {e : StoreError} (h : statement s.tables = .error e) : execute statement s = fail e s := by
  rw [execute, h]

theorem result_acquire_congr {s t : Store} (h : s.pool = t.pool) :
    (acquire s).result = (acquire t).result := by
  unfold acquire
  rw [h]
  split
  · rfl
  · split <;> rfl

/-! ## Calls on related stores -/

/-- From related stores the call gives the same answer, or the same error, and leads to related
stores. -/
def Respects (R : Store → Store → Prop) (c : Call α) : Prop :=
  ∀ s t, R s t → (c s).result = (c t).result ∧ R (c s).store (c t).store

/-- On the tables of related stores the statement says the same, or fails with the same error, and
where it is done it leads to related stores. -/
def StatementRespects (R : Store → Store → Prop)
    (statement : Tables → Except StoreError (Tables × α)) : Prop :=
  ∀ s t, R s t → (statement s.tables).map Prod.snd = (statement t.tables).map Prod.snd ∧
    ∀ ts ts' a, statement s.tables = .ok (ts, a) → statement t.tables = .ok (ts', a) →
      R { s with tables := ts } { t with tables := ts' }

section Respects

variable {R : Store → Store → Prop}

theorem respects_pure (a : α) : Respects R (pure a : Call α) :=
  fun _ _ h => ⟨rfl, h⟩

theorem respects_fail (e : StoreError) : Respects R (fail e : Call α) :=
  fun _ _ h => ⟨rfl, h⟩

theorem respects_ofExcept (x : Except StoreError α) : Respects R (ofExcept x) := by
  cases x
  · exact respects_fail _
  · exact respects_pure _

theorem respects_emit (e : Event) : Respects R (emit e) :=
  fun _ _ h => ⟨rfl, h⟩

theorem Respects.bind {c : Call α} {g : α → Call β} (hc : Respects R c)
    (hg : ∀ a, Respects R (g a)) : Respects R (c >>= g) :=
  fun s t h => bind_related (hc s t h) hg

theorem Respects.map {c : Call α} (hc : Respects R c) (f : α → β) : Respects R (f <$> c) := by
  rw [map_eq_pure_bind]
  exact hc.bind fun _ => respects_pure _

theorem Respects.of_alike {c d : Call α} (hd : Respects R d) (h : Alike c d) : Respects R c := by
  intro s t hst
  rw [(h s).1, (h t).1, (h s).2, (h t).2]
  exact hd s t hst

theorem respects_require_bind {x : Except ValidationError Unit} {g : Unit → Call β}
    (hg : x = .ok () → Respects R (g ())) : Respects R (require x >>= g) := by
  rcases x with e | ⟨⟩
  · exact fun _ _ h => ⟨rfl, h⟩
  · exact hg rfl

theorem respects_acquire (h : ∀ s t, R s t → (acquire s).result = (acquire t).result) :
    Respects R acquire := by
  intro s t hst
  rw [store_acquire, store_acquire]
  exact ⟨h s t hst, hst⟩

theorem respects_query {g : Tables → Except StoreError α}
    (h : ∀ s t, R s t → g s.tables = g t.tables) : Respects R (query g) := by
  intro s t hst
  rw [store_query, store_query, result_query, result_query]
  exact ⟨h s t hst, hst⟩

theorem StatementRespects.cases {statement : Tables → Except StoreError (Tables × α)}
    (h : StatementRespects R statement) {s t : Store} (hst : R s t) :
    (∃ e, statement s.tables = .error e ∧ statement t.tables = .error e) ∨
      ∃ ts ts' a, statement s.tables = .ok (ts, a) ∧ statement t.tables = .ok (ts', a) ∧
        R { s with tables := ts } { t with tables := ts' } := by
  obtain ⟨hsame, hdone⟩ := h s t hst
  obtain hfails | ⟨⟨ts, a⟩, ⟨ts', a'⟩, hs, ht, rfl⟩ := Except.cases_of_map_eq hsame
  · exact .inl hfails
  · exact .inr ⟨ts, ts', a, hs, ht, hdone ts ts' a hs ht⟩

theorem respects_execute {statement : Tables → Except StoreError (Tables × α)}
    (h : StatementRespects R statement) : Respects R (execute statement) := by
  intro s t hst
  obtain ⟨e, hs, ht⟩ | ⟨ts, ts', a, hs, ht, hleft⟩ := h.cases hst
  · rw [execute_of_error hs, execute_of_error ht]
    exact ⟨rfl, hst⟩
  · rw [execute_of_ok hs, execute_of_ok ht]
    exact ⟨rfl, hleft⟩

theorem respects_forM {c : β → Call Unit} : ∀ {bs : List β}, (∀ b ∈ bs, Respects R (c b)) →
    Respects R (bs.forM c)
  | [], _ => respects_pure ()
  | b :: bs, h => by
    rw [List.forall_mem_cons] at h
    show Respects R (c b >>= fun _ => bs.forM c)
    exact h.1.bind fun _ => respects_forM h.2

theorem respects_mapM {c : β → Call α} (h : ∀ b, Respects R (c b)) : ∀ {bs : List β},
    Respects R (bs.mapM c)
  | [] => by
    rw [List.mapM_nil]
    exact respects_pure _
  | b :: bs => by
    rw [List.mapM_cons]
    exact (h b).bind fun _ => (respects_mapM h).bind fun _ => respects_pure _

theorem respects_runSteps {operation : Operation} {network : Uuid} : ∀ {steps : List Store.Step}
    {completed : List String} {rows : Nat}, (∀ step ∈ steps, StatementRespects R step.run) →
      Respects R (Store.runSteps operation network completed rows steps)
  | [], _, _, _ => respects_pure _
  | step :: steps, completed, rows, h => by
    rw [List.forall_mem_cons] at h
    intro s t hst
    unfold Store.runSteps
    obtain ⟨e, hs, ht⟩ | ⟨ts, ts', n, hs, ht, hleft⟩ := h.1.cases hst
    · rw [hs, ht]
      exact ⟨rfl, hst⟩
    · rw [hs, ht]
      have hreport : Respects R ((step.report n).forM emit) :=
        respects_forM fun e _ => respects_emit e
      exact hreport.bind (fun _ => respects_runSteps h.2) _ _ hleft

end Respects

end Call

end GridStore
