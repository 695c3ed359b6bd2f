import GridStore.Proofs.Failures
import GridStore.Proofs.Partition
import GridStore.Store.Variants
import Mathlib.Order.Defs.Unbundled

/-!
# What comes of calls

A call leads from a store to a related one and fails with errors of a sort (`Meets`) if each of the
calls that it is made of does, since stores are related along a sequence of calls, a loop, batches,
and the steps of a write that spans tables. A call keeps what is shown of a store (`Keeps`) if that
is the same after the call, whether the call answered or failed on the way. Calls that only read
keep everything.
-/

namespace GridStore

namespace Call

variable {α β γ δ : Type} {f : Store → γ}

/-- From a store the call leads to a related one, and it fails only with errors of a sort. -/
def MeetsAt (R : Store → Store → Prop) (E : StoreError → Prop) (s : Store) (c : Call α) : Prop :=
  R s (c s).store ∧ FailsWith E (c s).result

/-- From every store the call leads to a related one, and it fails only with errors of a sort. -/
def Meets (R : Store → Store → Prop) (E : StoreError → Prop) (c : Call α) : Prop :=
  ∀ s, MeetsAt R E s c

/-- Where the statement is done it leads to a related store, and it fails only with errors of a
sort. -/
def StatementMeets (R : Store → Store → Prop) (E : StoreError → Prop)
    (statement : Tables → Except StoreError (Tables × α)) : Prop :=
  ∀ s, (∀ ts a, statement s.tables = .ok (ts, a) → R s { s with tables := ts }) ∧
    FailsWith E (statement s.tables)

/-- Whatever comes of the call, what is shown of the store is as before. -/
def Keeps (f : Store → γ) (c : Call α) : Prop :=
  ∀ s, f (c s).store = f s

/-- Where the statement is done, what is shown of the store is as before. -/
def StatementKeeps (f : Store → γ) (statement : Tables → Except StoreError (Tables × α)) : Prop :=
  ∀ s ts a, statement s.tables = .ok (ts, a) → f { s with tables := ts } = f s

theorem bind_apply (c : Call α) (g : α → Call β) (s : Store) :
    (c >>= g) s = c.andThen g s :=
  rfl

theorem bind_of_ok {c : Call α} {s : Store} {a : α} (h : (c s).result = .ok a) (g : α → Call β) :
    ((c >>= g) s).store = (g a (c s).store).store ∧
      ((c >>= g) s).result = (g a (c s).store).result := by
  rw [bind_apply, andThen]
  simp only [h]
  trivial

theorem bind_of_error {c : Call α} {s : Store} {e : StoreError} (h : (c s).result = .error e)
    (g : α → Call β) :
    ((c >>= g) s).store = (c s).store ∧ ((c >>= g) s).result = .error e := by
  rw [bind_apply, andThen]
  simp only [h]
  trivial

theorem bind_of_answer {c : Call α} {s : Store} {a : α} (h : c s = answer a s) (g : α → Call β) :
    (c >>= g) s = g a s := by
  rw [bind_apply, andThen, h]
  rfl

/-- Calls that answered one after the other answered each. -/
theorem of_bind_ok {c : Call α} {g : α → Call β} {s : Store} {b : β}
    (h : ((c >>= g) s).result = .ok b) :
    ∃ a, (c s).result = .ok a ∧ (g a (c s).store).result = .ok b := by
  rcases ha : (c s).result with e | a
  · rw [(bind_of_error ha g).2] at h
    cases h
  · rw [(bind_of_ok ha g).2] at h
    exact ⟨a, rfl, h⟩

/-- To report what a call answered changes nothing else. -/
theorem bind_emit (c : Call α) (e : α → Event) (s : Store) :
    ((c >>= fun a => emit (e a) >>= fun _ => pure a) s).store = (c s).store ∧
      ((c >>= fun a => emit (e a) >>= fun _ => pure a) s).result = (c s).result := by
  rcases h : (c s).result with error | a
  · exact bind_of_error h _
  · exact bind_of_ok h _

protected theorem id_map (c : Call α) : id <$> c = c := by
  funext s
  show c.andThen answer s = c s
  unfold andThen
  rcases c s with ⟨store, events, _ | a⟩
  · rfl
  · simp [answer]

protected theorem pure_bind (a : α) (g : α → Call β) : pure a >>= g = g a := by
  funext s
  show (answer a).andThen g s = g a s
  simp [andThen, answer]

protected theorem bind_assoc (c : Call α) (g : α → Call β) (k : β → Call δ) :
    c >>= g >>= k = c >>= fun a => g a >>= k := by
  funext s
  show (c.andThen g).andThen k s = c.andThen (fun a => (g a).andThen k) s
  unfold andThen
  rcases c s with ⟨store, events, _ | a⟩
  · rfl
  · dsimp only
    rcases g a store with ⟨store', events', _ | b⟩ <;> simp

instance : LawfulMonad Call :=
  LawfulMonad.mk' Call Call.id_map Call.pure_bind Call.bind_assoc

@[simp]
theorem result_ofExcept (x : Except StoreError α) (s : Store) : (ofExcept x s).result = x := by
  cases x <;> rfl

theorem mapM_ofExcept (g : α → Except StoreError β) : ∀ as : List α,
    (as.mapM fun a => ofExcept (g a)) = ofExcept (as.mapM g)
  | [] => by
    rw [List.mapM_nil, List.mapM_nil]
    rfl
  | a :: as => by
    rw [List.mapM_cons, List.mapM_cons, mapM_ofExcept g as]
    funext s
    rcases g a with e | b
    · rfl
    · show (ofExcept (as.mapM g)).andThen _ s = _
      rcases as.mapM g with e | bs <;> rfl

@[simp]
theorem store_require (x : Except ValidationError Unit) (s : Store) : (require x s).store = s := by
  cases x <;> rfl

@[simp]
theorem store_acquire (s : Store) : (acquire s).store = s := by
  unfold acquire
  split
  · rfl
  · split <;> rfl

@[simp]
theorem store_query (g : Tables → Except StoreError α) (s : Store) : (query g s).store = s := by
  unfold query
  cases g s.tables <;> rfl

@[simp]
theorem result_query (g : Tables → Except StoreError α) (s : Store) :
    (query g s).result = g s.tables := by
  unfold query
  cases g s.tables <;> rfl

/-! ## What calls meet -/

section Meets

variable {R : Store → Store → Prop} {E : StoreError → Prop} [IsPreorder Store R]

theorem meets_pure (a : α) : Meets R E (pure a : Call α) :=
  fun s => ⟨refl s, failsWith_ok a⟩

theorem meets_emit (e : Event) : Meets R E (emit e) :=
  fun s => ⟨refl s, failsWith_ok ()⟩

theorem meets_view (g : Store → α) : Meets R E (view g) :=
  fun s => ⟨refl s, failsWith_ok (g s)⟩

theorem meetsAt_fail {e : StoreError} (h : E e) (s : Store) : MeetsAt R E s (fail e : Call α) :=
  ⟨refl s, failsWith_error h⟩

theorem MeetsAt.bind {c : Call α} {g : α → Call β} {s : Store} (hc : MeetsAt R E s c)
    (hg : ∀ a, (c s).result = .ok a → MeetsAt R E (c s).store (g a)) : MeetsAt R E s (c >>= g) := by
  obtain ⟨hstore, hfails⟩ := hc
  rcases h : (c s).result with e | a
  · rw [MeetsAt, (bind_of_error h g).1, (bind_of_error h g).2]
    exact ⟨hstore, failsWith_error (hfails e h)⟩
  · rw [MeetsAt, (bind_of_ok h g).1, (bind_of_ok h g).2]
    exact ⟨Trans.trans hstore (hg a h).1, (hg a h).2⟩

theorem Meets.bind {c : Call α} {g : α → Call β} (hc : Meets R E c) (hg : ∀ a, Meets R E (g a)) :
    Meets R E (c >>= g) :=
  fun s => (hc s).bind fun a _ => hg a _

theorem meetsAt_require_bind {x : Except ValidationError Unit} {g : Unit → Call β} {s : Store}
    (hx : ∀ cause, x = .error cause → E (.invalidArgument cause))
    (hg : x = .ok () → MeetsAt R E s (g ())) : MeetsAt R E s (require x >>= g) := by
  rcases x with cause | ⟨⟩
  · exact meetsAt_fail (hx cause rfl) s
  · exact hg rfl

theorem meets_require_bind {x : Except ValidationError Unit} {g : Unit → Call β}
    (hx : ∀ cause, x = .error cause → E (.invalidArgument cause))
    (hg : x = .ok () → Meets R E (g ())) : Meets R E (require x >>= g) :=
  fun s => meetsAt_require_bind hx fun hok => hg hok s

theorem meets_acquire (hE : ∀ e : StoreError, e.OfBackend → E e) : Meets R E acquire := by
  intro s
  rw [MeetsAt, store_acquire]
  refine ⟨refl s, ?_⟩
  unfold acquire
  split
  · exact failsWith_error (hE _ trivial)
  · split
    · exact failsWith_error (hE _ trivial)
    · exact failsWith_ok ()

theorem meetsAt_query {g : Tables → Except StoreError α} {s : Store} (h : FailsWith E (g s.tables)) :
    MeetsAt R E s (query g) := by
  rw [MeetsAt, store_query, result_query]
  exact ⟨refl s, h⟩

theorem meets_execute {statement : Tables → Except StoreError (Tables × α)}
    (h : StatementMeets R E statement) : Meets R E (execute statement) := by
  intro s
  obtain ⟨hdone, hfails⟩ := h s
  unfold MeetsAt execute
  rcases hs : statement s.tables with e | ⟨ts, a⟩
  · exact ⟨refl s, failsWith_error (hfails e hs)⟩
  · exact ⟨hdone ts a hs, failsWith_ok a⟩

theorem meets_forM {c : β → Call Unit} : ∀ {bs : List β}, (∀ b ∈ bs, Meets R E (c b)) →
    Meets R E (bs.forM c)
  | [], _ => meets_pure ()
  | b :: bs, h => by
    rw [List.forall_mem_cons] at h
    show Meets R E (c b >>= fun _ => bs.forM c)
    exact h.1.bind fun _ => meets_forM h.2

theorem meets_foldlM {c : α → β → Call α} : ∀ {bs : List β} {a : α},
    (∀ b ∈ bs, ∀ a, Meets R E (c a b)) → Meets R E (bs.foldlM c a)
  | [], a, _ => meets_pure a
  | b :: bs, a, h => by
    rw [List.foldlM_cons]
    rw [List.forall_mem_cons] at h
    exact (h.1 a).bind fun _ => meets_foldlM h.2

end Meets

/-! ## What calls keep -/

instance (f : Store → γ) : IsPreorder Store fun s t => f t = f s where
  refl _ := rfl
  trans _ _ _ hst htu := htu.trans hst

instance : IsPreorder Store fun _ _ => True where
  refl _ := trivial
  trans _ _ _ _ _ := trivial

theorem keeps_of_meets {c : Call α} (h : Meets (fun s t => f t = f s) (fun _ => True) c) : Keeps f c :=
  fun s => (h s).1

theorem Keeps.meets {c : Call α} (h : Keeps f c) : Meets (fun s t => f t = f s) (fun _ => True) c :=
  fun s => ⟨h s, fun _ _ => trivial⟩

theorem StatementKeeps.meets {statement : Tables → Except StoreError (Tables × α)}
    (h : StatementKeeps f statement) :
    StatementMeets (fun s t => f t = f s) (fun _ => True) statement :=
  fun s => ⟨h s, fun _ _ => trivial⟩

theorem keeps_pure (a : α) : Keeps f (pure a : Call α) :=
  fun _ => rfl

theorem keeps_fail (e : StoreError) : Keeps f (fail e : Call α) :=
  fun _ => rfl

theorem Keeps.bind {c : Call α} {g : α → Call β} (hc : Keeps f c) (hg : ∀ a, Keeps f (g a)) :
    Keeps f (c >>= g) :=
  keeps_of_meets (hc.meets.bind fun a => (hg a).meets)

theorem keeps_ofExcept (x : Except StoreError α) : Keeps f (ofExcept x) := by
  cases x
  · exact keeps_fail _
  · exact keeps_pure _

theorem keeps_emit (e : Event) : Keeps f (emit e) :=
  fun _ => rfl

theorem keeps_view (g : Store → α) : Keeps f (view g) :=
  fun _ => rfl

theorem keeps_acquire : Keeps f acquire := by
  intro s
  rw [store_acquire]

theorem keeps_query (g : Tables → Except StoreError α) : Keeps f (query g) := by
  intro s
  rw [store_query]

theorem keeps_statement (k : Kind) (shape : Sql.Shape) : Keeps f (statement k shape) := by
  unfold statement
  split
  · exact keeps_pure _
  · exact keeps_fail _

theorem keeps_execute {statement : Tables → Except StoreError (Tables × α)}
    (h : StatementKeeps f statement) : Keeps f (execute statement) :=
  keeps_of_meets (meets_execute h.meets)

theorem keeps_forM {c : β → Call Unit} {bs : List β} (h : ∀ b ∈ bs, Keeps f (c b)) :
    Keeps f (bs.forM c) :=
  keeps_of_meets (meets_forM fun b hb => (h b hb).meets)

theorem keeps_mapM {c : β → Call α} (h : ∀ b, Keeps f (c b)) : ∀ {bs : List β},
    Keeps f (bs.mapM c)
  | [] => by
    rw [List.mapM_nil]
    exact keeps_pure _
  | b :: bs => by
    rw [List.mapM_cons]
    exact (h b).bind fun _ => (keeps_mapM h).bind fun _ => keeps_pure _

end Call

/-! ## Batches -/

namespace Store

open Call

variable {α γ : Type} {R : Store → Store → Prop} {E : StoreError → Prop} [IsPreorder Store R]
  {f : Store → γ}

theorem meets_forBatches {items : List α} {c : List α → Nat → Call Unit}
    (h : ∀ batch index, (∀ a ∈ batch, a ∈ items) → Meets R E (c batch index)) :
    Meets R E (forBatches items c) :=
  (meets_view _).bind fun _ =>
    meets_forM fun x hx => h x.1 x.2 fun _ => mem_of_mem_zipIdx_batches hx

theorem meets_sumBatches {items : List α} {c : List α → Nat → Call Nat}
    (h : ∀ batch index, (∀ a ∈ batch, a ∈ items) → Meets R E (c batch index)) :
    Meets R E (sumBatches items c) :=
  (meets_view _).bind fun _ =>
    meets_foldlM fun x hx _ =>
      (h x.1 x.2 fun _ => mem_of_mem_zipIdx_batches hx).bind fun _ => meets_pure _

/-! ## Writes that span tables -/

theorem meets_runSteps {operation : Operation} {network : Uuid} : ∀ {steps : List Step}
    {completed : List String} {rows : Nat}, (∀ step ∈ steps, StatementMeets R E step.run) →
      Meets R E (runSteps operation network completed rows steps)
  | [], _, _, _ => meets_pure _
  | step :: steps, completed, rows, h => by
    rw [List.forall_mem_cons] at h
    intro s
    obtain ⟨hdone, hfails⟩ := h.1 s
    unfold MeetsAt runSteps
    rcases hrun : step.run s.tables with e | ⟨ts, n⟩
    · exact ⟨refl s, failsWith_error (hfails e hrun)⟩
    · have hreport : Meets R E ((step.report n).forM emit) := meets_forM fun e _ => meets_emit e
      obtain ⟨hstore, hrest⟩ := hreport.bind
        (fun _ => @meets_runSteps operation network steps (completed ++ [step.name]) (rows + n) h.2)
        { s with tables := ts }
      exact ⟨Trans.trans (hdone ts n hrun) hstore, hrest⟩

end Store

end GridStore
