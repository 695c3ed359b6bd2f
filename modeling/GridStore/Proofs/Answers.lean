import GridStore.Proofs.Batches

/-!
# What calls answer and warn of

A call answers (`Call.Answers`) if it leaves a store, warns of some events and gives an answer.
Sums over batches answer what the sum over all items does, and warn of the same
(`Store.answers_sumBatches`): a batch adds a connection and a report, and neither is a warning.
-/

namespace GridStore

/-- Whether an event is a warning. -/
def Event.isWarning (e : Event) : Bool :=
  e.line.level = .warn

namespace Call

variable {α β : Type}

/-- From a store the call leaves another, warns of these events, in order, and gives an answer. -/
structure Answers (c : Call α) (s t : Store) (warnings : List Event) (a : α) : Prop where
  store : (c s).store = t
  warnings : (c s).events.filter Event.isWarning = warnings
  result : (c s).result = .ok a

variable {c : Call α} {f : α → Call β} {s t u : Store} {ws ws' : List Event} {a : α} {b : β}

theorem answers_pure (a : α) (s : Store) : Answers (pure a) s s [] a :=
  ⟨rfl, rfl, rfl⟩

theorem answers_acquire (h : s.Available) : Answers acquire s s [] () := by
  have hacquire : acquire s = answer () s := acquire_of_available h
  exact ⟨by rw [hacquire]; rfl, by rw [hacquire]; rfl, by rw [hacquire]; rfl⟩

theorem answers_execute {statement : Tables → Except StoreError (Tables × α)} {ts : Tables}
    (h : statement s.tables = .ok (ts, a)) :
    Answers (execute statement) s { s with tables := ts } [] a := by
  have hexecute := execute_of_ok h
  exact ⟨by rw [hexecute]; rfl, by rw [hexecute]; rfl, by rw [hexecute]; rfl⟩

theorem answers_emit (e : Event) (s : Store) :
    Answers (emit e) s s (if e.isWarning then [e] else []) () := by
  refine ⟨rfl, ?_, rfl⟩
  show [e].filter Event.isWarning = _
  rw [List.filter_cons, List.filter_nil]

theorem Answers.bind (h : Answers c s t ws a) (h' : Answers (f a) t u ws' b) :
    Answers (c >>= f) s u (ws ++ ws') b := by
  obtain ⟨rfl, rfl, hok⟩ := h
  obtain ⟨rfl, rfl, hok'⟩ := h'
  refine ⟨(bind_of_ok hok f).1, ?_, (bind_of_ok hok f).2.trans hok'⟩
  rw [bind_apply, andThen]
  simp only [hok, List.filter_append]

theorem Answers.of_bind (h : Answers (c >>= f) s u ws b) : ∃ t ws₁ ws₂ a,
    Answers c s t ws₁ a ∧ Answers (f a) t u ws₂ b ∧ ws = ws₁ ++ ws₂ := by
  obtain ⟨rfl, rfl, hok⟩ := h
  obtain ⟨a, ha, hb⟩ := of_bind_ok hok
  refine ⟨_, _, _, a, ⟨rfl, rfl, ha⟩, ⟨(bind_of_ok ha f).1.symm, rfl, hb⟩, ?_⟩
  rw [bind_apply, andThen]
  simp only [ha, List.filter_append]

/-- A call that does no more than report something that is no warning. -/
theorem Answers.bind_report (h : Answers c s t ws a) {e : Event} (he : e.isWarning = false) :
    Answers (c >>= fun a => emit e >>= fun _ => pure a) s t ws a := by
  have hreport := (answers_emit e t).bind (f := fun _ => pure a) (answers_pure a t)
  rw [he, if_neg Bool.false_ne_true, List.append_nil] at hreport
  have hall := h.bind (f := fun a => emit e >>= fun _ => pure a) hreport
  rwa [List.append_nil] at hall

/-- A call that warns where it answers 0. -/
theorem Answers.bind_warn {c : Call Nat} {n : Nat} (h : Answers c s t ws n) {e : Event}
    (he : e.isWarning = true) :
    Answers (c >>= fun n => if n = 0 then emit e >>= fun _ => pure n else pure n) s t
      (ws ++ if n = 0 then [e] else []) n := by
  refine h.bind ?_
  split
  · have hwarn := (answers_emit e t).bind (f := fun _ => pure n) (answers_pure n t)
    rwa [if_pos he, List.append_nil] at hwarn
  · exact answers_pure n t

/-! ## Sums -/

variable {d : α → Call Nat} {as bs : List α} {m n : Nat}

theorem answers_total_cons (h : Answers (d a) s t ws m) (h' : Answers (total d as) t u ws' n) :
    Answers (total d (a :: as)) s u (ws ++ ws') (m + n) := by
  have hsum := h.bind (f := fun m => do
    let n ← total d as
    return m + n) (h'.bind (answers_pure _ u))
  rwa [List.append_nil] at hsum

/-- A sum answers in two parts, one after the other. -/
theorem Answers.of_total_append : ∀ {as : List α} {s : Store} {ws : List Event} {n : Nat},
    Answers (total d (as ++ bs)) s u ws n → ∃ t ws₁ ws₂ m l, Answers (total d as) s t ws₁ m ∧
      Answers (total d bs) t u ws₂ l ∧ ws = ws₁ ++ ws₂ ∧ n = m + l
  | [], s, ws, n, h => ⟨s, [], ws, 0, n, answers_pure 0 s, h, rfl, (Nat.zero_add n).symm⟩
  | a :: as, s, ws, n, h => by
    obtain ⟨t, ws₁, _, m, ha, hrest, rfl⟩ := h.of_bind
    obtain ⟨u', ws', none', l, hparts, ⟨hstore, hnone, hn⟩, rfl⟩ := hrest.of_bind
    obtain rfl := hstore.symm
    obtain rfl : none' = [] := hnone.symm
    obtain ⟨t', ws₂, ws₃, l₁, l₂, has, hbs, rfl, rfl⟩ := Answers.of_total_append hparts
    refine ⟨t', ws₁ ++ ws₂, ws₃, m + l₁, l₂, answers_total_cons ha has, hbs, ?_, ?_⟩
    · rw [List.append_nil, List.append_assoc]
    · rw [Nat.add_assoc]
      exact (Except.ok.inj hn).symm

end Call

namespace Store

open Call

variable {α : Type} {c : α → Call Nat} {s t : Store} {ws : List Event} {n : Nat}

theorem keeps_total (hc : ∀ a, Keeps pool (c a)) : ∀ as, Keeps pool (total c as)
  | [] => keeps_pure 0
  | a :: as => (hc a).bind fun _ => (keeps_total hc as).bind fun _ => keeps_pure _

theorem answers_total_batches (hc : ∀ a, Keeps pool (c a)) {batch : List α × Nat → Call Nat}
    (hbatch : ∀ {x s t ws n}, s.Available → Answers (total c x.1) s t ws n →
      Answers (batch x) s t ws n) (size : Nat) (as : List α) :
    ∀ {index s t ws n}, s.Available → Answers (total c as) s t ws n →
      Answers (total batch ((batches size as).zipIdx index)) s t ws n := by
  fun_induction batches size as with
  | case1 => exact fun _ h => h
  | case2 a as ih =>
    intro index s u ws n hs h
    rw [← List.take_append_drop (size - 1) as, ← List.cons_append] at h
    obtain ⟨t, ws₁, ws₂, m, l, hfirst, hrest, rfl, rfl⟩ := h.of_total_append
    have hpool : t.pool = s.pool := hfirst.store ▸ keeps_total hc _ s
    have ht : t.Available := ⟨hpool ▸ hs.isOpen, hpool ▸ hs.free⟩
    rw [List.zipIdx_cons]
    exact answers_total_cons (hbatch hs hfirst) (ih ht hrest)

/-- Sums over batches answer what the sum over all items does. -/
theorem answers_sumBatches (hc : ∀ a, Keeps pool (c a)) {f : List α → Nat → Call Nat}
    (hf : ∀ {batch index s t ws n}, s.Available → Answers (total c batch) s t ws n →
      Answers (f batch index) s t ws n) {items : List α} (hs : s.Available)
    (h : Answers (total c items) s t ws n) : Answers (sumBatches items f) s t ws n := by
  have hfold := foldlM_eq_total (fun x : List α × Nat => f x.1 x.2)
    (batches s.batchSize items).zipIdx
  have hsum : sumBatches items f s
      = total (fun x : List α × Nat => f x.1 x.2) (batches s.batchSize items).zipIdx s := by
    rw [← hfold]
    exact view_bind _ _ s
  obtain ⟨hstore, hwarnings, hresult⟩ := @answers_total_batches α c hc
    (fun x => f x.1 x.2) hf s.batchSize items 0 s t ws n hs h
  exact ⟨hsum ▸ hstore, hsum ▸ hwarnings, hsum ▸ hresult⟩

end Store

end GridStore
