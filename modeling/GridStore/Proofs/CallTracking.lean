import GridStore.Proofs.Tracking

/-!
# Calls that track changes

A call tracks a change if, on a store that holds contents and has a connection for it, it leaves a
store that holds what the change leaves, and succeeds if the change is not refused (`Call.Tracks`).
One call after another tracks one change after another, until one fails; so do loops, batches and
the steps of a write that spans tables.
-/

namespace GridStore

/-- A store that holds contents, with a connection for calls. -/
structure Store.Holds (s : Store) (c : Contents) : Prop where
  available : s.Available
  tables : s.tables.Holds c

theorem Except.not_exists_ok {ε α : Type} (e : ε) : ¬ ∃ a : α, (.error e : Except ε α) = .ok a := by
  rintro ⟨a, ha⟩
  cases ha

/-! ## Calls -/

namespace Call

variable {α β : Type} {call : Call α} {a b : Change}

/-- The call leaves what holds what the change leaves, and succeeds if the change is done. -/
def Tracks (call : Call α) (change : Change) : Prop :=
  ∀ s c, s.Holds c → (call s).store.Holds (change c).1 ∧
    ((∃ v, (call s).result = .ok v) ↔ (change c).2 = true)

theorem Keeps.holds (hkeeps : Keeps id call) {s : Store} {c : Contents} (h : s.Holds c) :
    (call s).store.Holds c := by
  have hkept : (call s).store = s := hkeeps s
  rw [hkept]
  exact h

theorem tracks_of_keeps (hkeeps : Keeps id call)
    (hok : ∀ s : Store, s.Available → ∃ v, (call s).result = .ok v) : Tracks call .done :=
  fun s _ h => ⟨hkeeps.holds h, iff_of_true (hok s h.available) rfl⟩

theorem tracks_pure (v : α) : Tracks (pure v) .done :=
  tracks_of_keeps (keeps_pure v) fun _ _ => ⟨v, rfl⟩

theorem tracks_emit (e : Event) : Tracks (emit e) .done :=
  tracks_of_keeps (keeps_emit e) fun _ _ => ⟨(), rfl⟩

theorem tracks_acquire : Tracks acquire .done :=
  tracks_of_keeps keeps_acquire fun _ hs => ⟨(), result_acquire hs⟩

theorem tracks_view (f : Store → α) : Tracks (view f) .done :=
  tracks_of_keeps (keeps_view f) fun s _ => ⟨f s, rfl⟩

theorem tracks_fail (e : StoreError) : Tracks (fail e : Call α) .refused :=
  fun _ _ h => ⟨h, iff_of_false (Except.not_exists_ok e) Bool.false_ne_true⟩

theorem Tracks.bind {g : α → Call β} (hcall : Tracks call a) (hg : ∀ v, Tracks (g v) b) :
    Tracks (call >>= g) (a.andThen b) := by
  intro s c h
  obtain ⟨hstore, hresult⟩ := hcall s c h
  rw [Change.andThen]
  -- where the first change is refused the first call has failed, and nothing follows
  rcases hchange : a c with ⟨c', _ | _⟩ <;> rw [hchange] at hstore hresult
  · rcases hcalled : (call s).result with e | v
    · rw [(bind_of_error hcalled g).1, (bind_of_error hcalled g).2]
      exact ⟨hstore, iff_of_false (Except.not_exists_ok e) Bool.false_ne_true⟩
    · exact absurd (hresult.1 ⟨v, hcalled⟩) Bool.false_ne_true
  · obtain ⟨v, hv⟩ := hresult.2 rfl
    rw [(bind_of_ok hv g).1, (bind_of_ok hv g).2]
    exact hg v _ _ hstore

theorem Tracks.done_bind {g : α → Call β} (hcall : Tracks call .done) (hg : ∀ v, Tracks (g v) b) :
    Tracks (call >>= g) b :=
  hcall.bind hg

/-- What follows only reports and answers. -/
theorem Tracks.bind_done {g : α → Call β} (hcall : Tracks call a) (hg : ∀ v, Tracks (g v) .done) :
    Tracks (call >>= g) a := by
  have h := hcall.bind hg
  rwa [Change.andThen_done] at h

/-- To report what a call answered changes nothing else. -/
theorem Tracks.bind_emit (h : Tracks call a) (e : α → Event) :
    Tracks (call >>= fun v => emit (e v) >>= fun _ => pure v) a :=
  h.bind_done fun v => (tracks_emit (e v)).bind_done fun _ => tracks_pure v

theorem tracks_require_bind {rule : Except ValidationError Unit} {g : Unit → Call β}
    (hg : ∀ v, Tracks (g v) b) : Tracks (require rule >>= g) (.given rule b) := by
  rcases rule with e | ⟨⟩
  · exact (tracks_fail (.invalidArgument e) : Tracks (fail _ : Call Unit) .refused).bind hg
  · exact (tracks_pure ()).bind hg

theorem tracks_execute {statement : Tables → Except StoreError (Tables × α)}
    (h : Tables.Tracks statement a) : Tracks (execute statement) a := by
  intro s c hs
  unfold execute
  rcases h s.tables c hs.tables with ⟨ts, v, c', hdone, hchange, hholds⟩ | ⟨⟨e, he⟩, hchange⟩
  · rw [hdone, hchange]
    exact ⟨⟨⟨hs.available.isOpen, hs.available.free⟩, hholds⟩, iff_of_true ⟨v, rfl⟩ rfl⟩
  · rw [he, hchange]
    exact ⟨hs, iff_of_false (Except.not_exists_ok e) Bool.false_ne_true⟩

theorem tracks_forM {f : β → Call Unit} {change : β → Change} : ∀ {bs : List β},
    (∀ b ∈ bs, Tracks (f b) (change b)) → Tracks (bs.forM f) (.inOrder (bs.map change))
  | [], _ => tracks_pure ()
  | b :: bs, h => by
    rw [List.forall_mem_cons] at h
    show Tracks (f b >>= fun _ => bs.forM f) ((change b).andThen (.inOrder (bs.map change)))
    exact h.1.bind fun _ => tracks_forM h.2

theorem tracks_forM_map {γ : Type} {g : γ → β} {f : β → Call Unit} {change : γ → Change} {cs : List γ}
    (h : ∀ x ∈ cs, Tracks (f (g x)) (change x)) :
    Tracks ((cs.map g).forM f) (.inOrder (cs.map change)) := by
  have hmap : (cs.map g).forM f = cs.forM fun x => f (g x) := List.forM_map
  rw [hmap]
  exact tracks_forM h

theorem tracks_foldlM {f : α → β → Call α} {change : β → Change} : ∀ {bs : List β} {v : α},
    (∀ b ∈ bs, ∀ v, Tracks (f v b) (change b)) → Tracks (bs.foldlM f v) (.inOrder (bs.map change))
  | [], v, _ => tracks_pure v
  | b :: bs, v, h => by
    rw [List.forall_mem_cons] at h
    rw [List.foldlM_cons]
    exact (h.1 v).bind fun _ => tracks_foldlM h.2

end Call

/-! ## Batches and steps -/

namespace Store

open Call

theorem forBatches_map {α β : Type} (g : α → β) (as : List α) (f : List β → Nat → Call Unit) :
    forBatches (as.map g) f = forBatches as fun batch index => f (batch.map g) index := by
  unfold forBatches
  refine congrArg _ (funext fun size => ?_)
  rw [batches_map, List.zipIdx_map]
  exact List.forM_map

variable {α : Type} {items : List α} {change : α → Change}

theorem inOrder_batches (size : Nat) (items : List α) (change : α → Change) :
    Change.inOrder ((batches size items).zipIdx.map fun x => .inOrder (x.1.map change))
      = .inOrder (items.map change) := by
  have hfst : (batches size items).zipIdx.map (fun x => Change.inOrder (x.1.map change))
      = ((batches size items).zipIdx.map Prod.fst).map fun batch => .inOrder (batch.map change) := by
    rw [List.map_map]
    rfl
  rw [hfst, List.zipIdx_map_fst, ← Change.inOrder_flatMap, List.flatMap_def, ← List.map_flatten,
    flatten_batches]

theorem tracks_forBatches {f : List α → Nat → Call Unit}
    (h : ∀ batch index, (∀ a ∈ batch, a ∈ items) → Tracks (f batch index) (.inOrder (batch.map change))) :
    Tracks (forBatches items f) (.inOrder (items.map change)) := by
  refine (tracks_view _).done_bind fun size => ?_
  rw [← inOrder_batches size items change]
  exact tracks_forM fun x hx => h x.1 x.2 fun _ => mem_of_mem_zipIdx_batches hx

theorem tracks_sumBatches {f : List α → Nat → Call Nat}
    (h : ∀ batch index, (∀ a ∈ batch, a ∈ items) → Tracks (f batch index) (.inOrder (batch.map change))) :
    Tracks (sumBatches items f) (.inOrder (items.map change)) := by
  refine (tracks_view _).done_bind fun size => ?_
  rw [← inOrder_batches size items change]
  refine tracks_foldlM fun x hx total => ?_
  exact (h x.1 x.2 fun _ => mem_of_mem_zipIdx_batches hx).bind_done fun _ => tracks_pure _

/-- Steps that track changes one by one. -/
def StepsTrack (steps : List Step) (changes : List Change) : Prop :=
  List.Forall₂ (fun step change => Tables.Tracks step.run change) steps changes

theorem applySteps_holds {steps : List Step} {changes : List Change} (h : StepsTrack steps changes)
    (rows : Nat) {ts : Tables} {c : Contents} (hts : ts.Holds c) :
    (applySteps steps rows ts).1.Holds (Change.inOrder changes c).1 ∧
      ((∃ n, (applySteps steps rows ts).2 = .ok n) ↔ (Change.inOrder changes c).2 = true) := by
  induction h generalizing rows ts c with
  | nil => exact ⟨hts, iff_of_true ⟨rows, rfl⟩ rfl⟩
  | @cons step change steps changes hstep _ ih =>
    have hinOrder : Change.inOrder (change :: changes) = change.andThen (.inOrder changes) := rfl
    rw [hinOrder, Change.andThen, applySteps]
    rcases hstep ts c hts with ⟨ts', n, c', hdone, hchange, hholds⟩ | ⟨⟨e, he⟩, hchange⟩
    · rw [hdone, hchange]
      exact ih (rows + n) hholds
    · rw [he, hchange]
      exact ⟨hts, iff_of_false (Except.not_exists_ok e) Bool.false_ne_true⟩

theorem tracks_runSteps {steps : List Step} {changes : List Change} (h : StepsTrack steps changes)
    (operation : Operation) (network : Uuid) :
    Tracks (runSteps operation network [] 0 steps) (.inOrder changes) := by
  intro s c hs
  obtain ⟨hholds, hdone⟩ := applySteps_holds h 0 hs.tables
  rw [runSteps_store, runSteps_result]
  exact ⟨⟨⟨hs.available.isOpen, hs.available.free⟩, hholds⟩, hdone⟩

theorem stepsTrack_map {step : Kind → Step} {change : Kind → Change}
    (h : ∀ k, Tables.Tracks (step k).run (change k)) :
    StepsTrack (Kind.all.map step) (Kind.all.map change) :=
  List.forall₂_map_left_iff.2 (List.forall₂_map_right_iff.2 (List.forall₂_same.2 fun k _ => h k))

end Store

end GridStore
