import GridStore.Proofs.Rules
import GridStore.Proofs.Steps
import GridStore.Proofs.Requests

/-!
# Writes that stop part way

Deleting a network or a variant and copying them take one statement a table, the network table
first (`Request.Spans`). If one of the statements fails the call stops there: what it leaves is what
the statements before it did, each in full, it fails as the statement did, and it reports the step
that failed and those that were done, by name and in order. It fails in no other way
(`Request.call_stopped`).
-/

namespace GridStore

open Store (Step applySteps runSteps)

/-! ## Runs of steps -/

namespace Store

variable {e : StoreError}

/-- Steps that are done before one that fails are all that is done. -/
theorem runSteps_stopped (operation : Operation) (network : Uuid) {step : Step}
    (after : List Step) : ∀ {before : List Step} (completed : List String) {rows n : Nat} {s : Store}
    {ts : Tables},
      applySteps before rows s.tables = (ts, .ok n) → step.run ts = .error e →
        ∃ reports, runSteps operation network completed rows (before ++ step :: after) s
            = { store := { s with tables := ts }
                events := reports ++
                  [.writeStopped operation network step.name (completed ++ before.map Step.name) e]
                result := .error e } ∧
          ∀ event ∈ reports, ∃ done ∈ before, ∃ m, event ∈ done.report m
  | [], completed, rows, n, s, ts, hdone, hfail => by
    obtain ⟨rfl, -⟩ := Prod.mk.inj hdone
    refine ⟨[], ?_, List.forall_mem_nil _⟩
    rw [List.nil_append, runSteps_cons_of_error hfail, List.map_nil, List.append_nil]
    rfl
  | done :: before, completed, rows, n, s, ts, hdone, hfail => by
    rw [applySteps] at hdone
    rcases hrun : done.run s.tables with e' | ⟨ts₁, m⟩
    · rw [hrun] at hdone
      cases (Prod.mk.inj hdone).2
    · rw [hrun] at hdone
      obtain ⟨reports, hrest, hreports⟩ := @runSteps_stopped operation network step after before
        (completed ++ [done.name]) (rows + m) n { s with tables := ts₁ } ts hdone hfail
      refine ⟨done.report m ++ reports, ?_, List.forall_mem_append.2 ⟨?_, ?_⟩⟩
      · rw [List.cons_append, runSteps_cons_of_ok hrun, hrest, List.map_cons]
        simp
      · exact fun event hevent => ⟨done, List.mem_cons_self, m, hevent⟩
      · intro event hevent
        obtain ⟨step, hstep, hreport⟩ := hreports event hevent
        exact ⟨step, List.mem_cons_of_mem _ hstep, hreport⟩

/-- Steps fail where one of them does. -/
theorem exists_of_applySteps_error : ∀ {steps : List Step} {rows : Nat} {ts : Tables},
    (applySteps steps rows ts).2 = .error e → ∃ before step after ts' n,
      steps = before ++ step :: after ∧ applySteps before rows ts = (ts', .ok n) ∧
        step.run ts' = .error e
  | [], _, _, h => by cases h
  | step :: steps, rows, ts, h => by
    rw [applySteps] at h
    rcases hrun : step.run ts with e' | ⟨ts₁, m⟩
    · rw [hrun] at h
      obtain rfl := Except.error.inj h
      exact ⟨[], step, steps, ts, rows, rfl, rfl, hrun⟩
    · rw [hrun] at h
      obtain ⟨before, failed, after, ts', n, rfl, hdone, hfail⟩ := exists_of_applySteps_error h
      refine ⟨step :: before, failed, after, ts', n, rfl, ?_, hfail⟩
      rw [applySteps, hrun]
      exact hdone

/-- What steps leave that fail is what the first of them do. -/
theorem exists_take_of_applySteps_error {steps : List Step} {rows : Nat} {ts : Tables}
    (h : (applySteps steps rows ts).2 = .error e) : ∃ k < steps.length, ∃ m,
      applySteps (steps.take k) rows ts = ((applySteps steps rows ts).1, .ok m) := by
  obtain ⟨before, step, after, ts', n, rfl, hdone, hfail⟩ := exists_of_applySteps_error h
  refine ⟨before.length, by simp, n, ?_⟩
  rw [List.take_left, hdone, applySteps_append hdone, applySteps, hfail]

/-- What each of the steps keeps of the tables, they keep together. -/
theorem applySteps_keeps {γ : Type} {f : Tables → γ} {steps : List Step} {rows n : Nat}
    {ts ts' : Tables} (hkeeps : ∀ step ∈ steps, ∀ ts ts' m, step.run ts = .ok (ts', m) → f ts' = f ts)
    (h : applySteps steps rows ts = (ts', .ok n)) : f ts' = f ts := by
  have hkept : f (applySteps steps rows ts).1 = f ts :=
    applySteps_induction (I := fun t => f t = f ts) rfl fun step hstep ts₁ ts₂ m hrun hsame =>
      (hkeeps step hstep ts₁ ts₂ m hrun).trans hsame
  rwa [h] at hkept

end Store

/-! ## Writes that span tables -/

/-- A write that spans tables, on a store with some tables: as which it is reported and of which
network, the variants that it visits one after another, if they are told apart, and the statements
that it takes. -/
inductive Request.Spans :
    Request → Tables → Operation → Uuid → List (Option Int32) → List Step → Prop
  | deleteNetwork {network : Uuid} {ts : Tables} :
    Spans (.deleteNetwork network) ts .delete network [none] (Store.deleteNetworkSteps network)
  | deleteVariant {network : Uuid} {n : Int32} {ts : Tables}
    (hrule : Validation.deletableVariant network.text n = .ok ()) :
    Spans (.deleteVariant network n) ts .deleteVariant network [none]
      (Store.deleteVariantSteps network n)
  | cloneVariant {network : Uuid} {source target : Int32} {variantId : Option String}
    {fresh id : String} {ts : Tables} (hrule : Validation.cloneVariant source target = .ok ())
    (hid : Store.targetVariantId target variantId fresh = .ok id) :
    Spans (.cloneVariant network source target variantId fresh) ts .cloneVariant network [none]
      (Store.cloneVariantSteps network source target id)
  | cloneNetwork {target source : Uuid} {variantIds : List String} {variants : List Variant}
    {ts : Tables}
    (hrule : Validation.cloneNetwork target.text source.text variantIds = .ok ())
    (hread : Store.variantsOf source ts = .ok variants)
    (hnamed : ∀ id ∈ variantIds, ∃ x ∈ variants, x.id = id) :
    Spans (.cloneNetwork target source variantIds) ts .cloneNetwork target
      ((variants.filter (·.id ∈ variantIds)).map (some ·.num))
      ((variants.filter (·.id ∈ variantIds)).flatMap (Store.cloneIntoNetworkSteps target source))

/-- The rows that a step is about: those of its table, or where it is about a variant those of the
network in the variant. -/
def Store.Step.about (step : Step) (network : Uuid) (ts : Tables) : List Row :=
  match step.variantNum with
  | none => ts.rows step.kind
  | some n => ts.rowsIn step.kind network n

theorem Store.Step.about_congr {step : Step} {network : Uuid} {ts ts' : Tables}
    (h : ts'.rows step.kind = ts.rows step.kind) : step.about network ts' = step.about network ts := by
  unfold about
  split
  · exact h
  · rw [Tables.rowsIn, h, Tables.rowsIn]

/-- A report that a write stopped part way. -/
def Event.IsStop : Event → Prop
  | .writeStopped .. => True
  | _ => False

namespace Request.Spans

variable {q : Request} {s : Store} {ts ts' : Tables} {operation : Operation} {network : Uuid}
  {rounds : List (Option Int32)} {steps : List Step}

/-- In each round the statements visit all tables, the network table first. -/
theorem sequence (h : q.Spans ts operation network rounds steps) :
    (steps.map fun step => (step.variantNum, step.kind))
      = rounds.flatMap fun n => Kind.all.map fun k => (n, k) := by
  cases h with
  | cloneNetwork =>
    rw [List.map_flatMap, List.flatMap_map]
    rfl
  | _ => rfl

/-- Variants are visited in ascending order of their numbers. -/
theorem ascending (h : q.Spans ts operation network rounds steps) :
    rounds.Pairwise fun m n => ∀ i ∈ m, ∀ j ∈ n, i ≤ j := by
  cases h with
  | cloneNetwork _ hread _ =>
    refine List.pairwise_map.2 (((Store.perm_of_variantsOf hread).2.filter _).imp ?_)
    rintro x y hxy _ ⟨⟩ _ ⟨⟩
    exact hxy
  | _ => exact List.pairwise_singleton _ _

/-- No two steps are about the same, if no two rows of the network table share a key. -/
theorem nodup (h : q.Spans ts operation network rounds steps)
    (hunique : Table.Unique .network (ts.rows .network)) :
    (steps.map fun step => (step.variantNum, step.kind)).Nodup := by
  have hrounds : rounds.Nodup := by
    cases h with
    | cloneNetwork _ hread _ =>
      refine List.pairwise_map.2 (((Store.pairwise_lt_of_variantsOf hunique hread).filter _).imp ?_)
      intro x y hxy hsame
      exact Int32.ne_of_lt hxy (Option.some.inj hsame)
    | _ => exact List.nodup_singleton _
  rw [h.sequence]
  exact hrounds.product Kind.nodup_all

section Step

variable {step later : Step} {ts₁ ts₂ : Tables} {n : Nat}

/-- A step changes nothing but its own table. -/
theorem rows_of_run (h : q.Spans ts operation network rounds steps) (hstep : step ∈ steps)
    (hrun : step.run ts₁ = .ok (ts₂, n)) {k : Kind} (hk : k ≠ step.kind) :
    ts₂.rows k = ts₁.rows k := by
  cases h with
  | deleteNetwork | deleteVariant =>
    obtain ⟨j, -, rfl⟩ := List.mem_map.1 hstep
    exact (Tables.delete_ok hrun).1.rows_of_ne hk
  | cloneVariant =>
    obtain ⟨j, -, rfl⟩ := List.mem_map.1 hstep
    exact (Tables.copy_ok hrun).1.rows_of_ne hk
  | cloneNetwork =>
    obtain ⟨x, -, hstep⟩ := List.mem_flatMap.1 hstep
    obtain ⟨j, -, rfl⟩ := List.mem_map.1 hstep
    exact (Tables.copy_ok hrun).1.rows_of_ne hk

/-- A step changes nothing that another step is about. -/
theorem about_of_run (h : q.Spans ts operation network rounds steps) (hstep : step ∈ steps)
    (hrun : step.run ts₁ = .ok (ts₂, n)) (hlater : later ∈ steps)
    (hne : (step.variantNum, step.kind) ≠ (later.variantNum, later.kind)) :
    later.about network ts₂ = later.about network ts₁ := by
  by_cases hk : later.kind = step.kind
  · -- in the same table the other step is about another variant
    cases h with
    | cloneNetwork =>
      obtain ⟨x, -, hstep⟩ := List.mem_flatMap.1 hstep
      obtain ⟨y, -, hlater⟩ := List.mem_flatMap.1 hlater
      obtain ⟨j, -, rfl⟩ := List.mem_map.1 hstep
      obtain ⟨i, -, rfl⟩ := List.mem_map.1 hlater
      refine Tables.rowsIn_copy hrun (fun r hr => ?_) i
      rw [Bool.eq_false_iff, ne_eq, Row.isIn_toOtherNetwork, (Row.isIn_iff.1 hr).2]
      rintro ⟨-, hnum⟩
      obtain rfl : i = j := hk
      exact hne (congrArg (some · , i) (Cell.ofInt32_inj.1 hnum))
    | _ =>
      obtain ⟨j, -, rfl⟩ := List.mem_map.1 hstep
      obtain ⟨i, -, rfl⟩ := List.mem_map.1 hlater
      exact absurd (congrArg (none, ·) hk.symm) hne
  · exact Store.Step.about_congr (h.rows_of_run hstep hrun hk)

/-- What steps report does not say that a write stopped. -/
theorem not_isStop (h : q.Spans ts operation network rounds steps) (hstep : step ∈ steps) {m : Nat}
    {event : Event} (hevent : event ∈ step.report m) : ¬ event.IsStop := by
  cases h with
  | deleteNetwork | deleteVariant =>
    obtain ⟨j, -, rfl⟩ := List.mem_map.1 hstep
    exact absurd hevent List.not_mem_nil
  | cloneVariant =>
    obtain ⟨j, -, rfl⟩ := List.mem_map.1 hstep
    dsimp only [Store.cloneReport] at hevent
    cases j with
    | network =>
      dsimp only at hevent
      split at hevent
      · rw [List.mem_singleton.1 hevent]
        exact id
      · exact absurd hevent List.not_mem_nil
    | equipment k =>
      rw [List.mem_singleton.1 hevent]
      exact id
  | cloneNetwork =>
    obtain ⟨x, -, hstep⟩ := List.mem_flatMap.1 hstep
    obtain ⟨j, -, rfl⟩ := List.mem_map.1 hstep
    dsimp only at hevent
    split at hevent
    · rw [List.mem_singleton.1 hevent]
      exact id
    · exact absurd hevent List.not_mem_nil

end Step

/-- The call takes the steps, and answers if they are done. -/
theorem call_eq (hs : s.Available) (h : q.Spans s.tables operation network rounds steps) :
    ∃ finish : Nat → Call q.Answer, (∀ n t, ∃ a, (finish n t).result = .ok a) ∧
      q.call s = (runSteps operation network [] 0 steps >>= finish) s := by
  have hacquire := Call.acquire_of_available hs
  cases h with
  | deleteNetwork =>
    refine ⟨fun n => .emit (.networkDeleted network n) >>= fun _ => pure n, fun n _ => ⟨n, rfl⟩, ?_⟩
    exact Call.bind_of_answer hacquire _
  | @deleteVariant _ v _ hrule =>
    refine ⟨fun n => .emit (.variantDeleted network v n) >>= fun _ => pure n, fun n _ => ⟨n, rfl⟩, ?_⟩
    rw [Request.call, Store.deleteVariant, hrule]
    exact (Call.bind_of_answer rfl _).trans (Call.bind_of_answer hacquire _)
  | @cloneVariant _ source target _ _ id _ hrule hid =>
    refine ⟨fun n => .emit (.variantCloned network source target id n) >>= fun _ => pure n,
      fun n _ => ⟨n, rfl⟩, ?_⟩
    rw [Request.call, Store.cloneVariant, hrule, hid]
    exact (Call.bind_of_answer rfl _).trans (Call.bind_of_answer hacquire _)
  | @cloneNetwork _ source variantIds variants _ hrule hread hnamed =>
    refine ⟨fun n => .emit (.networkCloned source network variantIds.length n) >>= fun _ => pure n,
      fun n _ => ⟨n, rfl⟩, ?_⟩
    have hanswer : Store.readVariants source s = Call.answer variants s := by
      rw [Store.readVariants_eq, Call.query, hread]
      rfl
    have hfound : variantIds.find? (fun id => ¬ variants.any (·.id = id)) = none := by
      rw [List.find?_eq_none]
      simpa using hnamed
    rw [Request.call, Store.cloneNetwork, hrule]
    refine (Call.bind_of_answer rfl _).trans ((Call.bind_of_answer hacquire _).trans ?_)
    refine (Call.bind_of_answer hanswer _).trans ?_
    rw [hfound]
    rfl

end Request.Spans

/-- A write that spans tables stops at the first of its statements that fails. What it leaves is
what the statements before did, and neither what the failed one nor what the later ones are about
has changed. The call fails as the statement did, and reports the step that failed after those that
were done, by name and in order. It fails in no other way. -/
theorem Request.call_stopped {q : Request} {s : Store} {operation : Operation} {network : Uuid}
    {rounds : List (Option Int32)} {steps : List Step} (hs : s.Available)
    (h : q.Spans s.tables operation network rounds steps) :
    (steps.map fun step => (step.variantNum, step.kind))
        = rounds.flatMap (fun n => Kind.all.map fun k => (n, k)) ∧
      rounds.Pairwise (fun m n => ∀ i ∈ m, ∀ j ∈ n, i ≤ j) ∧
      (∀ before step after ts n e, steps = before ++ step :: after →
        applySteps before 0 s.tables = (ts, .ok n) → step.run ts = .error e →
          (q.call s).store = { s with tables := ts } ∧ (q.call s).result = .error e ∧
          (∃ reports, (q.call s).events = reports ++
              [.writeStopped operation network step.name (before.map Step.name) e] ∧
            ∀ event ∈ reports, ¬ event.IsStop) ∧
          (∀ k, k ∉ before.map Step.kind → ts.rows k = s.tables.rows k) ∧
          (Table.Unique .network (s.tables.rows .network) →
            ∀ later ∈ step :: after, later.about network ts = later.about network s.tables)) ∧
      ∀ e, (q.call s).result = .error e → ∃ before step after ts n,
        steps = before ++ step :: after ∧ applySteps before 0 s.tables = (ts, .ok n) ∧
          step.run ts = .error e := by
  obtain ⟨finish, hfinish, hcall⟩ := h.call_eq hs
  refine ⟨h.sequence, h.ascending, ?_, ?_⟩
  · rintro before step after ts n e rfl hdone hfail
    have hbefore {done : Step} (hdone : done ∈ before) : done ∈ before ++ step :: after :=
      List.mem_append_left _ hdone
    obtain ⟨reports, hrun, hreports⟩ := Store.runSteps_stopped operation network after [] hdone hfail
    have hcall : q.call s = { store := { s with tables := ts }
                              events := reports ++
                                [.writeStopped operation network step.name (before.map Step.name) e]
                              result := .error e } := by
      rw [hcall, Call.bind_apply, Call.andThen, hrun]
      rfl
    rw [hcall]
    refine ⟨rfl, rfl, ⟨reports, rfl, fun event hevent => ?_⟩, fun k hk => ?_,
      fun hunique later hlater => ?_⟩
    · obtain ⟨done, hmem, m, hreport⟩ := hreports event hevent
      exact h.not_isStop (hbefore hmem) hreport
    · refine Store.applySteps_keeps (f := fun ts => ts.rows k)
        (fun done hmem ts₁ ts₂ m hrun => ?_) hdone
      refine h.rows_of_run (hbefore hmem) hrun fun hsame => hk ?_
      exact hsame ▸ List.mem_map_of_mem hmem
    · have hdistinct := h.nodup hunique
      rw [List.map_append] at hdistinct
      refine Store.applySteps_keeps (f := later.about network)
        (fun done hmem ts₁ ts₂ m hrun => ?_) hdone
      exact h.about_of_run (hbefore hmem) hrun (List.mem_append_right _ hlater)
        ((List.nodup_append.1 hdistinct).2.2 _ (List.mem_map_of_mem hmem) _
          (List.mem_map_of_mem hlater))
  · intro e he
    rw [hcall] at he
    rcases hrun : (runSteps operation network [] 0 steps s).result with e' | n
    · rw [(Call.bind_of_error hrun finish).2] at he
      obtain rfl := Except.error.inj he
      rw [Store.runSteps_result] at hrun
      exact Store.exists_of_applySteps_error hrun
    · obtain ⟨a, ha⟩ := hfinish n (runSteps operation network [] 0 steps s).store
      rw [(Call.bind_of_ok hrun finish).2, ha] at he
      cases he

/-- A copy that finds the id of a load in both variants stops at the loads. -/
theorem Request.call_stopped_load :
    let s : Store := { Store.single with
      tables := Store.single.tables.setRows (.equipment .load)
        [.ofEquipment .nil (.of "a" 0 (default : Load)),
          .ofEquipment .nil (.of "a" 1 (default : Load))] }
    let q : Request := .cloneVariant .nil 0 1 (some "copy") ""
    let e : StoreError := .uniqueViolation "load" ["networkUuid", "variantNum", "id"]
    s.Available ∧
      q.Spans s.tables .cloneVariant .nil [none] (Store.cloneVariantSteps .nil 0 1 "copy") ∧
      (q.call s).result = .error e ∧
      ∃ reports, (q.call s).events = reports ++ [.writeStopped .cloneVariant .nil "load"
        ["network", "substation", "voltageLevel", "generator", "battery"] e] := by
  intro s q e
  have hs : s.Available := ⟨rfl, by decide⟩
  have hspans : q.Spans s.tables .cloneVariant .nil [none] (Store.cloneVariantSteps .nil 0 1 "copy") :=
    .cloneVariant rfl rfl
  let steps := Store.cloneVariantSteps .nil 0 1 "copy"
  have hdone : applySteps (steps.take 5) 0 s.tables
      = ((applySteps (steps.take 5) 0 s.tables).1, .ok 1) := rfl
  obtain ⟨-, -, hstopped, -⟩ := call_stopped hs hspans
  obtain ⟨-, hresult, ⟨reports, hevents, -⟩, -⟩ := hstopped (steps.take 5) steps[5] (steps.drop 6) _ _ e
    rfl hdone rfl
  exact ⟨hs, hspans, hresult, reports, hevents⟩

end GridStore
