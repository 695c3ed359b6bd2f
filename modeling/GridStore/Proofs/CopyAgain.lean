import GridStore.Proofs.Deletion
import GridStore.Proofs.OccupiedTarget

/-!
# Copying again

A copy of a variant that stops part way has put rows at its target and nowhere else
(`Tables.AgreeOutside`), and deleting the target takes away these and what stood there before. With
the target empty no number and no equipment is taken any more, nor the id, if no other variant has
it. So the copy is done when it is made again (`Store.cloneVariant_recovers`).
-/

namespace GridStore

namespace Tables

/-- Two groups of tables hold the same outside a variant. -/
structure AgreeOutside (network : Uuid) (n : Int32) (ts ts' : Tables) : Prop where
  present : ∀ k, (ts'.table? k).isSome = (ts.table? k).isSome
  rows : ∀ k, ((ts'.rows k).filter fun r => !r.isIn network n)
    = (ts.rows k).filter fun r => !r.isIn network n

namespace AgreeOutside

variable {network : Uuid} {n target : Int32} {ts ts' ts'' : Tables} {k : Kind}

theorem trans (h : AgreeOutside network n ts ts') (h' : AgreeOutside network n ts' ts'') :
    AgreeOutside network n ts ts'' :=
  ⟨fun k => (h'.present k).trans (h.present k), fun k => (h'.rows k).trans (h.rows k)⟩

theorem rowsIn (h : AgreeOutside network target ts ts') (hne : n ≠ target) :
    ts'.rowsIn k network n = ts.rowsIn k network n := by
  have houtside (rows : List Row) : rows.filter (·.isIn network n)
      = (rows.filter fun r => !r.isIn network target).filter (·.isIn network n) := by
    rw [List.filter_filter]
    refine List.filter_congr fun r _ => ?_
    by_cases hr : r.isIn network n = true
    · have hout : r.isIn network target = false :=
        Bool.eq_false_iff.2 fun hin => hne (Row.eq_of_isIn hr hin).2
      simp [hr, hout]
    · simp [hr]
  rw [Tables.rowsIn, houtside, h.rows, ← houtside, Tables.rowsIn]

/-- Tables without rows of the variant hold what others hold outside of it. -/
theorem rows_eq (h : AgreeOutside network n ts ts') (hnone : ∀ k, ts'.rowsIn k network n = [])
    (k : Kind) : ts'.rows k = (ts.rows k).filter fun r => !r.isIn network n := by
  rw [← h.rows, List.filter_eq_self.2]
  intro r hr
  simpa using List.filter_eq_nil_iff.1 (hnone k) r hr

theorem without (ts : Tables) : AgreeOutside network n ts (ts.without (·.isIn network n) Kind.all) where
  present k := isSome_table?_without _
  rows k := by
    rw [rows_without_all, List.filter_filter]
    simp

/-- Steps that copy rows to a variant change nothing outside of it. -/
theorem of_steps {source : Int32} {id : String} {steps : List Store.Step} {rows m : Nat}
    (hsteps : ∀ step ∈ steps, step ∈ Store.cloneVariantSteps network source target id)
    (hdone : Store.applySteps steps rows ts = (ts', .ok m)) :
    AgreeOutside network target ts ts' := by
  have hcopy (step : Store.Step) (hstep : step ∈ steps) (ts ts' : Tables) (n : Nat)
      (hrun : step.run ts = .ok (ts', n)) : AgreeOutside network target ts ts' := by
    obtain ⟨k, -, rfl⟩ := List.mem_map.1 (hsteps step hstep)
    refine ⟨(copy_ok hrun).1.isSome_table?, filter_rows_copy hrun fun r hr => ?_⟩
    rw [Row.isIn_toVariantNum.2 ⟨(Row.isIn_iff.1 hr).1, rfl⟩]
    rfl
  refine ⟨fun k => ?_, fun k => ?_⟩
  · exact Store.applySteps_keeps (f := fun ts => (ts.table? k).isSome)
      (fun step hstep ts ts' n hrun => (hcopy step hstep ts ts' n hrun).present k) hdone
  · exact Store.applySteps_keeps (f := fun ts => (ts.rows k).filter fun r => !r.isIn network target)
      (fun step hstep ts ts' n hrun => (hcopy step hstep ts ts' n hrun).rows k) hdone

end AgreeOutside

/-- Keys stay keys when rows go. -/
theorem Keyed.of_filter {ts ts' : Tables} {q : Row → Bool} (h : ts.Keyed)
    (hpresent : ∀ k, (ts'.table? k).isSome = (ts.table? k).isSome)
    (hrows : ∀ k, ts'.rows k = (ts.rows k).filter q) : ts'.Keyed where
  present k := (hpresent k).trans (h.present k)
  unique k := by
    rw [hrows]
    exact (h.unique k).filter q
  named r hr := by
    rw [hrows] at hr
    exact h.named r (List.mem_filter.1 hr).1
  unnamed k r hr := by
    rw [hrows] at hr
    exact h.unnamed k r (List.mem_filter.1 hr).1

/-- A variant can be copied to a number without rows, under an id that no variant has. -/
theorem canCopyVariant_of_free {ts : Tables} {network : Uuid} {source target : Int32} {id : String}
    (hnone : ∀ k, ts.rowsIn k network target = [])
    (hfree : ∀ r ∈ ts.rows .network, r.isOf network = true → r.variantId ≠ some (.text id)) :
    ts.CanCopyVariant network source target id where
  equipment k r _ t ht := by
    rw [hnone] at ht
    exact absurd ht List.not_mem_nil
  network _ := ⟨hnone .network, hfree⟩

end Tables

namespace Store

variable {s left : Store} {network : Uuid} {source target : Int32} {id fresh : String}

/-- A copy of a variant may leave a store: it stopped after some of its tables, or all. -/
def LeftByCopy (s : Store) (network : Uuid) (source target : Int32) (id : String) (left : Store) :
    Prop :=
  ∃ k m, applySteps ((cloneVariantSteps network source target id).take k) 0 s.tables
      = (left.tables, .ok m) ∧ left = { s with tables := left.tables }

theorem LeftByCopy.agreeOutside (h : s.LeftByCopy network source target id left) :
    Tables.AgreeOutside network target s.tables left.tables := by
  obtain ⟨k, m, hdone, -⟩ := h
  exact .of_steps (fun step hstep => List.mem_of_mem_take hstep) hdone

theorem LeftByCopy.available (h : s.LeftByCopy network source target id left) (hs : s.Available) :
    left.Available := by
  obtain ⟨k, m, -, hleft⟩ := h
  exact hs.of_tables hleft

/-- Where a copy stopped the target can be deleted, and then nothing but its rows is gone. -/
theorem LeftByCopy.deleteVariant (h : s.LeftByCopy network source target id left) (hs : s.Available)
    (hkeyed : s.tables.Keyed) (htarget : 0 < target) :
    let cleared := Store.deleteVariant network target left
    (∃ n, cleared.result = .ok n) ∧ cleared.store.Available ∧
      Tables.AgreeOutside network target s.tables cleared.store.tables ∧
      ∀ k, cleared.store.tables.rowsIn k network target = [] := by
  intro cleared
  have hdelete := deletes_deleteVariant network htarget
  have hleft := h.available hs
  obtain ⟨n, hn⟩ : ∃ n, cleared.result = .ok n :=
    ⟨_, hdelete.result_eq_ok_iff.2
      ⟨hleft, fun k => (h.agreeOutside.present k).trans (hkeyed.present k), rfl⟩⟩
  have hstore : cleared.store
      = { left with tables := left.tables.without (·.isIn network target) Kind.all } :=
    hdelete.store_eq hn
  refine ⟨⟨n, hn⟩, ?_⟩
  rw [hstore]
  refine ⟨⟨hleft.isOpen, hleft.free⟩, h.agreeOutside.trans (.without left.tables), fun k => ?_⟩
  rw [Tables.rowsIn, Tables.rows_without_all, List.filter_filter]
  simp

section Copy

variable (hs : s.Available) (hsource : 0 ≤ source) (htarget : 0 < target) (hne : source ≠ target)
  (hid : Validation.variantId id = .ok ())

include hs hsource htarget hne hid

/-- Whatever comes of a copy, it leaves such a store. -/
theorem leftByCopy_cloneVariant :
    s.LeftByCopy network source target id
      (cloneVariant network source target (some id) fresh s).store := by
  have hstore := (@cloneVariant_eq s network source target (some id) fresh id hs hsource
    (Int32.le_of_lt htarget) hne (targetVariantId_some hid)).1
  rw [hstore]
  rcases hsteps : (applySteps (cloneVariantSteps network source target id) 0 s.tables).2 with e | m
  · obtain ⟨k, -, m, hdone⟩ := exists_take_of_applySteps_error hsteps
    exact ⟨k, m, hdone, rfl⟩
  · refine ⟨(cloneVariantSteps network source target id).length, m, ?_, rfl⟩
    rw [List.take_length]
    exact Prod.ext rfl hsteps

/-- A copy to a number without rows, under an id that no variant has, is done. -/
theorem cloneVariant_of_free (hkeyed : s.tables.Keyed)
    (hnone : ∀ k, s.tables.rowsIn k network target = [])
    (hfree : ∀ r ∈ s.tables.rows .network, r.isOf network = true → r.variantId ≠ some (.text id)) :
    let left := cloneVariant network source target (some id) fresh s
    left.result = .ok (Kind.all.map fun k => (s.tables.rowsIn k network source).length).sum ∧
      ∀ k, left.store.tables.rowsIn k network target
          = (s.tables.rowsIn k network source).map (·.toVariantNum target id) ∧
        left.store.tables.rowsIn k network source = s.tables.rowsIn k network source := by
  intro left
  have htarget' := Int32.le_of_lt htarget
  have hid' : targetVariantId target (some id) fresh = .ok id := targetVariantId_some hid
  obtain ⟨n, hn⟩ := (cloneVariant_ok_iff hs hsource htarget' hne hid' hkeyed).2
    (Tables.canCopyVariant_of_free hnone hfree)
  obtain ⟨hcount, -, hrows⟩ := of_cloneVariant_ok hs hsource htarget' hne hid' hn
  have hleft := (@leftByCopy_cloneVariant s network source target id fresh hs hsource htarget hne
    hid).agreeOutside
  exact ⟨hcount ▸ hn, fun k => ⟨rowsIn_target (hnone k) (hrows k), hleft.rowsIn hne⟩⟩

/-- A copy of a variant can be made again, wherever it stopped, once its target is deleted: then it
is done, the target holds the copies of the rows of the source and nothing else, and the source holds
what it held before the first copy. The id has to be free but for a row at the target. -/
theorem cloneVariant_recovers (hkeyed : s.tables.Keyed)
    (hfree : ∀ r ∈ s.tables.rows .network, r.isOf network = true →
      r.variantId = some (.text id) → r.variantNum = .ofInt32 target) :
    s.LeftByCopy network source target id
        (cloneVariant network source target (some id) fresh s).store ∧
      ∀ left, s.LeftByCopy network source target id left →
        let cleared := deleteVariant network target left
        let again := cloneVariant network source target (some id) fresh cleared.store
        (∃ n, cleared.result = .ok n) ∧
          again.result = .ok (Kind.all.map fun k => (s.tables.rowsIn k network source).length).sum ∧
          ∀ k, again.store.tables.rowsIn k network target
              = (s.tables.rowsIn k network source).map (·.toVariantNum target id) ∧
            again.store.tables.rowsIn k network source = s.tables.rowsIn k network source := by
  refine ⟨leftByCopy_cloneVariant hs hsource htarget hne hid, fun left hleft => ?_⟩
  obtain ⟨hdeleted, hs', hagree, hnone⟩ := hleft.deleteVariant hs hkeyed htarget
  have hfiltered := hagree.rows_eq hnone
  have hfree' : ∀ r ∈ (deleteVariant network target left).store.tables.rows .network,
      r.isOf network = true → r.variantId ≠ some (.text id) := by
    intro r hr hof hname
    rw [hfiltered, List.mem_filter] at hr
    have hin : r.isIn network target = true :=
      Row.isIn_iff.2 ⟨Row.isOf_iff.1 hof, hfree r hr.1 hof hname⟩
    simp [hin] at hr
  obtain ⟨hdone, hrows⟩ := @cloneVariant_of_free _ network source target id fresh hs' hsource htarget
    hne hid (hkeyed.of_filter hagree.present hfiltered) hnone hfree'
  simp only [hagree.rowsIn hne] at hdone hrows
  exact ⟨hdeleted, hdone, hrows⟩

end Copy

/-- A copy that finds a load in both variants is made once the target is deleted. -/
theorem cloneVariant_recovers_load :
    let s : Store := { single with
      tables := single.tables.setRows (.equipment .load)
        [.ofEquipment .nil (.of "L1" 0 (default : Load)),
          .ofEquipment .nil (.of "L1" 1 (default : Load))] }
    let first := cloneVariant .nil 0 1 (some "copy") "" s
    s.Available ∧ s.tables.Keyed ∧ (∃ e, first.result = .error e) ∧
      (cloneVariant .nil 0 1 (some "copy") "" (deleteVariant .nil 1 first.store).store).result
        = .ok 2 := by
  intro s first
  have hs : s.Available := ⟨rfl, by decide⟩
  have hkeyed : s.tables.Keyed := Tables.keyed_single.setRows_equipment (by decide) (by decide)
  have hcount : (Kind.all.map fun k => (s.tables.rowsIn k .nil 0).length).sum = 2 := by decide
  obtain ⟨hleft, hrecovers⟩ := @cloneVariant_recovers s .nil 0 1 "copy" "" hs (by decide) (by decide)
    (by decide) (by decide) hkeyed (by decide)
  refine ⟨hs, hkeyed, ?_, ?_⟩
  · rcases hresult : first.result with e | n
    · exact ⟨e, rfl⟩
    · have hcan := (cloneVariant_ok_iff hs (by decide) (by decide) (by decide)
        (targetVariantId_some (by decide)) hkeyed).1 ⟨n, hresult⟩
      exact absurd (hcan.equipment .load) (by decide)
  · rw [← hcount]
    exact (hrecovers first.store hleft).2.1

end Store

end GridStore
