import GridStore.Proofs.Writes

/-!
# The initial variant

Of the statements that a request may make, only those that remove rows can lose one, and of these
only two concern the initial variant of a network: the ones that delete the network, and the one
that deletes an equipment from that variant by its id (`Request.Writes.hasInitial`). So along a run
that never deletes the network its row stays listed, and an equipment of the initial variant is
there until it is deleted itself (`Store.initial_variant_permanent`).
-/

namespace GridStore

/-- What tables hold of a network in its initial variant: in the network table the row that lists
the network, in the others the row of the equipment with an id. -/
def Row.isInitial (network : Uuid) (id : String) : Kind → Row → Bool
  | .network, r => r.isIn network initialVariantNum
  | .equipment _, r => r.isAt network initialVariantNum id

namespace Tables

/-! ## Rows that statements leave -/

/-- Whether a kind's table holds a row of a sort. -/
def Has (ts : Tables) (k : Kind) (P : Row → Prop) : Prop :=
  ∃ r ∈ ts.rows k, P r

namespace Has

variable {ts ts' : Tables} {j k : Kind} {P : Row → Prop} {p : Row → Bool} {f : Row → Row} {n : Nat}

theorem puts {rows : List Row} (h : ts.Has k P) (hputs : ts.Puts j rows ts')
    (hrows : j = k → ∀ r ∈ ts.rows k, P r → ∃ s ∈ rows, P s) : ts'.Has k P := by
  obtain ⟨r, hr, hP⟩ := h
  by_cases hj : j = k
  · obtain ⟨s, hs, hPs⟩ := hrows hj r hr hP
    subst hj
    exact ⟨s, by rwa [hputs.rows_self], hPs⟩
  · exact ⟨r, by rwa [hputs.rows_of_ne (Ne.symm hj)], hP⟩

theorem insert {r : Row} (h : ts.Has k P) (hdone : ts.insert j r = .ok ts') : ts'.Has k P := by
  refine h.puts (insert_ok hdone) fun hj s hs hP => ⟨s, ?_, hP⟩
  subst hj
  exact List.mem_append_left _ hs

theorem copy (h : ts.Has k P) (hdone : ts.copy j p f = .ok (ts', n)) : ts'.Has k P := by
  refine h.puts (copy_ok hdone).1 fun hj s hs hP => ⟨s, ?_, hP⟩
  subst hj
  exact List.mem_append_left _ hs

theorem update (h : ts.Has k P) (hdone : ts.update j p f = .ok (ts', n))
    (hf : j = k → ∀ r, p r = true → P r → P (f r)) : ts'.Has k P := by
  refine h.puts (update_ok hdone).1 fun hj r hr hP => ?_
  refine ⟨_, List.mem_map_of_mem (hj ▸ hr), ?_⟩
  split
  · rename_i hp
    exact hf hj r hp hP
  · exact hP

theorem delete (h : ts.Has k P) (hdone : ts.delete j p = .ok (ts', n))
    (hp : j = k → ∀ r, P r → p r = false) : ts'.Has k P := by
  refine h.puts (delete_ok hdone).1 fun hj r hr hP => ⟨r, ?_, hP⟩
  exact List.mem_filter.2 ⟨hj ▸ hr, by rw [hp hj r hP]; rfl⟩

end Has

/-- Whether a kind's table holds the row of a network's initial variant. -/
def HasInitial (ts : Tables) (network : Uuid) (id : String) (k : Kind) : Prop :=
  ts.Has k fun r => r.isInitial network id k = true

end Tables

/-! ## Requests -/

namespace Row

variable {u network : Uuid} {id : String} {k : Kind} {r : Row}

theorem isIn_of_isInitial (h : r.isInitial u id k = true) : r.isIn u initialVariantNum = true := by
  cases k with
  | network => exact h
  | equipment k => exact (isAt_iff.1 h).1

end Row

theorem Validation.pos_of_deletableVariant {network : String} {n : Int32}
    (h : deletableVariant network n = .ok ()) : initialVariantNum < n := by
  obtain ⟨⟨⟩, hnum, h⟩ := Except.bind_eq_ok h
  have hnonneg : ¬ n < initialVariantNum := fun hneg => by
    rw [variantNum, if_pos hneg] at hnum
    cases hnum
  have hne : n ≠ initialVariantNum := fun heq => by
    rw [if_pos heq] at h
    cases h
  exact Int32.lt_of_le_of_ne (Int32.not_lt.1 hnonneg) hne.symm

/-- A statement loses the row of an initial variant only if the request deletes the network, or the
equipment of that row. -/
theorem Request.Writes.hasInitial {q : Request} {ts ts' : Tables} {u : Uuid} {id : String}
    {k : Kind} (hwrite : q.Writes ts ts') (h : ts.HasInitial u id k) (hnetwork : q ≠ .deleteNetwork u)
    (hequipment : ∀ j, k = .equipment j → q ≠ .delete j u initialVariantNum id) :
    ts'.HasInitial u id k := by
  cases hwrite with
  | create _ _ hdone => exact h.insert hdone
  | update _ _ hdone =>
    -- an update of equipment assigns values only
    refine h.update hdone fun hj r _ hr => ?_
    subst hj
    exact hr
  | @delete j network n i _ _ _ hdone =>
    refine h.delete hdone fun hj r hr => ?_
    subst hj
    rw [Bool.eq_false_iff]
    intro hat
    obtain ⟨hin, hid⟩ := Row.isAt_iff.1 hr
    obtain ⟨hatIn, hatId⟩ := Row.isAt_iff.1 hat
    obtain ⟨rfl, rfl⟩ := Row.eq_of_isIn hatIn hin
    obtain rfl := Cell.text.inj (hatId.symm.trans hid)
    exact hequipment j rfl rfl
  | createNetworks _ _ hdone => exact h.insert hdone
  | updateNetworks _ _ hdone =>
    -- an update of a network may rename it and its variant, but leaves it where it is
    refine h.update hdone fun hj r _ hr => ?_
    subst hj
    exact hr
  | deleteNetwork hdone =>
    refine h.delete hdone fun _ r hr => ?_
    rw [Bool.eq_false_iff]
    intro hof
    have hin := (Row.isIn_iff.1 (Row.isIn_of_isInitial hr)).1
    obtain rfl := Cell.ofUuid_inj.1 ((Row.isOf_iff.1 hof).symm.trans hin)
    exact hnetwork rfl
  | deleteVariant hrule hdone =>
    refine h.delete hdone fun _ r hr => ?_
    rw [Bool.eq_false_iff]
    intro hin
    obtain ⟨-, rfl⟩ := Row.eq_of_isIn hin (Row.isIn_of_isInitial hr)
    exact absurd (Validation.pos_of_deletableVariant hrule) Int32.lt_irrefl
  | cloneVariant _ _ hdone => exact h.copy hdone
  | cloneNetwork _ hdone => exact h.copy hdone

/-- A request that loses the row of an initial variant deletes the network, or the equipment of
that row. -/
theorem Request.eq_of_not_hasInitial {q : Request} {s : Store} {u : Uuid} {id : String} {k : Kind}
    (h : s.tables.HasInitial u id k) (hlost : ¬ (q.run s).tables.HasInitial u id k) :
    q = .deleteNetwork u ∨ ∃ j, k = .equipment j ∧ q = .delete j u initialVariantNum id := by
  by_contra hother
  rw [not_or] at hother
  obtain ⟨hnetwork, hequipment⟩ := hother
  exact hlost (q.run_induction h fun _ _ hwrite hnow =>
    hwrite.hasInitial hnow hnetwork fun j hk hq => hequipment ⟨j, hk, hq⟩)

/-- The row of an initial variant that a run has lost was lost to one request of the run. -/
theorem Request.exists_of_not_hasInitial {u : Uuid} {id : String} {k : Kind} :
    ∀ {qs : List Request} {s : Store}, .deleteNetwork u ∉ qs → s.tables.HasInitial u id k →
      ¬ (runAll qs s).tables.HasInitial u id k →
        ∃ j, k = .equipment j ∧ ∃ before after,
          qs = before ++ .delete j u initialVariantNum id :: after ∧
            (runAll before s).tables.HasInitial u id k ∧
            ¬ (runAll (before ++ [.delete j u initialVariantNum id]) s).tables.HasInitial u id k
  | [], _, _, h, hlost => absurd h hlost
  | q :: qs, s, hqs, h, hlost => by
    rw [List.mem_cons, not_or] at hqs
    by_cases hnow : (q.run s).tables.HasInitial u id k
    · obtain ⟨j, hk, before, after, rfl, hthere, hgone⟩ := exists_of_not_hasInitial hqs.2 hnow hlost
      exact ⟨j, hk, q :: before, after, rfl, hthere, hgone⟩
    · obtain hq | ⟨j, hk, rfl⟩ := eq_of_not_hasInitial h hnow
      · exact absurd hq.symm hqs.1
      · exact ⟨j, hk, [], qs, rfl, h, hnow⟩

namespace Store

/-- A call to delete the initial variant, or one with a negative number, is refused before anything
is done. -/
theorem deleteVariant_of_nonpos (network : Uuid) {n : Int32} (h : n ≤ initialVariantNum)
    (s : Store) : deleteVariant network n s =
      { store := s
        events := []
        result := .error (.invalidArgument (if n = initialVariantNum
          then .initialVariantNotDeletable network.text
          else .outOfRange "variantNum" 0 2147483647 n.toInt)) } := by
  by_cases hzero : n = initialVariantNum
  · subst hzero
    rfl
  · have hneg : Validation.deletableVariant network.text n
        = .error (.outOfRange "variantNum" 0 2147483647 n.toInt) := by
      rw [Validation.deletableVariant, Validation.variantNum, if_pos (Int32.lt_of_le_of_ne h hzero)]
      rfl
    rw [deleteVariant, hneg, if_neg hzero]
    rfl

/-- The initial variant is permanent. Along requests that do not delete the network, the row that
lists it stays, and an equipment of the initial variant that is there no longer was removed by a
request to delete that kind's equipment with its id from that variant. Calls to delete the variant
itself are refused and leave the store as it was. -/
theorem initial_variant_permanent (qs : List Request) (s : Store) (u : Uuid)
    (h : .deleteNetwork u ∉ qs) :
    ((∃ r ∈ s.tables.rows .network, r.isIn u initialVariantNum = true) →
      ∃ r ∈ (Request.runAll qs s).tables.rows .network, r.isIn u initialVariantNum = true) ∧
    (∀ k id, (∃ r ∈ s.tables.rows (.equipment k), r.isAt u initialVariantNum id = true) →
      (¬ ∃ r ∈ (Request.runAll qs s).tables.rows (.equipment k),
        r.isAt u initialVariantNum id = true) →
      ∃ before after, qs = before ++ .delete k u initialVariantNum id :: after ∧
        (∃ r ∈ (Request.runAll before s).tables.rows (.equipment k),
          r.isAt u initialVariantNum id = true) ∧
        ¬ ∃ r ∈ (Request.runAll (before ++ [.delete k u initialVariantNum id]) s).tables.rows
          (.equipment k), r.isAt u initialVariantNum id = true) ∧
    ∀ n ≤ initialVariantNum, ∀ t : Store, deleteVariant u n t =
      { store := t
        events := []
        result := .error (.invalidArgument (if n = initialVariantNum
          then .initialVariantNotDeletable u.text
          else .outOfRange "variantNum" 0 2147483647 n.toInt)) } := by
  refine ⟨fun hlisted => ?_, fun k id hheld hlost => ?_, fun n hn t => ?_⟩
  · by_contra hlost
    obtain ⟨j, hj, -⟩ := @Request.exists_of_not_hasInitial u "" .network qs s h hlisted hlost
    cases hj
  · obtain ⟨j, hj, before, after, hqs, hthere, hgone⟩ :=
      @Request.exists_of_not_hasInitial u id (.equipment k) qs s h hheld hlost
    obtain rfl := Kind.equipment.inj hj
    exact ⟨before, after, hqs, hthere, hgone⟩
  · exact deleteVariant_of_nonpos u hn t

/-- A load that was copied over in vain, and then deleted. -/
theorem initial_variant_permanent_load :
    let s := { single with
      tables := single.tables.setRows (.equipment .load)
        [.ofEquipment .nil (.of "L1" 0 (default : Load))] }
    let qs := [.cloneVariant .nil 1 0 (some "peak") "", .deleteVariant .nil 0,
      .delete .load .nil 0 "L1"]
    .deleteNetwork .nil ∉ qs ∧
      (∃ r ∈ (Request.runAll qs s).tables.rows .network, r.isIn .nil initialVariantNum = true) ∧
      ∃ before after, qs = before ++ .delete .load .nil initialVariantNum "L1" :: after := by
  intro s qs
  have h : .deleteNetwork .nil ∉ qs := by simp [qs]
  obtain ⟨hlisted, hequipment, -⟩ := initial_variant_permanent qs s .nil h
  have hheld : ∃ r ∈ s.tables.rows (.equipment .load),
      r.isAt .nil initialVariantNum "L1" = true := by
    decide
  have hlost : ¬ ∃ r ∈ (Request.runAll qs s).tables.rows (.equipment .load),
      r.isAt .nil initialVariantNum "L1" = true := by
    decide +kernel
  obtain ⟨before, after, hqs, -⟩ := hequipment .load "L1" hheld hlost
  exact ⟨h, hlisted (by decide), before, after, hqs⟩

end Store

end GridStore
