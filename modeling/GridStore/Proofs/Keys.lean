import GridStore.Proofs.Rows
import GridStore.Proofs.Statements

/-!
# Keys

No two rows of a table share a key (`Table.Unique`). A row is inserted if it shares none with the
rows that are there (`insert_eq_ok_iff`), and rows are copied if none of the copies shares one with
a row that is there or with another copy (`copy_eq_ok_iff`). Statements that are done leave the keys
of a table unique.
-/

namespace GridStore

namespace Table

/-- Whether two rows of a kind share a key. -/
def clash : Kind → Row → Row → Bool
  | .network, r, s => sameVariantId r s || sameVariantNum r s
  | .equipment _, r, s => sameResource r s

/-- No two rows share a key. -/
def Unique (k : Kind) (rows : List Row) : Prop :=
  rows.Pairwise fun r s => clash k r s = false

instance (k : Kind) (rows : List Row) : Decidable (Unique k rows) :=
  inferInstanceAs (Decidable (rows.Pairwise fun r s => clash k r s = false))

theorem clash_comm (k : Kind) (r s : Row) : clash k r s = clash k s r := by
  cases k <;> simp only [clash, sameVariantId, sameVariantNum, sameResource, eq_comm]

theorem clash_network {r s : Row} : clash .network r s = true ↔
    r.network = s.network ∧ (r.variantId = s.variantId ∨ r.variantNum = s.variantNum) := by
  simp [clash, sameVariantId, sameVariantNum, and_or_left]

theorem clash_equipment {k : EquipmentKind} {r s : Row} : clash (.equipment k) r s = true ↔
    r.network = s.network ∧ r.variantNum = s.variantNum ∧ r.id = s.id := by
  simp [clash, sameResource, and_assoc]

theorem clash_of_isIn_network {network : Uuid} {n : Int32} {r s : Row} (hr : r.isIn network n = true)
    (hs : s.isIn network n = true) : clash .network r s = true := by
  rw [Row.isIn_iff] at hr hs
  rw [clash_network, hr.1, hs.1, hr.2, hs.2]
  exact ⟨rfl, .inr rfl⟩

theorem clash_of_isIn_equipment {k : EquipmentKind} {network : Uuid} {n : Int32} {r s : Row}
    (hr : r.isIn network n = true) (hs : s.isIn network n = true) (hid : r.id = s.id) :
    clash (.equipment k) r s = true := by
  rw [Row.isIn_iff] at hr hs
  rw [clash_equipment, hr.1, hs.1, hr.2, hs.2]
  exact ⟨rfl, rfl, hid⟩

instance (k : Kind) : Std.Symm fun r s => clash k r s = false :=
  ⟨fun r s h => (clash_comm k s r).trans h⟩

theorem unique_singleton (k : Kind) (r : Row) : Unique k [r] :=
  List.pairwise_singleton _ r

theorem unique_cons {k : Kind} {r : Row} {rows : List Row} :
    Unique k (r :: rows) ↔ (∀ s ∈ rows, clash k r s = false) ∧ Unique k rows :=
  List.pairwise_cons

theorem unique_append {k : Kind} {rows new : List Row} : Unique k (rows ++ new) ↔
    Unique k rows ∧ Unique k new ∧ ∀ r ∈ rows, ∀ s ∈ new, clash k r s = false :=
  List.pairwise_append

theorem unique_middle {k : Kind} {before rest : List Row} {r : Row} :
    Unique k (before ++ r :: rest) ↔ Unique k (r :: (before ++ rest)) :=
  List.perm_middle.pairwise_iff fun h => (clash_comm k _ _).trans h

theorem Unique.filter {k : Kind} {rows : List Row} (h : Unique k rows) (p : Row → Bool) :
    Unique k (rows.filter p) :=
  List.Pairwise.filter p h

theorem Unique.map {k : Kind} {rows : List Row} {f : Row → Row} (h : Unique k rows)
    (hf : ∀ r ∈ rows, ∀ s ∈ rows, clash k (f r) (f s) = true → clash k r s = true) :
    Unique k (rows.map f) := by
  refine List.pairwise_map.2 (List.Pairwise.imp_of_mem (fun {r s} hr hs hrs => ?_) h)
  rw [Bool.eq_false_iff]
  intro hclash
  rw [hf r hr s hs hclash] at hrs
  exact Bool.false_ne_true hrs.symm

/-- No two rows have the same in columns that make rows share a key. -/
theorem Unique.nodup_map {β : Type} {k : Kind} {rows : List Row} (h : Unique k rows) {key : Row → β}
    (hkey : ∀ r ∈ rows, ∀ s ∈ rows, key r = key s → clash k r s = true) : (rows.map key).Nodup := by
  refine List.pairwise_map.2 (List.Pairwise.imp_of_mem (fun {r s} hr hs hrs hsame => ?_) h)
  rw [hkey r hr s hs hsame] at hrs
  exact Bool.false_ne_true hrs.symm

/-- Of two rows of a table that share a key there is only one. -/
theorem Unique.eq_of_clash {k : Kind} {rows : List Row} (h : Unique k rows) {r s : Row}
    (hr : r ∈ rows) (hs : s ∈ rows) (hclash : clash k r s = true) : r = s := by
  by_contra hne
  rw [List.Pairwise.forall h hr hs hne] at hclash
  exact Bool.false_ne_true hclash

/-! ## Checks -/

variable {k : Kind}

theorem isSome_conflict? (others : List Row) (r : Row) :
    (conflict? k others r).isSome = others.any (clash k r) := by
  cases k with
  | network =>
    have hor : others.any (clash .network r) =
        (others.any (sameVariantId r) || others.any (sameVariantNum r)) := by
      rw [Bool.eq_iff_iff]
      simp only [Bool.or_eq_true, List.any_eq_true, clash, and_or_left, exists_or]
    rw [hor, conflict?]
    by_cases hid : others.any (sameVariantId r) = true
    · simp [hid]
    · by_cases hnum : others.any (sameVariantNum r) = true <;> simp [hid, hnum]
  | equipment k =>
    show (conflict? (.equipment k) others r).isSome = others.any (sameResource r)
    rw [conflict?]
    by_cases h : others.any (sameResource r) = true <;> simp [h]

theorem check_eq_ok_iff {others : List Row} {r : Row} :
    check k others r = .ok () ↔ ∀ s ∈ others, clash k r s = false := by
  have hany := isSome_conflict? (k := k) others r
  unfold check
  rcases hc : conflict? k others r with _ | columns
  · rw [hc] at hany
    simpa using hany.symm
  · rw [hc] at hany
    simpa using hany.symm

/-- A row is inserted if keys stay unique. -/
theorem insertRow_eq_ok_iff {rows rows' : List Row} {r : Row} (h : Unique k rows) :
    insertRow k rows r = .ok rows' ↔ Unique k (rows ++ [r]) ∧ rows' = rows ++ [r] := by
  have hcheck : Unique k (rows ++ [r]) ↔ check k rows r = .ok () := by
    rw [unique_middle, unique_cons, List.append_nil, check_eq_ok_iff, and_iff_left h]
  constructor
  · intro hr
    refine ⟨hcheck.2 ?_, insertRow_ok hr⟩
    obtain ⟨⟨⟩, hok, -⟩ := Except.bind_eq_ok hr
    exact hok
  · rintro ⟨hunique, rfl⟩
    rw [insertRow, hcheck.1 hunique]
    rfl

/-- Rows are inserted one after another if keys stay unique. -/
theorem foldlM_insertRow_eq_ok_iff : ∀ {new rows rows' : List Row}, Unique k rows →
    (new.foldlM (insertRow k) rows = .ok rows' ↔ Unique k (rows ++ new) ∧ rows' = rows ++ new)
  | [], rows, rows', h => by
    rw [List.foldlM_nil, List.append_nil, and_iff_right h]
    exact ⟨fun h => (Except.ok.inj h).symm, fun h => congrArg _ h.symm⟩
  | r :: new, rows, rows', h => by
    rw [List.foldlM_cons, List.append_cons]
    constructor
    · intro hnew
      obtain ⟨more, hr, hnew⟩ := Except.bind_eq_ok hnew
      obtain ⟨hunique, rfl⟩ := (insertRow_eq_ok_iff h).1 hr
      exact (foldlM_insertRow_eq_ok_iff hunique).1 hnew
    · intro hnew
      have hunique : Unique k (rows ++ [r]) := (unique_append.1 hnew.1).1
      rw [(insertRow_eq_ok_iff h).2 ⟨hunique, rfl⟩]
      exact (foldlM_insertRow_eq_ok_iff hunique).2 hnew

theorem updateRows_of_forall_not {p : Row → Bool} {f : Row → Row} : ∀ {before rows : List Row},
    (∀ r ∈ rows, p r = false) → updateRows k p f before rows = .ok rows
  | _, [], _ => rfl
  | before, r :: rest, h => by
    rw [List.forall_mem_cons] at h
    rw [updateRows, if_neg (by simp [h.1]), updateRows_of_forall_not h.2]
    rfl

/-- Where rows that match share a key, one that matches is the only one. -/
theorem Unique.forall_not {p : Row → Bool} {before rest : List Row} {r : Row}
    (h : Unique k (r :: (before ++ rest)))
    (hone : ∀ r s, p r = true → p s = true → clash k r s = true) (hp : p r = true) :
    ∀ s ∈ rest, p s = false := by
  intro s hs
  rw [Bool.eq_false_iff]
  intro hps
  have hfree := (unique_cons.1 h).1 s (List.mem_append_right _ hs)
  rw [hone r s hp hps] at hfree
  exact Bool.false_ne_true hfree.symm

/-- Where rows that match share a key, at most one of them matches. -/
theorem Unique.countP_eq {p : Row → Bool}
    (hone : ∀ r s, p r = true → p s = true → clash k r s = true) : ∀ {rows : List Row},
      Unique k rows → rows.countP p = if rows.any p then 1 else 0
  | [], _ => rfl
  | r :: rows, h => by
    by_cases hr : p r = true
    · have hunique : Unique k (r :: ([] ++ rows)) := h
      have hrest : rows.countP p = 0 := by
        rw [List.countP_eq_zero]
        intro s hs
        rw [hunique.forall_not hone hr s hs]
        exact Bool.false_ne_true
      rw [List.countP_cons_of_pos hr, hrest, List.any_cons, hr]
      rfl
    · rw [List.countP_cons_of_neg hr, countP_eq hone (unique_cons.1 h).2, List.any_cons,
        Bool.eq_false_iff.2 hr, Bool.false_or]

theorem map_of_forall_not {p : Row → Bool} {f : Row → Row} {rows : List Row}
    (h : ∀ r ∈ rows, p r = false) : (rows.map fun r => if p r then f r else r) = rows :=
  (List.map_congr_left fun r hr => by simp [h r hr]).trans (List.map_id' rows)

/-- Rows that are replaced one after another leave keys unique. -/
theorem unique_of_updateRows {p : Row → Bool} {f : Row → Row} :
    ∀ {before rows rows' : List Row}, Unique k (before ++ rows) →
      updateRows k p f before rows = .ok rows' → Unique k (before ++ rows')
  | before, [], rows', h, hdone => by
    obtain rfl := Except.ok.inj hdone
    exact h
  | before, r :: rest, rows', h, hdone => by
    rw [unique_middle] at h
    rw [updateRows] at hdone
    split at hdone
    · obtain ⟨⟨⟩, hcheck, hdone⟩ := Except.bind_eq_ok hdone
      obtain ⟨rest', hrest, hdone⟩ := Except.bind_eq_ok hdone
      obtain rfl := Except.ok.inj hdone
      have hnew : Unique k (f r :: before ++ rest) :=
        unique_cons.2 ⟨check_eq_ok_iff.1 hcheck, (unique_cons.1 h).2⟩
      have hall : Unique k (f r :: before ++ rest') := unique_of_updateRows hnew hrest
      exact unique_middle.2 hall
    · obtain ⟨rest', hrest, hdone⟩ := Except.bind_eq_ok hdone
      obtain rfl := Except.ok.inj hdone
      have hall : Unique k (r :: before ++ rest') := unique_of_updateRows h hrest
      exact unique_middle.2 hall

/-- A row that is the only one to match is replaced if keys stay unique. -/
theorem updateRows_eq_ok_iff {p : Row → Bool} {f : Row → Row}
    (hone : ∀ r s, p r = true → p s = true → clash k r s = true) :
    ∀ {before rows rows' : List Row}, Unique k (before ++ rows) →
      (updateRows k p f before rows = .ok rows' ↔
        Unique k (before ++ rows.map fun r => if p r then f r else r) ∧
          rows' = rows.map fun r => if p r then f r else r)
  | before, [], rows', h => by
    rw [updateRows, List.map_nil, and_iff_right h]
    exact ⟨fun h => (Except.ok.inj h).symm, fun h => congrArg _ h.symm⟩
  | before, r :: rest, rows', h => by
    rw [updateRows, List.map_cons, unique_middle]
    rw [unique_middle] at h
    by_cases hp : p r = true
    · have hrest := h.forall_not hone hp
      have hunique : Unique k (f r :: (before ++ rest)) ↔ check k (before ++ rest) (f r) = .ok () := by
        rw [unique_cons, check_eq_ok_iff, and_iff_left (unique_cons.1 h).2]
      rw [if_pos hp, if_pos hp, map_of_forall_not hrest, hunique, updateRows_of_forall_not hrest]
      rcases check k (before ++ rest) (f r) with e | ⟨⟩
      · constructor
        · intro hfail
          cases hfail
        · rintro ⟨hfail, -⟩
          cases hfail
      · rw [and_iff_right rfl]
        exact ⟨fun h => (Except.ok.inj h).symm, fun h => congrArg _ h.symm⟩
    · rw [if_neg hp, if_neg hp]
      have hstep {rest' : List Row} := @updateRows_eq_ok_iff p f hone (r :: before) rest rest' h
      constructor
      · intro hdone
        obtain ⟨rest', hrest, hdone⟩ := Except.bind_eq_ok hdone
        obtain ⟨hunique, rfl⟩ := hstep.1 hrest
        exact ⟨hunique, (Except.ok.inj hdone).symm⟩
      · rintro ⟨hunique, rfl⟩
        rw [hstep.2 ⟨hunique, rfl⟩]
        rfl

end Table

/-! ## Statements on keyed tables -/

namespace Tables

/-- Tables as a store keeps them: all are there, no two rows of one share a key, and the rows of
networks, but no others, name variants. -/
structure Keyed (ts : Tables) : Prop where
  present : ∀ k, (ts.table? k).isSome
  unique : ∀ k, Table.Unique k (ts.rows k)
  named : ∀ r ∈ ts.rows .network, ∃ n id, r.variantNum = .ofInt32 n ∧ r.variantId = some (.text id)
  unnamed : ∀ k, ∀ r ∈ ts.rows (.equipment k), r.variantId = none

variable {ts ts' : Tables} {k : Kind} {p : Row → Bool} {f : Row → Row} {n : Nat}

theorem insert_eq_ok_iff (h : (ts.table? k).isSome) (hunique : Table.Unique k (ts.rows k)) {r : Row} :
    ts.insert k r = .ok ts' ↔
      Table.Unique k (ts.rows k ++ [r]) ∧ ts' = ts.setRows k (ts.rows k ++ [r]) := by
  rw [insert, existing_of_isSome h]
  show (Table.insertRow k (ts.rows k) r >>= fun rows => pure (ts.setRows k rows)) = _ ↔ _
  constructor
  · intro hdone
    obtain ⟨rows', hrows', hdone⟩ := Except.bind_eq_ok hdone
    obtain ⟨hnew, rfl⟩ := (Table.insertRow_eq_ok_iff hunique).1 hrows'
    exact ⟨hnew, (Except.ok.inj hdone).symm⟩
  · rintro ⟨hnew, rfl⟩
    rw [(Table.insertRow_eq_ok_iff hunique).2 ⟨hnew, rfl⟩]
    rfl

theorem copy_eq_ok_iff (h : (ts.table? k).isSome) (hunique : Table.Unique k (ts.rows k)) :
    ts.copy k p f = .ok (ts', n) ↔
      Table.Unique k (ts.rows k ++ ts.copies p f k) ∧
        ts' = ts.setRows k (ts.rows k ++ ts.copies p f k) ∧ n = ((ts.rows k).filter p).length := by
  rw [copy, existing_of_isSome h]
  show ((ts.copies p f k).foldlM (Table.insertRow k) (ts.rows k) >>= fun rows =>
    pure (ts.setRows k rows, (ts.copies p f k).length)) = _ ↔ _
  constructor
  · intro hdone
    obtain ⟨rows', hrows', hdone⟩ := Except.bind_eq_ok hdone
    obtain ⟨hnew, rfl⟩ := (Table.foldlM_insertRow_eq_ok_iff hunique).1 hrows'
    obtain ⟨rfl, rfl⟩ := Prod.mk.inj (Except.ok.inj hdone)
    exact ⟨hnew, rfl, List.length_map _⟩
  · rintro ⟨hnew, rfl, rfl⟩
    rw [(Table.foldlM_insertRow_eq_ok_iff hunique).2 ⟨hnew, rfl⟩, copies, List.length_map]
    rfl

theorem update_eq_ok_iff (h : (ts.table? k).isSome) (hunique : Table.Unique k (ts.rows k))
    (hone : ∀ r s, p r = true → p s = true → Table.clash k r s = true) :
    ts.update k p f = .ok (ts', n) ↔
      Table.Unique k ((ts.rows k).map fun r => if p r then f r else r) ∧
        ts' = ts.setRows k ((ts.rows k).map fun r => if p r then f r else r) ∧
          n = (ts.rows k).countP p := by
  have hstep {rows' : List Row} :=
    @Table.updateRows_eq_ok_iff k p f hone [] (ts.rows k) rows' hunique
  rw [update, existing_of_isSome h]
  show (Table.updateRows k p f [] (ts.rows k) >>= fun rows =>
    pure (ts.setRows k rows, (ts.rows k).countP p)) = _ ↔ _
  constructor
  · intro hdone
    obtain ⟨rows', hrows', hdone⟩ := Except.bind_eq_ok hdone
    obtain ⟨hnew, rfl⟩ := hstep.1 hrows'
    obtain ⟨rfl, rfl⟩ := Prod.mk.inj (Except.ok.inj hdone)
    exact ⟨hnew, rfl, rfl⟩
  · rintro ⟨hnew, rfl, rfl⟩
    rw [hstep.2 ⟨hnew, rfl⟩]
    rfl

theorem unique_of_update (hunique : Table.Unique k (ts.rows k)) (h : ts.update k p f = .ok (ts', n)) :
    Table.Unique k (ts'.rows k) := by
  have hputs := (update_ok h).1
  obtain ⟨rows, hrows, h⟩ := Except.bind_eq_ok h
  obtain ⟨rows', hrows', h⟩ := Except.bind_eq_ok h
  obtain rfl := rows_of_existing hrows
  rw [hputs.rows_self, ← Table.updateRows_ok hrows']
  have hall : Table.Unique k ([] ++ rows') := Table.unique_of_updateRows hunique hrows'
  exact hall

theorem delete_eq (h : (ts.table? k).isSome) :
    ts.delete k p = .ok (ts.setRows k ((ts.rows k).filter fun r => !p r), (ts.rows k).countP p) := by
  rw [delete, existing_of_isSome h]
  rfl

/-- Other equipment in the place of that of a kind. -/
theorem Keyed.setRows_equipment (h : ts.Keyed) {k : EquipmentKind} {rows : List Row}
    (hunique : Table.Unique (.equipment k) rows) (hunnamed : ∀ r ∈ rows, r.variantId = none) :
    (ts.setRows (.equipment k) rows).Keyed := by
  have hself : (ts.setRows (.equipment k) rows).rows (.equipment k) = rows :=
    rows_setRows_self (h.present _) rows
  refine ⟨fun j => (isSome_table?_setRows rows).trans (h.present j), fun j => ?_, ?_, fun j => ?_⟩
  · by_cases hj : j = .equipment k
    · rw [hj, hself]
      exact hunique
    · rw [rows_setRows_of_ne hj]
      exact h.unique j
  · rw [rows_setRows_of_ne (by simp)]
    exact h.named
  · by_cases hj : j = k
    · rw [hj, hself]
      exact hunnamed
    · rw [rows_setRows_of_ne (by simpa using hj)]
      exact h.unnamed j

end Tables

end GridStore
