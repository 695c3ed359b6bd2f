import GridStore.Proofs.Answers
import GridStore.Proofs.Deletion
import GridStore.Proofs.Mappings
import GridStore.Proofs.OneByOne
import GridStore.Proofs.Writes

/-!
# Updates of equipment

An update replaces the attributes of the rows that its elements match, in order
(`Store.update_replaces`). An element finds its row by number and id, and in kinds whose update
matches a column only in the container that it names. It leaves what it looks for as it is, so the
elements match the same rows whatever is done before them, and the last one that matches a row decides
what the row holds.
-/

namespace GridStore

/-! ## The column that an update matches -/

section Columns

variable {key : String}

theorem lookup_zip_assign : ∀ {names : List String} {xs ys : List Cell},
    names.length ≤ ys.length →
      (names.zip ((names.zip (xs.zip ys)).map fun (name, old, new) =>
        if some name = some key then old else new)).lookup key = (names.zip xs).lookup key
  | [], _, _, _ => rfl
  | _ :: _, [], _, _ => rfl
  | _ :: _, _ :: _, [], h => absurd h (by simp)
  | name :: names, x :: xs, y :: ys, h => by
    have hrest := @lookup_zip_assign names xs ys (Nat.le_of_succ_le_succ h)
    simp only [List.zip_cons_cons, List.map_cons, List.lookup_cons, hrest]
    by_cases hname : key = name
    · subst hname
      simp
    · rw [beq_false_of_ne hname]

theorem lookup_zip_of_not_mem : ∀ {names : List String} {xs : List Cell}, key ∉ names →
    (names.zip xs).lookup key = none
  | [], _, _ => rfl
  | _ :: _, [], _ => rfl
  | name :: names, x :: xs, h => by
    rw [List.mem_cons, not_or] at h
    rw [List.zip_cons_cons, List.lookup_cons, beq_false_of_ne h.1]
    exact lookup_zip_of_not_mem h.2

theorem all_zip_iff_lookup : ∀ {names : List String} {xs ys : List Cell}, names.Nodup →
    names.length = xs.length → names.length = ys.length →
      (((names.zip (xs.zip ys)).all fun (name, old, new) =>
          some name ≠ some key || old = new) = true ↔
        (names.zip xs).lookup key = (names.zip ys).lookup key)
  | [], _, _, _, _, _ => by simp
  | _ :: _, [], _, _, h, _ => absurd h (by simp)
  | _ :: _, _, [], _, _, h => absurd h (by simp)
  | name :: names, x :: xs, y :: ys, hnodup, hx, hy => by
    rw [List.nodup_cons] at hnodup
    have hrest := @all_zip_iff_lookup names xs ys hnodup.2 (Nat.succ.inj hx) (Nat.succ.inj hy)
    simp only [List.zip_cons_cons, List.all_cons, List.lookup_cons, Bool.and_eq_true, hrest]
    by_cases hname : key = name
    · -- the other columns have other names
      subst hname
      have hothers : (names.zip xs).lookup key = (names.zip ys).lookup key := by
        rw [lookup_zip_of_not_mem hnodup.1, lookup_zip_of_not_mem hnodup.1]
      simp [hothers]
    · rw [beq_false_of_ne hname]
      simp [Ne.symm hname]

theorem map_zip_of_all {key : Option String} : ∀ {names : List String} {xs ys : List Cell},
    names.length = xs.length → names.length = ys.length →
      ((names.zip (xs.zip ys)).all fun (name, old, new) => some name ≠ key || old = new) = true →
        ((names.zip (xs.zip ys)).map fun (name, old, new) => if some name = key then old else new)
          = ys
  | [], _, ys, _, hy, _ => (List.length_eq_zero_iff.1 hy.symm).symm
  | _ :: _, [], _, h, _, _ => absurd h (by simp)
  | _ :: _, _, [], _, h, _ => absurd h (by simp)
  | name :: names, x :: xs, y :: ys, hx, hy, h => by
    simp only [List.zip_cons_cons, List.all_cons, List.map_cons, Bool.and_eq_true] at h ⊢
    rw [map_zip_of_all (Nat.succ.inj hx) (Nat.succ.inj hy) h.2]
    have hfirst : some name = key → x = y := imp_iff_not_or.2 (by simpa using h.1)
    split
    · rename_i hname
      rw [hfirst hname]
    · rfl

end Columns

namespace Row

/-- What a row holds in the column that an update matches. -/
def keyCell (s : TableSchema) (r : Row) : Option Cell :=
  s.updateKey.bind fun key => (s.columnNames.zip r.values).lookup key

/-- An update leaves what it matches as it is. -/
theorem keyCell_assign {s : TableSchema} {assigned : List Cell}
    (h : s.columnNames.length ≤ assigned.length) (r : Row) :
    (r.assign s assigned).keyCell s = r.keyCell s := by
  unfold keyCell assign
  rcases s.updateKey with _ | key
  · rfl
  · exact lookup_zip_assign h

theorem matchesKey_iff_keyCell {s : TableSchema} {r t : Row}
    (hnodup : s.columnNames.Nodup) (hr : s.columnNames.length = r.values.length)
    (ht : s.columnNames.length = t.values.length) :
    r.matchesKey s t.values = true ↔ r.keyCell s = t.keyCell s := by
  unfold matchesKey keyCell
  rcases s.updateKey with _ | key
  · simp
  · exact all_zip_iff_lookup hnodup hr ht

end Row

/-! ## Rows that match -/

section Matching

variable {k : EquipmentKind} {network : Uuid} {r : Resource k.Attributes} {row : Row}

theorem EquipmentKind.keyCell_ofEquipment (k : EquipmentKind) (network : Uuid)
    (r : Resource k.Attributes) :
    (Row.ofEquipment network r).keyCell k.schema
      = (StoredAttributes.containerId r.attributes).map Cell.text := by
  cases k <;> rfl

theorem EquipmentKind.nodup_columnNames (k : EquipmentKind) : k.schema.columnNames.Nodup :=
  (TableSchema.defect?_eq_none_iff.1 (Kind.equipment k).defect?_schema).1

namespace Row

theorem length_ofAttributes {A : Type} [Attributes A] (a : A) :
    (ofAttributes a).length = (Attributes.schema A).columnNames.length := by
  rw [ofAttributes_eq, List.length_map, Attributes.schema, Mapping.columnNames_schema,
    List.length_map]

/-- A row holds something in each mapped column. -/
def Full (k : EquipmentKind) (row : Row) : Prop :=
  row.values.length = k.schema.columnNames.length

theorem full_ofEquipment (network : Uuid) (r : Resource k.Attributes) :
    (ofEquipment network r).Full k :=
  length_ofAttributes r.attributes

/-- Whether a resource to update matches a row: it is the row with its number and id, and it is in
the container of the resource, if the kind has a column that an update matches. -/
def isMatchedBy (network : Uuid) (r : Resource k.Attributes) (row : Row) : Bool :=
  row.isAt network r.variantNum r.id &&
    row.keyCell k.schema = (StoredAttributes.containerId r.attributes).map Cell.text

/-- The row with the attributes of a resource. -/
def withAttributes (r : Resource k.Attributes) (row : Row) : Row :=
  { row with values := ofAttributes r.attributes }

theorem isFoundBy_eq (h : row.Full k) : row.isFoundBy network r = row.isMatchedBy network r := by
  have hfull : (ofEquipment network r).Full k := full_ofEquipment network r
  have hkey : row.matchesKey k.schema (ofAttributes r.attributes) = true ↔
      row.keyCell k.schema = (ofEquipment network r).keyCell k.schema :=
    matchesKey_iff_keyCell k.nodup_columnNames h.symm hfull.symm
  rw [k.keyCell_ofEquipment] at hkey
  rw [isFoundBy, isMatchedBy]
  exact congrArg _ (Bool.eq_iff_iff.2 (hkey.trans decide_eq_true_iff.symm))

/-- A row that an update finds holds all attributes of the resource afterwards. -/
theorem updatedBy_eq (h : row.Full k) (hfound : row.isFoundBy network r = true) :
    row.updatedBy r = row.withAttributes r := by
  have hfull : (ofEquipment network r).Full k := full_ofEquipment network r
  have hvalues := map_zip_of_all h.symm hfull.symm (Bool.and_eq_true_iff.1 hfound).2
  exact congrArg (fun values => { row with values }) hvalues

theorem keyCell_updatedBy : (row.updatedBy r).keyCell k.schema = row.keyCell k.schema :=
  keyCell_assign (full_ofEquipment (k := k) .nil r).ge row

/-- What an element of an update leaves of a row. -/
def updatedOnce (network : Uuid) (r : Resource k.Attributes) (row : Row) : Row :=
  if row.isMatchedBy network r then row.withAttributes r else row

/-- What an update leaves of a row: it holds the attributes of the last element that matches it. -/
def updatedLast (network : Uuid) (rs : List (Resource k.Attributes)) (row : Row) : Row :=
  match (rs.filter fun r => row.isMatchedBy network r).getLast? with
  | some r => row.withAttributes r
  | none => row

theorem updatedOnce_eq (h : row.Full k) :
    row.updatedOnce network r = if row.isFoundBy network r then row.updatedBy r else row := by
  rw [updatedOnce, ← isFoundBy_eq h]
  split
  · rename_i hfound
    rw [updatedBy_eq h hfound]
  · rfl

theorem full_updatedOnce (h : row.Full k) : (row.updatedOnce network r).Full k := by
  unfold updatedOnce
  split
  · exact full_ofEquipment (k := k) network r
  · exact h

theorem keyCell_updatedOnce (h : row.Full k) :
    (row.updatedOnce network r).keyCell k.schema = row.keyCell k.schema := by
  rw [updatedOnce_eq h]
  split
  · exact keyCell_updatedBy
  · rfl

/-- An element leaves a row where others look for it. -/
theorem isMatchedBy_updatedOnce (h : row.Full k) (t : Resource k.Attributes) :
    (row.updatedOnce network r).isMatchedBy network t = row.isMatchedBy network t := by
  have hat : (row.updatedOnce network r).isAt network t.variantNum t.id
      = row.isAt network t.variantNum t.id := by
    unfold updatedOnce
    split <;> rfl
  rw [isMatchedBy, hat, keyCell_updatedOnce h, isMatchedBy]

theorem updatedLast_cons (h : row.Full k) (rs : List (Resource k.Attributes)) :
    row.updatedLast network (r :: rs) = (row.updatedOnce network r).updatedLast network rs := by
  have hmatched : (rs.filter fun t => (row.updatedOnce network r).isMatchedBy network t)
      = rs.filter fun t => row.isMatchedBy network t :=
    List.filter_congr fun t _ => isMatchedBy_updatedOnce h t
  rw [updatedLast, updatedLast, hmatched, updatedOnce]
  by_cases hr : row.isMatchedBy network r = true
  · rw [List.filter_cons, if_pos hr, List.getLast?_cons, if_pos hr]
    cases (rs.filter fun t => row.isMatchedBy network t).getLast? <;> rfl
  · rw [List.filter_cons, if_neg hr, if_neg hr]

/-- A row is changed by no element, or as by one of them. -/
theorem updatedLast_cases (network : Uuid) (rs : List (Resource k.Attributes)) (row : Row) :
    row.updatedLast network rs = row ∨
      ∃ r : Resource k.Attributes, row.updatedLast network rs = row.updatedOnce network r := by
  rw [updatedLast]
  rcases hlast : (rs.filter fun r => row.isMatchedBy network r).getLast? with _ | r
  · exact .inl rfl
  · have hr := (List.mem_filter.1 (List.mem_of_getLast? hlast)).2
    exact .inr ⟨r, (if_pos hr).symm⟩

theorem full_updatedLast (h : row.Full k) (rs : List (Resource k.Attributes)) :
    (row.updatedLast network rs).Full k := by
  obtain hsame | ⟨r, hr⟩ := row.updatedLast_cases network rs
  · rwa [hsame]
  · rw [hr]
    exact full_updatedOnce h

theorem isMatchedBy_updatedLast (h : row.Full k) (rs : List (Resource k.Attributes))
    (t : Resource k.Attributes) :
    (row.updatedLast network rs).isMatchedBy network t = row.isMatchedBy network t := by
  obtain hsame | ⟨r, hr⟩ := row.updatedLast_cases network rs
  · rw [hsame]
  · rw [hr, isMatchedBy_updatedOnce h]

/-- The same elements again leave a row as it is. -/
theorem updatedLast_updatedLast (h : row.Full k) (rs : List (Resource k.Attributes)) :
    (row.updatedLast network rs).updatedLast network rs = row.updatedLast network rs := by
  have hmatched : (rs.filter fun t => (row.updatedLast network rs).isMatchedBy network t)
      = rs.filter fun t => row.isMatchedBy network t :=
    List.filter_congr fun t _ => isMatchedBy_updatedLast h rs t
  rw [updatedLast, hmatched]
  rcases hlast : (rs.filter fun t => row.isMatchedBy network t).getLast? with _ | t
  · rfl
  · rw [updatedLast, hlast]
    rfl

end Row

/-! ## Elements in order -/

variable {rows : List Row} {rs : List (Resource k.Attributes)}

theorem apply_update (h : ∀ row ∈ rows, row.Full k) :
    (RowWrite.update network r).apply rows = rows.map (·.updatedOnce network r) :=
  List.map_congr_left fun row hrow => (Row.updatedOnce_eq (h row hrow)).symm

theorem full_map_updatedOnce (h : ∀ row ∈ rows, row.Full k) :
    ∀ row ∈ rows.map (·.updatedOnce network r), row.Full k := by
  intro new hnew
  obtain ⟨row, hrow, rfl⟩ := List.mem_map.1 hnew
  exact Row.full_updatedOnce (h row hrow)

/-- Whether a resource to update matches one of the rows. -/
def Table.hasMatch (network : Uuid) (rows : List Row) (r : Resource k.Attributes) : Bool :=
  rows.any (·.isMatchedBy network r)

theorem Table.hasMatch_map {f : Row → Row}
    (h : ∀ row ∈ rows, (f row).isMatchedBy network r = row.isMatchedBy network r) :
    hasMatch network (rows.map f) r = hasMatch network rows r := by
  rw [hasMatch, hasMatch, List.any_map, Bool.eq_iff_iff, List.any_eq_true, List.any_eq_true]
  refine exists_congr fun row => and_congr_right fun hrow => ?_
  rw [Function.comp_apply, h row hrow]

/-- In order, the elements of an update leave each row as the last that matches it says. -/
theorem foldl_updatedOnce : ∀ {rs : List (Resource k.Attributes)} {rows : List Row},
    (∀ row ∈ rows, row.Full k) →
      rs.foldl (fun rows r => rows.map (·.updatedOnce network r)) rows
        = rows.map (·.updatedLast network rs)
  | [], rows, _ => (List.map_id' rows).symm
  | r :: rs, rows, h => by
    rw [List.foldl_cons, foldl_updatedOnce (full_map_updatedOnce h), List.map_map]
    exact List.map_congr_left fun row hrow => (Row.updatedLast_cons (h row hrow) rs).symm

theorem full_map_updatedLast (h : ∀ row ∈ rows, row.Full k) :
    ∀ row ∈ rows.map (·.updatedLast network rs), row.Full k := by
  intro new hnew
  obtain ⟨row, hrow, rfl⟩ := List.mem_map.1 hnew
  exact Row.full_updatedLast (h row hrow) rs

/-- The same elements match the rows that an update leaves. -/
theorem hasMatch_map_updatedLast (h : ∀ row ∈ rows, row.Full k) :
    Table.hasMatch (k := k) network (rows.map (·.updatedLast network rs))
      = Table.hasMatch network rows :=
  funext fun t => Table.hasMatch_map fun row hrow => Row.isMatchedBy_updatedLast (h row hrow) rs t

theorem map_updatedLast_again (h : ∀ row ∈ rows, row.Full k) :
    (rows.map (·.updatedLast network rs)).map (·.updatedLast network rs)
      = rows.map (·.updatedLast network rs) := by
  rw [List.map_map]
  exact List.map_congr_left fun row hrow => Row.updatedLast_updatedLast (h row hrow) rs

theorem Table.Unique.map_updatedLast {rows : List Row} (h : Unique (.equipment k) rows)
    (network : Uuid) (rs : List (Resource k.Attributes)) :
    Unique (.equipment k) (rows.map (·.updatedLast network rs)) := by
  have hfixed (row : Row) : (row.updatedLast network rs).network = row.network ∧
      (row.updatedLast network rs).variantNum = row.variantNum ∧
      (row.updatedLast network rs).id = row.id := by
    unfold Row.updatedLast
    split <;> exact ⟨rfl, rfl, rfl⟩
  refine h.map fun row _ t _ hclash => ?_
  rw [clash_equipment] at hclash ⊢
  rwa [(hfixed row).1, (hfixed row).2.1, (hfixed row).2.2, (hfixed t).1, (hfixed t).2.1,
    (hfixed t).2.2] at hclash

end Matching

/-! ## Calls -/

namespace Store

open Call

variable {k : EquipmentKind} {network : Uuid} {r : Resource k.Attributes} {s : Store}

/-- A warning for each of the resources. -/
def unmatchedWarnings (rs : List (Resource k.Attributes)) : List Event :=
  rs.map fun r => .updateUnmatched k.table r.id r.variantNum

theorem updateRow_eq (network : Uuid) (r : Resource k.Attributes) :
    updateRow network r = (execute (RowWrite.update network r).run >>= fun n =>
      if n = 0 then emit (.updateUnmatched k.table r.id r.variantNum) >>= fun _ => pure n
      else pure n) := by
  have hkind : (Attributes.schema k.Attributes).kind = .equipment k := k.kind_attributes
  unfold updateRow TableSchema.table
  dsimp only
  rw [hkind]
  rfl

theorem withRows_withRows (k : Kind) (rows rows' : List Row) :
    (s.withRows k rows).withRows k rows' = s.withRows k rows' := by
  rw [withRows, withRows, Tables.setRows_setRows_self]
  rfl

variable {rows : List Row}

theorem answers_updateRow (network : Uuid) (r : Resource k.Attributes) (hs : s.Ready (.equipment k))
    (hrows : s.tables.rows (.equipment k) = rows) (hfull : ∀ row ∈ rows, row.Full k) :
    Answers (updateRow network r) s
      (s.withRows (.equipment k) (rows.map (·.updatedOnce network r)))
      (unmatchedWarnings ([r].filter fun r => !Table.hasMatch network rows r))
      ([r].countP (Table.hasMatch network rows)) := by
  subst hrows
  generalize hrows : s.tables.rows (.equipment k) = rows at hfull ⊢
  have hfound : rows.any (·.isFoundBy network r) = Table.hasMatch network rows r := by
    rw [Table.hasMatch, Bool.eq_iff_iff, List.any_eq_true, List.any_eq_true]
    refine exists_congr fun row => and_congr_right fun hrow => ?_
    rw [Row.isFoundBy_eq (hfull row hrow)]
  have hunique : Table.Unique (.equipment k) rows := hrows ▸ hs.unique
  have hcount : (RowWrite.update network r).count rows
      = if Table.hasMatch network rows r then 1 else 0 := by
    rw [← hfound]
    exact hunique.countP_eq fun _ _ => Row.clash_of_isFoundBy
  have hrun := (RowWrite.run_eq_ok_iff (w := RowWrite.update network r) hs.present hs.unique).2
    ⟨hs.unique.map_update, rfl, rfl⟩
  rw [hrows, apply_update hfull, hcount] at hrun
  have hwrite : Answers (execute (RowWrite.update network r).run) s
      (s.withRows (.equipment k) (rows.map (·.updatedOnce network r))) []
      (if Table.hasMatch network rows r then 1 else 0) :=
    answers_execute hrun
  have hwarn := hwrite.bind_warn (e := .updateUnmatched k.table r.id r.variantNum) rfl
  rw [updateRow_eq]
  cases hmatch : Table.hasMatch network rows r <;> simpa [hmatch, unmatchedWarnings] using hwarn

theorem ready_withRows (network : Uuid) (r : Resource k.Attributes) (hs : s.Ready (.equipment k))
    (hrows : s.tables.rows (.equipment k) = rows) (hfull : ∀ row ∈ rows, row.Full k) :
    (s.withRows (.equipment k) (rows.map (·.updatedOnce network r))).Ready (.equipment k) := by
  subst hrows
  rw [← apply_update hfull]
  exact (puts_setRows hs.present _).ready hs hs.unique.map_update

theorem answers_total_updateRow (network : Uuid) : ∀ {rs : List (Resource k.Attributes)}
    {s : Store} {rows : List Row}, s.Ready (.equipment k) →
      s.tables.rows (.equipment k) = rows → (∀ row ∈ rows, row.Full k) →
      Answers (total (updateRow network) rs) s
        (if rs = [] then s else s.withRows (.equipment k) (rows.map (·.updatedLast network rs)))
        (unmatchedWarnings (rs.filter fun r => !Table.hasMatch network rows r))
        (rs.countP (Table.hasMatch network rows))
  | [], s, _, _, _, _ => answers_pure 0 s
  | r :: rs, s, rows, hs, hrows, hfull => by
    have hfirst := answers_updateRow network r hs hrows hfull
    have hrest := @answers_total_updateRow network rs _ _ (ready_withRows network r hs hrows hfull)
      (Tables.rows_setRows_self hs.present _) (full_map_updatedOnce hfull)
    have hsame : Table.hasMatch network (rows.map (·.updatedOnce network r))
        = Table.hasMatch network rows :=
      funext fun t => Table.hasMatch_map fun row hrow =>
        Row.isMatchedBy_updatedOnce (hfull row hrow) t
    have hlast : (rows.map (·.updatedOnce network r)).map (·.updatedLast network rs)
        = rows.map (·.updatedLast network (r :: rs)) := by
      rw [List.map_map]
      exact List.map_congr_left fun row hrow => (Row.updatedLast_cons (hfull row hrow) rs).symm
    rw [withRows_withRows, hlast, hsame] at hrest
    have hall := answers_total_cons hfirst hrest
    rw [unmatchedWarnings, unmatchedWarnings, ← List.map_append, ← List.filter_append,
      ← List.countP_append] at hall
    rw [if_neg (List.cons_ne_nil r rs)]
    -- after the only element the row is as after the last
    split at hall
    · rename_i hnil
      subst hnil
      rw [← hlast]
      exact (List.map_id' (rows.map (·.updatedOnce network r))).symm ▸ hall
    · exact hall

/-- Where an update is made it leaves each row as the last element that matches it says, warns of
the elements that match no row and answers how many others there are. -/
theorem answers_update (network : Uuid) {rs : List (Resource k.Attributes)}
    (hrule : checkResources rs = .ok ()) (hs : s.Ready (.equipment k))
    (hrows : s.tables.rows (.equipment k) = rows) (hfull : ∀ row ∈ rows, row.Full k) :
    Answers (update network rs) s
      (if rs = [] then s else s.withRows (.equipment k) (rows.map (·.updatedLast network rs)))
      (unmatchedWarnings (rs.filter fun r => !Table.hasMatch network rows r))
      (rs.countP (Table.hasMatch network rows)) := by
  unfold update
  rw [require_bind_of_ok hrule]
  refine answers_sumBatches (c := updateRow network)
    (fun r => keeps_updateRow fun _ _ _ _ => rfl) (fun hs h => ?_) hs.available
    (answers_total_updateRow network hs hrows hfull)
  rw [foldlM_eq_total]
  exact (answers_acquire hs).bind (h.bind_report (e := .updatedBatch _ _ _) rfl)

/-- An update of equipment leaves what stands in the column that it matches. -/
theorem keyCell_update (network : Uuid) (rs : List (Resource k.Attributes)) (s : Store) :
    ((update network rs s).store.tables.rows (.equipment k)).map (·.keyCell k.schema)
      = (s.tables.rows (.equipment k)).map (·.keyCell k.schema) := by
  refine (Request.update k network rs).run_induction (s := s)
    (I := fun ts => (ts.rows (.equipment k)).map (·.keyCell k.schema)
      = (s.tables.rows (.equipment k)).map (·.keyCell k.schema)) rfl fun ts ts' hwrites hsame => ?_
  cases hwrites with
  | update hrule hr hdone =>
    rw [← hsame, (Tables.update_ok hdone).1.rows_self, List.map_map]
    refine List.map_congr_left fun row _ => ?_
    rw [Function.comp_apply]
    split
    · exact Row.keyCell_updatedBy
    · rfl

/-- An update of equipment replaces the attributes of the rows that its elements match. It is done
whatever the elements are; each row has the attributes of the last element that matches it, as if
the elements were written in order, and all else stays as it is. The answer is the number of elements
that match a row, there is a warning for each of the others, and the same update again changes
nothing and answers the same. No update moves a row to another container. -/
theorem update_replaces (k : EquipmentKind) (network : Uuid) (rs : List (Resource k.Attributes)) :
    (∀ s : Store, ((update network rs s).store.tables.rows (.equipment k)).map (·.keyCell k.schema)
      = (s.tables.rows (.equipment k)).map (·.keyCell k.schema)) ∧
    ∀ s : Store, s.Ready (.equipment k) → (∀ row ∈ s.tables.rows (.equipment k), row.Full k) →
      checkResources rs = .ok () →
        let rows := s.tables.rows (.equipment k)
        let done := update network rs s
        done.result = .ok (rs.countP (Table.hasMatch network rows)) ∧
        done.events.filter Event.isWarning
          = unmatchedWarnings (rs.filter fun r => !Table.hasMatch network rows r) ∧
        s.Puts (.equipment k) (rows.map (·.updatedLast network rs)) done.store ∧
        rows.map (·.updatedLast network rs)
          = rs.foldl (fun rows r => rows.map (·.updatedOnce network r)) rows ∧
        (∀ row ∈ rows, ∀ r ∈ (rs.filter fun r => row.isMatchedBy network r).getLast?,
          (row.updatedLast network rs).toAttributes k.Attributes
            = .ok (StoredAttributes.settled r.attributes)) ∧
        (update network rs done.store).store = done.store ∧
        (update network rs done.store).result = done.result := by
  refine ⟨keyCell_update network rs, fun s hs hfull hrule => ?_⟩
  obtain ⟨hstore, hwarnings, hresult⟩ := answers_update network hrule hs rfl hfull
  have hputs : s.Puts (.equipment k) ((s.tables.rows (.equipment k)).map (·.updatedLast network rs))
      (update network rs s).store := by
    rw [hstore]
    split
    · rename_i hnil
      subst hnil
      have hself := puts_self s (.equipment k)
      exact (List.map_id' (s.tables.rows (.equipment k))).symm ▸ hself
    · exact puts_setRows hs.present _
  refine ⟨hresult, hwarnings, hputs, (foldl_updatedOnce hfull).symm, fun row _ r hr => ?_, ?_⟩
  · refine Row.toAttributes_of_values ?_
    rw [Row.updatedLast, Option.mem_def.1 hr]
    rfl
  · -- after the update the same elements match, and each row is as the last of them says
    have hunique := hs.unique.map_updatedLast network rs
    obtain ⟨hstore', -, hresult'⟩ := answers_update network hrule (hputs.ready hs hunique)
      hputs.rows_self (full_map_updatedLast hfull)
    rw [hasMatch_map_updatedLast hfull, ← hresult] at hresult'
    rw [map_updatedLast_again hfull] at hstore'
    refine ⟨?_, hresult'⟩
    rw [hstore', hstore]
    split
    · rfl
    · rw [withRows_withRows]

/-- A load that is elsewhere by now and one that is not stored are not updated, each with a warning;
of the two updates of the stored load the second one stays. -/
theorem update_replaces_load :
    let load (container : String) (p : Binary64) : Load :=
      { (default : Load) with voltageLevelId := container, p0 := p }
    let rs : List (Resource Load) :=
      [.of "L1" 0 (load "VL1" (.infinite false)), .of "L1" 0 (load "VL2" (.infinite true)),
        .of "L9" 0 (load "VL1" (.zero false)), .of "L1" 0 (load "VL1" (.zero false))]
    let s := single.withRows (.equipment .load) [.ofEquipment .nil (.of "L1" 0 (load "VL1" .nan))]
    let done := update .nil rs s
    s.Ready (.equipment .load) ∧ (∀ row ∈ s.tables.rows (.equipment .load), row.Full .load) ∧
      checkResources rs = .ok () ∧
      done.result = .ok 2 ∧
      done.events.filter Event.isWarning
        = [.updateUnmatched "load" "L1" 0, .updateUnmatched "load" "L9" 0] ∧
      s.Puts (.equipment .load) [.ofEquipment .nil (.of "L1" 0 (load "VL1" (.zero false)))]
        done.store := by
  intro load rs s done
  have hpresent : (single.tables.table? (.equipment .load)).isSome := Tables.keyed_single.present _
  have hrows : s.tables.rows (.equipment .load)
      = [.ofEquipment .nil (.of "L1" 0 (load "VL1" .nan))] :=
    Tables.rows_setRows_self hpresent _
  have hs : s.Ready (.equipment .load) :=
    ⟨⟨rfl, by decide⟩, by rw [← hpresent]; exact Tables.isSome_table?_setRows _, by
      rw [hrows]
      exact Table.unique_singleton _ _⟩
  have hfull : ∀ row ∈ s.tables.rows (.equipment .load), row.Full .load := by
    rw [hrows, List.forall_mem_singleton]
    exact Row.full_ofEquipment _ _
  have hrule : checkResources rs = .ok () := by decide
  obtain ⟨hresult, hwarnings, hputs, -⟩ := (update_replaces .load .nil rs).2 s hs hfull hrule
  rw [hrows] at hresult hwarnings hputs
  exact ⟨hs, hfull, hrule, hresult, hwarnings, hputs⟩

end Store

end GridStore
