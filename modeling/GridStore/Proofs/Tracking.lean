import GridStore.Proofs.Holding
import GridStore.Proofs.Steps

/-!
# Statements that track changes

Tables hold contents if the rows of each kind of equipment are the entries of its map and the rows
of networks are their variants (`Tables.Holds`). A statement tracks a change if it is done where the
change is, leaving tables that hold what the change leaves, and fails where the change is refused
(`Tables.Tracks`).
-/

namespace GridStore

namespace Tables

variable {ts : Tables} {c : Contents} {k : EquipmentKind} {rows : List Row} {α : Type}

/-- Tables that hold contents. -/
structure Holds (ts : Tables) (c : Contents) : Prop where
  present : ∀ k, (ts.table? k).isSome
  unique : ∀ k, Table.Unique k (ts.rows k)
  stores : ∀ k, Table.Stores (ts.rows (.equipment k)) (c.equipment k)
  lists : Table.Lists (ts.rows .network) c.variants

theorem holds_blank : blank.Holds .empty where
  present k := by
    rw [table?_blank]
    rfl
  unique k := by
    rw [rows_blank]
    exact List.Pairwise.nil
  stores k := by
    rw [rows_blank]
    exact Table.stores_nil
  lists := by
    rw [rows_blank]
    exact Table.lists_nil

theorem Holds.unique_setRows {k : Kind} (h : ts.Holds c) (hu : Table.Unique k rows) (j : Kind) :
    Table.Unique j ((ts.setRows k rows).rows j) := by
  by_cases hj : j = k
  · subst hj
    rw [rows_setRows_self (h.present j)]
    exact hu
  · rw [rows_setRows_of_ne hj]
    exact h.unique j

theorem Holds.setEquipment (h : ts.Holds c) {m : EquipmentMap k.Attributes}
    (hu : Table.Unique (.equipment k) rows) (hm : Table.Stores rows m) :
    (ts.setRows (.equipment k) rows).Holds (c.setEquipment k m) := by
  refine ⟨fun j => ?_, h.unique_setRows hu, fun j => ?_, ?_⟩
  · rw [isSome_table?_setRows]
    exact h.present j
  · by_cases hj : j = k
    · subst hj
      rw [rows_setRows_self (h.present _), Contents.equipment_setEquipment_self]
      exact hm
    · rw [rows_setRows_of_ne (by simpa using hj), Contents.equipment_setEquipment_of_ne hj]
      exact h.stores j
  · rw [rows_setRows_of_ne (by simp)]
    exact h.lists

theorem Holds.setVariants (h : ts.Holds c) {network : Uuid} {variants : List Variant}
    (hu : Table.Unique .network rows)
    (hm : Table.Lists rows (Function.update c.variants network variants)) :
    (ts.setRows .network rows).Holds (c.setVariants network variants) := by
  refine ⟨fun j => ?_, h.unique_setRows hu, fun j => ?_, ?_⟩
  · rw [isSome_table?_setRows]
    exact h.present j
  · rw [rows_setRows_of_ne (by simp)]
    exact h.stores j
  · rw [rows_setRows_self (h.present _)]
    exact hm

/-- Where the change is done so is the statement, and the tables then hold what the change leaves.
Where the change is refused the statement fails. -/
def Tracks (statement : Tables → Except StoreError (Tables × α)) (change : Change) : Prop :=
  ∀ ts c, ts.Holds c →
    (∃ ts' a c', statement ts = .ok (ts', a) ∧ change c = (c', true) ∧ ts'.Holds c') ∨
      (∃ e, statement ts = .error e) ∧ change c = (c, false)

variable {statement : Tables → Except StoreError (Tables × α)} {change : Change}

/-- A statement that puts rows in the place of those of a table if no two of them share a key. -/
theorem tracks_of_puts {k : Kind} {new : Tables → List Row} (answer : Tables → α)
    (hok : ∀ ts, (ts.table? k).isSome → Table.Unique k (ts.rows k) → ∀ ts' a,
      statement ts = .ok (ts', a) ↔
        Table.Unique k (new ts) ∧ ts' = ts.setRows k (new ts) ∧ a = answer ts)
    (hdone : ∀ ts c, ts.Holds c → Table.Unique k (new ts) →
      ∃ c', change c = (c', true) ∧ (ts.setRows k (new ts)).Holds c')
    (hrefused : ∀ ts c, ts.Holds c → ¬ Table.Unique k (new ts) → change c = (c, false)) :
    Tracks statement change := by
  intro ts c h
  by_cases hunique : Table.Unique k (new ts)
  · obtain ⟨c', hc', hholds⟩ := hdone ts c h hunique
    exact .inl ⟨_, _, c', (hok ts (h.present k) (h.unique k) _ _).2 ⟨hunique, rfl, rfl⟩, hc', hholds⟩
  · refine .inr ⟨?_, hrefused ts c h hunique⟩
    rcases hs : statement ts with e | ⟨ts', a⟩
    · exact ⟨e, rfl⟩
    · exact absurd ((hok ts (h.present k) (h.unique k) _ _).1 hs).1 hunique

theorem tracks_insertRow {k : Kind} {r : Row}
    (hdone : ∀ (ts : Tables) c, ts.Holds c → Table.Unique k (ts.rows k ++ [r]) →
      ∃ c', change c = (c', true) ∧ (ts.setRows k (ts.rows k ++ [r])).Holds c')
    (hrefused : ∀ (ts : Tables) c, ts.Holds c → ¬ Table.Unique k (ts.rows k ++ [r]) → change c = (c, false)) :
    Tracks (fun ts => do return (← ts.insert k r, ())) change := by
  refine tracks_of_puts (fun _ => ()) (fun ts hpresent hunique ts' a => ?_) hdone hrefused
  constructor
  · intro h
    obtain ⟨ts₁, hinsert, h⟩ := Except.bind_eq_ok h
    obtain ⟨rfl, -⟩ := Prod.mk.inj (Except.ok.inj h)
    obtain ⟨hnew, hts⟩ := (insert_eq_ok_iff hpresent hunique).1 hinsert
    exact ⟨hnew, hts, rfl⟩
  · rintro ⟨hnew, rfl, -⟩
    rw [(insert_eq_ok_iff hpresent hunique).2 ⟨hnew, rfl⟩]
    rfl

/-! ## Equipment -/

theorem tracks_insert (network : Uuid) (r : Resource k.Attributes) :
    Tracks (fun ts => do return (← ts.insert (.equipment k) (.ofEquipment network r), ()))
      (.insert k network r) := by
  rw [Row.ofEquipment_eq]
  refine tracks_insertRow (fun ts c h hunique => ?_) fun ts c h hshared => ?_
  · have hnone := ((h.stores k).unique_append_iff (h.unique _)).1 hunique
    refine ⟨_, ?_, h.setEquipment hunique (Table.stores_append (h.stores k) hnone)⟩
    rw [Change.insert, hnone]
    rfl
  · rw [(h.stores k).unique_append_iff (h.unique _)] at hshared
    exact if_pos (Option.isSome_iff_ne_none.2 hshared)

theorem tracks_replace (network : Uuid) (r : Resource k.Attributes) :
    Tracks (fun ts => ts.update (.equipment k) (·.isFoundBy network r) (·.updatedBy r))
      (.replace k network r) := by
  refine tracks_of_puts _ (fun ts hpresent hunique ts' n =>
    update_eq_ok_iff hpresent hunique fun _ _ => Row.clash_of_isFoundBy)
    (fun ts c h hunique => ?_) fun ts c h hshared => absurd (h.unique _).map_update hshared
  by_cases hfound : ∃ a, c.equipment k network r.variantNum r.id = some a ∧
      StoredAttributes.containerId a = StoredAttributes.containerId r.attributes
  · obtain ⟨a, ha, hsame⟩ := hfound
    refine ⟨_, ?_, h.setEquipment hunique (Table.stores_update (h.stores k) ha hsame)⟩
    rw [Change.replace, ha]
    exact if_pos hsame
  · have hnone : ∀ a, c.equipment k network r.variantNum r.id = some a →
        StoredAttributes.containerId a ≠ StoredAttributes.containerId r.attributes :=
      fun a ha hsame => hfound ⟨a, ha, hsame⟩
    rw [(h.stores k).map_update hnone]
    refine ⟨_, ?_, h.setEquipment (h.unique _) (h.stores k)⟩
    rw [Change.replace, Contents.setEquipment_self]
    split
    · rename_i a ha
      exact if_neg (hnone a ha)
    · rfl

theorem tracks_remove {p : Row → Bool} {q : Uuid → Int32 → String → Bool}
    (hp : ∀ u v i (a : k.Attributes), p (Row.ofEntry u v i a) = q u v i) :
    Tracks (fun ts => ts.delete (.equipment k) p) (.remove k q) := by
  intro ts c h
  refine .inl ⟨_, _, _, delete_eq (h.present _), rfl, ?_⟩
  exact h.setEquipment ((h.unique _).filter _) (Table.stores_remove (h.stores k) hp)

theorem tracks_copy {source target : Uuid} {n n' : Int32} {f : Row → Row}
    (hf : ∀ i (a : k.Attributes), f (Row.ofEntry source n i a) = Row.ofEntry target n' i a) :
    Tracks (fun ts => ts.copy (.equipment k) (·.isIn source n) f) (.copy k source n target n') := by
  refine tracks_of_puts _ (fun ts hpresent hunique ts' a => copy_eq_ok_iff hpresent hunique)
    (fun ts c h hunique => ?_) fun ts c h hshared => ?_
  · have hfree := ((h.stores k).unique_copies_iff (h.unique _) hf).1 hunique
    exact ⟨_, if_neg hfree, h.setEquipment hunique (Table.stores_copy (h.stores k) hf hfree)⟩
  · exact if_pos (not_not.1 (mt ((h.stores k).unique_copies_iff (h.unique _) hf).2 hshared))

/-! ## Networks -/

section Networks

variable {network source target : Uuid} {n n' : Int32} {x : Variant} {r : Row}

theorem Holds.keepVariants (h : ts.Holds c) (hu : Table.Unique .network rows)
    (hm : Table.Lists rows c.variants) : (ts.setRows .network rows).Holds c := by
  have hholds : (ts.setRows .network rows).Holds (c.setVariants .nil (c.variants .nil)) :=
    h.setVariants hu (by rwa [Function.update_eq_self])
  rwa [Contents.setVariants_self] at hholds

theorem tracks_insertVariant (hof : r.isOf network = true) (hr : r.toVariant = .ok x) :
    Tracks (fun ts => do return (← ts.insert .network r, ())) (.insertVariant network x) := by
  refine tracks_insertRow (fun ts c h hunique => ?_) fun ts c h hshared => ?_
  · have hfree := (h.lists.unique_append_iff (h.unique _) hof hr).1 hunique
    exact ⟨_, if_neg (by rw [hfree]; exact Bool.false_ne_true),
      h.setVariants hunique (Table.lists_append h.lists hof hr)⟩
  · rw [h.lists.unique_append_iff (h.unique _) hof hr, Bool.not_eq_false] at hshared
    exact if_pos hshared

theorem tracks_removeVariants {p : Row → Bool} {q : Int32 → Bool}
    (hp : ∀ r : Row, r.toVariant = .ok r.variant → p r = (r.isOf network && q r.variant.num)) :
    Tracks (fun ts => ts.delete .network p) (.removeVariants network q) := by
  intro ts c h
  refine .inl ⟨_, _, _, delete_eq (h.present _), rfl, ?_⟩
  exact h.setVariants ((h.unique _).filter _)
    (Table.lists_remove h.lists fun r hr => hp r (h.lists.named r hr))

theorem Holds.copies_of_none (h : ts.Holds c) {f : Row → Row}
    (hnone : (c.variants source).find? (·.num = n) = none) :
    ts.copies (·.isIn source n) f .network = [] := by
  rw [h.lists.find?_variants, Option.map_eq_none_iff] at hnone
  rw [copies, (h.unique .network).filter_isIn, hnone]
  rfl

theorem Holds.copies_of_some (h : ts.Holds c) {f : Row → Row}
    (hx : (c.variants source).find? (·.num = n) = some x) :
    ∃ r : Row, r.isIn source n = true ∧ r.toVariant = .ok x ∧
      ts.copies (·.isIn source n) f .network = [f r] := by
  rw [h.lists.find?_variants, Option.map_eq_some_iff] at hx
  obtain ⟨r, hr, rfl⟩ := hx
  refine ⟨r, List.find?_some hr, h.lists.named r (List.mem_of_find?_eq_some hr), ?_⟩
  rw [copies, (h.unique .network).filter_isIn, hr]
  rfl

theorem tracks_copyVariant {f : Row → Row} {rename : String → String}
    (hf : ∀ (r : Row) (x : Variant), r.isIn source n = true → r.toVariant = .ok x →
      (f r).isOf target = true ∧ (f r).toVariant = .ok ⟨rename x.id, n'⟩) :
    Tracks (fun ts => ts.copy .network (·.isIn source n) f)
      (.copyVariant source n target n' rename) := by
  refine tracks_of_puts _ (fun ts hpresent hunique ts' a => copy_eq_ok_iff hpresent hunique)
    (fun ts c h hunique => ?_) fun ts c h hshared => ?_
  · rcases hx : (c.variants source).find? (·.num = n) with _ | x
    · rw [h.copies_of_none hx, List.append_nil]
      exact ⟨c, by rw [Change.copyVariant, hx], h.keepVariants (h.unique _) h.lists⟩
    · obtain ⟨r, hin, hr, hcopies⟩ := h.copies_of_some (f := f) hx
      obtain ⟨hof, hcopy⟩ := hf r x hin hr
      rw [hcopies] at hunique ⊢
      have hfree := (h.lists.unique_append_iff (h.unique _) hof hcopy).1 hunique
      refine ⟨_, ?_, h.setVariants hunique (Table.lists_append h.lists hof hcopy)⟩
      rw [Change.copyVariant, hx]
      exact if_neg (by rw [hfree]; exact Bool.false_ne_true)
  · rcases hx : (c.variants source).find? (·.num = n) with _ | x
    · rw [h.copies_of_none hx, List.append_nil] at hshared
      exact absurd (h.unique _) hshared
    · obtain ⟨r, hin, hr, hcopies⟩ := h.copies_of_some (f := f) hx
      obtain ⟨hof, hcopy⟩ := hf r x hin hr
      rw [hcopies, h.lists.unique_append_iff (h.unique _) hof hcopy, Bool.not_eq_false] at hshared
      rw [Change.copyVariant, hx]
      exact if_pos hshared

/-- A network that is replaced keeps its variant, or gets another id. -/
theorem replaceNetwork_fixed (a : Resource Network) (hid : a.attributes.variantId = "") (r : Row) :
    let s := if r.isIn network n then Store.replaceNetwork a r else r
    s.network = r.network ∧ s.variantNum = r.variantNum ∧ s.variantId = r.variantId := by
  dsimp only
  split
  · rw [Store.replaceNetwork, if_pos hid]
    exact ⟨rfl, rfl, rfl⟩
  · exact ⟨rfl, rfl, rfl⟩

theorem toVariant_replaceNetwork (a : Resource Network) (hid : a.attributes.variantId ≠ "")
    (hr : r.toVariant = .ok x) :
    (Store.replaceNetwork a r).toVariant = .ok { x with id := a.attributes.variantId } := by
  rw [Row.toVariant_eq_ok] at hr ⊢
  rw [Store.replaceNetwork, if_neg hid]
  exact ⟨hr.1, rfl⟩

theorem tracks_replaceNetwork (a : Resource Network) :
    Tracks (fun ts => ts.update .network (·.isIn a.attributes.uuid a.variantNum)
        (Store.replaceNetwork a))
      (if a.attributes.variantId = "" then .done
        else .renameVariant a.attributes.uuid a.variantNum a.attributes.variantId) := by
  by_cases hid : a.attributes.variantId = ""
  · rw [if_pos hid]
    refine tracks_of_puts _ (fun ts hpresent hunique ts' n =>
      update_eq_ok_iff hpresent hunique fun _ _ => Table.clash_of_isIn_network)
      (fun ts c h hunique => ?_) fun ts c h hshared => ?_
    · exact ⟨c, rfl, h.keepVariants hunique
        (Table.lists_map_of_fixed h.lists fun r _ => replaceNetwork_fixed a hid r)⟩
    · exact absurd ((h.unique _).map_of_fixed fun r _ => replaceNetwork_fixed a hid r) hshared
  · rw [if_neg hid]
    have hrename (ts : Tables) (c : Contents) (h : ts.Holds c) : ∀ r ∈ ts.rows .network,
        r.isIn a.attributes.uuid a.variantNum = true →
          (Store.replaceNetwork a r).network = r.network ∧ (Store.replaceNetwork a r).toVariant
            = .ok { r.variant with id := a.attributes.variantId } :=
      fun r hr _ => ⟨rfl, toVariant_replaceNetwork a hid (h.lists.named r hr)⟩
    refine tracks_of_puts _ (fun ts hpresent hunique ts' n =>
      update_eq_ok_iff hpresent hunique fun _ _ => Table.clash_of_isIn_network)
      (fun ts c h hunique => ?_) fun ts c h hshared => ?_
    · have hfree := (h.lists.unique_rename_iff (h.unique _) (hrename ts c h)).1 hunique
      refine ⟨_, if_neg ?_, h.setVariants hunique (Table.lists_rename h.lists (hrename ts c h))⟩
      rw [hfree]
      exact Bool.false_ne_true
    · rw [h.lists.unique_rename_iff (h.unique _) (hrename ts c h), Bool.not_eq_false] at hshared
      exact if_pos hshared

end Networks

end Tables

end GridStore
