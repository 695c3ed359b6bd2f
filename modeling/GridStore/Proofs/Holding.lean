import GridStore.Proofs.Contents
import GridStore.Proofs.Keys

/-!
# Tables that hold contents

The rows of an equipment table are the entries of a map (`Table.Stores`), and what statements do to
them is what changes do to the map: `stores_append`, `stores_remove`, `stores_update`,
`stores_copy`. The rows of the network table are the variants of networks (`Table.Lists`):
`lists_append`, `lists_remove`, `lists_map`. Keys stay unique exactly if the change is not refused.
-/

namespace GridStore

/-! ## Rows of entries -/

namespace Row

variable {A : Type} [Attributes A] {u network : Uuid} {v n : Int32} {i id : String} {a b : A}

/-- The row of an entry. -/
def ofEntry (network : Uuid) (n : Int32) (id : String) (a : A) : Row :=
  .ofEquipment network (.of id n a)

theorem ofEquipment_eq (network : Uuid) (r : Resource A) :
    ofEquipment network r = ofEntry network r.variantNum r.id r.attributes :=
  rfl

@[simp]
theorem isOf_ofEntry : (ofEntry u v i a).isOf network = true ↔ u = network := by
  simp [isOf_iff, ofEntry, ofEquipment]

@[simp]
theorem isIn_ofEntry : (ofEntry u v i a).isIn network n = true ↔ u = network ∧ v = n :=
  isIn_ofEquipment

@[simp]
theorem isAt_ofEntry : (ofEntry u v i a).isAt network n id = true ↔ u = network ∧ v = n ∧ i = id := by
  rw [isAt_iff, isIn_ofEntry, and_assoc]
  simp [ofEntry, ofEquipment, Resource.of]

@[simp]
theorem clash_ofEntry {k : EquipmentKind} :
    Table.clash (.equipment k) (ofEntry u v i a) (ofEntry network n id b) = true ↔
      u = network ∧ v = n ∧ i = id := by
  simp [Table.clash_equipment, ofEntry, ofEquipment, Resource.of]

/-- Whether an update finds a row. -/
def isFoundBy (network : Uuid) (r : Resource A) (row : Row) : Bool :=
  row.isAt network r.variantNum r.id && row.matchesKey (Attributes.schema A) (ofAttributes r.attributes)

/-- The row that an update leaves of one that it finds. -/
def updatedBy (r : Resource A) (row : Row) : Row :=
  row.assign (Attributes.schema A) (ofAttributes r.attributes)

theorem isFoundBy_ofEntry [StoredAttributes A] {r : Resource A} :
    (ofEntry u v i a).isFoundBy network r = true ↔
      (u = network ∧ v = r.variantNum ∧ i = r.id) ∧
        StoredAttributes.containerId a = StoredAttributes.containerId r.attributes := by
  rw [isFoundBy, Bool.and_eq_true, isAt_ofEntry, matchesKey_iff (a := a) rfl]

theorem updatedBy_ofEntry [StoredAttributes A] {r : Resource A}
    (h : StoredAttributes.containerId a = StoredAttributes.containerId r.attributes) :
    (ofEntry u v i a).updatedBy r = ofEntry u v i r.attributes := by
  have hvalues := values_assign (r := ofEntry u v i a) rfl h
  rw [ofEntry, ofEquipment, Row.mk.injEq]
  exact ⟨rfl, rfl, rfl, rfl, hvalues⟩

theorem clash_of_isFoundBy {k : EquipmentKind} {r : Resource A} {s t : Row}
    (hs : s.isFoundBy network r = true) (ht : t.isFoundBy network r = true) :
    Table.clash (.equipment k) s t = true := by
  obtain ⟨hsIn, hsId⟩ := isAt_iff.1 (Bool.and_eq_true_iff.1 hs).1
  obtain ⟨htIn, htId⟩ := isAt_iff.1 (Bool.and_eq_true_iff.1 ht).1
  exact Table.clash_of_isIn_equipment hsIn htIn (hsId.trans htId.symm)

theorem toVariantNum_ofEntry (n : Int32) (variantId : String) :
    (ofEntry u v i a).toVariantNum n variantId = ofEntry u n i a :=
  rfl

theorem toOtherNetwork_ofEntry (network : Uuid) :
    (ofEntry u v i a).toOtherNetwork network = ofEntry network v i a :=
  rfl

end Row

/-! ## Tables of equipment -/

namespace Table

section Equipment

variable {A : Type} [Attributes A] {k : EquipmentKind} {rows : List Row} {m : EquipmentMap A}
  {u : Uuid} {v : Int32} {i : String} {a : A}

/-- The rows are the entries of a map. -/
def Stores (rows : List Row) (m : EquipmentMap A) : Prop :=
  ∀ r, r ∈ rows ↔ ∃ u v i a, m u v i = some a ∧ r = Row.ofEntry u v i a

theorem Stores.mem (h : Stores rows m) (ha : m u v i = some a) : Row.ofEntry u v i a ∈ rows :=
  (h _).2 ⟨u, v, i, a, ha, rfl⟩

theorem Stores.exists (h : Stores rows m) {r : Row} (hr : r ∈ rows) :
    ∃ u v i a, m u v i = some a ∧ r = Row.ofEntry u v i a :=
  (h r).1 hr

theorem stores_nil : Stores [] (fun _ _ _ => none : EquipmentMap A) := by
  simp [Stores]

theorem Stores.unique_append_iff (h : Stores rows m) (hu : Unique (.equipment k) rows) :
    Unique (.equipment k) (rows ++ [Row.ofEntry u v i a]) ↔ m u v i = none := by
  rw [unique_append, and_iff_right hu, and_iff_right (unique_singleton _ _)]
  constructor
  · intro hfree
    by_contra hne
    obtain ⟨b, hb⟩ := Option.ne_none_iff_exists'.1 hne
    have hclash := hfree _ (h.mem hb) _ (List.mem_singleton_self _)
    rw [Bool.eq_false_iff, ne_eq, Row.clash_ofEntry] at hclash
    exact hclash ⟨rfl, rfl, rfl⟩
  · intro hnone _ hr s hs
    obtain ⟨u', v', i', b, hb, rfl⟩ := h.exists hr
    rw [List.mem_singleton.1 hs, Bool.eq_false_iff, ne_eq, Row.clash_ofEntry]
    rintro ⟨rfl, rfl, rfl⟩
    rw [hnone] at hb
    cases hb

theorem stores_append (h : Stores rows m) (hnone : m u v i = none) :
    Stores (rows ++ [Row.ofEntry u v i a]) (m.put u v i a) := by
  intro r
  rw [List.mem_append, List.mem_singleton]
  constructor
  · rintro (hr | rfl)
    · obtain ⟨u', v', i', b, hb, rfl⟩ := h.exists hr
      refine ⟨u', v', i', b, ?_, rfl⟩
      rw [EquipmentMap.put, if_neg, hb]
      rintro ⟨rfl, rfl, rfl⟩
      rw [hnone] at hb
      cases hb
    · exact ⟨u, v, i, a, if_pos ⟨rfl, rfl, rfl⟩, rfl⟩
  · rintro ⟨u', v', i', b, hb, rfl⟩
    rw [EquipmentMap.put] at hb
    split at hb
    · rename_i heq
      obtain ⟨rfl, rfl, rfl⟩ := heq
      exact .inr (by rw [Option.some.inj hb])
    · exact .inl (h.mem hb)

theorem stores_remove (h : Stores rows m) {p : Row → Bool} {q : Uuid → Int32 → String → Bool}
    (hp : ∀ u v i (a : A), p (Row.ofEntry u v i a) = q u v i) :
    Stores (rows.filter fun r => !p r) (m.remove q) := by
  intro r
  rw [List.mem_filter]
  constructor
  · rintro ⟨hr, hkeep⟩
    obtain ⟨u, v, i, a, ha, rfl⟩ := h.exists hr
    refine ⟨u, v, i, a, ?_, rfl⟩
    rw [hp, Bool.not_eq_true'] at hkeep
    rw [EquipmentMap.remove, hkeep]
    exact ha
  · rintro ⟨u, v, i, a, ha, rfl⟩
    rw [EquipmentMap.remove] at ha
    split at ha
    · cases ha
    · rename_i hq
      exact ⟨h.mem ha, by rw [hp, Bool.eq_false_iff.2 hq]; rfl⟩

section Update

variable [StoredAttributes A] {r : Resource A}

/-- An update that finds the row of an entry replaces the entry. -/
theorem stores_update (h : Stores rows m) (ha : m u r.variantNum r.id = some a)
    (hsame : StoredAttributes.containerId a = StoredAttributes.containerId r.attributes) :
    Stores (rows.map fun row => if row.isFoundBy u r then row.updatedBy r else row)
      (m.put u r.variantNum r.id r.attributes) := by
  intro row
  rw [List.mem_map]
  constructor
  · rintro ⟨s, hs, rfl⟩
    obtain ⟨u', v', i', a', ha', rfl⟩ := h.exists hs
    split
    · rename_i hfound
      obtain ⟨⟨rfl, rfl, rfl⟩, hcontainer⟩ := Row.isFoundBy_ofEntry.1 hfound
      exact ⟨u', r.variantNum, r.id, r.attributes, if_pos ⟨rfl, rfl, rfl⟩,
        Row.updatedBy_ofEntry hcontainer⟩
    · rename_i hfound
      refine ⟨u', v', i', a', (if_neg ?_).trans ha', rfl⟩
      rintro ⟨rfl, rfl, rfl⟩
      obtain rfl := Option.some.inj (ha.symm.trans ha')
      exact hfound (Row.isFoundBy_ofEntry.2 ⟨⟨rfl, rfl, rfl⟩, hsame⟩)
  · rintro ⟨u', v', i', b', hb', rfl⟩
    rw [EquipmentMap.put] at hb'
    split at hb'
    · rename_i heq
      obtain ⟨rfl, rfl, rfl⟩ := heq
      refine ⟨_, h.mem ha, ?_⟩
      rw [if_pos (Row.isFoundBy_ofEntry.2 ⟨⟨rfl, rfl, rfl⟩, hsame⟩), Row.updatedBy_ofEntry hsame,
        Option.some.inj hb']
    · rename_i hne
      exact ⟨_, h.mem hb', if_neg fun hfound => hne (Row.isFoundBy_ofEntry.1 hfound).1⟩

/-- An update that finds no row of an entry changes none. -/
theorem Stores.map_update (h : Stores rows m)
    (hnone : ∀ a, m u r.variantNum r.id = some a →
      StoredAttributes.containerId a ≠ StoredAttributes.containerId r.attributes) :
    (rows.map fun row => if row.isFoundBy u r then row.updatedBy r else row) = rows := by
  refine (List.map_congr_left fun row hrow => if_neg ?_).trans (List.map_id' _)
  obtain ⟨u', v', i', a, ha, rfl⟩ := h.exists hrow
  intro hfound
  obtain ⟨⟨rfl, rfl, rfl⟩, hsame⟩ := Row.isFoundBy_ofEntry.1 hfound
  exact hnone a ha hsame

end Update

theorem Unique.map_update {r : Resource A} (hu : Unique (.equipment k) rows) :
    Unique (.equipment k) (rows.map fun row => if row.isFoundBy u r then row.updatedBy r else row) := by
  refine hu.map fun s _ t _ hclash => ?_
  have hfixed (s : Row) : (if s.isFoundBy u r then s.updatedBy r else s).network = s.network ∧
      (if s.isFoundBy u r then s.updatedBy r else s).variantNum = s.variantNum ∧
      (if s.isFoundBy u r then s.updatedBy r else s).id = s.id := by
    split <;> exact ⟨rfl, rfl, rfl⟩
  rw [clash_equipment] at hclash ⊢
  rwa [(hfixed s).1, (hfixed s).2.1, (hfixed s).2.2, (hfixed t).1, (hfixed t).2.1, (hfixed t).2.2]
    at hclash

section Copy

variable {source target : Uuid} {n n' : Int32} {f : Row → Row}

theorem mem_copies (h : Stores rows m)
    (hf : ∀ i (a : A), f (Row.ofEntry source n i a) = Row.ofEntry target n' i a) {r : Row} :
    r ∈ (rows.filter (·.isIn source n)).map f ↔
      ∃ i a, m source n i = some a ∧ r = Row.ofEntry target n' i a := by
  rw [List.mem_map]
  constructor
  · rintro ⟨s, hs, rfl⟩
    obtain ⟨hs, hin⟩ := List.mem_filter.1 hs
    obtain ⟨u, v, i, a, ha, rfl⟩ := h.exists hs
    obtain ⟨rfl, rfl⟩ := Row.isIn_ofEntry.1 hin
    exact ⟨i, a, ha, hf i a⟩
  · rintro ⟨i, a, ha, rfl⟩
    exact ⟨_, List.mem_filter.2 ⟨h.mem ha, Row.isIn_ofEntry.2 ⟨rfl, rfl⟩⟩, hf i a⟩

theorem Stores.unique_copies_iff (h : Stores rows m) (hu : Unique (.equipment k) rows)
    (hf : ∀ i (a : A), f (Row.ofEntry source n i a) = Row.ofEntry target n' i a) :
    Unique (.equipment k) (rows ++ (rows.filter (·.isIn source n)).map f) ↔
      ¬ m.Overlap source n target n' := by
  have hcopies : Unique (.equipment k) ((rows.filter (·.isIn source n)).map f) := by
    refine (hu.filter _).map fun r hr s hs hclash => ?_
    obtain ⟨hr, hrIn⟩ := List.mem_filter.1 hr
    obtain ⟨hs, hsIn⟩ := List.mem_filter.1 hs
    obtain ⟨u, v, i, a, -, rfl⟩ := h.exists hr
    obtain ⟨u', v', i', a', -, rfl⟩ := h.exists hs
    obtain ⟨rfl, rfl⟩ := Row.isIn_ofEntry.1 hrIn
    obtain ⟨rfl, rfl⟩ := Row.isIn_ofEntry.1 hsIn
    rw [hf, hf, Row.clash_ofEntry] at hclash
    exact Row.clash_ofEntry.2 ⟨rfl, rfl, hclash.2.2⟩
  rw [unique_append, and_iff_right hu, and_iff_right hcopies]
  constructor
  · rintro hfree ⟨i, hsource, htarget⟩
    obtain ⟨a, ha⟩ := Option.isSome_iff_exists.1 hsource
    obtain ⟨b, hb⟩ := Option.isSome_iff_exists.1 htarget
    have hclash := hfree _ (h.mem hb) _ ((mem_copies h hf).2 ⟨i, a, ha, rfl⟩)
    rw [Bool.eq_false_iff, ne_eq, Row.clash_ofEntry] at hclash
    exact hclash ⟨rfl, rfl, rfl⟩
  · intro hfree _ hr _ hs
    obtain ⟨u, v, i, b, hb, rfl⟩ := h.exists hr
    obtain ⟨i', a, ha, rfl⟩ := (mem_copies h hf).1 hs
    rw [Bool.eq_false_iff, ne_eq, Row.clash_ofEntry]
    rintro ⟨rfl, rfl, rfl⟩
    exact hfree ⟨i, Option.isSome_of_eq_some ha, Option.isSome_of_eq_some hb⟩

theorem stores_copy (h : Stores rows m)
    (hf : ∀ i (a : A), f (Row.ofEntry source n i a) = Row.ofEntry target n' i a)
    (hfree : ¬ m.Overlap source n target n') :
    Stores (rows ++ (rows.filter (·.isIn source n)).map f) (m.copy source n target n') := by
  intro r
  rw [List.mem_append, mem_copies h hf]
  constructor
  · rintro (hr | ⟨i, a, ha, rfl⟩)
    · obtain ⟨u, v, i, b, hb, rfl⟩ := h.exists hr
      refine ⟨u, v, i, b, ?_, rfl⟩
      rw [EquipmentMap.copy, hb]
      split <;> rfl
    · have hnone : m target n' i = none := by
        by_contra hne
        exact hfree ⟨i, Option.isSome_of_eq_some ha, Option.isSome_iff_ne_none.2 hne⟩
      exact ⟨target, n', i, a, by rw [EquipmentMap.copy, if_pos ⟨rfl, rfl⟩, hnone, ha]; rfl, rfl⟩
  · rintro ⟨u, v, i, b, hb, rfl⟩
    rw [EquipmentMap.copy] at hb
    split at hb
    · rename_i heq
      obtain ⟨rfl, rfl⟩ := heq
      rcases htarget : m u v i with _ | b'
      · rw [htarget, Option.none_or] at hb
        exact .inr ⟨i, b, hb, rfl⟩
      · rw [htarget, Option.some_or] at hb
        exact .inl (h.mem (htarget.trans hb))
    · exact .inl (h.mem hb)

end Copy

end Equipment

/-! ## The table of networks -/

section Networks

variable {rows : List Row} {variants : Uuid → List Variant} {u network : Uuid} {n : Int32}
  {x : Variant} {r s : Row}

/-- The rows are the variants of networks, in their order. -/
structure Lists (rows : List Row) (variants : Uuid → List Variant) : Prop where
  named : ∀ r ∈ rows, r.toVariant = .ok r.variant
  variants : ∀ u, (rows.filter (·.isOf u)).map Row.variant = variants u

theorem lists_nil : Lists [] fun _ => [] where
  named _ hr := absurd hr List.not_mem_nil
  variants _ := rfl

theorem Lists.mem_iff (h : Lists rows variants) :
    x ∈ variants u ↔ ∃ r ∈ rows, r.isOf u = true ∧ r.variant = x := by
  rw [← h.variants u, List.mem_map]
  simp only [List.mem_filter, and_assoc]

theorem isIn_iff_variant (hr : r.toVariant = .ok r.variant) :
    r.isIn network n = true ↔ r.isOf network = true ∧ r.variant.num = n := by
  rw [Row.isIn_iff, Row.isOf_iff, (Row.toVariant_eq_ok.1 hr).1, Cell.ofInt32_inj]

theorem clash_iff_variant (hr : r.toVariant = .ok r.variant) (hs : s.toVariant = .ok s.variant) :
    clash .network r s = true ↔
      r.network = s.network ∧ (r.variant.id = s.variant.id ∨ r.variant.num = s.variant.num) := by
  rw [Row.toVariant_eq_ok] at hr hs
  rw [clash_network, hr.1, hr.2, hs.1, hs.2, Cell.ofInt32_inj]
  simp

theorem isOf_of_ne (h : r.isOf u = true) (hne : u ≠ network) : r.isOf network = false := by
  rw [Bool.eq_false_iff]
  intro h'
  rw [Row.isOf_iff] at h h'
  exact hne (Cell.ofUuid_inj.1 (h.symm.trans h'))

/-- What is done to the rows of one network is done to its variants. -/
theorem Lists.update (h : Lists rows variants) {rows' : List Row} {vs : List Variant}
    (hnamed : ∀ r ∈ rows', r.toVariant = .ok r.variant)
    (hother : ∀ u, u ≠ network → rows'.filter (·.isOf u) = rows.filter (·.isOf u))
    (hself : (rows'.filter (·.isOf network)).map Row.variant = vs) :
    Lists rows' (Function.update variants network vs) := by
  refine ⟨hnamed, fun u => ?_⟩
  by_cases hu : u = network
  · subst hu
    rw [Function.update_self]
    exact hself
  · rw [Function.update_of_ne hu, hother u hu, h.variants u]

theorem Lists.unique_append_iff (h : Lists rows variants) (hu : Unique .network rows)
    (hs : s.isOf network = true) (hnamed : s.toVariant = .ok x) :
    Unique .network (rows ++ [s]) ↔
      ((variants network).any fun y => y.num = x.num ∨ y.id = x.id) = false := by
  obtain rfl := Row.variant_of_toVariant hnamed
  rw [unique_append, and_iff_right hu, and_iff_right (unique_singleton _ _), List.any_eq_false]
  rw [Row.isOf_iff] at hs
  constructor
  · intro hfree x hx hshared
    obtain ⟨r, hr, hof, rfl⟩ := h.mem_iff.1 hx
    have hclash := hfree r hr s (List.mem_singleton_self s)
    rw [Bool.eq_false_iff, ne_eq, clash_iff_variant (h.named r hr) hnamed] at hclash
    exact hclash ⟨(Row.isOf_iff.1 hof).trans hs.symm, (of_decide_eq_true hshared).symm⟩
  · intro hfree r hr t ht
    obtain rfl := List.mem_singleton.1 ht
    rw [Bool.eq_false_iff]
    intro hclash
    rw [clash_iff_variant (h.named r hr) hnamed, hs] at hclash
    refine hfree r.variant (h.mem_iff.2 ⟨r, hr, Row.isOf_iff.2 hclash.1, rfl⟩) ?_
    exact decide_eq_true hclash.2.symm

theorem lists_append (h : Lists rows variants) (hs : s.isOf network = true)
    (hnamed : s.toVariant = .ok x) :
    Lists (rows ++ [s]) (Function.update variants network (variants network ++ [x])) := by
  obtain rfl := Row.variant_of_toVariant hnamed
  refine h.update (fun r hr => ?_) (fun u hu => ?_) ?_
  · rcases List.mem_append.1 hr with hr | hr
    · exact h.named r hr
    · rw [List.mem_singleton.1 hr]
      exact hnamed
  · rw [List.filter_append, List.filter_cons_of_neg (by simp [isOf_of_ne hs hu.symm]), List.filter_nil,
      List.append_nil]
  · rw [List.filter_append, List.map_append, h.variants, List.filter_cons_of_pos hs]
    rfl

theorem lists_remove (h : Lists rows variants) {p : Row → Bool} {q : Int32 → Bool}
    (hp : ∀ r ∈ rows, p r = (r.isOf network && q r.variant.num)) :
    Lists (rows.filter fun r => !p r)
      (Function.update variants network ((variants network).filter fun x => !q x.num)) := by
  refine h.update (fun r hr => h.named r (List.mem_filter.1 hr).1) (fun u hu => ?_) ?_
  · rw [List.filter_filter]
    refine List.filter_congr fun r hr => ?_
    rcases hof : r.isOf u
    · rfl
    · rw [hp r hr, isOf_of_ne hof hu]
      rfl
  · rw [← h.variants network, List.filter_map, List.filter_comm]
    refine congrArg _ (List.filter_congr fun r hr => ?_)
    obtain ⟨hr, hof⟩ := List.mem_filter.1 hr
    rw [hp r hr, hof]
    rfl

theorem lists_map (h : Lists rows variants) {g : Row → Row} {change : Variant → Variant}
    (hown : ∀ r ∈ rows, (g r).network = r.network)
    (hnamed : ∀ r ∈ rows, (g r).toVariant = .ok (g r).variant)
    (hself : ∀ r ∈ rows, r.isOf network = true → (g r).variant = change r.variant)
    (hother : ∀ r ∈ rows, r.isOf network = false → g r = r) :
    Lists (rows.map g) (Function.update variants network ((variants network).map change)) := by
  have hfilter (u : Uuid) : (rows.map g).filter (·.isOf u) = (rows.filter (·.isOf u)).map g := by
    rw [List.filter_map]
    refine congrArg _ (List.filter_congr fun r hr => ?_)
    show (g r).isOf u = r.isOf u
    rw [Row.isOf, hown r hr, Row.isOf]
  refine h.update (fun r hr => ?_) (fun u hu => ?_) ?_
  · obtain ⟨r', hr', rfl⟩ := List.mem_map.1 hr
    exact hnamed r' hr'
  · rw [hfilter]
    refine (List.map_congr_left fun r hr => ?_).trans (List.map_id' _)
    obtain ⟨hr, hof⟩ := List.mem_filter.1 hr
    exact hother r hr (isOf_of_ne hof hu)
  · rw [hfilter, ← h.variants network, List.map_map, List.map_map]
    refine List.map_congr_left fun r hr => ?_
    obtain ⟨hr, hof⟩ := List.mem_filter.1 hr
    exact hself r hr hof

/-- What leaves the fixed columns of rows as they are leaves the variants as they are. -/
theorem lists_map_of_fixed (h : Lists rows variants) {g : Row → Row}
    (hg : ∀ r ∈ rows, (g r).network = r.network ∧ (g r).variantNum = r.variantNum ∧
      (g r).variantId = r.variantId) : Lists (rows.map g) variants := by
  have hvariant (r : Row) (hr : r ∈ rows) : (g r).toVariant = r.toVariant := by
    rw [Row.toVariant, (hg r hr).2.1, (hg r hr).2.2, Row.toVariant]
  refine ⟨fun r hr => ?_, fun u => ?_⟩
  · obtain ⟨s, hs, rfl⟩ := List.mem_map.1 hr
    rw [Row.variant, hvariant s hs]
    exact h.named s hs
  · rw [List.filter_map, ← h.variants u, List.map_map]
    have hfilter : rows.filter ((·.isOf u) ∘ g) = rows.filter (·.isOf u) := by
      refine List.filter_congr fun r hr => ?_
      rw [Function.comp_apply, Row.isOf, (hg r hr).1, Row.isOf]
    rw [hfilter]
    refine List.map_congr_left fun r hr => ?_
    rw [Function.comp_apply, Row.variant, hvariant r (List.mem_filter.1 hr).1, Row.variant]

theorem Unique.map_of_fixed (hu : Unique .network rows) {g : Row → Row}
    (hg : ∀ r ∈ rows, (g r).network = r.network ∧ (g r).variantNum = r.variantNum ∧
      (g r).variantId = r.variantId) : Unique .network (rows.map g) := by
  refine hu.map fun r hr s hs hclash => ?_
  rw [clash_network, (hg r hr).1, (hg s hs).1, (hg r hr).2.1, (hg s hs).2.1, (hg r hr).2.2,
    (hg s hs).2.2] at hclash
  exact clash_network.2 hclash

/-- A row that takes another id shares a key with a row of another number if that has the id. -/
theorem clash_rename_iff {t : Row} {id : String} (hr : r.toVariant = .ok r.variant)
    (hs : s.toVariant = .ok s.variant) (hin : r.isIn network n = true) (hout : s.isIn network n = false)
    (hown : t.network = r.network) (ht : t.toVariant = .ok { r.variant with id }) :
    clash .network t s = true ↔ s.isOf network = true ∧ s.variant.num ≠ n ∧ s.variant.id = id := by
  have hvariant := Row.variant_of_toVariant ht
  rw [isIn_iff_variant hr] at hin
  rw [Bool.eq_false_iff, ne_eq, isIn_iff_variant hs] at hout
  rw [clash_iff_variant (ht.trans (congrArg _ hvariant.symm)) hs, hown, hvariant,
    Row.isOf_iff.1 hin.1, hin.2, eq_comm, ← Row.isOf_iff]
  constructor
  · rintro ⟨hof, hshared⟩
    have hne : s.variant.num ≠ n := fun heq => hout ⟨hof, heq⟩
    exact ⟨hof, hne, (hshared.resolve_right hne.symm).symm⟩
  · rintro ⟨hof, -, hid⟩
    exact ⟨hof, .inl hid.symm⟩

/-- The row of a variant can take another id if no other variant of the network has it. -/
theorem Lists.unique_rename_iff (h : Lists rows variants) (hu : Unique .network rows) {id : String}
    {f : Row → Row}
    (hf : ∀ r ∈ rows, r.isIn network n = true →
      (f r).network = r.network ∧ (f r).toVariant = .ok { r.variant with id }) :
    Unique .network (rows.map fun r => if r.isIn network n then f r else r) ↔
      ((variants network).any (·.num = n) &&
        (variants network).any fun y => y.num ≠ n ∧ y.id = id) = false := by
  have hrenamed (r s : Row) (hr : r ∈ rows) (hs : s ∈ rows) (hin : r.isIn network n = true)
      (hout : s.isIn network n = false) :
      clash .network (f r) s = true ↔ s.isOf network = true ∧ s.variant.num ≠ n ∧ s.variant.id = id :=
    clash_rename_iff (h.named r hr) (h.named s hs) hin hout (hf r hr hin).1 (hf r hr hin).2
  rw [Bool.eq_false_iff, ne_eq, Bool.and_eq_true, List.any_eq_true, List.any_eq_true]
  constructor
  · rintro hunique ⟨⟨x, hx, hnum⟩, y, hy, hother⟩
    obtain ⟨r, hr, hof, rfl⟩ := h.mem_iff.1 hx
    obtain ⟨s, hs, hsof, rfl⟩ := h.mem_iff.1 hy
    have hin := (isIn_iff_variant (h.named r hr)).2 ⟨hof, of_decide_eq_true hnum⟩
    have hother := of_decide_eq_true hother
    have hout : s.isIn network n = false := by
      rw [Bool.eq_false_iff]
      exact fun hin => hother.1 ((isIn_iff_variant (h.named s hs)).1 hin).2
    have hclash := (hrenamed r s hr hs hin hout).2 ⟨hsof, hother⟩
    have heq : f r = s := hunique.eq_of_clash (List.mem_map.2 ⟨r, hr, if_pos hin⟩)
      (List.mem_map.2 ⟨s, hs, by rw [hout]; rfl⟩) hclash
    rw [← heq, Row.variant_of_toVariant (hf r hr hin).2] at hother
    exact hother.1 (of_decide_eq_true hnum)
  · intro hfree
    -- rows of the number are one row, so only a renamed one and one that stays are to be compared
    have hapart (r s : Row) (hr : r ∈ rows) (hs : s ∈ rows) (hin : r.isIn network n = true)
        (hout : s.isIn network n = false) : clash .network (f r) s = false := by
      rw [Bool.eq_false_iff, ne_eq, hrenamed r s hr hs hin hout]
      rintro ⟨hsof, hother⟩
      obtain ⟨hof, hnum⟩ := (isIn_iff_variant (h.named r hr)).1 hin
      exact hfree ⟨⟨_, h.mem_iff.2 ⟨r, hr, hof, rfl⟩, decide_eq_true hnum⟩,
        _, h.mem_iff.2 ⟨s, hs, hsof, rfl⟩, decide_eq_true hother⟩
    refine hu.map fun r hr s hs hclash => ?_
    rcases hrin : r.isIn network n <;> rcases hsin : s.isIn network n <;> rw [hrin, hsin] at hclash
    · exact hclash
    · have hclash : clash .network r (f s) = true := hclash
      rw [clash_comm, hapart s r hs hr hsin hrin] at hclash
      exact absurd hclash Bool.false_ne_true
    · have hclash : clash .network (f r) s = true := hclash
      rw [hapart r s hr hs hrin hsin] at hclash
      exact absurd hclash Bool.false_ne_true
    · exact clash_of_isIn_network hrin hsin

theorem lists_rename (h : Lists rows variants) {id : String} {f : Row → Row}
    (hf : ∀ r ∈ rows, r.isIn network n = true →
      (f r).network = r.network ∧ (f r).toVariant = .ok { r.variant with id }) :
    Lists (rows.map fun r => if r.isIn network n then f r else r)
      (Function.update variants network
        ((variants network).map fun y => if y.num = n then { y with id } else y)) := by
  refine lists_map h (fun r hr => ?_) (fun r hr => ?_) (fun r hr hof => ?_) fun r hr hof => ?_
  · split
    · exact (hf r hr ‹_›).1
    · rfl
  · split
    · rw [Row.variant_of_toVariant (hf r hr ‹_›).2, (hf r hr ‹_›).2]
    · exact h.named r hr
  · have hin : r.isIn network n = true ↔ r.variant.num = n := by
      rw [isIn_iff_variant (h.named r hr), hof, and_iff_right rfl]
    by_cases hnum : r.variant.num = n
    · rw [if_pos (hin.2 hnum), if_pos hnum]
      exact Row.variant_of_toVariant (hf r hr (hin.2 hnum)).2
    · rw [if_neg (mt hin.1 hnum), if_neg hnum]
  · refine if_neg fun hin => ?_
    rw [((isIn_iff_variant (h.named r hr)).1 hin).1] at hof
    exact Bool.false_ne_true hof.symm

theorem Lists.find?_variants (h : Lists rows variants) :
    (variants network).find? (·.num = n) = (rows.find? (·.isIn network n)).map Row.variant := by
  rw [← h.variants network, List.find?_map, ← List.head?_filter, ← List.head?_filter,
    List.filter_filter]
  refine congrArg (fun found => (List.head? found).map Row.variant) ?_
  refine List.filter_congr fun r hr => ?_
  rw [Bool.eq_iff_iff, isIn_iff_variant (h.named r hr), Bool.and_eq_true, and_comm]
  exact and_congr_right fun _ => decide_eq_true_iff

/-- A variant has at most one row. -/
theorem Unique.filter_isIn (hu : Unique .network rows) :
    rows.filter (·.isIn network n) = (rows.find? (·.isIn network n)).toList := by
  rw [← List.head?_filter]
  have hunique := hu.filter (·.isIn network n)
  rcases hin : rows.filter (·.isIn network n) with _ | ⟨r, _ | ⟨s, rest⟩⟩
  · rw [hin]
    rfl
  · rw [hin]
    rfl
  · rw [hin, unique_cons] at hunique
    have hmem (t : Row) (ht : t ∈ r :: s :: rest) : t.isIn network n = true := by
      rw [← hin] at ht
      exact (List.mem_filter.1 ht).2
    have hclash := clash_of_isIn_network (hmem r (by simp)) (hmem s (by simp))
    rw [hunique.1 s (by simp)] at hclash
    exact absurd hclash Bool.false_ne_true

end Networks

end Table

end GridStore
