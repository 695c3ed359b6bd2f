import GridStore.Proofs.Calls
import GridStore.Proofs.Keys

/-!
# Variants read back

A row of the network table names a variant if it holds a number of 32 bits and a text
(`toVariant_eq_ok`). The variants of a network are read from its rows in the order of their numbers
(`readVariants_eq`), and are those that its rows name (`perm_of_variantsOf`).
-/

namespace GridStore

theorem ofColumn_integer_eq_ok {num : Int64} {n : Int32} :
    ColumnCodec.ofColumn (.integer num) = Except.ok n ↔ Cell.integer num = .ofInt32 n := by
  show (if Int32.minValue.toInt ≤ num.toInt ∧ num.toInt ≤ Int32.maxValue.toInt then
      (Except.ok (Int32.ofInt num.toInt) : Except ColumnError Int32)
    else .error (.integerOverflow num)) = .ok n ↔ _
  constructor
  · intro h
    split at h
    · rename_i hrange
      rw [← Except.ok.inj h, Cell.ofInt32, Int32.toInt64_ofInt hrange.1 hrange.2, Int64.ofInt_toInt]
    · cases h
  · intro h
    obtain rfl : num = n.toInt64 := Cell.integer.inj h
    rw [Int32.toInt_toInt64, if_pos ⟨n.minValue_le_toInt, n.toInt_le⟩, Int32.ofInt_toInt]

namespace Row

theorem toVariant_eq_ok {r : Row} {x : Variant} :
    r.toVariant = .ok x ↔ r.variantNum = .ofInt32 x.num ∧ r.variantId = some (.text x.id) := by
  constructor
  · intro h
    obtain ⟨num, hnum, h⟩ := Except.bind_eq_ok h
    obtain ⟨id, hid, h⟩ := Except.bind_eq_ok h
    have hcell : r.variantNum = .integer num := by
      cases hr : r.variantNum <;> simp_all [Cell.toInt64]
    have htext : r.variantId = some (.text id) := by
      rcases hr : r.variantId with _ | _ | _ | _ | text <;> simp_all [Cell.toText]
    split at h
    · rename_i n hn
      obtain rfl := Except.ok.inj h
      exact ⟨hcell.trans (ofColumn_integer_eq_ok.1 hn), htext⟩
    · cases h
  · rintro ⟨hnum, hid⟩
    have hn : ColumnCodec.ofColumn (.integer x.num.toInt64) = Except.ok x.num :=
      ofColumn_integer_eq_ok.2 rfl
    rw [toVariant, hnum, hid]
    dsimp only [Cell.ofInt32, Cell.toInt64, Option.getD, Cell.toText, bind, Except.bind]
    rw [hn]
    rfl

/-- The variant that a row of a network names. -/
def variant (r : Row) : Variant :=
  r.toVariant.toOption.getD default

theorem variant_of_toVariant {r : Row} {x : Variant} (h : r.toVariant = .ok x) : r.variant = x := by
  rw [variant, h]
  rfl

end Row

namespace Store

open Call

/-- The variants that the rows of a network name, by number. -/
def variantsOf (network : Uuid) (ts : Tables) : Except StoreError (List Variant) := do
  let rows ← ts.select .network (·.isOf network)
  (rows.mergeSort fun r s => r.variantNum.le s.variantNum).mapM Row.toVariant

theorem readVariants_eq (network : Uuid) :
    readVariants network = Call.query (variantsOf network) := by
  unfold readVariants variantRows
  simp only [mapM_ofExcept]
  funext s
  simp only [bind_apply, Call.andThen, Call.query, variantsOf]
  rcases s.tables.select .network (·.isOf network) with e | rows
  · rfl
  · simp [Call.ofExcept, Call.answer, pure, bind, Except.bind]

theorem variantsOf_of_select_singleton {network : Uuid} {ts : Tables} {r : Row} {x : Variant}
    (h : ts.select .network (·.isOf network) = .ok [r]) (hr : r.toVariant = .ok x) :
    variantsOf network ts = .ok [x] := by
  rw [variantsOf, h]
  show ([r].mergeSort _).mapM Row.toVariant = _
  rw [List.mergeSort_singleton, List.mapM_cons, hr]
  rfl

/-- The variants of a network come from its rows. -/
theorem exists_row_of_mem_variantsOf {network : Uuid} {ts : Tables} {variants : List Variant}
    (h : variantsOf network ts = .ok variants) {x : Variant} (hx : x ∈ variants) :
    ∃ r ∈ ts.rows .network, r.isIn network x.num = true ∧ r.variantId = some (.text x.id) := by
  obtain ⟨rows, hrows, h⟩ := Except.bind_eq_ok h
  obtain ⟨all, hall, hrows⟩ := Except.bind_eq_ok hrows
  obtain rfl := Tables.rows_of_existing hall
  obtain rfl := Except.ok.inj hrows
  obtain ⟨r, hr, hvariant⟩ := Except.exists_of_mem_mapM h x hx
  rw [List.mem_mergeSort, List.mem_filter, Row.isOf_iff] at hr
  rw [Row.toVariant_eq_ok] at hvariant
  exact ⟨r, hr.1, Row.isIn_iff.2 ⟨hr.2, hvariant.1⟩, hvariant.2⟩

/-! ## Variants of keyed tables -/

theorem exists_ok_of_mapM {α β ε : Type} {g : α → Except ε β} : ∀ {as : List α} {bs : List β},
    as.mapM g = .ok bs → ∀ a ∈ as, ∃ b, g a = .ok b
  | [], _, _ => List.forall_mem_nil _
  | a :: as, bs, h => by
    rw [List.mapM_cons] at h
    obtain ⟨b, hb, h⟩ := Except.bind_eq_ok h
    obtain ⟨bs', hbs, -⟩ := Except.bind_eq_ok h
    exact List.forall_mem_cons.2 ⟨⟨b, hb⟩, exists_ok_of_mapM hbs⟩

theorem mapM_eq_ok {α β ε : Type} {g : α → Except ε β} {f : α → β} : ∀ {as : List α},
    (∀ a ∈ as, g a = .ok (f a)) → as.mapM g = .ok (as.map f)
  | [], _ => rfl
  | a :: as, h => by
    rw [List.forall_mem_cons] at h
    rw [List.mapM_cons, h.1, mapM_eq_ok h.2]
    rfl

theorem Cell.le_ofInt32 (m n : Int32) : (Cell.ofInt32 m).le (.ofInt32 n) = decide (m ≤ n) := by
  show decide (m.toInt64 ≤ n.toInt64) = _
  simp

/-- Variants in the order of their numbers. -/
def sortVariants (variants : List Variant) : List Variant :=
  variants.mergeSort fun x y => decide (x.num ≤ y.num)

theorem pairwise_le_sortVariants (variants : List Variant) :
    (sortVariants variants).Pairwise (·.num ≤ ·.num) :=
  List.pairwise_mergeSort' (fun x y : Variant => x.num ≤ y.num) variants

/-- The variants of a network are read from its rows. -/
theorem variantsOf_eq {ts : Tables} (h : (ts.table? .network).isSome) (network : Uuid)
    (hrows : ∀ r ∈ (ts.rows .network).filter (·.isOf network),
      r.toVariant = .ok r.variant) :
    variantsOf network ts
      = .ok (sortVariants (((ts.rows .network).filter (·.isOf network)).map Row.variant)) := by
  rw [variantsOf, Tables.select, Tables.existing_of_isSome h]
  show (((ts.rows .network).filter (·.isOf network)).mergeSort fun r s =>
    r.variantNum.le s.variantNum).mapM Row.toVariant = _
  rw [mapM_eq_ok (f := Row.variant) (fun r hr => hrows r (List.mem_mergeSort.1 hr))]
  refine congrArg _ (List.map_mergeSort fun r hr s hs => ?_)
  rw [(Row.toVariant_eq_ok.1 (hrows r hr)).1, (Row.toVariant_eq_ok.1 (hrows s hs)).1,
    Cell.le_ofInt32]

/-- The variants that are read of a network are those that its rows name, each once, in the order of
their numbers. -/
theorem perm_of_variantsOf {network : Uuid} {ts : Tables} {variants : List Variant}
    (h : variantsOf network ts = .ok variants) :
    (variants.map fun x => (Cell.ofInt32 x.num, some (Cell.text x.id))).Perm
        (((ts.rows .network).filter (·.isOf network)).map fun r => (r.variantNum, r.variantId)) ∧
      variants.Pairwise (·.num ≤ ·.num) := by
  obtain ⟨rows, hrows, hread⟩ := Except.bind_eq_ok h
  obtain ⟨all, hall, hrows⟩ := Except.bind_eq_ok hrows
  obtain rfl := Tables.rows_of_existing hall
  obtain rfl := Except.ok.inj hrows
  have hnamed : ∀ r ∈ (ts.rows .network).filter (·.isOf network), r.toVariant = .ok r.variant := by
    intro r hr
    obtain ⟨x, hx⟩ := exists_ok_of_mapM hread r (List.mem_mergeSort.2 hr)
    rw [Row.variant_of_toVariant hx, hx]
  rw [variantsOf_eq (Tables.isSome_of_existing hall) network hnamed] at h
  obtain rfl := Except.ok.inj h
  refine ⟨?_, pairwise_le_sortVariants _⟩
  have hmap : ((ts.rows .network).filter (·.isOf network)).map (fun r => (r.variantNum, r.variantId))
      = (((ts.rows .network).filter (·.isOf network)).map Row.variant).map fun x =>
        (Cell.ofInt32 x.num, some (Cell.text x.id)) := by
    rw [List.map_map]
    refine List.map_congr_left fun r hr => ?_
    obtain ⟨hnum, hid⟩ := Row.toVariant_eq_ok.1 (hnamed r hr)
    exact Prod.ext hnum hid
  rw [hmap]
  exact (List.mergeSort_perm _ _).map _

section Unique

variable {network : Uuid} {ts : Tables} {variants : List Variant}
  (hunique : Table.Unique .network (ts.rows .network))

include hunique

/-- Rows of one network differ in what makes them share a key. -/
theorem nodup_map_isOf {β : Type} {key : Row → β}
    (hkey : ∀ r s, key r = key s → r.variantId = s.variantId ∨ r.variantNum = s.variantNum) :
    (((ts.rows .network).filter (·.isOf network)).map key).Nodup := by
  refine (hunique.filter _).nodup_map fun r hr s hs hsame => Table.clash_network.2 ?_
  have hr := Row.isOf_iff.1 (List.mem_filter.1 hr).2
  have hs := Row.isOf_iff.1 (List.mem_filter.1 hs).2
  exact ⟨hr.trans hs.symm, hkey r s hsame⟩

theorem pairwise_lt_of_variantsOf (h : variantsOf network ts = .ok variants) :
    variants.Pairwise (·.num < ·.num) := by
  obtain ⟨hperm, hascending⟩ := perm_of_variantsOf h
  have hnums := hperm.map Prod.fst
  rw [List.map_map, List.map_map] at hnums
  have hdistinct : variants.Pairwise fun x y => Cell.ofInt32 x.num ≠ .ofInt32 y.num :=
    List.pairwise_map.1 (hnums.nodup_iff.2 (nodup_map_isOf hunique fun _ _ hnum => .inr hnum))
  exact (hascending.and hdistinct).imp fun hxy =>
    Int32.lt_of_le_of_ne hxy.1 fun hnum => hxy.2 (congrArg _ hnum)

theorem nodup_ids_of_variantsOf (h : variantsOf network ts = .ok variants) :
    (variants.map Variant.id).Nodup := by
  have hids := (perm_of_variantsOf h).1.map Prod.snd
  rw [List.map_map, List.map_map] at hids
  have hdistinct : (variants.map fun x => some (Cell.text x.id)).Nodup :=
    hids.nodup_iff.2 (nodup_map_isOf hunique fun _ _ hid => .inl hid)
  exact List.Nodup.of_map (fun id => some (Cell.text id)) (by rwa [List.map_map])

end Unique

/-- The variants of a network are read from keyed tables: those that its rows name, in ascending
order of their numbers. -/
theorem variantsOf_of_keyed {ts : Tables} (h : ts.Keyed) (network : Uuid) :
    ∃ variants, variantsOf network ts = .ok variants ∧ variants.Pairwise (·.num < ·.num) ∧
      ∀ x, x ∈ variants ↔ ∃ r ∈ ts.rows .network, r.isIn network x.num = true ∧
        r.variantId = some (.text x.id) := by
  have hnamed : ∀ r ∈ ts.rows .network, r.toVariant = .ok r.variant := by
    intro r hr
    obtain ⟨n, id, hn, hid⟩ := h.named r hr
    have hok : r.toVariant = .ok ⟨id, n⟩ := Row.toVariant_eq_ok.2 ⟨hn, hid⟩
    rw [Row.variant_of_toVariant hok, hok]
  have hread := variantsOf_eq (h.present _) network fun r hr => hnamed r (List.mem_filter.1 hr).1
  refine ⟨_, hread, pairwise_lt_of_variantsOf (h.unique .network) hread, fun x => ?_⟩
  rw [sortVariants, List.mem_mergeSort, List.mem_map]
  constructor
  · rintro ⟨r, hr, rfl⟩
    obtain ⟨hr, hof⟩ := List.mem_filter.1 hr
    obtain ⟨hnum, hid⟩ := Row.toVariant_eq_ok.1 (hnamed r hr)
    exact ⟨r, hr, Row.isIn_iff.2 ⟨Row.isOf_iff.1 hof, hnum⟩, hid⟩
  · rintro ⟨r, hr, hin, hid⟩
    rw [Row.isIn_iff] at hin
    exact ⟨r, List.mem_filter.2 ⟨hr, Row.isOf_iff.2 hin.1⟩,
      Row.variant_of_toVariant (Row.toVariant_eq_ok.2 ⟨hin.2, hid⟩)⟩

end Store

end GridStore
