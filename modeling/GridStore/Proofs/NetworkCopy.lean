import GridStore.Proofs.Requests
import GridStore.Proofs.Rules
import GridStore.Proofs.Steps
import GridStore.Proofs.Variants

/-!
# Copying a network

Variants of a network are copied to another network. If one of the ids names no variant of the
source, the first such id is reported and nothing is written. Otherwise the variants with one of
the ids are copied once each, in ascending order of their numbers, whatever the order of the ids
and however often one is given (`cloneNetwork_spec`).
-/

namespace GridStore

open Call

/-! ## Steps -/

namespace Store

theorem applySteps_append_eq_ok : ∀ {steps more : List Step} {rows n : Nat} {ts ts' : Tables},
    applySteps (steps ++ more) rows ts = (ts', .ok n) →
      ∃ ts₁ m, applySteps steps rows ts = (ts₁, .ok m) ∧ applySteps more m ts₁ = (ts', .ok n)
  | [], _, rows, _, ts, _, h => ⟨ts, rows, rfl, h⟩
  | step :: steps, more, rows, n, ts, ts', h => by
    rw [List.cons_append, applySteps] at h
    rw [applySteps]
    rcases hrun : step.run ts with e | ⟨ts₁, m⟩
    · rw [hrun] at h
      cases (Prod.mk.inj h).2
    · rw [hrun] at h
      exact applySteps_append_eq_ok h

section Copies

variable {target source : Uuid}

/-- The copies of the rows of a variant in another network. -/
def copiesInto (target source : Uuid) (ts : Tables) (k : Kind) (x : Variant) : List Row :=
  (ts.rowsIn k source x.num).map fun r => { r with network := .ofUuid target }

theorem filter_copiesInto (hne : target ≠ source) (ts : Tables) (k : Kind) (x : Variant) (n : Int32) :
    (copiesInto target source ts k x).filter (·.isIn source n) = [] := by
  rw [List.filter_eq_nil_iff]
  intro c hc hin
  obtain ⟨r, -, rfl⟩ := List.mem_map.1 hc
  exact hne (Cell.ofUuid_inj.1 (Row.isIn_iff.1 hin).1)

/-- Steps that copy variants to another network leave the copies after the rows of each table. -/
theorem of_cloneIntoSteps_ok (hne : target ≠ source) : ∀ {selected : List Variant}
    {ts ts' : Tables} {rows n : Nat},
      applySteps (selected.flatMap (cloneIntoNetworkSteps target source)) rows ts = (ts', .ok n) →
        (∀ k, ts'.rows k = ts.rows k ++ selected.flatMap (copiesInto target source ts k)) ∧
          n = rows + (selected.map fun x =>
            (Kind.all.map fun k => (ts.rowsIn k source x.num).length).sum).sum
  | [], ts, ts', rows, n, h => by
    obtain ⟨rfl, hn⟩ := Prod.mk.inj h
    exact ⟨fun k => by simp, (Except.ok.inj hn).symm⟩
  | x :: selected, ts, ts', rows, n, h => by
    obtain ⟨ts₁, m, hfirst, hrest⟩ := applySteps_append_eq_ok h
    obtain ⟨hm, -, hrows₁⟩ := of_copySteps_ok (fun _ _ => rfl) Kind.nodup_all hfirst
    have hrows₁ (k : Kind) : ts₁.rows k = ts.rows k ++ copiesInto target source ts k x :=
      (hrows₁ k).trans (if_pos (Kind.mem_all k))
    have hsource (k : Kind) (n : Int32) : ts₁.rowsIn k source n = ts.rowsIn k source n := by
      rw [Tables.rowsIn, hrows₁, List.filter_append, filter_copiesInto hne, List.append_nil]
      rfl
    obtain ⟨hrows, hn⟩ := of_cloneIntoSteps_ok hne hrest
    refine ⟨fun k => ?_, ?_⟩
    · have hcopies : copiesInto target source ts₁ k = copiesInto target source ts k :=
        funext fun x => by rw [copiesInto, hsource, copiesInto]
      rw [hrows k, hrows₁ k, hcopies, List.flatMap_cons, List.append_assoc]
    · rw [hn, hm, List.map_cons, List.sum_cons, ← Nat.add_assoc]
      simp only [hsource]
      rfl

end Copies

end Store

/-! ## The call -/

/-- A network has a variant with an id. -/
def Tables.HasVariant (ts : Tables) (network : Uuid) (id : String) : Prop :=
  ∃ r ∈ ts.rows .network, r.isOf network = true ∧ r.variantId = some (.text id)

instance (ts : Tables) (network : Uuid) (id : String) : Decidable (ts.HasVariant network id) :=
  inferInstanceAs (Decidable (∃ r ∈ ts.rows .network, _ ∧ _))

namespace Store

section Copy

variable {s : Store} {target source : Uuid} {variantIds : List String} {variants : List Variant}

/-- What a valid copy does once it has read the variants of its source. -/
theorem cloneNetwork_eq (hs : s.Available) (hne : target ≠ source) (hids : variantIds ≠ [])
    (hvalid : ∀ id ∈ variantIds, Validation.variantId id = .ok ())
    (hvariants : variantsOf source s.tables = .ok variants) :
    (∀ missing, variantIds.find? (fun id => ¬ variants.any (·.id = id)) = some missing →
      (cloneNetwork target source variantIds s).store = s ∧
        (cloneNetwork target source variantIds s).result = .error (.notFound "Variant" missing)) ∧
    (variantIds.find? (fun id => ¬ variants.any (·.id = id)) = none →
      let steps := (variants.filter (·.id ∈ variantIds)).flatMap (cloneIntoNetworkSteps target source)
      (cloneNetwork target source variantIds s).store
          = { s with tables := (applySteps steps 0 s.tables).1 } ∧
        (cloneNetwork target source variantIds s).result = (applySteps steps 0 s.tables).2) := by
  have hargs : (require (Validation.cloneNetwork target.text source.text variantIds) s).result
      = .ok () := by
    rw [Validation.cloneNetwork_of_valid hne hids hvalid]
    rfl
  have hread : (readVariants source s).result = .ok variants := by
    rw [readVariants_eq, result_query, hvariants]
  unfold cloneNetwork
  rw [(bind_of_ok hargs _).1, (bind_of_ok hargs _).2, store_require,
    (bind_of_ok (result_acquire hs) _).1, (bind_of_ok (result_acquire hs) _).2, store_acquire,
    (bind_of_ok hread _).1, (bind_of_ok hread _).2, readVariants_eq, store_query]
  refine ⟨fun missing hmissing => ?_, fun hnone => ?_⟩
  · rw [hmissing]
    exact ⟨rfl, rfl⟩
  · rw [hnone]
    exact runSteps_emit _ _ _ _ _

theorem any_iff_hasVariant {ts : Tables} {network : Uuid} {id : String}
    (hmem : ∀ x, x ∈ variants ↔ ∃ r ∈ ts.rows .network, r.isIn network x.num = true ∧
      r.variantId = some (.text x.id))
    (hkeyed : ts.Keyed) : variants.any (·.id = id) = true ↔ ts.HasVariant network id := by
  rw [List.any_eq_true]
  constructor
  · rintro ⟨x, hx, hid⟩
    obtain ⟨r, hr, hin, hrid⟩ := (hmem x).1 hx
    obtain rfl : x.id = id := of_decide_eq_true hid
    exact ⟨r, hr, Row.isOf_iff.2 (Row.isIn_iff.1 hin).1, hrid⟩
  · rintro ⟨r, hr, hof, hrid⟩
    obtain ⟨n, _, hn, -⟩ := hkeyed.named r hr
    exact ⟨⟨id, n⟩, (hmem _).2 ⟨r, hr, Row.isIn_iff.2 ⟨Row.isOf_iff.1 hof, hn⟩, hrid⟩, decide_eq_true rfl⟩

/-- If an id names no variant of the source, the first such id is reported and nothing is written.
Otherwise the variants with one of the ids are copied in ascending order of their numbers, and when
that is done each table holds its rows and after them a copy of each row of those variants; the
answer counts the copies. Only the set of the ids matters. -/
theorem cloneNetwork_spec (hs : s.Available) (hkeyed : s.tables.Keyed) (hne : target ≠ source)
    (hids : variantIds ≠ []) (hvalid : ∀ id ∈ variantIds, Validation.variantId id = .ok ()) :
    let left := cloneNetwork target source variantIds s
    (∀ before missing after, variantIds = before ++ missing :: after →
      (∀ id ∈ before, s.tables.HasVariant source id) → ¬ s.tables.HasVariant source missing →
        left.store = s ∧ left.result = .error (.notFound "Variant" missing)) ∧
    ((∀ id ∈ variantIds, s.tables.HasVariant source id) →
      ∃ selected : List Variant, selected.Pairwise (·.num < ·.num) ∧
        (∀ x, x ∈ selected ↔ x.id ∈ variantIds ∧ ∃ r ∈ s.tables.rows .network,
          r.isIn source x.num = true ∧ r.variantId = some (.text x.id)) ∧
        (let steps := selected.flatMap (cloneIntoNetworkSteps target source)
        left.store = { s with tables := (applySteps steps 0 s.tables).1 } ∧
          left.result = (applySteps steps 0 s.tables).2) ∧
        (∀ sameIds : List String, (∀ id, id ∈ sameIds ↔ id ∈ variantIds) →
          (cloneNetwork target source sameIds s).store = left.store ∧
            (cloneNetwork target source sameIds s).result = left.result) ∧
        ∀ n, left.result = .ok n →
          (∀ k, left.store.tables.rows k = s.tables.rows k ++ selected.flatMap fun x =>
            (s.tables.rowsIn k source x.num).map fun r => { r with network := .ofUuid target }) ∧
          n = (selected.map fun x =>
            (Kind.all.map fun k => (s.tables.rowsIn k source x.num).length).sum).sum) := by
  dsimp only
  obtain ⟨variants, hvariants, hsorted, hmem⟩ := variantsOf_of_keyed hkeyed source
  have hany {id : String} := @any_iff_hasVariant variants s.tables source id hmem hkeyed
  obtain ⟨hmissing, hdone⟩ := cloneNetwork_eq hs hne hids hvalid hvariants
  refine ⟨fun before missing after heq hbefore hnot => hmissing missing ?_, fun hall => ?_⟩
  · have hnone : before.find? (fun id => ¬ variants.any (·.id = id)) = none :=
      List.find?_eq_none.2 fun id hid => by simp only [hany.2 (hbefore id hid)]; simp
    have hfalse : variants.any (·.id = missing) = false := by
      rw [Bool.eq_false_iff]
      exact fun h => hnot (hany.1 h)
    rw [heq, List.find?_append, hnone, List.find?_cons_of_pos (by simp [hfalse])]
    rfl
  · have hfind (sameIds : List String) (hsame : ∀ id, id ∈ sameIds ↔ id ∈ variantIds) :
        sameIds.find? (fun id => ¬ variants.any (·.id = id)) = none :=
      List.find?_eq_none.2 fun id hid => by simp only [hany.2 (hall id ((hsame id).1 hid))]; simp
    obtain ⟨hstore, hresult⟩ := hdone (hfind variantIds fun _ => Iff.rfl)
    refine ⟨variants.filter (·.id ∈ variantIds), hsorted.filter _, fun x => ?_, ⟨hstore, hresult⟩,
      fun sameIds hsame => ?_, fun n hn => ?_⟩
    · rw [List.mem_filter, hmem, decide_eq_true_eq, and_comm]
    · have hne' : sameIds ≠ [] := by
        obtain ⟨id, hid⟩ := List.exists_mem_of_ne_nil _ hids
        exact List.ne_nil_of_mem ((hsame id).2 hid)
      obtain ⟨hstore', hresult'⟩ := (cloneNetwork_eq hs hne hne'
        (fun id hid => hvalid id ((hsame id).1 hid)) hvariants).2 (hfind sameIds hsame)
      have hfilter : variants.filter (·.id ∈ sameIds) = variants.filter (·.id ∈ variantIds) :=
        List.filter_congr fun x _ => by rw [decide_eq_decide, hsame]
      rw [hfilter] at hstore' hresult'
      exact ⟨hstore'.trans hstore.symm, hresult'.trans hresult.symm⟩
    · rw [hresult] at hn
      obtain ⟨hrows, hcount⟩ := of_cloneIntoSteps_ok hne (Prod.ext rfl hn)
      refine ⟨fun k => ?_, hcount.trans (Nat.zero_add _)⟩
      rw [hstore, hrows k]
      rfl

theorem isVariant_stocked {x : Variant} :
    (∃ r ∈ stocked.tables.rows .network, r.isIn .nil x.num = true ∧ r.variantId = some (.text x.id)) ↔
      x ∈ [⟨initialVariantId, 0⟩, ⟨"peak", 2⟩] := by
  rw [Tables.rows_stocked, Row.stock, List.mem_pair]
  constructor
  · rintro ⟨r, hr, hin, hid⟩
    rcases x with ⟨id, n⟩
    rcases List.mem_pair.1 hr with rfl | rfl <;> rw [Row.isIn_ofNetwork] at hin
    · exact .inl (congrArg₂ _ (Cell.text.inj (Option.some.inj hid)).symm hin.2.symm)
    · exact .inr (congrArg₂ _ (Cell.text.inj (Option.some.inj hid)).symm hin.2.symm)
  · rintro (rfl | rfl)
    · exact ⟨_, .head _, rfl, rfl⟩
    · exact ⟨_, .tail _ (.head _), rfl, rfl⟩

/-- Two variants that are named in descending order, one of them twice, are copied once each, the lower
number first. Of two ids the one that names no variant of the source is reported. -/
theorem cloneNetwork_spec_stocked :
    stocked.Available ∧ stocked.tables.Keyed ∧ (⟨1⟩ : Uuid) ≠ .nil ∧
      (∀ id ∈ ["peak", initialVariantId, "peak"], Validation.variantId id = .ok ()) ∧
      (∀ id ∈ ["peak", "noon"], Validation.variantId id = .ok ()) ∧
      (let left := cloneNetwork ⟨1⟩ .nil ["peak", initialVariantId, "peak"] stocked
      left.result = .ok 6 ∧
        left.store.tables.rows .network = Row.stock .network ++
          (Row.stock .network).map (·.toOtherNetwork ⟨1⟩) ∧
        left.store.tables.rows (.equipment .load) = Row.stock (.equipment .load) ++
          (Row.stock (.equipment .load)).map (·.toOtherNetwork ⟨1⟩)) ∧
      let left := cloneNetwork ⟨1⟩ .nil ["peak", "noon"] stocked
      left.store = stocked ∧ left.result = .error (.notFound "Variant" "noon") := by
  have hs : stocked.Available := ⟨rfl, by decide⟩
  have hne : (⟨1⟩ : Uuid) ≠ .nil := by decide
  have hvalid : ∀ id ∈ ["peak", initialVariantId, "peak"], Validation.variantId id = .ok () := by
    decide
  have hvalid' : ∀ id ∈ ["peak", "noon"], Validation.variantId id = .ok () := by decide
  have hthere : ∀ id ∈ ["peak", initialVariantId, "peak"], stocked.tables.HasVariant .nil id := by
    decide
  obtain ⟨selected, hsorted, hmem, ⟨-, hresult⟩, -, hleft⟩ :=
    (cloneNetwork_spec hs Tables.keyed_stocked hne (List.cons_ne_nil _ _) hvalid).2 hthere
  -- in ascending order, and each once
  obtain rfl : selected = [⟨initialVariantId, 0⟩, ⟨"peak", 2⟩] := by
    have hnodup : selected.Nodup := hsorted.imp fun h =>
      ne_of_apply_ne Variant.num (Int32.ne_of_lt h)
    refine List.Perm.eq_of_pairwise' hsorted (by decide) ?_
    refine (List.perm_ext_iff_of_nodup hnodup (by decide)).2 fun x => ?_
    rw [hmem, isVariant_stocked]
    refine and_iff_right_of_imp fun hx => ?_
    rcases List.mem_pair.1 hx with rfl | rfl <;> decide
  have hdone := hresult.trans (show _ = .ok 6 from rfl)
  obtain ⟨hrows, -⟩ := hleft 6 hdone
  simp only [Tables.rowsIn, Tables.rows_stocked] at hrows
  have hmissing := (cloneNetwork_spec hs Tables.keyed_stocked hne (List.cons_ne_nil _ _) hvalid').1
    ["peak"] "noon" [] rfl (by decide) (by decide)
  exact ⟨hs, Tables.keyed_stocked, hne, hvalid, hvalid',
    ⟨hdone, hrows .network, hrows (.equipment .load)⟩, hmissing⟩

end Copy

end Store

end GridStore
