import GridStore.Proofs.InitialVariant
import GridStore.Proofs.NetworkCopy
import GridStore.Proofs.NetworkRows
import GridStore.Proofs.VariantIds

/-!
# Networks listed

The call that lists networks reads one row of each, that of its initial variant: wherever requests
lead, it answers with the networks that have one, by their ids (`Store.networks_listed`). A network
that is stored or copied without its initial variant is not listed (`Store.unlisted_network`); if
each request that brings a network into a store puts its initial variant there first, all are
(`Store.InitialFirst.allListed`).
-/

namespace GridStore

/-! ## The call -/

namespace Cell

theorem le_text (a b : String) : (Cell.text a).le (.text b) = decide (a ≤ b) :=
  rfl

end Cell

namespace Row

/-- A row lists the network that it is of, under its id. -/
theorem toListedNetwork_eq_ok {r : Row} {x : ListedNetwork} (hof : r.isOf x.uuid = true)
    (hid : r.id = .text x.id) : r.toListedNetwork = .ok x := by
  have hread : (ColumnCodec.ofColumn (.text x.uuid.text) : Except ColumnError Uuid) = .ok x.uuid :=
    ColumnCodec.readColumn_of_some x.uuid.read?_text
  rw [toListedNetwork, isOf_iff.1 hof, hid]
  dsimp only [Cell.ofUuid, Cell.toText, bind, Except.bind]
  rw [hread]
  rfl

/-- The network that a row lists. -/
def listed (r : Row) : ListedNetwork :=
  r.toListedNetwork.toOption.getD default

theorem listed_eq {r : Row} {x : ListedNetwork} (hof : r.isOf x.uuid = true)
    (hid : r.id = .text x.id) : r.listed = x := by
  rw [listed, toListedNetwork_eq_ok hof hid]
  rfl

end Row

namespace Store

open Call

/-- The rows of the network table that list a network. -/
def listingRows (ts : Tables) : List Row :=
  (ts.rows .network).filter (·.variantNum = .ofInt32 initialVariantNum)

/-- Networks in the order of their ids. -/
def sortNetworks (infos : List ListedNetwork) : List ListedNetwork :=
  infos.mergeSort fun x y => decide (x.id ≤ y.id)

theorem pairwise_le_sortNetworks (infos : List ListedNetwork) :
    (sortNetworks infos).Pairwise (·.id ≤ ·.id) :=
  List.pairwise_mergeSort' (fun x y : ListedNetwork => x.id ≤ y.id) infos

theorem listNetworks_result {s : Store} (hs : s.Available)
    (hpresent : (s.tables.table? .network).isSome)
    (hrows : ∀ r ∈ listingRows s.tables, r.isOf r.listed.uuid = true ∧ r.id = .text r.listed.id) :
    (listNetworks s).result = .ok (sortNetworks ((listingRows s.tables).map Row.listed)) := by
  have hread : (query (fun ts => ts.select .network fun row =>
      row.variantNum = .ofInt32 initialVariantNum) s).result = .ok (listingRows s.tables) := by
    rw [result_query, Tables.select, Tables.existing_of_isSome hpresent]
    rfl
  have hlisted : ∀ r ∈ (listingRows s.tables).mergeSort fun r t => r.id.le t.id,
      r.toListedNetwork = .ok r.listed := by
    intro r hr
    obtain ⟨hof, hid⟩ := hrows r (List.mem_mergeSort.1 hr)
    exact Row.toListedNetwork_eq_ok hof hid
  unfold listNetworks
  rw [(bind_of_ok (result_acquire hs) _).2, store_acquire, (bind_of_ok hread _).2, store_query,
    mapM_ofExcept, result_ofExcept, mapM_eq_ok hlisted]
  refine congrArg _ (List.map_mergeSort fun r hr t ht => ?_)
  rw [(hrows r hr).2, (hrows t ht).2, Cell.le_text]

end Store

/-! ## Rows of networks -/

/-- The networks that a request brings into a store. -/
def Request.Introduces : Request → Uuid → Prop
  | .createNetworks _ rs, u => ∃ r ∈ rs, r.attributes.uuid = u
  | .cloneNetwork target _ _, u => target = u
  | _, _ => False

/-- A row that a statement leaves in the network table is of a network that had one, or that the
request introduces. -/
theorem Request.Writes.network {q : Request} {ts ts' : Tables} {row : Row} (h : q.Writes ts ts')
    (hrow : row ∈ ts'.rows .network) :
    (∃ old ∈ ts.rows .network, row.network = old.network) ∨
      ∃ u, q.Introduces u ∧ row.isOf u = true := by
  by_cases hkept : row ∈ ts.rows .network
  · exact .inl ⟨row, hkept, rfl⟩
  -- the statement has put the row there
  cases h with
  | create _ _ hdone =>
    obtain ⟨⟨⟩, -⟩ := ((Tables.insert_ok hdone).mem hrow).resolve_right hkept
  | update _ _ hdone =>
    obtain ⟨⟨⟩, -⟩ := ((Tables.update_ok hdone).1.mem hrow).resolve_right hkept
  | delete hdone | deleteNetwork hdone | deleteVariant _ hdone =>
    obtain ⟨hk, hrow⟩ := ((Tables.delete_ok hdone).1.mem hrow).resolve_right hkept
    exact absurd (hk ▸ (List.mem_filter.1 hrow).1) hkept
  | @createNetworks _ _ r _ _ _ _ hr hnew hdone =>
    obtain ⟨-, hrow⟩ := ((Tables.insert_ok hdone).mem hrow).resolve_right hkept
    obtain rfl := List.mem_singleton.1 ((List.mem_append.1 hrow).resolve_left hkept)
    obtain ⟨-, rfl⟩ := newNetworkRow_eq_ok_iff.1 hnew
    exact .inr ⟨_, ⟨r, hr, rfl⟩, Row.isOf_iff.2 rfl⟩
  | updateNetworks _ _ hdone =>
    obtain ⟨-, hrow⟩ := ((Tables.update_ok hdone).1.mem hrow).resolve_right hkept
    obtain ⟨old, hmem, rfl⟩ := List.mem_map.1 hrow
    refine .inl ⟨old, hmem, ?_⟩
    split <;> rfl
  | cloneVariant _ _ hdone =>
    obtain ⟨rfl, hrow⟩ := ((Tables.copy_ok hdone).1.mem hrow).resolve_right hkept
    obtain ⟨old, hmem, rfl⟩ := List.mem_map.1 ((List.mem_append.1 hrow).resolve_left hkept)
    exact .inl ⟨old, (List.mem_filter.1 hmem).1, rfl⟩
  | @cloneNetwork target _ _ _ _ _ _ _ _ hdone =>
    obtain ⟨rfl, hrow⟩ := ((Tables.copy_ok hdone).1.mem hrow).resolve_right hkept
    obtain ⟨old, -, rfl⟩ := List.mem_map.1 ((List.mem_append.1 hrow).resolve_left hkept)
    exact .inr ⟨target, rfl, Row.isOf_iff.2 rfl⟩

/-- Each row of the network table is some network's. -/
theorem Store.Reachable.exists_isOf {P : Request → Prop} {s : Store} (h : s.Reachable P) :
    ∀ r ∈ s.tables.rows .network, ∃ u, r.isOf u = true := by
  refine h.induction (I := fun ts => ∀ r ∈ ts.rows .network, ∃ u, r.isOf u = true) ?_ ?_
  · rw [Tables.rows_blank]
    exact List.forall_mem_nil _
  · intro q _ ts ts' hwrite hts r hr
    obtain ⟨old, hold, hsame⟩ | ⟨u, -, hof⟩ := hwrite.network hr
    · obtain ⟨u, hof⟩ := hts old hold
      exact ⟨u, Row.isOf_iff.2 (hsame.trans (Row.isOf_iff.1 hof))⟩
    · exact ⟨u, hof⟩

theorem Store.Reachable.nonneg_of_isIn {P : Request → Prop} {s : Store} (h : s.Reachable P)
    {r : Row} (hr : r ∈ s.tables.rows .network) {u : Uuid} {n : Int32} (hin : r.isIn u n = true) :
    0 ≤ n := by
  obtain ⟨m, hm, hrule⟩ := (h.sound_any.each .network r hr).variantNum
  obtain rfl := Cell.ofInt32_inj.1 (hm.symm.trans (Row.isIn_iff.1 hin).2)
  exact nonneg_of_variantNum hrule

/-! ## Networks that are listed -/

/-- Whether a network has the row that lists it. -/
def Tables.Listed (ts : Tables) (u : Uuid) : Prop :=
  ts.Has .network fun r => r.isIn u initialVariantNum = true

/-- Whether each network that has a row in the network table has the one that lists it. -/
def Tables.AllListed (ts : Tables) : Prop :=
  ∀ r ∈ ts.rows .network, ∀ u, r.isOf u = true → ts.Listed u

/-- Whether a request puts the initial variant of each network there first: networks are stored in
it before they are in others, and are copied with it, if they do not have it. -/
def Request.InitialFirst (ts : Tables) : Request → Prop
  | .createNetworks _ rs => ∀ before r after, rs = before ++ r :: after →
    r.variantNum = initialVariantNum ∨ ts.Listed r.attributes.uuid ∨
      ∃ first ∈ before, first.attributes.uuid = r.attributes.uuid ∧
        first.variantNum = initialVariantNum
  | .cloneNetwork target source variantIds => ts.Listed target ∨
    ts.Has .network fun r => r.isIn source initialVariantNum = true ∧
      ∃ id ∈ variantIds, r.variantId = some (.text id)
  | _ => True

/-- Requests that put initial variants first, made one after another on a new store, lead to a
store. -/
inductive Store.InitialFirst : Store → Prop
  | new {s : Store} (h : s.tables = .blank) : InitialFirst s
  | request {s : Store} {q : Request} (hs : InitialFirst s) (hq : q.InitialFirst s.tables) :
    InitialFirst (q.run s)
  | idle {s t : Store} (hs : InitialFirst s) (h : t.tables = s.tables) : InitialFirst t

theorem Store.InitialFirst.reachable {s : Store} (h : s.InitialFirst) :
    s.Reachable fun _ => True := by
  induction h with
  | new h => exact .new h
  | request _ _ ih => exact ih.request trivial
  | idle _ h ih => exact ih.idle h

namespace Tables

variable {ts ts' : Tables} {q : Request} {u : Uuid}

theorem allListed_blank : blank.AllListed := by
  rw [AllListed, rows_blank]
  exact List.forall_mem_nil _

/-- A statement of a request that introduces no network leaves all networks listed. -/
theorem AllListed.writes (h : ts.AllListed) (hwrite : q.Writes ts ts') (hq : ∀ u, ¬ q.Introduces u) :
    ts'.AllListed := by
  intro r hr u hof
  obtain ⟨old, hold, hsame⟩ | ⟨v, hv, -⟩ := hwrite.network hr
  · have hlisted : ts.Listed u := h old hold u (Row.isOf_iff.2 (hsame ▸ Row.isOf_iff.1 hof))
    by_cases hdelete : q = .deleteNetwork u
    · -- a network that is deleted has no row to be listed for once its row here is gone
      subst hdelete
      cases hwrite with
      | @deleteNetwork _ k _ _ _ hdone =>
        refine hlisted.delete hdone fun hk => ?_
        subst hk
        rw [(delete_ok hdone).1.rows_self, List.mem_filter, hof] at hr
        cases hr.2
    · exact @Request.Writes.hasInitial q ts ts' u "" .network hwrite hlisted hdelete fun _ hk => by
        cases hk
  · exact absurd hv (hq v)

/-- A statement that copies rows to a network which is listed leaves all networks listed. -/
theorem AllListed.copy {k : Kind} {p : Row → Bool} {n : Nat} (h : ts.AllListed)
    (hdone : ts.copy k p (·.toOtherNetwork u) = .ok (ts', n)) (hlisted : ts'.Listed u) :
    ts'.AllListed := by
  intro r hr v hof
  by_cases hkept : r ∈ ts.rows .network
  · exact (h r hkept v hof).copy hdone
  · obtain ⟨rfl, hr⟩ := ((copy_ok hdone).1.mem hr).resolve_right hkept
    obtain ⟨old, -, rfl⟩ := List.mem_map.1 ((List.mem_append.1 hr).resolve_left hkept)
    obtain rfl : u = v := Cell.ofUuid_inj.1 (Row.isOf_iff.1 hof)
    exact hlisted

end Tables

/-! ## Networks that are stored -/

namespace Store

open Call

/-- Of networks to store the first ones are stored, up to one of them. -/
theorem rows_createNetworks (fresh : Nat → String) (rs : List (Resource Network)) (s : Store) :
    ∃ made, made <+: Request.named fresh rs ∧
      ((Request.createNetworks fresh rs).run s).tables.rows .network
        = s.tables.rows .network ++ made.map fun (r, id) => Row.ofNetwork id r := by
  rcases hrule : (Request.named fresh rs).forM Request.checkNetwork with e | ⟨⟩
  · rw [Request.run, createNetworks_of_refused hrule]
    exact ⟨[], List.nil_prefix, (List.append_nil _).symm⟩
  · have hstore := (inBatches_named hrule).store_eq s
    rw [Request.store_call] at hstore
    obtain ⟨made, hmade, hrows⟩ := @rows_writeEach_insert .network
      ((Request.named fresh rs).map fun (r, id) => Row.ofNetwork id r) s
    rw [← hstore] at hrows
    rw [List.prefix_iff_eq_take, ← List.map_take] at hmade
    exact ⟨_, List.take_prefix _ _, hmade ▸ hrows⟩

theorem allListed_createNetworks {s : Store} (h : s.tables.AllListed) {fresh : Nat → String}
    {rs : List (Resource Network)}
    (hfirst : (Request.createNetworks fresh rs).InitialFirst s.tables) :
    ((Request.createNetworks fresh rs).run s).tables.AllListed := by
  obtain ⟨made, hmade, hrows⟩ := rows_createNetworks fresh rs s
  have hnamed : (Request.named fresh rs).map Prod.fst = rs := by
    rw [Request.named, List.map_map]
    exact List.zipIdx_map_fst 0 rs
  obtain ⟨rest, hrest⟩ := hmade.map Prod.fst
  rw [hnamed] at hrest
  -- what was made of the list is its first part
  have hlisted {r : Resource Network} (hr : r ∈ made.map Prod.fst)
      (hinitial : r.variantNum = initialVariantNum) :
      ((Request.createNetworks fresh rs).run s).tables.Listed r.attributes.uuid := by
    obtain ⟨⟨r, id⟩, hx, rfl⟩ := List.mem_map.1 hr
    have hin : (Row.ofNetwork id r).isIn r.attributes.uuid initialVariantNum = true :=
      Row.isIn_ofNetwork.2 ⟨rfl, hinitial⟩
    refine ⟨Row.ofNetwork id r, ?_, hin⟩
    rw [hrows]
    exact List.mem_append_right _ (List.mem_map.2 ⟨(r, id), hx, rfl⟩)
  have hkept {u : Uuid} (hu : s.tables.Listed u) :
      ((Request.createNetworks fresh rs).run s).tables.Listed u := by
    obtain ⟨r, hr, hin⟩ := hu
    refine ⟨r, ?_, hin⟩
    rw [hrows]
    exact List.mem_append_left _ hr
  intro row hrow u hof
  rw [hrows, List.mem_append] at hrow
  obtain hrow | hrow := hrow
  · exact hkept (h row hrow u hof)
  · obtain ⟨⟨r, id⟩, hr, rfl⟩ := List.mem_map.1 hrow
    obtain rfl : r.attributes.uuid = u := Cell.ofUuid_inj.1 (Row.isOf_iff.1 hof)
    have hmem : r ∈ made.map Prod.fst := List.mem_map.2 ⟨_, hr, rfl⟩
    obtain ⟨before, after, hsplit⟩ := List.append_of_mem hmem
    have hcase := hfirst before r (after ++ rest) (by rw [← hrest, hsplit]; simp)
    obtain hinitial | hu | ⟨first, hbefore, huuid, hinitial⟩ := hcase
    · exact hlisted hmem hinitial
    · exact hkept hu
    · exact huuid ▸ hlisted (hsplit ▸ List.mem_append_left _ hbefore) hinitial

/-! ## Networks that are copied -/

section Copies

variable {P : Request → Prop} {s : Store} {target source : Uuid} {variantIds : List String}

/-- A call that copies a network does nothing, or takes the steps for the variants that it read. -/
theorem tables_cloneNetwork (target source : Uuid) (variantIds : List String) (s : Store) :
    ((Request.cloneNetwork target source variantIds).run s).tables = s.tables ∨
      ∃ variants, variantsOf source s.tables = .ok variants ∧
        ((Request.cloneNetwork target source variantIds).run s).tables
          = (applySteps ((variants.filter (·.id ∈ variantIds)).flatMap
            (cloneIntoNetworkSteps target source)) 0 s.tables).1 := by
  rw [Request.run, cloneNetwork]
  rcases Validation.cloneNetwork target.text source.text variantIds with e | ⟨⟩
  · exact .inl rfl
  rw [bind_of_answer (show require (.ok ()) s = answer () s from rfl)]
  by_cases hs : s.Available
  · rw [bind_of_answer (acquire_of_available hs), readVariants_eq]
    rcases hread : variantsOf source s.tables with e | variants
    · have hfail : (query (variantsOf source) s).result = .error e := by
        rw [result_query, hread]
      exact .inl (by rw [(bind_of_error hfail _).1, store_query])
    · have hanswer : query (variantsOf source) s = answer variants s := by
        rw [query, hread]
        rfl
      rw [bind_of_answer hanswer]
      rcases variantIds.find? fun id => ¬ variants.any (·.id = id) with _ | missing
      · exact .inr ⟨variants, rfl, congrArg (·.tables) (runSteps_emit _ _ _ _ _).1⟩
      · exact .inl rfl
  · exact .inl (congrArg (·.tables) (acquire_bind_of_not_available hs _).1)

/-- Of the variants to copy the initial one comes first. -/
theorem exists_initial_cons (h : s.Reachable P) {variants : List Variant}
    (hread : variantsOf source s.tables = .ok variants) {r : Row} (hr : r ∈ s.tables.rows .network)
    (hin : r.isIn source initialVariantNum = true) {id : String} (hid : id ∈ variantIds)
    (hrid : r.variantId = some (.text id)) :
    ∃ x rest, variants.filter (·.id ∈ variantIds) = x :: rest ∧ x.num = initialVariantNum := by
  obtain ⟨variants, hread', hsorted, hmem⟩ := variantsOf_of_keyed h.keyed source
  obtain rfl := Except.ok.inj (hread.symm.trans hread')
  have hsorted := hsorted.filter (·.id ∈ variantIds)
  have hinitial : (⟨id, initialVariantNum⟩ : Variant) ∈ variants.filter (·.id ∈ variantIds) :=
    List.mem_filter.2 ⟨(hmem _).2 ⟨r, hr, hin, hrid⟩, decide_eq_true hid⟩
  rcases hselected : variants.filter (·.id ∈ variantIds) with _ | ⟨x, rest⟩
  · rw [hselected] at hinitial
    cases hinitial
  · have hx : x ∈ variants := by
      have hx : x ∈ variants.filter (·.id ∈ variantIds) := hselected ▸ List.mem_cons_self
      exact (List.mem_filter.1 hx).1
    obtain ⟨row, hrow, hrowIn, -⟩ := (hmem x).1 hx
    have hnonneg : 0 ≤ x.num := h.nonneg_of_isIn hrow hrowIn
    rw [hselected] at hinitial hsorted
    refine ⟨x, rest, hselected, ?_⟩
    obtain heq | hrest := List.mem_cons.1 hinitial
    · rw [← heq]
    · exact absurd ((List.pairwise_cons.1 hsorted).1 _ hrest) (Int32.not_lt.2 hnonneg)

theorem allListed_cloneNetwork (h : s.Reachable P) (hall : s.tables.AllListed)
    (hfirst : (Request.cloneNetwork target source variantIds).InitialFirst s.tables) :
    ((Request.cloneNetwork target source variantIds).run s).tables.AllListed := by
  obtain hsame | ⟨variants, hread, htables⟩ := tables_cloneNetwork target source variantIds s
  · rw [hsame]
    exact hall
  rw [htables]
  have hstep (selected : List Variant) : ∀ step ∈ selected.flatMap (cloneIntoNetworkSteps target source),
      ∀ ts ts' n, step.run ts = .ok (ts', n) →
        ts.AllListed ∧ ts.Listed target → ts'.AllListed ∧ ts'.Listed target := by
    intro step hstep ts ts' n hrun hts
    obtain ⟨x, -, hstep⟩ := List.mem_flatMap.1 hstep
    obtain ⟨k, -, rfl⟩ := List.mem_map.1 hstep
    have hlisted : ts'.Listed target := Tables.Has.copy hts.2 hrun
    exact ⟨hts.1.copy hrun hlisted, hlisted⟩
  obtain hlisted | ⟨r, hr, hin, id, hid, hrid⟩ := hfirst
  · exact (applySteps_induction ⟨hall, hlisted⟩ (hstep _)).1
  · obtain ⟨x, rest, hselected, hx⟩ := exists_initial_cons h hread hr hin hid hrid
    obtain ⟨step, others, hcons, hrun⟩ : ∃ step others,
        (x :: rest).flatMap (cloneIntoNetworkSteps target source) = step :: others ∧
          step.run s.tables
            = s.tables.copy .network (·.isIn source x.num) (·.toOtherNetwork target) :=
      ⟨_, _, rfl, rfl⟩
    have hstep := hstep (x :: rest)
    rw [hcons, List.forall_mem_cons] at hstep
    rw [hselected, hcons, applySteps, hrun]
    -- the first statement is what lists the target
    rcases hdone : s.tables.copy .network (·.isIn source x.num) (·.toOtherNetwork target)
      with e | ⟨ts, n⟩
    · exact hall
    · have hcopy : r.toOtherNetwork target ∈ ts.rows .network := by
        rw [(Tables.copy_ok hdone).1.rows_self]
        refine List.mem_append_right _ (List.mem_map_of_mem (List.mem_filter.2 ⟨hr, ?_⟩))
        rw [hx]
        exact hin
      have hlisted : ts.Listed target :=
        ⟨_, hcopy, Row.isIn_toOtherNetwork.2 ⟨rfl, (Row.isIn_iff.1 hin).2⟩⟩
      exact (applySteps_induction ⟨hall.copy hdone hlisted, hlisted⟩ hstep.2).1

end Copies

/-- Requests that put initial variants first leave all networks listed. -/
theorem InitialFirst.allListed {s : Store} (h : s.InitialFirst) : s.tables.AllListed := by
  induction h with
  | new h => exact h ▸ Tables.allListed_blank
  | @request s q hs hq ih =>
    cases q with
    | createNetworks => exact allListed_createNetworks ih hq
    | cloneNetwork => exact allListed_cloneNetwork hs.reachable ih hq
    | _ => exact Request.run_induction _ ih fun _ _ hwrite hts => hts.writes hwrite fun _ => id
  | idle _ h ih => exact h ▸ ih

/-! ## What is listed -/

theorem listed_of_mem {P : Request → Prop} {s : Store} (h : s.Reachable P) :
    ∀ r ∈ s.tables.rows .network, r.isOf r.listed.uuid = true ∧ r.id = .text r.listed.id := by
  intro r hr
  obtain ⟨u, hof⟩ := h.exists_isOf r hr
  obtain ⟨id, hid, -⟩ := (h.sound_any.each .network r hr).id
  rw [@Row.listed_eq r ⟨u, id⟩ hof hid]
  exact ⟨hof, hid⟩

/-- Wherever requests lead, networks are listed by their ids, each once: those that have a row for
their initial variant, under the id that it holds. A network with rows for other variants only is
not listed, but none is left out if each request that brought a network into the store put its
initial variant there first. -/
theorem networks_listed {P : Request → Prop} {s : Store} (h : s.Reachable P) (hs : s.Available) :
    ∃ infos, (listNetworks s).result = .ok infos ∧ infos.Pairwise (·.id ≤ ·.id) ∧
      (infos.map (·.uuid)).Nodup ∧
      (∀ x, x ∈ infos ↔ ∃ r ∈ s.tables.rows .network,
        r.isIn x.uuid initialVariantNum = true ∧ r.id = .text x.id) ∧
      (s.InitialFirst → ∀ u, u ∈ infos.map (·.uuid) ↔
        ∃ r ∈ s.tables.rows .network, r.isOf u = true) := by
  have hkeyed := h.keyed
  have hlisted := listed_of_mem h
  have hrow {r : Row} (hr : r ∈ listingRows s.tables) :
      r ∈ s.tables.rows .network ∧ r.variantNum = .ofInt32 initialVariantNum := by
    rwa [listingRows, List.mem_filter, decide_eq_true_eq] at hr
  have hmem (x : ListedNetwork) : x ∈ sortNetworks ((listingRows s.tables).map Row.listed) ↔
      ∃ r ∈ s.tables.rows .network, r.isIn x.uuid initialVariantNum = true ∧ r.id = .text x.id := by
    rw [sortNetworks, List.mem_mergeSort, List.mem_map]
    constructor
    · rintro ⟨r, hr, rfl⟩
      obtain ⟨hr, hnum⟩ := hrow hr
      obtain ⟨hof, hid⟩ := hlisted r hr
      exact ⟨r, hr, Row.isIn_iff.2 ⟨Row.isOf_iff.1 hof, hnum⟩, hid⟩
    · rintro ⟨r, hr, hin, hid⟩
      obtain ⟨hof, hnum⟩ := Row.isIn_iff.1 hin
      exact ⟨r, List.mem_filter.2 ⟨hr, decide_eq_true hnum⟩, Row.listed_eq (Row.isOf_iff.2 hof) hid⟩
  refine ⟨_, listNetworks_result hs (hkeyed.present _) fun r hr => hlisted r (hrow hr).1,
    pairwise_le_sortNetworks _, ?_, hmem, fun hfirst u => ?_⟩
  · have hnodup : ((listingRows s.tables).map fun r => r.listed.uuid).Nodup := by
      refine ((hkeyed.unique .network).filter _).nodup_map fun r hr t ht hsame =>
        Table.clash_network.2 ?_
      obtain ⟨hr, hrnum⟩ := hrow hr
      obtain ⟨ht, htnum⟩ := hrow ht
      refine ⟨?_, .inr (hrnum.trans htnum.symm)⟩
      rw [Row.isOf_iff.1 (hlisted r hr).1, Row.isOf_iff.1 (hlisted t ht).1, hsame]
    have hperm := (List.mergeSort_perm ((listingRows s.tables).map Row.listed)
      fun x y => decide (x.id ≤ y.id)).map (·.uuid)
    rw [List.map_map] at hperm
    exact hperm.nodup_iff.2 hnodup
  · constructor
    · intro hu
      obtain ⟨x, hx, rfl⟩ := List.mem_map.1 hu
      obtain ⟨r, hr, hin, -⟩ := (hmem x).1 hx
      exact ⟨r, hr, Row.isOf_iff.2 (Row.isIn_iff.1 hin).1⟩
    · rintro ⟨r, hr, hof⟩
      obtain ⟨t, ht, hin⟩ := hfirst.allListed r hr u hof
      obtain ⟨-, hid⟩ := hlisted t ht
      exact List.mem_map.2 ⟨⟨u, t.listed.id⟩, (hmem _).2 ⟨t, ht, hin, hid⟩, rfl⟩

/-- A network and its copy are both listed. -/
theorem networks_listed_copy :
    let s := (Request.cloneNetwork ⟨1⟩ .nil [initialVariantId]).run .single
    s.Reachable (fun _ => True) ∧ s.Available ∧ s.InitialFirst ∧
      ∃ infos, (listNetworks s).result = .ok infos ∧ (infos.map (·.uuid)).Nodup ∧
        .nil ∈ infos.map (·.uuid) ∧ ⟨1⟩ ∈ infos.map (·.uuid) := by
  intro s
  have hsingle : single.InitialFirst := by
    rw [← run_createNetworks_blank]
    refine (InitialFirst.new rfl).request fun before r after hsplit => .inl ?_
    have hr : r ∈ [Resource.of "grid" 0 default] := hsplit ▸ List.mem_append_right _ List.mem_cons_self
    rw [List.mem_singleton.1 hr]
    rfl
  have hrow : .ofNetwork initialVariantId (.of "grid" 0 default) ∈ single.tables.rows .network := by
    rw [Tables.rows_single_network]
    exact List.mem_singleton_self _
  have hfirst : s.InitialFirst :=
    hsingle.request (.inr ⟨_, hrow, rfl, initialVariantId, List.mem_singleton_self _, rfl⟩)
  have hfree : s.Available :=
    (available_runAll [.cloneNetwork ⟨1⟩ .nil [initialVariantId]]).2 ⟨rfl, by decide⟩
  obtain ⟨infos, hlist, -, hnodup, -, hall⟩ := networks_listed hfirst.reachable hfree
  refine ⟨hfirst.reachable, hfree, hfirst, infos, hlist, hnodup, (hall hfirst _).2 ?_,
    (hall hfirst _).2 ?_⟩ <;> decide +kernel

/-- A network that is stored in another variant than the initial one is not listed. -/
theorem unlisted_network :
    let s := (Request.createNetworks (fun _ => "peak") [.of "grid" 5 default]).run .blank
    s.Reachable (fun _ => True) ∧ s.Available ∧
      (∃ r ∈ s.tables.rows .network, r.isOf .nil = true) ∧ (listNetworks s).result = .ok [] := by
  intro s
  have hreach : s.Reachable fun _ => True := (Reachable.new rfl).request trivial
  have hempty : Store.blank.tables.rows .network = [] := Tables.rows_blank _
  have hblank : Store.blank.Ready .network :=
    ⟨⟨rfl, by decide⟩, by decide, hempty ▸ List.Pairwise.nil⟩
  have hcreate : (createNetworks (fun _ => "peak") [.of "grid" 5 default] .blank).result = .ok () :=
    createNetworks_singleton hblank (by decide) (hempty ▸ List.pairwise_singleton _ _)
  obtain ⟨hready, hrows⟩ : s.Ready .network ∧
      s.tables.rows .network = [Row.ofNetwork "peak" (.of "grid" 5 default)] := by
    obtain ⟨hready, hrows⟩ := of_createNetworks_ok hblank hcreate
    exact ⟨hready, hrows.trans (by rw [hempty]; rfl)⟩
  have hnone : listingRows s.tables = [] := by
    rw [listingRows, hrows]
    decide
  refine ⟨hreach, hready.available, ⟨_, hrows ▸ List.mem_singleton_self _, rfl⟩, ?_⟩
  rw [listNetworks_result hready.available hready.present (hnone ▸ List.forall_mem_nil _), hnone]
  exact congrArg _ List.mergeSort_nil

end Store

end GridStore
