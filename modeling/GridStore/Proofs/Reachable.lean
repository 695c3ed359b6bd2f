import GridStore.Proofs.Rules
import GridStore.Proofs.Writes
import Mathlib.Data.List.Perm.Basic

/-!
# Stores that requests lead to

A store is reachable if requests made one after another on a new store lead to it, whatever comes of
each (`Store.Reachable`). What every statement of a request keeps of the tables holds in all of them
(`Store.Reachable.induction`). So tables stay sound: all are there, their keys are unique, and the
fixed columns of rows hold what the rules on arguments allow (`Store.Reachable.sound`). No key is
taken twice, and a network's variants are listed once each (`Store.Reachable.distinct_keys`).
-/

namespace GridStore

/-! ## Runs -/

/-- Requests of a sort, made one after another on a new store, lead to a store. -/
inductive Store.Reachable (P : Request → Prop) : Store → Prop
  | new {s : Store} (h : s.tables = .blank) : Reachable P s
  | request {s : Store} {q : Request} (hs : Reachable P s) (hq : P q) : Reachable P (q.run s)
  /-- Between requests the rest of the store may change, such as how many connections are held. -/
  | idle {s t : Store} (hs : Reachable P s) (h : t.tables = s.tables) : Reachable P t

variable {P : Request → Prop} {s : Store}

theorem Store.reachable_runAll {qs : List Request} (h : s.Reachable P) (hqs : ∀ q ∈ qs, P q) :
    (Request.runAll qs s).Reachable P := by
  induction qs generalizing s with
  | nil => exact h
  | cons q qs ih =>
    rw [List.forall_mem_cons] at hqs
    exact ih (h.request hqs.1) hqs.2

/-- One network in its initial variant is what storing it in a new store leaves. -/
theorem Store.run_createNetworks_blank :
    (Request.createNetworks (fun _ => "") [.of "grid" 0 default]).run .blank = .single := by
  have hrows : createNetworks (fun _ => "") [.of "grid" 0 default]
      = (forBatches [.ofNetwork initialVariantId (.of "grid" 0 default)] fun batch index => do
        Call.acquire
        batch.forM (insertRow .network)
        .emit (.insertedBatch Kind.network.table index batch.length)) := rfl
  rw [Request.run, hrows]
  unfold forBatches
  simp only [batches_singleton]
  rfl

theorem Store.reachable_single (hP : P (.createNetworks (fun _ => "") [.of "grid" 0 default])) :
    Store.single.Reachable P :=
  run_createNetworks_blank ▸ (Reachable.new rfl).request hP

/-- What holds of new tables and what every statement of a request keeps holds wherever requests
lead. -/
theorem Store.Reachable.induction {I : Tables → Prop} (h : s.Reachable P) (hblank : I .blank)
    (hstep : ∀ q, P q → ∀ ts ts', q.Writes ts ts' → I ts → I ts') : I s.tables := by
  induction h with
  | new h => exact h ▸ hblank
  | @request s q _ hq ih => exact q.run_induction ih (hstep q hq)
  | idle _ h ih => exact h ▸ ih

/-! ## Sound tables -/

/-- Tables as requests leave them: all are there, no two rows of one share a key, and each row is as
rows of its kind are. -/
structure Tables.Sound (I : Kind → Row → Prop) (ts : Tables) : Prop where
  present : ∀ k, (ts.table? k).isSome
  unique : ∀ k, Table.Unique k (ts.rows k)
  each : ∀ k, ∀ r ∈ ts.rows k, I k r

namespace Tables

variable {I : Kind → Row → Prop} {ts ts' : Tables} {k : Kind} {p : Row → Bool} {f : Row → Row}
  {n : Nat}

theorem sound_blank : blank.Sound I where
  present k := by
    rw [table?_blank]
    rfl
  unique k := by
    rw [rows_blank]
    exact List.Pairwise.nil
  each k := by
    rw [rows_blank]
    exact List.forall_mem_nil _

namespace Sound

theorem puts {rows : List Row} (h : ts.Sound I) (hputs : ts.Puts k rows ts')
    (hunique : Table.Unique k rows) (heach : ∀ r ∈ rows, I k r) : ts'.Sound I where
  present j := (hputs.isSome_table? j).trans (h.present j)
  unique j := by
    by_cases hj : j = k
    · subst hj
      rwa [hputs.rows_self]
    · rw [hputs.rows_of_ne hj]
      exact h.unique j
  each j r hr := by
    obtain ⟨rfl, hput⟩ | hkept := hputs.mem hr
    · exact heach r hput
    · exact h.each j r hkept

theorem insert {r : Row} (h : ts.Sound I) (hdone : ts.insert k r = .ok ts') (hr : I k r) :
    ts'.Sound I := by
  refine h.puts (insert_ok hdone) ((insert_eq_ok_iff (h.present k) (h.unique k)).1 hdone).1 ?_
  exact List.forall_mem_append.2 ⟨h.each k, List.forall_mem_singleton.2 hr⟩

theorem update (h : ts.Sound I) (hdone : ts.update k p f = .ok (ts', n))
    (hf : ∀ r, p r = true → I k r → I k (f r)) : ts'.Sound I := by
  have hputs := (update_ok hdone).1
  refine h.puts hputs (hputs.rows_self ▸ unique_of_update (h.unique k) hdone) fun r hr => ?_
  obtain ⟨old, hold, rfl⟩ := List.mem_map.1 hr
  split
  · rename_i hp
    exact hf old hp (h.each k old hold)
  · exact h.each k old hold

theorem delete (h : ts.Sound I) (hdone : ts.delete k p = .ok (ts', n)) : ts'.Sound I :=
  h.puts (delete_ok hdone).1 ((h.unique k).filter _) fun r hr => h.each k r (List.mem_filter.1 hr).1

theorem copy (h : ts.Sound I) (hdone : ts.copy k p f = .ok (ts', n))
    (hf : ∀ r, p r = true → I k r → I k (f r)) : ts'.Sound I := by
  refine h.puts (copy_ok hdone).1 ((copy_eq_ok_iff (h.present k) (h.unique k)).1 hdone).1 ?_
  refine List.forall_mem_append.2 ⟨h.each k, fun r hr => ?_⟩
  obtain ⟨old, hold, rfl⟩ := List.mem_map.1 hr
  obtain ⟨hold, hp⟩ := List.mem_filter.1 hold
  exact hf old hp (h.each k old hold)

end Sound

end Tables

/-! ## What fixed columns hold -/

/-- The fixed columns of a row hold an id and a number that the rules allow, and in the network
table, but no other, the id of a variant, which follows a rule of its own. -/
structure Row.Follows (rule : String → Prop) (k : Kind) (r : Row) : Prop where
  id : ∃ id, r.id = .text id ∧ Validation.resourceId id = .ok ()
  variantNum : ∃ n, r.variantNum = .ofInt32 n ∧ Validation.variantNum n = .ok ()
  variantId :
    match k with
    | .network => ∃ id, r.variantId = some (.text id) ∧ rule id
    | .equipment _ => r.variantId = none

/-- The ids that a request gives to variants. -/
def Request.Names : Request → String → Prop
  | .createNetworks _ rs, id =>
    ∃ r ∈ rs, ∃ fresh, r.attributes.effectiveVariantId r.variantNum fresh = id ∧
      Validation.variantId id = .ok ()
  | .updateNetworks rs, id => ∃ r ∈ rs, r.attributes.variantId = id ∧ id ≠ ""
  | .cloneVariant _ _ target variantId fresh, id =>
    Store.targetVariantId target variantId fresh = .ok id
  | _, _ => False

/-- Every statement of a request leaves sound tables sound, if the ids that the request gives to
variants follow the rule. -/
theorem Request.Writes.sound {q : Request} {ts ts' : Tables} {rule : String → Prop}
    (h : q.Writes ts ts') (hts : ts.Sound (Row.Follows rule)) (hnames : ∀ id, q.Names id → rule id) :
    ts'.Sound (Row.Follows rule) := by
  cases h with
  | @create k network rs r _ _ hrule hr hdone =>
    obtain ⟨hid, hnum⟩ := checkResources_eq_ok_iff.1 hrule r hr
    exact hts.insert hdone ⟨⟨_, rfl, hid⟩, ⟨_, rfl, hnum⟩, rfl⟩
  | update _ _ hdone =>
    exact hts.update hdone fun row _ hrow => ⟨hrow.id, hrow.variantNum, hrow.variantId⟩
  | delete hdone => exact hts.delete hdone
  | @createNetworks fresh rs r id row _ _ hr hrow hdone =>
    obtain ⟨⟨hid, hnum, hvariant⟩, rfl⟩ := newNetworkRow_eq_ok_iff.1 hrow
    exact hts.insert hdone
      ⟨⟨_, rfl, hid⟩, ⟨_, rfl, hnum⟩, ⟨_, rfl, hnames _ ⟨r, hr, id, rfl, hvariant⟩⟩⟩
  | @updateNetworks rs r _ _ _ hrule hr hdone =>
    obtain ⟨hid, -⟩ := checkResources_eq_ok_iff.1 hrule r hr
    refine hts.update hdone fun row _ hrow => ⟨⟨_, rfl, hid⟩, hrow.variantNum, ?_⟩
    dsimp only [Store.replaceNetwork]
    split
    · exact hrow.variantId
    · rename_i hgiven
      exact ⟨_, rfl, hnames _ ⟨r, hr, rfl, hgiven⟩⟩
  | deleteNetwork hdone => exact hts.delete hdone
  | deleteVariant _ hdone => exact hts.delete hdone
  | @cloneVariant _ _ target _ _ id k _ _ _ hrule hid hdone =>
    refine hts.copy hdone fun row _ hrow => ⟨hrow.id, ⟨target, rfl, ?_⟩, ?_⟩
    · obtain ⟨⟨⟩, -, hrule⟩ := Except.bind_eq_ok hrule
      obtain ⟨⟨⟩, htarget, -⟩ := Except.bind_eq_ok hrule
      exact htarget
    · cases k with
      | network =>
        obtain ⟨old, hold, -⟩ := hrow.variantId
        exact ⟨id, by rw [Row.toVariantNum, hold]; rfl, hnames id hid⟩
      | equipment k =>
        show row.variantId.map _ = none
        rw [show row.variantId = none from hrow.variantId]
        rfl
  | cloneNetwork _ hdone =>
    exact hts.copy hdone fun row _ hrow => ⟨hrow.id, hrow.variantNum, hrow.variantId⟩

/-- Requests lead to sound tables, if the ids that they give to variants follow the rule. -/
theorem Store.Reachable.sound {rule : String → Prop} (h : s.Reachable P)
    (hnames : ∀ q, P q → ∀ id, q.Names id → rule id) : s.tables.Sound (Row.Follows rule) :=
  h.induction Tables.sound_blank fun q hq _ _ hwrite hts => hwrite.sound hts (hnames q hq)

theorem Store.Reachable.sound_any (h : s.Reachable P) :
    s.tables.Sound (Row.Follows fun _ => True) :=
  h.sound fun _ _ _ _ => trivial

theorem Store.Reachable.keyed (h : s.Reachable P) : s.tables.Keyed := by
  have hsound := h.sound_any
  refine ⟨hsound.present, hsound.unique, fun r hr => ?_, fun k r hr => (hsound.each _ r hr).variantId⟩
  obtain ⟨n, hn, -⟩ := (hsound.each .network r hr).variantNum
  obtain ⟨id, hid, -⟩ := (hsound.each .network r hr).variantId
  exact ⟨n, id, hn, hid⟩

/-! ## Keys and variants -/

theorem Store.listVariants_result (hs : s.Available) (network : Uuid) :
    (Store.listVariants network s).result = Store.variantsOf network s.tables := by
  rw [Store.listVariants, (Call.bind_of_ok (Call.result_acquire hs) _).2, Call.store_acquire,
    Store.readVariants_eq, Call.result_query]

theorem Store.variantsOf_of_listVariants {network : Uuid} {variants : List Variant}
    (h : (Store.listVariants network s).result = .ok variants) :
    Store.variantsOf network s.tables = .ok variants := by
  obtain ⟨⟨⟩, -, hread⟩ := Call.of_bind_ok h
  rwa [Call.store_acquire, Store.readVariants_eq, Call.result_query] at hread

/-- Wherever requests lead, rows of a table of equipment differ in their network, number or id, and
rows of the network table differ in their network or number, and in their network or the id of
their variant. So the variants of a network are listed once for each of its rows, by number, under
ids that differ, and as the row of that number names them. -/
theorem Store.Reachable.distinct_keys (h : s.Reachable P) :
    (∀ k, ((s.tables.rows (.equipment k)).map fun r => (r.network, r.variantNum, r.id)).Nodup) ∧
      ((s.tables.rows .network).map fun r => (r.network, r.variantNum)).Nodup ∧
      ((s.tables.rows .network).map fun r => (r.network, r.variantId)).Nodup ∧
      (s.Available → ∀ network, ∃ variants, (Store.listVariants network s).result = .ok variants ∧
        (variants.map fun x => (Cell.ofInt32 x.num, some (Cell.text x.id))).Perm
          (((s.tables.rows .network).filter (·.isOf network)).map fun r =>
            (r.variantNum, r.variantId)) ∧
        variants.Pairwise (·.num < ·.num) ∧ (variants.map Variant.id).Nodup ∧
        ∀ x, x ∈ variants ↔ ∃ r ∈ s.tables.rows .network, r.isIn network x.num = true ∧
          r.variantId = some (.text x.id)) := by
  have hkeyed := h.keyed
  refine ⟨fun k => ?_, ?_, ?_, fun hs network => ?_⟩
  · refine (hkeyed.unique (.equipment k)).nodup_map fun r _ t _ hrt => Table.clash_equipment.2 ?_
    simpa using hrt
  · refine (hkeyed.unique .network).nodup_map fun r _ t _ hrt => Table.clash_network.2 ?_
    exact ⟨(Prod.mk.inj hrt).1, .inr (Prod.mk.inj hrt).2⟩
  · refine (hkeyed.unique .network).nodup_map fun r _ t _ hrt => Table.clash_network.2 ?_
    exact ⟨(Prod.mk.inj hrt).1, .inl (Prod.mk.inj hrt).2⟩
  · obtain ⟨variants, hread, hascending, hnamed⟩ := Store.variantsOf_of_keyed hkeyed network
    exact ⟨variants, (Store.listVariants_result hs network).trans hread,
      (Store.perm_of_variantsOf hread).1, hascending,
      Store.nodup_ids_of_variantsOf (hkeyed.unique .network) hread, hnamed⟩

/-- To store a network again fails, and leaves its one variant. -/
theorem Store.Reachable.distinct_keys_again :
    let s := (Request.createNetworks (fun _ => "") [.of "grid" 0 default]).run .single
    s.Reachable (fun _ => True) ∧ s.Available ∧
      ((s.tables.rows .network).map fun r => (r.network, r.variantNum)).Nodup ∧
      ∃ variants, (Store.listVariants .nil s).result = .ok variants ∧
        variants.Pairwise (·.num < ·.num) ∧ (variants.map Variant.id).Nodup := by
  intro s
  have hreach : s.Reachable fun _ => True := (Store.reachable_single trivial).request trivial
  have hfree : s.Available := by
    have hpool : s.pool = Store.single.pool := by
      show (Request.run _ _).pool = _
      rw [Request.run_eq]
    exact ⟨hpool ▸ rfl, hpool ▸ by decide⟩
  obtain ⟨-, hnums, -, hlisted⟩ := hreach.distinct_keys
  obtain ⟨variants, hread, -, hascending, hids, -⟩ := hlisted hfree .nil
  exact ⟨hreach, hfree, hnums, variants, hread, hascending, hids⟩

end GridStore
