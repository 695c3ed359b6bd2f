import GridStore.Proofs.OccupiedTarget
import GridStore.Proofs.OneByOne
import GridStore.Proofs.Refinement
import GridStore.Proofs.TimestampText

/-!
# Networks read back

The row of a network gives back its id and the id of its variant, and all of its attributes if the
year of its date has four digits. Other years are written with a sign, which the reader of the column
does not take: the row is stored, and every call that reads it fails (`Network.toNetwork_of_values`).
That is what comes of reading networks after a call that stored or replaced them
(`Store.networks_read_back`).
-/

namespace GridStore

/-! ## Fields -/

namespace Network

/-- Every field but the date is read back from its column. -/
theorem keeps_own : (∀ f ∈ own.take 3, f.Keeps id) ∧ ∀ f ∈ own.drop 4, f.Keeps id := by
  simp [own]

/-- The field of the date. -/
def caseDateField : Field Network :=
  .required "caseDate" (·.caseDate) fun v a => { a with caseDate := v }

theorem own_eq : own = own.take 3 ++ caseDateField :: own.drop 4 :=
  rfl

/-- The column of each field fits what it holds, and has no zeros to settle. -/
theorem fits_own (a : Network) : ∀ f ∈ own, (f.read a).Fits f.info.columnType ∧
    (f.read a).settled = f.read (id a) := by
  have hkept {fields : List (Field Network)} (h : ∀ f ∈ fields, f.Keeps id) :
      ∀ f ∈ fields, (f.read a).Fits f.info.columnType ∧ (f.read a).settled = f.read (id a) :=
    fun f hf => ⟨(h f hf).fits a, (h f hf).settled_read a⟩
  rw [own_eq, List.forall_mem_append, List.forall_mem_cons]
  exact ⟨hkept keeps_own.1, ⟨trivial, rfl⟩, hkept keeps_own.2⟩

/-- The error for a date that its column does not give back. -/
def badCaseDate (a : Network) : MappingError :=
  .column "network" "caseDate" (.invalidValue a.caseDate.writeOffset none)

/-- Every field is read back from its column if the year of the date has four digits. -/
theorem ofColumn_own {a : Network} (h : 0 ≤ a.caseDate.date.year ∧ a.caseDate.date.year ≤ 9999) :
    ∀ f ∈ own, f.column.ofColumn (f.read a) = .ok (f.get a) := by
  have hdate := (ColumnCodec.ofColumn_timestamp a.caseDate).trans (if_pos h)
  rw [own_eq, List.forall_mem_append, List.forall_mem_cons]
  exact ⟨fun f hf => (keeps_own.1 f hf).ofColumn_read a, hdate,
    fun f hf => (keeps_own.2 f hf).ofColumn_read a⟩

theorem fill_own (a : Network) :
    Mapping.fill "network" own (own.map (·.read a)) default
      = if 0 ≤ a.caseDate.date.year ∧ a.caseDate.date.year ≤ 9999 then
          ({ a with uuid := (default : Network).uuid, variantId := (default : Network).variantId }, none)
        else ((own.take 3).foldl (fun b f => f.set (f.get a) b) default, some a.badCaseDate) := by
  split
  · rename_i hyear
    exact Mapping.fill_read "network" a (ofColumn_own hyear) default
  · rename_i hyear
    have hdate := (ColumnCodec.ofColumn_timestamp a.caseDate).trans (if_neg hyear)
    rw [own_eq]
    exact @Mapping.fill_read_stops Network "network" a caseDateField (own.drop 4) _ hdate (own.take 3)
      (fun f hf => (keeps_own.1 f hf).ofColumn_read a) default

/-! ## Rows -/

/-- What is read of a network in a variant, under an id and with the id of the variant, from a row
that was written from it. -/
def readBack (a : Network) (id : String) (n : Int32) (variantId : String) :
    Except StoreError (Option (Resource Network)) :=
  if 0 ≤ a.caseDate.date.year ∧ a.caseDate.date.year ≤ 9999 then
    .ok (some (.of id n { a with variantId }))
  else .error (.mapping a.badCaseDate)

/-- The id of a variant after networks were put in the place of its row. -/
def renamed (old : String) (rs : List (Resource Network)) : String :=
  rs.foldl (fun old r => if r.attributes.variantId = "" then old else r.attributes.variantId) old

theorem toNetwork_of_values {a : Network} {r : Row} {rid variantId : String} (hid : r.id = .text rid)
    (hvariantId : r.variantId = some (.text variantId)) (hvalues : r.values = Row.ofAttributes a)
    (n : Int32) : (r.toNetwork a.uuid n).map some = a.readBack rid n variantId := by
  have hattributes := @Row.toAttributes_eq Network _ id a r hvalues (fits_own a)
  have hfill : Mapping.fill (Attributes.schema Network).table (Attributes.mapping (A := Network)).fields
      ((Attributes.mapping (A := Network)).values (id a)) default = _ := fill_own a
  rw [Row.toNetwork, hid, hvariantId, hattributes, hfill, readBack]
  by_cases hyear : 0 ≤ a.caseDate.date.year ∧ a.caseDate.date.year ≤ 9999
  · rw [if_pos hyear, if_pos hyear]
    rfl
  · rw [if_neg hyear, if_neg hyear]
    rfl

end Network

/-! ## Rows after updates -/

namespace Row

variable {u : Uuid} {n : Int32} {r : Row}

/-- A row after updates of networks, made in order. -/
def updatedAll (rs : List (Resource Network)) (r : Row) : Row :=
  rs.foldl (fun r a => if r.isIn a.attributes.uuid a.variantNum then Store.replaceNetwork a r else r) r

/-- Only the updates of a row's variant matter to it. -/
theorem updatedAll_eq (hin : r.isIn u n = true) (rs : List (Resource Network)) :
    r.updatedAll rs = (rs.filter fun a => a.attributes.uuid = u ∧ a.variantNum = n).foldl
      (fun r a => Store.replaceNetwork a r) r := by
  induction rs generalizing r with
  | nil => rfl
  | cons a rs ih =>
    by_cases ha : a.attributes.uuid = u ∧ a.variantNum = n
    · have hmatch : r.isIn a.attributes.uuid a.variantNum = true := by rw [ha.1, ha.2, hin]
      have hin' : (Store.replaceNetwork a r).isIn u n = true := (isIn_replaceNetwork a r).trans hin
      rw [List.filter_cons_of_pos (by simpa using ha), List.foldl_cons, ← ih hin', updatedAll,
        List.foldl_cons, if_pos hmatch]
      rfl
    · have hmiss : ¬ r.isIn a.attributes.uuid a.variantNum = true := fun hmatch =>
        ha (eq_of_isIn hmatch hin)
      rw [List.filter_cons_of_neg (by simpa using ha), ← ih hin, updatedAll, List.foldl_cons,
        if_neg hmiss]
      rfl

theorem isIn_updatedAll (rs : List (Resource Network)) : (r.updatedAll rs).isIn u n = r.isIn u n := by
  induction rs generalizing r with
  | nil => rfl
  | cons a rs ih =>
    refine ih.trans ?_
    dsimp only
    split
    · exact isIn_replaceNetwork a r
    · rfl

theorem variantId_replaceAll {old : String} (h : r.variantId = some (.text old))
    (rs : List (Resource Network)) :
    (rs.foldl (fun r a => Store.replaceNetwork a r) r).variantId
      = some (.text (Network.renamed old rs)) := by
  induction rs generalizing r old with
  | nil => exact h
  | cons a rs ih =>
    refine ih ?_
    show (if a.attributes.variantId = "" then r.variantId else some (.text a.attributes.variantId))
      = some (.text (if a.attributes.variantId = "" then old else a.attributes.variantId))
    rw [h]
    split <;> rfl

end Row

theorem RowWrite.applyAll_updateNetwork (rs : List (Resource Network)) (rows : List Row) :
    applyAll (rs.map updateNetwork) rows = rows.map (Row.updatedAll rs) := by
  induction rs generalizing rows with
  | nil => exact (List.map_id rows).symm
  | cons a rs ih =>
    refine (ih _).trans ?_
    exact List.map_map

/-! ## Calls -/

namespace Store

open Call

variable {s : Store} {u : Uuid} {n : Int32}

/-- The network of a variant is read from its row. -/
theorem getNetwork_of_mem (hs : s.Ready .network) {r : Row} (hr : r ∈ s.tables.rows .network)
    (hin : r.isIn u n = true) :
    (getNetwork u n s).result = (r.toNetwork u n).map some := by
  have hone : (s.tables.rows .network).filter (·.isIn u n) = [r] := by
    have hfind := @Table.Unique.filter_isIn _ u n hs.unique
    have hmem : r ∈ (s.tables.rows .network).filter (·.isIn u n) := List.mem_filter.2 ⟨hr, hin⟩
    rw [hfind, Option.mem_toList] at hmem
    rw [hfind, hmem, Option.toList_some]
  have hrows : (query (fun ts => ts.select .network (·.isIn u n)) s).result = .ok [r] := by
    rw [result_query, Tables.select, Tables.existing_of_isSome hs.present]
    exact congrArg _ hone
  unfold getNetwork
  rw [(bind_of_ok (result_acquire hs.available) _).2, store_acquire, (bind_of_ok hrows _).2,
    store_query]
  dsimp only [List.head?_cons]
  rcases r.toNetwork u n with e | a <;> rfl

/-- Networks are stored one after another, if the rules let them. -/
theorem inBatches_named {fresh : Nat → String} {rs : List (Resource Network)}
    (hrule : (Request.named fresh rs).forM Request.checkNetwork = .ok ()) :
    (Request.createNetworks fresh rs).InBatches .network
      (((Request.named fresh rs).map fun (r, id) => Row.ofNetwork id r).map .insert) fun _ => () := by
  refine .createNetworks ?_
  rw [mapM_newNetworkRow, hrule]
  rfl

theorem createNetworks_of_refused {fresh : Nat → String} {rs : List (Resource Network)}
    {e : ValidationError} (hrule : (Request.named fresh rs).forM Request.checkNetwork = .error e) :
    createNetworks fresh rs = fail (.invalidArgument e) := by
  rw [createNetworks, mapM_newNetworkRow, hrule]
  rfl

/-- What a call that stored networks leaves: their rows after those of the table. -/
theorem of_createNetworks_ok (hs : s.Ready .network) {fresh : Nat → String}
    {rs : List (Resource Network)} (hok : (createNetworks fresh rs s).result = .ok ()) :
    (createNetworks fresh rs s).store.Ready .network ∧
      (createNetworks fresh rs s).store.tables.rows .network = s.tables.rows .network ++
        (Request.named fresh rs).map fun (r, id) => Row.ofNetwork id r := by
  rcases hrule : (Request.named fresh rs).forM Request.checkNetwork with e | ⟨⟩
  · rw [createNetworks_of_refused hrule] at hok
    cases hok
  · have hbatches := inBatches_named hrule
    have hfit := (hbatches.ok_iff hs).1 ⟨_, hok⟩
    obtain ⟨hputs, -⟩ := hbatches.done hs hfit
    have hready := hputs.ready hs (hfit.unique_applyAll hs.unique)
    rw [RowWrite.applyAll_insert] at hputs
    exact ⟨hready, hputs.rows_self⟩

/-- What a call that replaced networks leaves: the rows of the table, each after the updates of its
variant. -/
theorem of_updateNetworks_ok (hs : s.Ready .network) {rs : List (Resource Network)} {updated : Nat}
    (hok : (updateNetworks rs s).result = .ok updated) :
    (updateNetworks rs s).store.Ready .network ∧
      (updateNetworks rs s).store.tables.rows .network
        = (s.tables.rows .network).map (Row.updatedAll rs) := by
  rcases hrule : checkResources rs with e | ⟨⟩
  · rw [updateNetworks, hrule] at hok
    cases hok
  · have hbatches := Request.InBatches.updateNetworks hrule
    have hfit := (hbatches.ok_iff hs).1 ⟨_, hok⟩
    obtain ⟨hputs, -⟩ := hbatches.done hs hfit
    have hready := hputs.ready hs (hfit.unique_applyAll hs.unique)
    rw [RowWrite.applyAll_updateNetwork] at hputs
    exact ⟨hready, hputs.rows_self⟩

theorem getNetwork_of_createNetworks (hs : s.Ready .network) {fresh : Nat → String}
    {rs : List (Resource Network)} (hok : (createNetworks fresh rs s).result = .ok ())
    {r : Resource Network} {i : Nat} (hr : (r, i) ∈ rs.zipIdx) :
    (getNetwork r.attributes.uuid r.variantNum (createNetworks fresh rs s).store).result
      = r.attributes.readBack r.id r.variantNum
        (r.attributes.effectiveVariantId r.variantNum (fresh i)) := by
  obtain ⟨hready, hrows⟩ := of_createNetworks_ok hs hok
  have hnamed : (r, r.attributes.effectiveVariantId r.variantNum (fresh i)) ∈ Request.named fresh rs :=
    List.mem_map.2 ⟨(r, i), hr, rfl⟩
  have hmem : Row.ofNetwork (r.attributes.effectiveVariantId r.variantNum (fresh i)) r
      ∈ (createNetworks fresh rs s).store.tables.rows .network := by
    rw [hrows]
    exact List.mem_append_right _ (List.mem_map.2 ⟨_, hnamed, rfl⟩)
  rw [getNetwork_of_mem hready hmem (Row.isIn_ofNetwork.2 ⟨rfl, rfl⟩)]
  exact Network.toNetwork_of_values rfl rfl rfl _

theorem getNetwork_of_updateNetworks (hs : s.Ready .network) {rs before : List (Resource Network)}
    {updated : Nat} (hok : (updateNetworks rs s).result = .ok updated) {row : Row} {old : String}
    (hrow : row ∈ s.tables.rows .network) (hin : row.isIn u n = true)
    (hold : row.variantId = some (.text old)) {r : Resource Network}
    (hlast : (rs.filter fun a => a.attributes.uuid = u ∧ a.variantNum = n) = before ++ [r]) :
    (getNetwork u n (updateNetworks rs s).store).result
      = r.attributes.readBack r.id n (Network.renamed old (before ++ [r])) := by
  obtain ⟨hready, hrows⟩ := of_updateNetworks_ok hs hok
  have hmem : row.updatedAll rs ∈ (updateNetworks rs s).store.tables.rows .network := by
    rw [hrows]
    exact List.mem_map_of_mem hrow
  have hin' : (row.updatedAll rs).isIn u n = true := (Row.isIn_updatedAll rs).trans hin
  have hvariantId := row.variantId_replaceAll hold (before ++ [r])
  have huuid : r.attributes.uuid = u := by
    have hr : r ∈ before ++ [r] := List.mem_append_right _ (List.mem_singleton_self r)
    rw [← hlast, List.mem_filter, decide_eq_true_eq] at hr
    exact hr.2.1
  rw [getNetwork_of_mem hready hmem hin', Row.updatedAll_eq hin, hlast, ← huuid]
  refine Network.toNetwork_of_values ?_ hvariantId ?_ n <;> rw [List.foldl_append] <;> rfl

/-- What is read of networks that a call stored or replaced: their ids and attributes, each in the
variant that has its own id, the standard one or a fresh one, and after updates the last id that one
of them gave. A network with a date in a year before 0 or after 9999 is stored, but it cannot be
read. -/
theorem networks_read_back (hs : s.Ready .network) :
    (∀ fresh rs, (createNetworks fresh rs s).result = .ok () → ∀ r i, (r, i) ∈ rs.zipIdx →
      (getNetwork r.attributes.uuid r.variantNum (createNetworks fresh rs s).store).result
        = r.attributes.readBack r.id r.variantNum
          (if r.attributes.variantId ≠ "" then r.attributes.variantId
            else if r.variantNum = 0 then "InitialState" else fresh i)) ∧
    ∀ rs updated, (updateNetworks rs s).result = .ok updated →
      ∀ row ∈ s.tables.rows .network, ∀ u n old, row.isIn u n = true →
        row.variantId = some (.text old) → ∀ before r,
          (rs.filter fun a => a.attributes.uuid = u ∧ a.variantNum = n) = before ++ [r] →
            (getNetwork u n (updateNetworks rs s).store).result
              = r.attributes.readBack r.id n (Network.renamed old (before ++ [r])) := by
  refine ⟨fun fresh rs hok r i hr => ?_, fun rs updated hok row hrow u n old hin hold before r hlast => ?_⟩
  · have hid : r.attributes.effectiveVariantId r.variantNum (fresh i)
        = if r.attributes.variantId ≠ "" then r.attributes.variantId
          else if r.variantNum = 0 then "InitialState" else fresh i := by
      rw [Network.effectiveVariantId, ite_not]
      rfl
    rw [← hid]
    exact getNetwork_of_createNetworks hs hok hr
  · exact getNetwork_of_updateNetworks hs hok hrow hin hold hlast

/-- One network is stored if it passes the rules and no key of its row is taken. -/
theorem createNetworks_singleton (hs : s.Ready .network) {fresh : Nat → String} {r : Resource Network}
    (hrule : (Request.named fresh [r]).forM Request.checkNetwork = .ok ())
    (hnew : Table.Unique .network (s.tables.rows .network ++
      [Row.ofNetwork (r.attributes.effectiveVariantId r.variantNum (fresh 0)) r])) :
    (createNetworks fresh [r] s).result = .ok () := by
  obtain ⟨⟨⟩, hok⟩ := ((inBatches_named hrule).ok_iff hs).2
    ((RowWrite.fit_insert_iff hs.unique).2 hnew)
  exact hok

theorem ready_single : single.Ready .network :=
  ⟨⟨rfl, by decide⟩, Tables.keyed_single.present _, Tables.keyed_single.unique _⟩

/-- A network is stored in a second variant, or another one put in the place of the first. -/
theorem networks_read_back_single :
    single.Ready .network ∧
      (getNetwork .nil 1 (createNetworks (fun _ => "v1") [.of "grid" 1 default] single).store).result
        = .ok (some (.of "grid" 1 { (default : Network) with variantId := "v1" })) ∧
      (getNetwork .nil 0 (updateNetworks [.of "new" 0 default] single).store).result
        = .ok (some (.of "new" 0 { (default : Network) with variantId := "InitialState" })) := by
  have hcreate : (createNetworks (fun _ => "v1") [.of "grid" 1 default] single).result = .ok () :=
    createNetworks_singleton ready_single (by decide) (by decide)
  have hupdate : ∃ updated, (updateNetworks [.of "new" 0 default] single).result = .ok updated :=
    ((Request.InBatches.updateNetworks (by decide)).ok_iff ready_single).2 ⟨by decide, trivial⟩
  obtain ⟨updated, hupdate⟩ := hupdate
  obtain ⟨hcreated, hupdated⟩ := networks_read_back ready_single
  refine ⟨ready_single, ?_, ?_⟩
  · exact (hcreated _ _ hcreate (.of "grid" 1 default) 0 (by simp)).trans (if_pos (by decide))
  · have hrow : .ofNetwork initialVariantId (.of "grid" 0 default) ∈ single.tables.rows .network := by
      rw [Tables.rows_single_network]
      exact List.mem_singleton_self _
    exact (hupdated _ updated hupdate _ hrow .nil 0 initialVariantId rfl rfl []
      (.of "new" 0 default) rfl).trans (if_pos (by decide))

/-- A network with a date after the year 9999 is stored and cannot be read. -/
theorem unreadable_caseDate :
    let a : Network := { (default : Network) with
      caseDate := { (default : Timestamp) with
        date := ⟨10000, 1, 1, by decide, by decide, by decide⟩ } }
    let stored := createNetworks (fun _ => "v1") [.of "grid" 1 a] single
    stored.result = .ok () ∧ (getNetwork .nil 1 stored.store).result
      = .error (.mapping (.column "network" "caseDate"
        (.invalidValue "+10000-01-01T00:00:00+00:00" none))) := by
  intro a stored
  have hcreate : stored.result = .ok () :=
    createNetworks_singleton ready_single (by decide) (by decide)
  have hread := @getNetwork_of_createNetworks single ready_single _ _ hcreate (.of "grid" 1 a) 0
    (by simp)
  have htext : a.caseDate.writeOffset = "+10000-01-01T00:00:00+00:00" := by decide
  have hbad : a.readBack "grid" 1 "v1" = .error (.mapping a.badCaseDate) := if_neg (by decide)
  refine ⟨hcreate, hread.trans (hbad.trans ?_)⟩
  rw [Network.badCaseDate, htext]

end Store

end GridStore
