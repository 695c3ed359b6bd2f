import GridStore.Proofs.OneByOne

/-!
# Updates of networks

An update of networks gives each row that it finds an id and attributes, and the id of its variant
if one is given. The elements are made in order. One whose variant id is by then that of another
variant of its network is refused and ends the update, what stands before it stays
(`Store.updateNetworks_in_order`); nothing else can go wrong.
-/

namespace GridStore

/-! ## Rows that are replaced -/

namespace Row

/-- What an element of an update leaves of a row: if it is the row of the network in the variant, it
takes the id and the attributes, and the variant id unless that is empty. -/
def updatedTo (r : Resource Network) (row : Row) : Row :=
  if row.isIn r.attributes.uuid r.variantNum then
    { row with
      id := .text r.id
      variantId :=
        if r.attributes.variantId = "" then row.variantId else some (.text r.attributes.variantId)
      values := ofAttributes r.attributes }
  else row

variable {r : Resource Network} {row : Row}

theorem isIn_updatedTo (u : Uuid) (n : Int32) : (row.updatedTo r).isIn u n = row.isIn u n := by
  unfold updatedTo
  split <;> rfl

theorem updatedTo_ofNetwork (id : String) (a r : Resource Network) :
    (ofNetwork id a).updatedTo r =
      if a.attributes.uuid = r.attributes.uuid ∧ a.variantNum = r.variantNum then
        ofNetwork (if r.attributes.variantId = "" then id else r.attributes.variantId) r
      else ofNetwork id a := by
  rw [updatedTo]
  by_cases h : a.attributes.uuid = r.attributes.uuid ∧ a.variantNum = r.variantNum
  · rw [if_pos (isIn_ofNetwork.2 h), if_pos h, ofNetwork, ofNetwork, h.1, h.2]
    split <;> rfl
  · rw [if_neg fun hin => h (isIn_ofNetwork.1 hin), if_neg h]

end Row

namespace Table

/-- Whether a network to update is stored in its variant. -/
def hasVariant (rows : List Row) (r : Resource Network) : Bool :=
  rows.any (·.isIn r.attributes.uuid r.variantNum)

/-- Whether a network to update is stored in its variant, and another variant of the network has
the variant id that is given for this one. -/
def IsTaken (rows : List Row) (r : Resource Network) : Prop :=
  (∃ row ∈ rows, row.isIn r.attributes.uuid r.variantNum = true) ∧ r.attributes.variantId ≠ "" ∧
    ∃ row ∈ rows, row.network = .ofUuid r.attributes.uuid ∧
      row.variantNum ≠ .ofInt32 r.variantNum ∧ row.variantId = some (.text r.attributes.variantId)

instance (rows : List Row) (r : Resource Network) : Decidable (IsTaken rows r) :=
  inferInstanceAs (Decidable (_ ∧ _ ∧ _))

/-- The rows that elements of an update leave, made in order. -/
def updatedInOrder (rs : List (Resource Network)) (rows : List Row) : List Row :=
  rs.foldl (fun rows r => rows.map (·.updatedTo r)) rows

/-- Whether no element of an update comes upon a variant id that is taken by then. -/
def NoneTaken : List (Resource Network) → List Row → Prop
  | [], _ => True
  | r :: rs, rows => ¬ IsTaken rows r ∧ NoneTaken rs (rows.map (·.updatedTo r))

variable {rows : List Row} {r : Resource Network} {row other : Row}

theorem clash_updatedTo_iff (hin : row.isIn r.attributes.uuid r.variantNum = true)
    (hout : other.isIn r.attributes.uuid r.variantNum = false) (hid : r.attributes.variantId ≠ "") :
    clash .network (row.updatedTo r) other = true ↔
      other.network = .ofUuid r.attributes.uuid ∧ other.variantNum ≠ .ofInt32 r.variantNum ∧
        other.variantId = some (.text r.attributes.variantId) := by
  have hrow := Row.isIn_iff.1 hin
  rw [Bool.eq_false_iff, ne_eq, Row.isIn_iff] at hout
  rw [clash_network, Row.updatedTo, if_pos hin]
  dsimp only
  rw [if_neg hid, hrow.1, hrow.2]
  constructor
  · rintro ⟨hnetwork, hshared⟩
    have hnum : other.variantNum ≠ .ofInt32 r.variantNum := fun hnum => hout ⟨hnetwork.symm, hnum⟩
    exact ⟨hnetwork.symm, hnum, (hshared.resolve_right hnum.symm).symm⟩
  · rintro ⟨hnetwork, -, htaken⟩
    exact ⟨hnetwork.symm, .inl htaken.symm⟩

theorem updatedTo_of_not_isIn (h : other.isIn r.attributes.uuid r.variantNum = false) :
    other.updatedTo r = other := by
  rw [Row.updatedTo, h]
  rfl

/-- A network takes a variant id if no other variant has it. -/
theorem Unique.map_updatedTo_iff (h : Unique .network rows) :
    Unique .network (rows.map (·.updatedTo r)) ↔ ¬ IsTaken rows r := by
  constructor
  · rintro hunique ⟨⟨row, hrow, hin⟩, hid, other, hother, htaken⟩
    have hout : other.isIn r.attributes.uuid r.variantNum = false := by
      rw [Bool.eq_false_iff]
      exact fun hin => htaken.2.1 (Row.isIn_iff.1 hin).2
    have hsame : row.updatedTo r = other := hunique.eq_of_clash (List.mem_map_of_mem hrow)
      (List.mem_map.2 ⟨other, hother, updatedTo_of_not_isIn hout⟩)
      ((clash_updatedTo_iff hin hout hid).2 htaken)
    rw [← hsame, Row.isIn_updatedTo, hin] at hout
    exact Bool.false_ne_true hout.symm
  · intro hfree
    have hapart (row other : Row) (hrow : row ∈ rows) (hother : other ∈ rows)
        (hin : row.isIn r.attributes.uuid r.variantNum = true)
        (hout : other.isIn r.attributes.uuid r.variantNum = false)
        (hclash : clash .network (row.updatedTo r) other = true) :
        clash .network row other = true := by
      by_cases hid : r.attributes.variantId = ""
      · rw [Row.updatedTo, if_pos hin, if_pos hid] at hclash
        exact hclash
      · have htaken := (clash_updatedTo_iff hin hout hid).1 hclash
        exact absurd ⟨⟨row, hrow, hin⟩, hid, other, hother, htaken⟩ hfree
    -- rows in the variant share its number, so only one in it and one elsewhere are to be compared
    refine h.map fun row hrow other hother hclash => ?_
    rcases hin : row.isIn r.attributes.uuid r.variantNum <;>
      rcases hout : other.isIn r.attributes.uuid r.variantNum
    · rwa [updatedTo_of_not_isIn hin, updatedTo_of_not_isIn hout] at hclash
    · rw [updatedTo_of_not_isIn hin, clash_comm] at hclash
      rw [clash_comm]
      exact hapart other row hother hrow hout hin hclash
    · rw [updatedTo_of_not_isIn hout] at hclash
      exact hapart row other hrow hother hin hout hclash
    · exact clash_of_isIn_network hin hout

/-! ## Elements in order -/

theorem apply_updateNetwork (r : Resource Network) (rows : List Row) :
    (RowWrite.updateNetwork r).apply rows = rows.map (·.updatedTo r) :=
  rfl

theorem applyAll_eq_updatedInOrder (rs : List (Resource Network)) (rows : List Row) :
    RowWrite.applyAll (rs.map RowWrite.updateNetwork) rows = updatedInOrder rs rows := by
  rw [RowWrite.applyAll, List.foldl_map]
  rfl

/-- Elements can be made in order if none of them comes upon a variant id that is taken. -/
theorem fit_updateNetworks_iff : ∀ {rs : List (Resource Network)} {rows : List Row},
    Unique .network rows →
      (RowWrite.Fit (rs.map RowWrite.updateNetwork) rows ↔ NoneTaken rs rows)
  | [], _, _ => Iff.rfl
  | r :: rs, rows, h => by
    have hfirst := h.map_updatedTo_iff (r := r)
    constructor
    · intro hfit
      exact ⟨hfirst.1 hfit.1, (fit_updateNetworks_iff hfit.1).1 hfit.2⟩
    · intro hfree
      have hunique := hfirst.2 hfree.1
      exact ⟨hunique, (fit_updateNetworks_iff hunique).2 hfree.2⟩

theorem countAll_updateNetworks : ∀ {rs : List (Resource Network)} {rows : List Row},
    Unique .network rows → NoneTaken rs rows →
      RowWrite.countAll (rs.map RowWrite.updateNetwork) rows = rs.countP (hasVariant rows)
  | [], _, _, _ => rfl
  | r :: rs, rows, h, hfree => by
    have hcount : (RowWrite.updateNetwork r).count rows = if hasVariant rows r then 1 else 0 :=
      h.countP_eq fun _ _ => clash_of_isIn_network
    have hsame : hasVariant (rows.map (·.updatedTo r)) = hasVariant rows := by
      funext t
      simp only [hasVariant, List.any_map, Function.comp_def, Row.isIn_updatedTo]
    have hrest := countAll_updateNetworks (h.map_updatedTo_iff.2 hfree.1) hfree.2
    rw [hsame] at hrest
    rw [List.map_cons, RowWrite.countAll, apply_updateNetwork, hrest, hcount, List.countP_cons,
      Nat.add_comm]

/-- Of elements that come upon a taken variant id there is a first. -/
theorem exists_of_not_noneTaken : ∀ {rs : List (Resource Network)} {rows : List Row},
    ¬ NoneTaken rs rows → ∃ before r after, rs = before ++ r :: after ∧ NoneTaken before rows ∧
      IsTaken (updatedInOrder before rows) r
  | [], _, h => absurd trivial h
  | r :: rs, rows, h => by
    by_cases hr : IsTaken rows r
    · exact ⟨[], r, rs, rfl, trivial, hr⟩
    · have hrest : ¬ NoneTaken rs (rows.map (·.updatedTo r)) := fun hrest => h ⟨hr, hrest⟩
      obtain ⟨before, t, after, rfl, hbefore, ht⟩ := exists_of_not_noneTaken hrest
      exact ⟨r :: before, t, after, rfl, ⟨hr, hbefore⟩, ht⟩

/-- An update that is refused is so for its variant id: it leaves the numbers of variants. -/
theorem eq_of_refuses_updatedTo (h : Unique .network rows) {e : StoreError}
    (he : Refuses .network (rows.map (·.updatedTo r)) e) :
    e = .uniqueViolation "network" ["uuid", "variantId"] := by
  obtain ⟨columns, hcolumns, rfl, hshared⟩ := he
  rcases List.mem_cons.1 hcolumns with rfl | hcolumns
  · rfl
  · obtain rfl := List.mem_singleton.1 hcolumns
    have hkey (row : Row) : (row.updatedTo r).key ["uuid", "variantNum"]
        = row.key ["uuid", "variantNum"] := by
      unfold Row.updatedTo
      split <;> rfl
    refine absurd ?_ hshared
    rw [List.map_map]
    refine h.nodup_map fun row _ other _ hsame => ?_
    rw [Function.comp_apply, Function.comp_apply, hkey, hkey] at hsame
    simp only [Row.key, Row.column?, List.map_cons, List.map_nil, List.cons.injEq, Option.some.injEq,
      and_true] at hsame
    exact clash_network.2 ⟨hsame.1, .inr hsame.2⟩

end Table

namespace Store

open Table

/-- An update of networks is made in order: an element whose network is stored in its variant gives
the row its id, its attributes and, unless that is empty, its variant id. The first one whose variant
id is by then that of another variant of the network is refused, the rows are as the elements before
it left them, and no other error is possible. Without such an element the answer is the number of
elements that are stored. -/
theorem updateNetworks_in_order {rs : List (Resource Network)} {s : Store}
    (hrule : checkResources rs = .ok ()) (hs : s.Ready .network) :
    let rows := s.tables.rows .network
    let done := updateNetworks rs s
    (NoneTaken rs rows → done.result = .ok (rs.countP (hasVariant rows)) ∧
      s.Puts .network (updatedInOrder rs rows) done.store) ∧
    (∀ before r after, rs = before ++ r :: after → NoneTaken before rows →
      IsTaken (updatedInOrder before rows) r →
        done.result = .error (.uniqueViolation "network" ["uuid", "variantId"]) ∧
        s.Puts .network (updatedInOrder before rows) done.store) ∧
    ∀ e, done.result = .error e → ∃ before r after, rs = before ++ r :: after ∧
      NoneTaken before rows ∧ IsTaken (updatedInOrder before rows) r := by
  intro rows done
  have hbatches := Request.InBatches.updateNetworks hrule
  have hunique : Unique .network rows := hs.unique
  refine ⟨fun hfree => ?_, fun before r after hrs hbefore htaken => ?_, fun e he => ?_⟩
  · obtain ⟨hputs, hresult⟩ := hbatches.done hs ((fit_updateNetworks_iff hunique).2 hfree)
    rw [applyAll_eq_updatedInOrder] at hputs
    rw [countAll_updateNetworks hunique hfree] at hresult
    exact ⟨hresult, hputs⟩
  · have hfit := (fit_updateNetworks_iff hunique).2 hbefore
    have hunique' : Unique .network (updatedInOrder before rows) := by
      rw [← applyAll_eq_updatedInOrder]
      exact hfit.unique_applyAll hunique
    have hstop : ¬ Unique .network ((RowWrite.updateNetwork r).apply (updatedInOrder before rows)) :=
      fun h => (hunique'.map_updatedTo_iff.1 h) htaken
    have hwrites : rs.map RowWrite.updateNetwork = before.map RowWrite.updateNetwork ++
        RowWrite.updateNetwork r :: after.map RowWrite.updateNetwork := by
      rw [hrs, List.map_append, List.map_cons]
    obtain ⟨hputs, e, he, hrefuses⟩ :=
      hbatches.stopped hs hwrites hfit (by rwa [applyAll_eq_updatedInOrder])
    rw [applyAll_eq_updatedInOrder] at hputs hrefuses
    obtain rfl := eq_of_refuses_updatedTo hunique' hrefuses
    exact ⟨he, hputs⟩
  · refine exists_of_not_noneTaken fun hfree => ?_
    obtain ⟨n, hn⟩ := (hbatches.ok_iff hs).2 ((fit_updateNetworks_iff hunique).2 hfree)
    have hboth : Except.error e = Except.ok n := he.symm.trans hn
    cases hboth

/-- A variant id that an element before it gave to another variant is taken. -/
theorem updateNetworks_in_order_taken :
    let named (variantId : String) : Network := { (default : Network) with variantId }
    let rs : List (Resource Network) :=
      [.of "a" 1 (named "C"), .of "b" 0 (named "C"), .of "c" 1 (named "D")]
    let s := single.withRows .network
      [.ofNetwork "A" (.of "grid" 0 default), .ofNetwork "B" (.of "grid" 1 default)]
    let done := updateNetworks rs s
    checkResources rs = .ok () ∧ s.Ready .network ∧
      done.result = .error (.uniqueViolation "network" ["uuid", "variantId"]) ∧
      s.Puts .network
        [.ofNetwork "A" (.of "grid" 0 default), .ofNetwork "C" (.of "a" 1 (named "C"))]
        done.store := by
  intro named rs s done
  have hrule : checkResources rs = .ok () := by decide
  have hpresent : (single.tables.table? .network).isSome := Tables.keyed_single.present _
  have hrows : s.tables.rows .network
      = [.ofNetwork "A" (.of "grid" 0 default), .ofNetwork "B" (.of "grid" 1 default)] :=
    Tables.rows_setRows_self hpresent _
  have hs : s.Ready .network :=
    ⟨⟨rfl, by decide⟩, by rw [← hpresent]; exact Tables.isSome_table?_setRows _, by
      rw [hrows]
      decide⟩
  have hfirst : updatedInOrder [.of "a" 1 (named "C")] (s.tables.rows .network)
      = [.ofNetwork "A" (.of "grid" 0 default), .ofNetwork "C" (.of "a" 1 (named "C"))] := by
    rw [hrows]
    show [Row.updatedTo _ _, Row.updatedTo _ _] = _
    rw [Row.updatedTo_ofNetwork, Row.updatedTo_ofNetwork, if_neg (by decide), if_pos (by decide),
      if_neg (by decide)]
    rfl
  have hfree : NoneTaken [.of "a" 1 (named "C")] (s.tables.rows .network) := by
    rw [hrows]
    refine ⟨?_, trivial⟩
    rintro ⟨-, -, row, hrow, -, -, htaken⟩
    rcases List.mem_cons.1 hrow with rfl | hrow
    · exact absurd htaken (by decide)
    · obtain rfl := List.mem_singleton.1 hrow
      exact absurd htaken (by decide)
  have htaken : IsTaken (updatedInOrder [.of "a" 1 (named "C")] (s.tables.rows .network))
      (.of "b" 0 (named "C")) := by
    rw [hfirst]
    exact ⟨⟨_, List.mem_cons_self, Row.isIn_ofNetwork.2 ⟨rfl, rfl⟩⟩, by decide,
      _, List.mem_cons_of_mem _ List.mem_cons_self, rfl, by decide, rfl⟩
  obtain ⟨hresult, hputs⟩ := (updateNetworks_in_order hrule hs).2.1 [.of "a" 1 (named "C")]
    (.of "b" 0 (named "C")) [.of "c" 1 (named "D")] rfl hfree htaken
  rw [hfirst] at hputs
  exact ⟨hrule, hs, hresult, hputs⟩

end Store

end GridStore
