import GridStore.Proofs.Reachable

/-!
# Ids and numbers that are stored

Wherever requests lead, the ids and the numbers that rows hold are as the rules on arguments allow
(`Store.Reachable.stored_arguments`). So is the id of each variant that was given when the variant
was stored or copied. An update does not look at the id that it gives to a variant, so only what
updates gave can break the rule, and a variant under such an id cannot be named in a copy
(`blank_variantId_of_update`).
-/

namespace GridStore

/-! ## Ids that are allowed -/

/-- The text of a uuid can be the id of a variant. -/
theorem Uuid.variantId_text (u : Uuid) : Validation.variantId u.text = .ok () := by
  have hhyphen : '-' ∈ u.text.toList := by
    rw [toList_text]
    simp [hyphenate]
  have hlength : u.text.toList.length ≤ 255 := by
    rw [String.length_toList, length_text]
    decide
  refine eq_ok_iff_forall_ne_error.2 fun cause h => ?_
  rcases identifier_eq_error_iff.1 h with hblank | ⟨-, hlong⟩
  · exact absurd (hblank _ hhyphen) (by decide)
  · exact Nat.not_lt.2 hlength hlong

theorem variantId_initial : Validation.variantId initialVariantId = .ok () := by
  decide

theorem variantId_defaultId {n : Int32} {fresh : String} (h : Validation.variantId fresh = .ok ()) :
    Validation.variantId (Variant.defaultId n fresh) = .ok () := by
  unfold Variant.defaultId
  split
  · exact variantId_initial
  · exact h

theorem variantId_of_targetVariantId {target : Int32} {variantId : Option String} {fresh id : String}
    (hfresh : variantId = none → Validation.variantId fresh = .ok ())
    (h : Store.targetVariantId target variantId fresh = .ok id) : Validation.variantId id = .ok () := by
  cases variantId with
  | none =>
    obtain rfl := Except.ok.inj h
    exact variantId_defaultId (hfresh rfl)
  | some given =>
    obtain ⟨⟨⟩, hgiven, h⟩ := Except.bind_eq_ok h
    obtain rfl := Except.ok.inj h
    exact hgiven

theorem nonneg_of_variantNum {n : Int32} (h : Validation.variantNum n = .ok ()) : 0 ≤ n := by
  unfold Validation.variantNum at h
  split at h
  · cases h
  · rename_i hn
    exact Int32.not_lt.1 hn

/-! ## Copies of listed variants -/

namespace Store

theorem failsWith_variantsOf (network : Uuid) (ts : Tables) :
    FailsWith (fun e => ∀ cause, e ≠ .invalidArgument cause) (variantsOf network ts) := by
  have hread (r : Row) : FailsWith (fun e => ∀ cause, e ≠ .invalidArgument cause) r.toVariant := by
    refine FailsWith.bind ?_ fun num => FailsWith.bind ?_ fun id => ?_
    · cases r.variantNum <;> simp [Cell.toInt64, FailsWith]
    · cases r.variantId.getD .null <;> simp [Cell.toText, FailsWith]
    · split
      · exact failsWith_ok _
      · exact failsWith_error fun _ h => by cases h
  refine FailsWith.bind (FailsWith.bind ?_ fun _ => failsWith_ok _) fun _ => failsWith_mapM hread _
  rintro _ he cause rfl
  exact Tables.failsWith_existing ts .network _ he

/-- Variants under allowed ids can be named in a copy to another network. -/
theorem cloneNetwork_ne_invalidArgument {s : Store} {target source : Uuid} {variantIds : List String}
    (hne : target ≠ source) (hsome : variantIds ≠ [])
    (hids : ∀ id ∈ variantIds, Validation.variantId id = .ok ()) (cause : ValidationError) :
    (cloneNetwork target source variantIds s).result ≠ .error (.invalidArgument cause) := by
  have hrule := Validation.cloneNetwork_of_valid hne hsome hids
  have hbackend : ∀ e : StoreError, e.OfBackend → ∀ cause, e ≠ .invalidArgument cause := by
    rintro _ he cause rfl
    exact he
  have hmeets := meetsAt_cloneNetwork (R := fun _ _ => True) hbackend
    (fun cause h => by rw [hrule] at h; cases h) (failsWith_variantsOf source s.tables)
    (fun _ _ _ _ _ cause h => by cases h)
    fun _ _ _ _ x _ _ k _ => ⟨fun _ _ _ => trivial,
      fun e he => hbackend e (Tables.failsWith_copy _ k _ _ e he)⟩
  exact fun h => hmeets.2 _ h cause rfl

end Store

/-! ## What is stored -/

/-- Wherever requests lead that take the fresh ids of copied variants from uuids, each row holds an
id and a number that the rules allow, and each row of the network table the id of a variant that the
rule allows or an update gave. If updates give none but allowed ones, every variant that is listed
can be named in a copy to another network. -/
theorem Store.Reachable.stored_arguments {P : Request → Prop} {s : Store} (h : s.Reachable P)
    (hfresh : ∀ network source target fresh, P (.cloneVariant network source target none fresh) →
      ∃ u : Uuid, fresh = u.text) :
    (∀ k, ∀ r ∈ s.tables.rows k, (∃ id, r.id = .text id ∧ Validation.resourceId id = .ok ()) ∧
        ∃ n : Int32, r.variantNum = .ofInt32 n ∧ 0 ≤ n) ∧
      (∀ r ∈ s.tables.rows .network, ∃ id, r.variantId = some (.text id) ∧
        (Validation.variantId id = .ok () ∨
          ∃ rs, P (.updateNetworks rs) ∧ ∃ a ∈ rs, a.attributes.variantId = id ∧ id ≠ "")) ∧
      ((∀ rs, P (.updateNetworks rs) → ∀ a ∈ rs, a.attributes.variantId = "" ∨
          Validation.variantId a.attributes.variantId = .ok ()) →
        ∀ target source variants variantIds, target ≠ source → variantIds ≠ [] →
          (Store.listVariants source s).result = .ok variants →
          (∀ id ∈ variantIds, ∃ x ∈ variants, x.id = id) →
          ∀ cause, (Store.cloneNetwork target source variantIds s).result
            ≠ .error (.invalidArgument cause)) := by
  have hsound : s.tables.Sound (Row.Follows fun id => Validation.variantId id = .ok () ∨
      ∃ rs, P (.updateNetworks rs) ∧ ∃ a ∈ rs, a.attributes.variantId = id ∧ id ≠ "") := by
    refine h.sound fun q hq id hid => ?_
    cases q with
    | createNetworks fresh rs =>
      obtain ⟨-, -, -, -, hvalid⟩ := hid
      exact .inl hvalid
    | updateNetworks rs => exact .inr ⟨rs, hq, hid⟩
    | cloneVariant network source target variantId fresh =>
      refine .inl (variantId_of_targetVariantId (fun hnone => ?_) hid)
      subst hnone
      obtain ⟨u, rfl⟩ := hfresh network source target fresh hq
      exact u.variantId_text
    | _ => exact hid.elim
  refine ⟨fun k r hr => ?_, fun r hr => (hsound.each .network r hr).variantId, ?_⟩
  · obtain ⟨n, hn, hvalid⟩ := (hsound.each k r hr).variantNum
    exact ⟨(hsound.each k r hr).id, n, hn, nonneg_of_variantNum hvalid⟩
  · intro hupdates target source variants variantIds hne hsome hlist hids
    refine Store.cloneNetwork_ne_invalidArgument hne hsome fun id hid => ?_
    obtain ⟨x, hx, rfl⟩ := hids id hid
    obtain ⟨r, hr, -, hvariant⟩ :=
      Store.exists_row_of_mem_variantsOf (Store.variantsOf_of_listVariants hlist) hx
    obtain ⟨stored, hstored, hrule⟩ := (hsound.each .network r hr).variantId
    obtain rfl : stored = x.id := by simpa [hstored] using hvariant
    rcases hrule with hvalid | ⟨rs, hrs, a, ha, hgiven, hne⟩
    · exact hvalid
    · rw [← hgiven] at hne ⊢
      exact (hupdates rs hrs a ha).resolve_left hne

theorem Store.Reachable.stored_arguments_single :
    let P (q : Request) := q = .createNetworks (fun _ => "") [.of "grid" 0 default] ∨
      q = .updateNetworks [.of "grid" 0 { (default : Network) with variantId := "Renamed" }] ∨
      q = .cloneVariant .nil 0 1 none Uuid.nil.text
    Store.single.Reachable P ∧
      (∀ network source target fresh, P (.cloneVariant network source target none fresh) →
        ∃ u : Uuid, fresh = u.text) ∧
      (∀ rs, P (.updateNetworks rs) → ∀ a ∈ rs, a.attributes.variantId = "" ∨
        Validation.variantId a.attributes.variantId = .ok ()) ∧
      (Store.listVariants .nil .single).result = .ok [⟨initialVariantId, 0⟩] ∧
      ∀ cause, (Store.cloneNetwork ⟨1⟩ .nil [initialVariantId] .single).result
        ≠ .error (.invalidArgument cause) := by
  intro P
  have hreach : Store.single.Reachable P := Store.reachable_single (.inl rfl)
  have hfresh : ∀ network source target fresh, P (.cloneVariant network source target none fresh) →
      ∃ u : Uuid, fresh = u.text := by
    rintro network source target fresh (h | h | h)
    · cases h
    · cases h
    · cases h
      exact ⟨.nil, rfl⟩
  have hupdates : ∀ rs, P (.updateNetworks rs) → ∀ a ∈ rs, a.attributes.variantId = "" ∨
      Validation.variantId a.attributes.variantId = .ok () := by
    rintro rs (h | h | h)
    · cases h
    · cases h
      exact List.forall_mem_singleton.2 (.inr (by decide))
    · cases h
  have hlist : (Store.listVariants .nil .single).result = .ok [⟨initialVariantId, 0⟩] := by
    rw [Store.listVariants_result ⟨rfl, by decide⟩]
    exact Store.variantsOf_of_select_singleton rfl rfl
  refine ⟨hreach, hfresh, hupdates, hlist, ?_⟩
  exact (hreach.stored_arguments hfresh).2.2 hupdates ⟨1⟩ .nil _ _ (by decide) (by decide) hlist
    (by decide)

/-- An update puts a blank text in the place of the id of a variant. The rule refuses the text, and
so does a copy that names the variant as it is listed. -/
theorem blank_variantId_of_update :
    let s := Request.runAll [.createNetworks (fun _ => "") [.of "grid" 0 default],
      .updateNetworks [.of "grid" 0 { (default : Network) with variantId := " " }]] .blank
    s.Reachable (fun _ => True) ∧ Validation.variantId " " = .error (.required "variantId") ∧
      (∃ r ∈ s.tables.rows .network, r.variantId = some (.text " ")) ∧
      (Store.listVariants .nil s).result = .ok [⟨" ", 0⟩] ∧
      (Store.cloneNetwork ⟨1⟩ .nil [" "] s).result
        = .error (.invalidArgument (.required "variantId")) := by
  have hrun : Request.runAll [.createNetworks (fun _ => "") [.of "grid" 0 default],
      .updateNetworks [.of "grid" 0 { (default : Network) with variantId := " " }]] .blank
        = { Store.single with
            tables := Tables.blank.setRows .network [.ofNetwork " " (.of "grid" 0 default)] } := by
    show (Request.updateNetworks _).run ((Request.createNetworks _ _).run .blank) = _
    rw [Store.run_createNetworks_blank, Request.run, Store.updateNetworks]
    unfold Store.sumBatches
    simp only [batches_singleton]
    rfl
  refine ⟨Store.reachable_runAll (.new rfl) fun _ _ => trivial, by decide, ?_⟩
  rw [hrun]
  refine ⟨⟨.ofNetwork " " (.of "grid" 0 default), ?_, rfl⟩, ?_, rfl⟩
  · exact List.mem_singleton.2 rfl
  · rw [Store.listVariants_result ⟨rfl, by decide⟩]
    exact Store.variantsOf_of_select_singleton rfl rfl

end GridStore
