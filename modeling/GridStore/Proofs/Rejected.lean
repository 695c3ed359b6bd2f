import GridStore.Proofs.Refinement
import GridStore.Proofs.Rules

/-!
# Rejected calls

A call is rejected for its arguments, for what it finds stored, or for want of a statement
(`StoreError.Rejects`), while statements that write fail for the backend. A call looks at all of its
arguments and reads all that it has to read before it writes anything, so if it is rejected it has
written nothing (`Request.store_eq_or_failsWith`). What is to be stored is refused for the first
element that breaks a rule (`Request.call_rejected`).
-/

namespace GridStore

open Call

/-- Errors by which a call is rejected: an argument breaks a rule or names what is not stored, what
is stored does not map to a value, or the table has no statement of the shape. -/
def StoreError.Rejects : StoreError → Prop
  | invalidArgument _ | notFound .. | mapping _ | noStatement .. => True
  | _ => False

theorem StoreError.OfBackend.not_rejects : ∀ {e : StoreError}, e.OfBackend → ¬ e.Rejects
  | .uniqueViolation .., _ | .connectionFailed _, _ | .queryFailed _, _ | .poolExhausted, _ => id

/-! ## Elements to store -/

/-- What the rules look at of what a request is to store. -/
inductive Request.Stores : Request → List Element → Prop
  | create {k : EquipmentKind} {network : Uuid} {rs : List (Resource k.Attributes)} :
    Stores (.create k network rs) (rs.map fun r => ⟨r.id, r.variantNum, none⟩)
  | update {k : EquipmentKind} {network : Uuid} {rs : List (Resource k.Attributes)} :
    Stores (.update k network rs) (rs.map fun r => ⟨r.id, r.variantNum, none⟩)
  | createNetworks {fresh : Nat → String} {rs : List (Resource Network)} :
    Stores (.createNetworks fresh rs)
      ((Request.named fresh rs).map fun x => ⟨x.1.id, x.1.variantNum, some x.2⟩)

theorem checkResources_eq {A : Type} [Attributes A] (rs : List (Resource A)) :
    Store.checkResources rs
      = (rs.map fun r => (⟨r.id, r.variantNum, none⟩ : Element)).forM Element.rule := by
  refine Eq.trans ?_ List.forM_map.symm
  refine congrArg (rs.forM ·) (funext fun r => ?_)
  unfold Element.rule
  rcases Validation.resourceId r.id with e | ⟨⟩
  · rfl
  · rcases Validation.variantNum r.variantNum with e | ⟨⟩ <;> rfl

theorem mapM_newNetworkRow_eq_error_iff {fresh : Nat → String} {rs : List (Resource Network)}
    {cause : ValidationError} :
    (rs.zipIdx.mapM fun (r, i) => Store.newNetworkRow (fresh i) r) = .error cause ↔
      ((Request.named fresh rs).map fun x =>
        (⟨x.1.id, x.1.variantNum, some x.2⟩ : Element)).forM Element.rule = .error cause := by
  have hrules : ((Request.named fresh rs).map fun x =>
      (⟨x.1.id, x.1.variantNum, some x.2⟩ : Element)).forM Element.rule
        = (Request.named fresh rs).forM Request.checkNetwork := List.forM_map
  rw [mapM_newNetworkRow, hrules]
  rcases (Request.named fresh rs).forM Request.checkNetwork with e | ⟨⟩
  · exact ⟨fun h => congrArg _ (Except.error.inj h), fun h => congrArg _ (Except.error.inj h)⟩
  · exact iff_of_false (fun h => by cases h) fun h => by cases h

/-! ## Statements that write -/

section Accepted

variable {E : StoreError → Prop} (hE : ∀ e : StoreError, e.OfBackend → E e) {A : Type} [Attributes A]
  {network : Uuid}

include hE

theorem statementMeets_backend {α : Type} {statement : Tables → Except StoreError (Tables × α)}
    (h : ∀ ts, FailsWith StoreError.OfBackend (statement ts)) :
    StatementMeets (fun _ _ => True) E statement :=
  fun s => ⟨fun _ _ _ => trivial, fun e he => hE e (h s.tables e he)⟩

theorem meets_insertRow_backend (k : Kind) (r : Row) :
    Meets (fun _ _ => True) E (Store.insertRow k r) :=
  meets_insertRow hE fun _ _ _ => trivial

theorem meets_create_backend {rs : List (Resource A)}
    (hrule : ∀ cause, Store.checkResources rs = .error cause → E (.invalidArgument cause)) :
    Meets (fun _ _ => True) E (Store.create network rs) :=
  meets_create hE hrule fun _ _ _ => meets_insertRow_backend hE _ _

theorem meets_update_backend {rs : List (Resource A)}
    (hrule : ∀ cause, Store.checkResources rs = .error cause → E (.invalidArgument cause)) :
    Meets (fun _ _ => True) E (Store.update network rs) :=
  meets_update hE hrule fun _ _ _ => meets_report (meets_execute
    (statementMeets_backend hE fun ts => ts.failsWith_update _ _ _))

theorem meets_createNetworks_backend {fresh : Nat → String} {rs : List (Resource Network)}
    (hrule : ∀ cause, (rs.zipIdx.mapM fun (r, i) => Store.newNetworkRow (fresh i) r) = .error cause →
      E (.invalidArgument cause)) :
    Meets (fun _ _ => True) E (Store.createNetworks fresh rs) :=
  meets_createNetworks hE hrule fun _ _ _ _ _ => meets_insertRow_backend hE _ _

end Accepted

/-- A request has written nothing, or it is not rejected. -/
theorem Request.store_eq_or_failsWith (q : Request) (s : Store) :
    (q.call s).store = s ∨ FailsWith (fun e => ¬ e.Rejects) (q.call s).result := by
  have hE (e : StoreError) (he : e.OfBackend) : ¬ e.Rejects := he.not_rejects
  -- where a rule refuses the arguments the call ends there, and else no rule is to blame
  have hok {x : Except ValidationError Unit} (h : x = .ok ()) (cause : ValidationError)
      (hx : x = .error cause) : ¬ (StoreError.invalidArgument cause).Rejects := by
    rw [h] at hx
    cases hx
  cases q with
  | create k network rs =>
    rcases hrule : Store.checkResources rs with cause | ⟨⟩
    · exact .inl (by rw [call, Store.create, hrule]; rfl)
    · exact .inr (meets_create_backend hE (hok hrule) s).2
  | update k network rs =>
    rcases hrule : Store.checkResources rs with cause | ⟨⟩
    · exact .inl (by rw [call, Store.update, hrule]; rfl)
    · exact .inr (meets_update_backend hE (hok hrule) s).2
  | delete k network n id =>
    exact .inr (meets_delete hE (statementMeets_backend hE fun ts => ts.failsWith_delete _ _) s).2
  | createNetworks fresh rs =>
    rcases hrule : rs.zipIdx.mapM fun (r, i) => Store.newNetworkRow (fresh i) r with cause | rows
    · exact .inl (by rw [call, Store.createNetworks, hrule]; rfl)
    · refine .inr (meets_createNetworks_backend hE (fun cause h => ?_) s).2
      rw [hrule] at h
      cases h
  | updateNetworks rs =>
    rcases hrule : Store.checkResources rs with cause | ⟨⟩
    · exact .inl (by rw [call, Store.updateNetworks, hrule]; rfl)
    · exact .inr (meets_updateNetworks hE (hok hrule) (fun _ _ _ => meets_report (meets_execute
        (statementMeets_backend hE fun ts => ts.failsWith_update _ _ _))) s).2
  | deleteNetwork network =>
    exact .inr (meets_deleteNetwork hE
      (fun k => statementMeets_backend hE fun ts => ts.failsWith_delete k _) s).2
  | deleteVariant network n =>
    rcases hrule : Validation.deletableVariant network.text n with cause | ⟨⟩
    · exact .inl (by rw [call, Store.deleteVariant, hrule]; rfl)
    · exact .inr (meets_deleteVariant hE (hok hrule)
        (fun _ k => statementMeets_backend hE fun ts => ts.failsWith_delete k _) s).2
  | cloneVariant network source target variantId fresh =>
    rcases hrule : Validation.cloneVariant source target with cause | ⟨⟩
    · exact .inl (by rw [call, Store.cloneVariant, hrule]; rfl)
    · rcases hid : Store.targetVariantId target variantId fresh with cause | id
      · exact .inl (by rw [call, Store.cloneVariant, hrule, hid]; rfl)
      · refine .inr (meets_cloneVariant hE (hok hrule) (fun cause h => ?_)
          (fun _ _ _ k => statementMeets_backend hE fun ts => ts.failsWith_copy k _ _) s).2
        rw [hid] at h
        cases h
  | cloneNetwork target source variantIds =>
    rcases hrule : Validation.cloneNetwork target.text source.text variantIds with cause | ⟨⟩
    · exact .inl (by rw [call, Store.cloneNetwork, hrule]; rfl)
    by_cases hnamed : ∃ variants, Store.variantsOf source s.tables = .ok variants ∧
        ∀ id ∈ variantIds, ∃ x ∈ variants, x.id = id
    · obtain ⟨variants, hread, hnamed⟩ := hnamed
      refine .inr (meetsAt_cloneNetwork (R := fun _ _ => True) hE (hok hrule) ?_ ?_
        fun _ _ _ _ _ _ _ k => statementMeets_backend hE fun ts => ts.failsWith_copy k _ _).2
      · rw [hread]
        exact failsWith_ok _
      · intro variants' hread' id hid hnone
        obtain rfl := Except.ok.inj (hread.symm.trans hread')
        obtain ⟨x, hx, hxid⟩ := hnamed id hid
        exact absurd hxid (hnone x hx)
    · refine .inl (meetsAt_cloneNetwork (R := fun s t => id t = id s) (E := fun _ => True)
        (fun _ _ => trivial) (fun _ _ => trivial) (fun _ _ => trivial) (fun _ _ _ _ _ => trivial)
        fun _ variants hread hall => ?_).1
      exact absurd ⟨variants, hread, hall⟩ hnamed
  | getOne k network n name => exact .inl (keeps_getOne (f := id) network n name s)
  | getAll k network n => exact .inl (keeps_getAll (f := id) network n s)
  | getByContainer k network n container =>
    exact .inl (keeps_getByContainer (f := id) network n container s)
  | getIdentifiable network n name =>
    exact .inl (keeps_getIdentifiable (f := id) network n name s)
  | getNetwork network n => exact .inl (keeps_getNetwork (f := id) network n s)
  | listNetworks => exact .inl (keeps_listNetworks (f := id) s)
  | listVariants network => exact .inl (keeps_listVariants (f := id) network s)

/-- What is to be stored is refused by the rules on its elements, and for no other reason. -/
theorem Request.Stores.result_iff {q : Request} {elements : List Element} (h : q.Stores elements)
    (s : Store) {cause : ValidationError} :
    (q.call s).result = .error (.invalidArgument cause) ↔
      elements.forM Element.rule = .error cause := by
  let E (e : StoreError) :=
    ∀ cause, e = .invalidArgument cause → elements.forM Element.rule = .error cause
  have hE (e : StoreError) (he : e.OfBackend) : E e := by
    rintro cause rfl
    exact he.elim
  have hcause {cause : ValidationError} (hrule : elements.forM Element.rule = .error cause) :
      E (.invalidArgument cause) := by
    rintro _ ⟨⟩
    exact hrule
  cases h with
  | create =>
    refine ⟨fun h => ?_, fun h => ?_⟩
    · exact (meets_create_backend hE
        (fun cause h => hcause ((checkResources_eq _).symm.trans h)) s).2 _ h cause rfl
    · rw [← checkResources_eq] at h
      rw [call, Store.create, h]
      rfl
  | update =>
    refine ⟨fun h => ?_, fun h => ?_⟩
    · exact (meets_update_backend hE
        (fun cause h => hcause ((checkResources_eq _).symm.trans h)) s).2 _ h cause rfl
    · rw [← checkResources_eq] at h
      rw [call, Store.update, h]
      rfl
  | createNetworks =>
    refine ⟨fun h => ?_, fun h => ?_⟩
    · exact (meets_createNetworks_backend hE
        (fun cause h => hcause (mapM_newNetworkRow_eq_error_iff.1 h)) s).2 _ h cause rfl
    · rw [← mapM_newNetworkRow_eq_error_iff] at h
      rw [call, Store.createNetworks, h]
      rfl

/-- A request that is rejected has written nothing. What is to be stored is refused if and only if
an element is, and for the first that is. -/
theorem Request.call_rejected :
    (∀ (q : Request) (s : Store) (e : StoreError), (q.call s).result = .error e → e.Rejects →
        (q.call s).store = s) ∧
      ∀ (q : Request) (elements : List Element), q.Stores elements → ∀ s : Store,
        ((∃ cause, (q.call s).result = .error (.invalidArgument cause)) ↔
          ∃ x ∈ elements, ∃ cause, x.Refused cause) ∧
        ∀ cause, (q.call s).result = .error (.invalidArgument cause) ↔
          FirstRefused elements cause := by
  refine ⟨fun q s e he hrejects => ?_, fun q elements h s => ?_⟩
  · exact (q.store_eq_or_failsWith s).resolve_right fun hfails => hfails e he hrejects
  · have hfirst (cause : ValidationError) : (q.call s).result = .error (.invalidArgument cause) ↔
        FirstRefused elements cause := (h.result_iff s).trans forM_rule_eq_error_iff
    exact ⟨(exists_congr hfirst).trans exists_firstRefused_iff, hfirst⟩

/-- A blank id after one that is allowed is found before anything is stored. -/
theorem Request.call_rejected_blank :
    let rs : List (Resource Load) := [.of "a" 0 default, .of " " 0 default, .of "b" (-1) default]
    let q : Request := .create .load .nil rs
    (q.call .blank).result = .error (.invalidArgument (.required "id")) ∧
      (q.call .blank).store = .blank := by
  intro rs q
  have hstores : q.Stores (rs.map fun r => ⟨r.id, r.variantNum, none⟩) := @Stores.create .load .nil rs
  have hfirst : FirstRefused (rs.map fun r => ⟨r.id, r.variantNum, none⟩) (.required "id") := by
    have hblank : (⟨" ", 0, none⟩ : Element).rule = .error (.required "id") := by decide
    refine ⟨[⟨"a", 0, none⟩], _, [⟨"b", -1, none⟩], rfl, ?_, Element.rule_eq_error_iff.1 hblank⟩
    refine List.forall_mem_singleton.2 fun cause h => ?_
    have hok : (⟨"a", 0, none⟩ : Element).rule = .ok () := by decide
    rw [Element.rule_eq_error_iff.2 h] at hok
    cases hok
  have hresult := ((call_rejected.2 q _ hstores .blank).2 (.required "id")).2 hfirst
  exact ⟨hresult, call_rejected.1 q .blank _ hresult trivial⟩

end GridStore
