import GridStore.Proofs.Rows
import GridStore.Proofs.Statements

/-!
# What the rules on arguments refuse

A text is refused as an id if it is blank or too long, and a number if it is negative
(`identifier_eq_error_iff`, `variantNum_eq_error_iff`). Of what is to be stored the id is looked at
before the number, and that before the id of the variant (`Element.Refused`). A list is refused for
the first of its elements that is (`forM_rule_eq_error_iff`).
-/

namespace GridStore

/-! ## Single arguments -/

/-- Why a text cannot be an id. -/
inductive BadId (field value : String) : ValidationError → Prop
  | blank (h : ∀ c ∈ value.toList, isBlank c = true) : BadId field value (.required field)
  | long (hgiven : ¬ ∀ c ∈ value.toList, isBlank c = true) (h : 255 < value.toList.length) :
    BadId field value (.tooLong field 255)

/-- What the rules look at of something that is to be stored. -/
structure Element where
  id : String
  variantNum : Int32
  /-- The id of its variant, if it is to have one. -/
  variantId : Option String

namespace Element

/-- Why an element cannot be stored. -/
inductive Refused (x : Element) : ValidationError → Prop
  | id {cause : ValidationError} (h : BadId "id" x.id cause) : Refused x cause
  | variantNum (hid : ∀ cause, ¬ BadId "id" x.id cause) (h : x.variantNum.toInt < 0) :
    Refused x (.outOfRange "variantNum" 0 2147483647 x.variantNum.toInt)
  | variantId {given : String} {cause : ValidationError} (hid : ∀ cause, ¬ BadId "id" x.id cause)
    (hnum : 0 ≤ x.variantNum.toInt) (hgiven : x.variantId = some given)
    (h : BadId "variantId" given cause) : Refused x cause

/-- The rules on an element. -/
def rule (x : Element) : Except ValidationError Unit := do
  Validation.resourceId x.id
  Validation.variantNum x.variantNum
  match x.variantId with
  | some given => Validation.variantId given
  | none => return ()

end Element

section Single

variable {field value id : String} {n : Int32} {cause : ValidationError}

theorem identifier_eq_error_iff :
    Validation.identifier field value = .error cause ↔ BadId field value cause := by
  unfold Validation.identifier
  split
  · rename_i hblank
    rw [List.all_eq_true] at hblank
    constructor
    · rintro ⟨⟩
      exact .blank hblank
    · rintro (_ | ⟨hgiven, -⟩)
      · rfl
      · exact absurd hblank hgiven
  · rename_i hgiven
    rw [List.all_eq_true] at hgiven
    split
    · rename_i hlong
      constructor
      · rintro ⟨⟩
        exact .long hgiven hlong
      · rintro (hblank | _)
        · exact absurd hblank hgiven
        · rfl
    · rename_i hshort
      refine iff_of_false (fun h => by cases h) ?_
      rintro (hblank | ⟨-, hlong⟩)
      · exact hgiven hblank
      · exact hshort hlong

theorem variantNum_eq_error_iff : Validation.variantNum n = .error cause ↔
    n.toInt < 0 ∧ cause = .outOfRange "variantNum" 0 2147483647 n.toInt := by
  have hneg : n < initialVariantNum ↔ n.toInt < 0 := Int32.lt_iff_toInt_lt
  unfold Validation.variantNum
  rw [← hneg]
  split
  · rename_i h
    rw [and_iff_right h]
    exact ⟨fun h => (Except.error.inj h).symm, fun h => congrArg _ h.symm⟩
  · rename_i h
    exact iff_of_false (fun h => by cases h) fun h' => h h'.1

theorem eq_ok_iff_forall_ne_error {ε : Type} {x : Except ε Unit} : x = .ok () ↔ ∀ e, x ≠ .error e := by
  rcases x with e | ⟨⟩
  · exact iff_of_false (fun h => by cases h) fun h => h e rfl
  · exact iff_of_true rfl fun e h => by cases h

theorem bind_eq_error_iff {ε : Type} {x : Except ε Unit} {y : Except ε Unit} {e : ε} :
    (x >>= fun _ => y) = .error e ↔ x = .error e ∨ x = .ok () ∧ y = .error e := by
  rcases x with e' | ⟨⟩
  · exact ⟨.inl, fun h => h.resolve_right fun h => by cases h.1⟩
  · exact ⟨fun h => .inr ⟨rfl, h⟩, fun h => (h.resolve_left fun h => by cases h).2⟩

theorem variantNum_eq_ok_iff : Validation.variantNum n = .ok () ↔ 0 ≤ n.toInt := by
  rw [eq_ok_iff_forall_ne_error]
  constructor
  · intro h
    by_contra hneg
    exact h _ (variantNum_eq_error_iff.2 ⟨Int.not_le.1 hneg, rfl⟩)
  · exact fun h cause hcause => Int.not_lt.2 h (variantNum_eq_error_iff.1 hcause).1

/-- The rules on an element find why it cannot be stored. -/
theorem Element.rule_eq_error_iff {x : Element} : x.rule = .error cause ↔ x.Refused cause := by
  have hid : Validation.resourceId x.id = .ok () ↔ ∀ cause, ¬ BadId "id" x.id cause :=
    eq_ok_iff_forall_ne_error.trans (forall_congr' fun _ => not_congr identifier_eq_error_iff)
  rw [rule, bind_eq_error_iff, bind_eq_error_iff, hid, variantNum_eq_error_iff, variantNum_eq_ok_iff,
    Validation.resourceId, identifier_eq_error_iff]
  constructor
  · rintro (h | ⟨hid, ⟨hneg, rfl⟩ | ⟨hnum, h⟩⟩)
    · exact .id h
    · exact .variantNum hid hneg
    · split at h
      · rename_i given hgiven
        exact .variantId hid hnum hgiven (identifier_eq_error_iff.1 h)
      · cases h
  · rintro (h | ⟨hid, hneg⟩ | ⟨hid, hnum, hgiven, h⟩)
    · exact .inl h
    · exact .inr ⟨hid, .inl ⟨hneg, rfl⟩⟩
    · refine .inr ⟨hid, .inr ⟨hnum, ?_⟩⟩
      rw [hgiven]
      exact identifier_eq_error_iff.2 h

end Single

/-! ## Lists -/

section Lists

variable {α ε : Type} {rule : α → Except ε Unit}

theorem forM_cons_eq (a : α) (as : List α) :
    (a :: as).forM rule = (rule a >>= fun _ => as.forM rule) :=
  rfl

theorem forM_eq_ok_iff : ∀ {as : List α}, as.forM rule = .ok () ↔ ∀ a ∈ as, rule a = .ok ()
  | [] => iff_of_true rfl (List.forall_mem_nil _)
  | a :: as => by
    rw [forM_cons_eq, List.forall_mem_cons]
    rcases rule a with e | ⟨⟩
    · exact iff_of_false (fun h => by cases h) fun h => by cases h.1
    · exact forM_eq_ok_iff.trans (and_iff_right rfl).symm

/-- A list is refused for the first of its elements that is. -/
theorem forM_eq_error_iff {e : ε} : ∀ {as : List α}, as.forM rule = .error e ↔
    ∃ before a after, as = before ++ a :: after ∧ (∀ b ∈ before, rule b = .ok ()) ∧ rule a = .error e
  | [] => iff_of_false (fun h => by cases h) fun ⟨_, _, _, h, _⟩ => by simp at h
  | a :: as => by
    rw [forM_cons_eq]
    rcases ha : rule a with e' | ⟨⟩
    · constructor
      · rintro ⟨⟩
        exact ⟨[], a, as, rfl, List.forall_mem_nil _, ha⟩
      · rintro ⟨_ | ⟨b, before⟩, a', after, h, hbefore, ha'⟩
        · obtain ⟨rfl, -⟩ := List.cons.inj h
          exact ha.symm.trans ha'
        · obtain ⟨rfl, -⟩ := List.cons.inj h
          rw [hbefore a List.mem_cons_self] at ha
          cases ha
    · refine forM_eq_error_iff.trans ⟨?_, ?_⟩
      · rintro ⟨before, a', after, rfl, hbefore, ha'⟩
        exact ⟨a :: before, a', after, rfl, List.forall_mem_cons.2 ⟨ha, hbefore⟩, ha'⟩
      · rintro ⟨_ | ⟨b, before⟩, a', after, h, hbefore, ha'⟩
        · obtain ⟨rfl, -⟩ := List.cons.inj h
          rw [ha] at ha'
          cases ha'
        · obtain ⟨rfl, rfl⟩ := List.cons.inj h
          exact ⟨before, a', after, rfl, (List.forall_mem_cons.1 hbefore).2, ha'⟩

/-- The first of the elements that is refused is refused for a cause. -/
def FirstRefused (elements : List Element) (cause : ValidationError) : Prop :=
  ∃ before x after, elements = before ++ x :: after ∧ (∀ y ∈ before, ∀ cause, ¬ y.Refused cause) ∧
    x.Refused cause

theorem forM_rule_eq_error_iff {elements : List Element} {cause : ValidationError} :
    elements.forM Element.rule = .error cause ↔ FirstRefused elements cause := by
  have haccepted (y : Element) : y.rule = .ok () ↔ ∀ cause, ¬ y.Refused cause :=
    eq_ok_iff_forall_ne_error.trans (forall_congr' fun _ => not_congr Element.rule_eq_error_iff)
  simp only [forM_eq_error_iff, haccepted, Element.rule_eq_error_iff, FirstRefused]

/-- If any of the elements is refused there is a first one. -/
theorem exists_firstRefused_iff {elements : List Element} :
    (∃ cause, FirstRefused elements cause) ↔ ∃ x ∈ elements, ∃ cause, x.Refused cause := by
  constructor
  · rintro ⟨cause, before, x, after, rfl, -, hx⟩
    exact ⟨x, List.mem_append_right _ List.mem_cons_self, cause, hx⟩
  · rintro ⟨x, hx, cause, hcause⟩
    rcases h : elements.forM Element.rule with first | ⟨⟩
    · exact ⟨first, forM_rule_eq_error_iff.1 h⟩
    · have hok := forM_eq_ok_iff.1 h x hx
      rw [Element.rule_eq_error_iff.2 hcause] at hok
      cases hok

end Lists

/-! ## Resources and networks -/

namespace Validation

theorem variantNum_of_nonneg {n : Int32} (h : 0 ≤ n) : variantNum n = .ok () :=
  if_neg (Int32.not_lt.2 h)

theorem deletableVariant_of_pos (network : String) {n : Int32} (h : 0 < n) :
    deletableVariant network n = .ok () := by
  rw [deletableVariant, variantNum_of_nonneg (Int32.le_of_lt h)]
  exact if_neg (Ne.symm (Int32.ne_of_lt h))

theorem cloneVariant_of_ne {source target : Int32} (hsource : 0 ≤ source) (htarget : 0 ≤ target)
    (hne : source ≠ target) : cloneVariant source target = .ok () := by
  rw [cloneVariant, variantNum_of_nonneg hsource, variantNum_of_nonneg htarget]
  exact if_neg hne

end Validation

theorem Validation.cloneNetwork_of_valid {target source : Uuid} {variantIds : List String}
    (hne : target ≠ source) (hids : variantIds ≠ [])
    (hvalid : ∀ id ∈ variantIds, variantId id = .ok ()) :
    cloneNetwork target.text source.text variantIds = .ok () := by
  unfold cloneNetwork
  rw [if_neg fun h => hne (Uuid.text_injective h), if_neg (by simp [hids])]
  exact forM_eq_ok_iff.2 hvalid

theorem checkResources_eq_ok_iff {A : Type} [Attributes A] {rs : List (Resource A)} :
    Store.checkResources rs = .ok () ↔ ∀ r ∈ rs, Validation.resourceId r.id = .ok () ∧
      Validation.variantNum r.variantNum = .ok () := by
  refine forM_eq_ok_iff.trans (forall₂_congr fun r _ => ?_)
  rcases Validation.resourceId r.id with e | ⟨⟩
  · exact iff_of_false (fun h => by cases h) fun h => by cases h.1
  · exact (and_iff_right rfl).symm

theorem newNetworkRow_eq_ok_iff {fresh : String} {r : Resource Network} {row : Row} :
    Store.newNetworkRow fresh r = .ok row ↔
      (Validation.resourceId r.id = .ok () ∧ Validation.variantNum r.variantNum = .ok () ∧
        Validation.variantId (r.attributes.effectiveVariantId r.variantNum fresh) = .ok ()) ∧
      row = .ofNetwork (r.attributes.effectiveVariantId r.variantNum fresh) r := by
  unfold Store.newNetworkRow
  dsimp only
  rcases Validation.resourceId r.id with e | ⟨⟩
  · exact iff_of_false (fun h => by cases h) fun h => by cases h.1.1
  rcases Validation.variantNum r.variantNum with e | ⟨⟩
  · exact iff_of_false (fun h => by cases h) fun h => by cases h.1.2.1
  rcases Validation.variantId (r.attributes.effectiveVariantId r.variantNum fresh) with e | ⟨⟩
  · exact iff_of_false (fun h => by cases h) fun h => by cases h.1.2.2
  · rw [and_iff_right ⟨rfl, rfl, rfl⟩]
    exact ⟨fun h => (Except.ok.inj h).symm, fun h => congrArg _ h.symm⟩

end GridStore
