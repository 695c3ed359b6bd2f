import GridStore.Proofs.Requests
import GridStore.Proofs.Steps

/-!
# What requests write

The statements that a request may make (`Request.Writes`), each from tables to those that it leaves
where it is done. Whatever comes of the request, what it leaves is reached by such statements one
after another (`reaches_run`), so what each of them keeps the request keeps
(`Request.run_induction`).
-/

namespace GridStore

open Call

/-- One statement of a request, where it is done: from tables to those that it leaves. -/
inductive Request.Writes : Request → Tables → Tables → Prop
  | create {k : EquipmentKind} {network : Uuid} {rs : List (Resource k.Attributes)}
      {r : Resource k.Attributes} {ts ts' : Tables} (hrule : Store.checkResources rs = .ok ())
      (hr : r ∈ rs) (hdone : ts.insert (.equipment k) (.ofEquipment network r) = .ok ts') :
      Writes (.create k network rs) ts ts'
  | update {k : EquipmentKind} {network : Uuid} {rs : List (Resource k.Attributes)}
      {r : Resource k.Attributes} {ts ts' : Tables} {n : Nat}
      (hrule : Store.checkResources rs = .ok ()) (hr : r ∈ rs)
      (hdone : ts.update (.equipment k)
        (fun row => row.isAt network r.variantNum r.id &&
          row.matchesKey (Attributes.schema k.Attributes) (Row.ofAttributes r.attributes))
        (·.assign (Attributes.schema k.Attributes) (Row.ofAttributes r.attributes)) = .ok (ts', n)) :
      Writes (.update k network rs) ts ts'
  | delete {k : EquipmentKind} {network : Uuid} {v : Int32} {id : String} {ts ts' : Tables} {n : Nat}
      (hdone : ts.delete (.equipment k) (·.isAt network v id) = .ok (ts', n)) :
      Writes (.delete k network v id) ts ts'
  | createNetworks {fresh : Nat → String} {rs : List (Resource Network)} {r : Resource Network}
      {id : String} {row : Row} {ts ts' : Tables} (hr : r ∈ rs)
      (hrow : Store.newNetworkRow id r = .ok row) (hdone : ts.insert .network row = .ok ts') :
      Writes (.createNetworks fresh rs) ts ts'
  | updateNetworks {rs : List (Resource Network)} {r : Resource Network} {ts ts' : Tables} {n : Nat}
      (hrule : Store.checkResources rs = .ok ()) (hr : r ∈ rs)
      (hdone : ts.update .network (·.isIn r.attributes.uuid r.variantNum) (Store.replaceNetwork r)
        = .ok (ts', n)) :
      Writes (.updateNetworks rs) ts ts'
  | deleteNetwork {network : Uuid} {k : Kind} {ts ts' : Tables} {n : Nat}
      (hdone : ts.delete k (·.isOf network) = .ok (ts', n)) :
      Writes (.deleteNetwork network) ts ts'
  | deleteVariant {network : Uuid} {v : Int32} {k : Kind} {ts ts' : Tables} {n : Nat}
      (hrule : Validation.deletableVariant network.text v = .ok ())
      (hdone : ts.delete k (·.isIn network v) = .ok (ts', n)) :
      Writes (.deleteVariant network v) ts ts'
  | cloneVariant {network : Uuid} {source target : Int32} {variantId : Option String}
      {fresh id : String} {k : Kind} {ts ts' : Tables} {n : Nat}
      (hrule : Validation.cloneVariant source target = .ok ())
      (hid : Store.targetVariantId target variantId fresh = .ok id)
      (hdone : ts.copy k (·.isIn network source) (·.toVariantNum target id) = .ok (ts', n)) :
      Writes (.cloneVariant network source target variantId fresh) ts ts'
  | cloneNetwork {target source : Uuid} {variantIds : List String} {v : Int32} {k : Kind}
      {ts ts' : Tables} {n : Nat}
      (hrule : Validation.cloneNetwork target.text source.text variantIds = .ok ())
      (hdone : ts.copy k (·.isIn source v) (·.toOtherNetwork target) = .ok (ts', n)) :
      Writes (.cloneNetwork target source variantIds) ts ts'

/-- Tables that statements of a request lead to. -/
def Request.Reaches (q : Request) (s t : Store) : Prop :=
  Relation.ReflTransGen q.Writes s.tables t.tables

instance (q : Request) : IsPreorder Store q.Reaches where
  refl _ := .refl
  trans _ _ _ := Relation.ReflTransGen.trans

section Statements

variable {q : Request} {α : Type} {statement : Tables → Except StoreError (Tables × α)}

theorem statementMeets_reaches
    (h : ∀ ts ts' a, statement ts = .ok (ts', a) → q.Writes ts ts') :
    StatementMeets q.Reaches (fun _ => True) statement :=
  fun _ => ⟨fun ts a hs => .single (h _ ts a hs), fun _ _ => trivial⟩

theorem meets_insertRow_reaches {k : Kind} {r : Row}
    (h : ∀ ts ts', ts.insert k r = .ok ts' → q.Writes ts ts') :
    Meets q.Reaches (fun _ => True) (Store.insertRow k r) :=
  meets_insertRow (fun _ _ => trivial) fun _ ts hs => .single (h _ ts hs)

end Statements

/-- Whatever comes of a request, statements of it lead to what it leaves. -/
theorem reaches_run (q : Request) (s : Store) : q.Reaches s (q.run s) := by
  have hE (e : StoreError) : e.OfBackend → True := fun _ => trivial
  have hrule {x : Except ValidationError Unit} (cause) : x = .error cause → True := fun _ => trivial
  -- requests that only read stay where they are
  have hread {α : Type} {call : Call α} (h : Keeps id call) : q.Reaches s (call s).store := by
    rw [show (call s).store = s from h s]
    exact .refl
  cases q with
  | create k network rs =>
    refine (meets_create hE hrule (fun hok r hr => ?_) s).1
    rw [EquipmentKind.kind_attributes]
    exact meets_insertRow_reaches fun ts ts' hs => .create hok hr hs
  | update k network rs =>
    refine (meets_update hE hrule (fun hok r hr => meets_report (meets_execute ?_)) s).1
    refine statementMeets_reaches fun ts ts' n hs => .update (n := n) hok hr ?_
    rw [← EquipmentKind.kind_attributes]
    exact hs
  | delete k network n id =>
    refine (meets_delete hE ?_ s).1
    rw [EquipmentKind.kind_attributes]
    exact statementMeets_reaches fun ts ts' n hs => .delete hs
  | createNetworks fresh rs =>
    refine (meets_createNetworks hE (fun _ _ => trivial) (fun r hr id row hrow => ?_) s).1
    exact meets_insertRow_reaches fun ts ts' hs => .createNetworks hr hrow hs
  | updateNetworks rs =>
    refine (meets_updateNetworks hE hrule (fun hok r hr => meets_report (meets_execute ?_)) s).1
    exact statementMeets_reaches fun ts ts' n hs => .updateNetworks hok hr hs
  | deleteNetwork network =>
    refine (meets_deleteNetwork hE (fun k => ?_) s).1
    exact statementMeets_reaches fun ts ts' n hs => .deleteNetwork hs
  | deleteVariant network n =>
    refine (meets_deleteVariant hE hrule (fun hok k => ?_) s).1
    exact statementMeets_reaches fun ts ts' n hs => .deleteVariant hok hs
  | cloneVariant network source target variantId fresh =>
    refine (meets_cloneVariant hE hrule (fun _ _ => trivial) (fun hok id hid k => ?_) s).1
    exact statementMeets_reaches fun ts ts' n hs => .cloneVariant hok hid hs
  | cloneNetwork target source variantIds =>
    rw [Request.run]
    refine (meetsAt_cloneNetwork hE hrule (fun _ _ => trivial) (fun _ _ _ _ _ => trivial)
      fun hok variants _ _ x _ _ k => ?_).1
    exact statementMeets_reaches fun ts ts' n hs => .cloneNetwork hok hs
  | getOne k network n id => exact hread (keeps_getOne network n id)
  | getAll k network n => exact hread (keeps_getAll network n)
  | getByContainer k network n container => exact hread (keeps_getByContainer network n container)
  | getIdentifiable network n id => exact hread (keeps_getIdentifiable network n id)
  | getNetwork network n => exact hread (keeps_getNetwork network n)
  | listNetworks => exact hread keeps_listNetworks
  | listVariants network => exact hread (keeps_listVariants network)

/-- What every statement of a request keeps the request keeps. -/
theorem Request.run_induction {I : Tables → Prop} (q : Request) {s : Store} (h : I s.tables)
    (hstep : ∀ ts ts', q.Writes ts ts' → I ts → I ts') : I (q.run s).tables := by
  have hrun : Relation.ReflTransGen q.Writes s.tables (q.run s).tables := reaches_run q s
  generalize (q.run s).tables = ts at hrun ⊢
  induction hrun with
  | refl => exact h
  | tail _ hwrite ih => exact hstep _ _ hwrite ih

end GridStore
