import GridStore.Proofs.Requests
import GridStore.Proofs.Settled

/-!
# Contents of a store

What a store holds apart from how it holds it: a map of attributes for each kind of equipment, and
the variants of networks. What requests do is said here of the maps alone, entry by entry: an entry
is added unless it is there, replaced if it is there and in its container, removed, or copied
unless the copy is there. What is done before something is refused stays done (`Request.act`).
-/

namespace GridStore

/-- Equipment of a kind, by network, number of the variant, and id. -/
abbrev EquipmentMap (A : Type) : Type :=
  Uuid → Int32 → String → Option A

namespace EquipmentMap

variable {A : Type}

/-- The map with an entry. -/
def put (m : EquipmentMap A) (network : Uuid) (n : Int32) (id : String) (a : A) : EquipmentMap A :=
  fun u v i => if u = network ∧ v = n ∧ i = id then some a else m u v i

/-- The map without some entries. -/
def remove (m : EquipmentMap A) (p : Uuid → Int32 → String → Bool) : EquipmentMap A :=
  fun u v i => if p u v i then none else m u v i

/-- Whether two variants hold equipment with one id. -/
def Overlap (m : EquipmentMap A) (source : Uuid) (n : Int32) (target : Uuid) (n' : Int32) : Prop :=
  ∃ i, (m source n i).isSome ∧ (m target n' i).isSome

/-- The map with the entries of a variant in another one too. -/
def copy (m : EquipmentMap A) (source : Uuid) (n : Int32) (target : Uuid) (n' : Int32) :
    EquipmentMap A :=
  fun u v i => if u = target ∧ v = n' then (m u v i).or (m source n i) else m u v i

end EquipmentMap

/-- What a store holds: the attributes of equipment, and the variants of networks in the order in
which they were stored. -/
structure Contents where
  equipment : (k : EquipmentKind) → EquipmentMap k.Attributes
  variants : Uuid → List Variant

namespace Contents

/-- Nothing. -/
def empty : Contents where
  equipment _ _ _ _ := none
  variants _ := []

/-- The contents with other equipment of a kind. -/
def setEquipment (c : Contents) (k : EquipmentKind) (m : EquipmentMap k.Attributes) : Contents :=
  { c with equipment := Function.update c.equipment k m }

/-- The contents with other variants of a network. -/
def setVariants (c : Contents) (network : Uuid) (variants : List Variant) : Contents :=
  { c with variants := Function.update c.variants network variants }

variable {c : Contents} {j k : EquipmentKind} {m : EquipmentMap k.Attributes}

@[simp]
theorem equipment_setEquipment_self : (c.setEquipment k m).equipment k = m :=
  Function.update_self ..

theorem equipment_setEquipment_of_ne (h : j ≠ k) : (c.setEquipment k m).equipment j = c.equipment j :=
  Function.update_of_ne h ..

@[simp]
theorem setEquipment_self : c.setEquipment k (c.equipment k) = c := by
  rw [setEquipment, Function.update_eq_self]

@[simp]
theorem setVariants_self {network : Uuid} : c.setVariants network (c.variants network) = c := by
  rw [setVariants, Function.update_eq_self]

end Contents

/-! ## Changes -/

/-- What is done to contents: what is left of them, and whether all of it was done. -/
def Change : Type :=
  Contents → Contents × Bool

namespace Change

/-- Nothing is to be done. -/
def done : Change := fun c => (c, true)

/-- Nothing is done. -/
def refused : Change := fun c => (c, false)

/-- What is done after a change, unless that was refused. -/
def andThen (a b : Change) : Change := fun c =>
  match a c with
  | (c', true) => b c'
  | (c', false) => (c', false)

/-- Changes one after another, until one is refused. -/
def inOrder (changes : List Change) : Change :=
  changes.foldr andThen done

/-- A change under a rule on its arguments. -/
def given (rule : Except ValidationError Unit) (a : Change) : Change :=
  match rule with
  | .ok () => a
  | .error _ => refused

@[simp]
theorem andThen_done (a : Change) : a.andThen done = a := by
  funext c
  unfold andThen
  rcases a c with ⟨c', _ | _⟩ <;> rfl

theorem andThen_assoc (a b d : Change) : (a.andThen b).andThen d = a.andThen (b.andThen d) := by
  funext c
  unfold andThen
  rcases a c with ⟨c', _ | _⟩ <;> rfl

theorem inOrder_append (as bs : List Change) :
    inOrder (as ++ bs) = (inOrder as).andThen (inOrder bs) := by
  induction as with
  | nil => rfl
  | cons a as ih =>
    show a.andThen (inOrder (as ++ bs)) = _
    rw [ih, ← andThen_assoc]
    rfl

theorem inOrder_flatMap {α : Type} (f : α → List Change) (as : List α) :
    inOrder (as.flatMap f) = inOrder (as.map fun a => inOrder (f a)) := by
  induction as with
  | nil => rfl
  | cons a as ih =>
    rw [List.flatMap_cons, inOrder_append, ih]
    rfl

/-! ## Equipment -/

/-- Adds an equipment unless it is there. -/
def insert (k : EquipmentKind) (network : Uuid) (r : Resource k.Attributes) : Change := fun c =>
  if (c.equipment k network r.variantNum r.id).isSome then (c, false)
  else (c.setEquipment k ((c.equipment k).put network r.variantNum r.id r.attributes), true)

/-- Replaces the attributes of an equipment that is there and in its container. -/
def replace (k : EquipmentKind) (network : Uuid) (r : Resource k.Attributes) : Change := fun c =>
  match c.equipment k network r.variantNum r.id with
  | some a =>
    if StoredAttributes.containerId a = StoredAttributes.containerId r.attributes then
      (c.setEquipment k ((c.equipment k).put network r.variantNum r.id r.attributes), true)
    else (c, true)
  | none => (c, true)

/-- Removes equipment of a kind. -/
def remove (k : EquipmentKind) (p : Uuid → Int32 → String → Bool) : Change := fun c =>
  (c.setEquipment k ((c.equipment k).remove p), true)

open Classical in
/-- Copies the equipment of a kind from a variant to another one, unless some is in both. -/
noncomputable def copy (k : EquipmentKind) (source : Uuid) (n : Int32) (target : Uuid) (n' : Int32) :
    Change := fun c =>
  if (c.equipment k).Overlap source n target n' then (c, false)
  else (c.setEquipment k ((c.equipment k).copy source n target n'), true)

/-! ## Variants -/

/-- Adds a variant of a network unless its number or its id is there. -/
def insertVariant (network : Uuid) (x : Variant) : Change := fun c =>
  if (c.variants network).any fun y => y.num = x.num ∨ y.id = x.id then (c, false)
  else (c.setVariants network (c.variants network ++ [x]), true)

/-- Gives a variant another id, if it is there, unless another variant has the id. -/
def renameVariant (network : Uuid) (n : Int32) (id : String) : Change := fun c =>
  if (c.variants network).any (·.num = n) && (c.variants network).any fun y => y.num ≠ n ∧ y.id = id
  then (c, false)
  else (c.setVariants network ((c.variants network).map fun y =>
    if y.num = n then { y with id } else y), true)

/-- Removes variants of a network. -/
def removeVariants (network : Uuid) (p : Int32 → Bool) : Change := fun c =>
  (c.setVariants network ((c.variants network).filter fun y => !p y.num), true)

/-- Adds a variant with the number to a network if another network has one; the id is made of the
id there. -/
def copyVariant (source : Uuid) (n : Int32) (target : Uuid) (n' : Int32) (rename : String → String) :
    Change := fun c =>
  match (c.variants source).find? (·.num = n) with
  | some x => insertVariant target ⟨rename x.id, n'⟩ c
  | none => (c, true)

/-! ## All kinds -/

/-- Removes the variants of a network with some numbers, and what they hold. -/
def removeAll (network : Uuid) (p : Int32 → Bool) : Change :=
  inOrder (removeVariants network p ::
    EquipmentKind.all.map fun k => remove k fun u v _ => u = network && p v)

/-- Copies a variant and what it holds. -/
noncomputable def copyAll (source : Uuid) (n : Int32) (target : Uuid) (n' : Int32)
    (rename : String → String) : Change :=
  inOrder (copyVariant source n target n' rename ::
    EquipmentKind.all.map fun k => copy k source n target n')

/-- Copies variants with some ids to another network, by number, if each of the ids is there. -/
noncomputable def copySelected (target source : Uuid) (variantIds : List String) : Change := fun c =>
  if variantIds.all fun id => (c.variants source).any (·.id = id) then
    inOrder (((Store.sortVariants (c.variants source)).filter (·.id ∈ variantIds)).map fun x =>
      copyAll source x.num target x.num id) c
  else (c, false)

end Change

/-! ## Requests -/

namespace Request

/-- Networks to store with the ids of their variants. -/
def named (fresh : Nat → String) (rs : List (Resource Network)) : List (Resource Network × String) :=
  rs.zipIdx.map fun (r, i) => (r, r.attributes.effectiveVariantId r.variantNum (fresh i))

/-- The rules on a network to store with the id of its variant. -/
def checkNetwork (named : Resource Network × String) : Except ValidationError Unit := do
  Validation.resourceId named.1.id
  Validation.variantNum named.1.variantNum
  Validation.variantId named.2

open Change in
/-- What a request does to contents. -/
noncomputable def act : Request → Change
  | create k network rs => given (Store.checkResources rs) (inOrder (rs.map (insert k network)))
  | update k network rs => given (Store.checkResources rs) (inOrder (rs.map (replace k network)))
  | delete k network n id => Change.remove k fun u v i => u = network && v = n && i = id
  | createNetworks fresh rs =>
    given ((named fresh rs).forM checkNetwork) (inOrder ((named fresh rs).map fun (r, id) =>
      insertVariant r.attributes.uuid ⟨id, r.variantNum⟩))
  | updateNetworks rs =>
    given (Store.checkResources rs) (inOrder (rs.map fun r =>
      if r.attributes.variantId = "" then done
      else renameVariant r.attributes.uuid r.variantNum r.attributes.variantId))
  | deleteNetwork network => removeAll network fun _ => true
  | deleteVariant network n =>
    given (Validation.deletableVariant network.text n) (removeAll network fun v => v = n)
  | cloneVariant network source target variantId fresh =>
    given (Validation.cloneVariant source target)
      (match Store.targetVariantId target variantId fresh with
      | .ok id => copyAll network source network target fun _ => id
      | .error _ => refused)
  | cloneNetwork target source variantIds =>
    given (Validation.cloneNetwork target.text source.text variantIds)
      (copySelected target source variantIds)
  | getOne .. | getAll .. | getByContainer .. | getIdentifiable .. | getNetwork .. | listNetworks
  | listVariants _ => done

/-- What requests leave of contents, made one after another. -/
noncomputable def actAll (qs : List Request) (c : Contents) : Contents :=
  qs.foldl (fun c q => (q.act c).1) c

end Request

end GridStore
