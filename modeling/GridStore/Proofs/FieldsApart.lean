import GridStore.Proofs.Mappings
import Mathlib.Data.List.Pairwise

/-!
# Fields apart

The members of a kind's objects are independent: each holds what it was set to, and setting one
leaves the others as they were (`Kind.independent_members`). Members of one group are compared with
each other, and those of different groups by the groups that they belong to. Every column holds one
of the members (`Kind.toMember_mem_members`), so filling one column leaves the others too.
-/

namespace GridStore

/-! ## Independent members -/

namespace Member

variable {A B : Type}

/-- Setting one of the members leaves the other. -/
def Apart (m n : Member A) : Prop :=
  (∀ v a, m.get (n.set v a) = m.get a) ∧ ∀ v a, n.get (m.set v a) = n.get a

instance : Std.Symm (Apart (A := A)) :=
  ⟨fun _ _ h => ⟨h.2, h.1⟩⟩

/-- Each member holds what it was set to, and setting it leaves the others. -/
structure Independent (ms : List (Member A)) : Prop where
  get_set : ∀ m ∈ ms, ∀ v a, m.get (m.set v a) = v
  apart : ms.Pairwise Apart

@[simp]
theorem independent_nil : Independent ([] : List (Member A)) :=
  ⟨List.forall_mem_nil _, .nil⟩

@[simp]
theorem independent_cons {m : Member A} {ms : List (Member A)} : Independent (m :: ms) ↔
    (∀ v a, m.get (m.set v a) = v) ∧ (∀ n ∈ ms, m.Apart n) ∧ Independent ms := by
  constructor
  · rintro ⟨hget, hapart⟩
    rw [List.forall_mem_cons] at hget
    rw [List.pairwise_cons] at hapart
    exact ⟨hget.1, hapart.1, hget.2, hapart.2⟩
  · rintro ⟨hget, hapart, hms⟩
    exact ⟨List.forall_mem_cons.2 ⟨hget, hms.get_set⟩, List.pairwise_cons.2 ⟨hapart, hms.apart⟩⟩

theorem Independent.append {ms ns : List (Member A)} (h : Independent ms) (h' : Independent ns)
    (hapart : ∀ m ∈ ms, ∀ n ∈ ns, m.Apart n) : Independent (ms ++ ns) :=
  ⟨List.forall_mem_append.2 ⟨h.get_set, h'.get_set⟩,
    List.pairwise_append.2 ⟨h.apart, h'.apart, hapart⟩⟩

theorem Independent.apart_of_name_ne {ms : List (Member A)} (h : Independent ms) {m n : Member A}
    (hm : m ∈ ms) (hn : n ∈ ms) (hname : m.name ≠ n.name) : m.Apart n :=
  h.apart.forall hm hn fun heq => hname (congrArg name heq)

theorem Independent.perm {ms ns : List (Member A)} (h : Independent ms) (hperm : ms.Perm ns) :
    Independent ns :=
  ⟨fun m hm => h.get_set m (hperm.mem_iff.2 hm), hperm.pairwise h.apart fun hapart => ⟨hapart.2, hapart.1⟩⟩

theorem Independent.sublist {ms ns : List (Member A)} (h : Independent ms) (hsub : ns.Sublist ms) :
    Independent ns :=
  ⟨fun m hm => h.get_set m (hsub.subset hm), h.apart.sublist hsub⟩

/-! ## Groups -/

/-- The member is no part of what `get` gives and `set` replaces. -/
def Outside (get : B → A) (set : A → B → B) (m : Member B) : Prop :=
  (∀ x b, m.get (set x b) = m.get b) ∧ ∀ v b, get (m.set v b) = get b

variable {get : B → A} {set : A → B → B}

theorem Independent.within {ms : List (Member A)} (h : Independent ms)
    (hget : ∀ x b, get (set x b) = x) : Independent (ms.map (·.within get set)) := by
  refine ⟨List.forall_mem_map.2 fun m hm v b => ?_, List.pairwise_map.2 (h.apart.imp fun hapart => ?_)⟩
  · exact (congrArg m.get (hget _ b)).trans (h.get_set m hm v (get b))
  · rename_i m n
    exact ⟨fun v b => (congrArg m.get (hget _ b)).trans (hapart.1 v (get b)),
      fun v b => (congrArg n.get (hget _ b)).trans (hapart.2 v (get b))⟩

theorem Outside.apart_within {n : Member B} (h : n.Outside get set) (m : Member A) :
    (m.within get set).Apart n :=
  ⟨fun v b => congrArg m.get (h.2 v b), fun _ b => h.1 _ b⟩

/-- The members of one group are outside the other. -/
theorem outside_within {C : Type} {getC : B → C} {setC : C → B → B}
    (h : ∀ x b, getC (set x b) = getC b) (h' : ∀ y b, get (setC y b) = get b) (n : Member C) :
    (n.within getC setC).Outside get set :=
  ⟨fun x b => congrArg n.get (h x b), fun _ b => h' _ b⟩

/-- A group before members that are outside it. -/
theorem Independent.within_append {ms : List (Member A)} {ns : List (Member B)}
    (h : Independent ms) (hget : ∀ x b, get (set x b) = x) (h' : Independent ns)
    (houtside : ∀ n ∈ ns, n.Outside get set) : Independent (ms.map (·.within get set) ++ ns) :=
  (h.within hget).append h' (List.forall_mem_map.2 fun m _ n hn => (houtside n hn).apart_within m)

end Member

/-! ## Fields -/

namespace Field

variable {A B : Type}

section Kinds

variable {α : Type} {name : String} [JsonValue α] [ColumnCodec α]

@[simp]
theorem toMember_required (get : A → α) (set : α → A → A) :
    (required name get set).toMember = .required name JsonValue.codec get set :=
  rfl

@[simp]
theorem toMember_defaulted (default : α) (get : A → α) (set : α → A → A) :
    (defaulted name default get set).toMember = .defaulted name JsonValue.codec default get set :=
  rfl

@[simp]
theorem toMember_optional (get : A → Option α) (set : Option α → A → A) :
    (optional name get set).toMember = .optional name JsonValue.codec get set :=
  rfl

end Kinds

/-- The members that fields are. -/
def toMembers (fs : List (Field A)) : List (Member A) :=
  fs.map (·.toMember)

theorem toMembers_append (fs gs : List (Field B)) :
    toMembers (fs ++ gs) = toMembers fs ++ toMembers gs :=
  List.map_append

theorem toMembers_within (fs : List (Field A)) (get : B → A) (set : A → B → B) :
    toMembers (fs.map (·.within get set)) = (toMembers fs).map (·.within get set) := by
  unfold toMembers
  rw [List.map_map, List.map_map]
  rfl

end Field

/-! ## Groups of fields -/

section Groups

open Member GridStore.Field

variable {A B : Type} {getI : B → Identification} {setI : Identification → B → B} {get : B → A}
  {set : A → B → B} {first own : List (Field B)}

theorem Identification.independent : Independent (toMembers Identification.fields) := by
  simp [toMembers, fields, Apart, Member.required, Member.defaulted, Member.optional]

theorem Connection.independent : Independent (toMembers (container ++ terminal)) := by
  simp [toMembers, container, terminal, Apart, Member.required, Member.optional]

theorem BranchEnds.independent : Independent (toMembers
    (BranchEnds.containers ++ terminals ++ flows ++ positions ++ limits)) := by
  simp [toMembers, BranchEnds.containers, terminals, flows, positions, limits, Apart,
    Member.required, Member.optional]

/-- An identification before fields that are outside it. -/
theorem Field.independent_identified (hI : ∀ x b, getI (setI x b) = x)
    (hown : Independent (toMembers own) ∧ ∀ m ∈ toMembers own, m.Outside getI setI) :
    Independent (toMembers (Identification.fields.map (·.within getI setI) ++ own)) := by
  rw [toMembers_append, toMembers_within]
  exact Identification.independent.within_append hI hown.1 hown.2

theorem Field.independent_contained (hI : ∀ x b, getI (setI x b) = x)
    (hown : Independent (toMembers (first ++ own)) ∧
      ∀ m ∈ toMembers (first ++ own), m.Outside getI setI) :
    Independent (toMembers (Identification.fields.map (·.within getI setI) ++ first ++ own)) := by
  rw [List.append_assoc]
  exact independent_identified hI hown

/-- An identification and another group before fields that are outside both. -/
theorem Field.independent_grouped {group : List (Field A)} (hgroup : Independent (toMembers group))
    (hI : ∀ x b, getI (setI x b) = x) (hget : ∀ x b, get (set x b) = x)
    (hkeep : ∀ x b, get (setI x b) = get b) (hkeepI : ∀ x b, getI (set x b) = getI b)
    (hown : Independent (toMembers own) ∧ (∀ m ∈ toMembers own, m.Outside getI setI) ∧
      ∀ m ∈ toMembers own, m.Outside get set) :
    Independent (toMembers (Identification.fields.map (·.within getI setI) ++
      (group.map (·.within get set) ++ own))) := by
  refine independent_identified hI ?_
  rw [toMembers_append, toMembers_within]
  exact ⟨hgroup.within_append hget hown.1 hown.2.2, List.forall_mem_append.2
    ⟨List.forall_mem_map.2 fun m _ => outside_within hkeep hkeepI m, hown.2.1⟩⟩

theorem Field.independent_injection {getC : B → Connection} {setC : Connection → B → B}
    (hI : ∀ x b, getI (setI x b) = x) (hC : ∀ x b, getC (setC x b) = x)
    (hIC : ∀ x b, getC (setI x b) = getC b) (hCI : ∀ x b, getI (setC x b) = getI b)
    (hown : Independent (toMembers own) ∧ (∀ m ∈ toMembers own, m.Outside getI setI) ∧
      ∀ m ∈ toMembers own, m.Outside getC setC) :
    Independent (toMembers (Identification.fields.map (·.within getI setI) ++
      Connection.container.map (·.within getC setC) ++
      Connection.terminal.map (·.within getC setC) ++ own)) := by
  have hfields := independent_grouped Connection.independent hI hC hIC hCI hown
  simpa only [List.map_append, List.append_assoc] using hfields

theorem Field.independent_branch {getE : B → BranchEnds} {setE : BranchEnds → B → B}
    (hI : ∀ x b, getI (setI x b) = x) (hE : ∀ x b, getE (setE x b) = x)
    (hIE : ∀ x b, getE (setI x b) = getE b) (hEI : ∀ x b, getI (setE x b) = getI b)
    (hown : Independent (toMembers own) ∧ (∀ m ∈ toMembers own, m.Outside getI setI) ∧
      ∀ m ∈ toMembers own, m.Outside getE setE) :
    Independent (toMembers (Identification.fields.map (·.within getI setI) ++
      BranchEnds.containers.map (·.within getE setE) ++
      BranchEnds.terminals.map (·.within getE setE) ++
      BranchEnds.flows.map (·.within getE setE) ++
      BranchEnds.positions.map (·.within getE setE) ++
      BranchEnds.limits.map (·.within getE setE) ++ own)) := by
  have hfields := independent_grouped BranchEnds.independent hI hE hIE hEI hown
  simpa only [List.map_append, List.append_assoc] using hfields

end Groups

/-! ## Every kind -/

section Kinds

open Member GridStore.Field

theorem Network.independent_members : Independent Network.members := by
  simp [members, keys, own, Apart, Member.required, Member.defaulted, Member.optional]

theorem Substation.independent_fields : Independent (toMembers mapping.fields) :=
  independent_identified (fun _ _ => rfl)
    (by simp [toMembers, own, Apart, Outside, Member.required, Member.defaulted, Member.optional])

theorem VoltageLevel.independent_fields : Independent (toMembers mapping.fields) :=
  independent_contained (fun _ _ => rfl)
    (by simp [toMembers, container, own, Apart, Outside, Member.required,
      Member.defaulted, Member.optional])

theorem Generator.independent_fields : Independent (toMembers mapping.fields) :=
  independent_injection (fun _ _ => rfl) (fun _ _ => rfl) (fun _ _ => rfl) (fun _ _ => rfl)
    (by simp [toMembers, own, Apart, Outside, Member.required, Member.defaulted, Member.optional])

theorem Battery.independent_fields : Independent (toMembers mapping.fields) :=
  independent_injection (fun _ _ => rfl) (fun _ _ => rfl) (fun _ _ => rfl) (fun _ _ => rfl)
    (by simp [toMembers, own, Apart, Outside, Member.required, Member.optional])

theorem Load.independent_fields : Independent (toMembers mapping.fields) :=
  independent_injection (fun _ _ => rfl) (fun _ _ => rfl) (fun _ _ => rfl) (fun _ _ => rfl)
    (by simp [toMembers, own, Apart, Outside, Member.required, Member.defaulted])

theorem ShuntCompensator.independent_fields : Independent (toMembers mapping.fields) :=
  independent_injection (fun _ _ => rfl) (fun _ _ => rfl) (fun _ _ => rfl) (fun _ _ => rfl)
    (by simp [toMembers, own, Apart, Outside, Member.required, Member.defaulted, Member.optional])

theorem VscConverterStation.independent_fields : Independent (toMembers mapping.fields) :=
  independent_injection (fun _ _ => rfl) (fun _ _ => rfl) (fun _ _ => rfl) (fun _ _ => rfl)
    (by simp [toMembers, own, Apart, Outside, Member.required, Member.defaulted, Member.optional])

theorem LccConverterStation.independent_fields : Independent (toMembers mapping.fields) :=
  independent_injection (fun _ _ => rfl) (fun _ _ => rfl) (fun _ _ => rfl) (fun _ _ => rfl)
    (by simp [toMembers, own, Apart, Outside, Member.required])

theorem StaticVarCompensator.independent_fields : Independent (toMembers mapping.fields) :=
  independent_injection (fun _ _ => rfl) (fun _ _ => rfl) (fun _ _ => rfl) (fun _ _ => rfl)
    (by simp [toMembers, own, Apart, Outside, Member.required, Member.defaulted, Member.optional])

theorem BusbarSection.independent_fields : Independent (toMembers mapping.fields) :=
  independent_contained (fun _ _ => rfl)
    (by simp [toMembers, container, own, Apart, Outside, Member.required, Member.optional])

theorem Switch.independent_fields : Independent (toMembers mapping.fields) :=
  independent_contained (fun _ _ => rfl)
    (by simp [toMembers, container, own, Apart, Outside, Member.required,
      Member.defaulted, Member.optional])

theorem TwoWindingsTransformer.independent_fields : Independent (toMembers mapping.fields) := by
  show Independent (toMembers (_ ++ windings ++ tapChangers))
  rw [List.append_assoc]
  exact independent_branch (fun _ _ => rfl) (fun _ _ => rfl) (fun _ _ => rfl) (fun _ _ => rfl)
    (by simp [toMembers, windings, tapChangers, Apart, Outside, Member.required, Member.optional])

theorem ThreeWindingsTransformer.independent_fields : Independent (toMembers mapping.fields) :=
  independent_contained (fun _ _ => rfl)
    (by simp [toMembers, containers, own, Apart, Outside, Member.required, Member.optional])

theorem Line.independent_fields : Independent (toMembers mapping.fields) :=
  independent_branch (fun _ _ => rfl) (fun _ _ => rfl) (fun _ _ => rfl) (fun _ _ => rfl)
    (by simp [toMembers, impedance, Apart, Outside, Member.required])

theorem HvdcLine.independent_fields : Independent (toMembers mapping.fields) :=
  independent_identified (fun _ _ => rfl)
    (by simp [toMembers, own, Apart, Outside, Member.required, Member.defaulted, Member.optional])

theorem DanglingLine.independent_fields : Independent (toMembers mapping.fields) :=
  independent_injection (fun _ _ => rfl) (fun _ _ => rfl) (fun _ _ => rfl) (fun _ _ => rfl)
    (by simp [toMembers, own, Apart, Outside, Member.required, Member.optional])

theorem ConfiguredBus.independent_fields : Independent (toMembers mapping.fields) :=
  independent_contained (fun _ _ => rfl)
    (by simp [toMembers, container, own, Apart, Outside, Member.required, Member.optional])

theorem EquipmentKind.independent_fields : ∀ k : EquipmentKind,
    Independent (toMembers (Attributes.mapping (A := k.Attributes)).fields)
  | .substation => Substation.independent_fields
  | .voltageLevel => VoltageLevel.independent_fields
  | .generator => Generator.independent_fields
  | .battery => Battery.independent_fields
  | .load => Load.independent_fields
  | .shuntCompensator => ShuntCompensator.independent_fields
  | .vscConverterStation => VscConverterStation.independent_fields
  | .lccConverterStation => LccConverterStation.independent_fields
  | .staticVarCompensator => StaticVarCompensator.independent_fields
  | .busbarSection => BusbarSection.independent_fields
  | .switch => Switch.independent_fields
  | .twoWindingsTransformer => TwoWindingsTransformer.independent_fields
  | .threeWindingsTransformer => ThreeWindingsTransformer.independent_fields
  | .line => Line.independent_fields
  | .hvdcLine => HvdcLine.independent_fields
  | .danglingLine => DanglingLine.independent_fields
  | .configuredBus => ConfiguredBus.independent_fields

/-- The members of an equipment's objects are its columns', the containers before the identification
and the flows and limits of a branch last. -/
theorem EquipmentKind.members_perm : ∀ k : EquipmentKind,
    (Attributes.members (A := k.Attributes)).Perm
      (toMembers (Attributes.mapping (A := k.Attributes)).fields)
  | .substation | .hvdcLine => .refl _
  | .voltageLevel | .busbarSection | .switch | .configuredBus | .threeWindingsTransformer =>
    (List.perm_append_comm.append_right _).map _
  | .generator | .battery | .load | .shuntCompensator | .vscConverterStation
  | .lccConverterStation | .staticVarCompensator | .danglingLine =>
    ((List.perm_append_comm.append_right _).append_right _).map _
  | .line => by
    open Line in
    have hfront : (containers ++ identification ++ terminals).Perm
        (identification ++ containers ++ terminals) := List.perm_append_comm.append_right _
    have hback : (impedance ++ (flows ++ positions ++ limits)).Perm
        (flows ++ positions ++ limits ++ impedance) := List.perm_append_comm
    have hperm := hfront.append hback
    simp only [← List.append_assoc] at hperm
    exact hperm.map _
  | .twoWindingsTransformer => by
    open TwoWindingsTransformer in
    have hfront : (containers ++ identification ++ terminals).Perm
        (identification ++ containers ++ terminals) := List.perm_append_comm.append_right _
    have hlimits : (flows ++ positions ++ (tapChangers ++ limits)).Perm
        (flows ++ positions ++ (limits ++ tapChangers)) := List.perm_append_comm.append_left _
    rw [← List.append_assoc _ limits tapChangers] at hlimits
    have hback := (hlimits.append_left windings).trans (List.perm_append_comm_assoc _ _ _)
    have hperm := hfront.append hback
    simp only [← List.append_assoc] at hperm
    exact hperm.map _

/-- The members of every kind's objects are independent. -/
theorem Kind.independent_members : ∀ k : Kind, Independent (Attributes.members (A := k.Attributes))
  | .network => Network.independent_members
  | .equipment k => k.independent_fields.perm k.members_perm.symm

/-- So are the fields of its columns. -/
theorem Kind.independent_fields : ∀ k : Kind,
    Independent (toMembers (Attributes.mapping (A := k.Attributes)).fields)
  | .network => Network.independent_members.sublist (List.sublist_append_right _ _)
  | .equipment k => k.independent_fields

/-- The field of a column is a member. -/
theorem Kind.toMember_mem_members : ∀ (k : Kind), ∀ f ∈ (Attributes.mapping (A := k.Attributes)).fields,
    f.toMember ∈ Attributes.members (A := k.Attributes)
  | .network => fun _ hf => List.mem_append_right _ (List.mem_map_of_mem hf)
  | .equipment k => fun _ hf => k.members_perm.mem_iff.2 (List.mem_map_of_mem hf)

/-- A field of a column is apart from every other member. -/
theorem Kind.apart_of_mem (k : Kind) {f : Field k.Attributes}
    (hf : f ∈ (Attributes.mapping (A := k.Attributes)).fields) {m : Member k.Attributes}
    (hm : m ∈ Attributes.members) (hname : f.name ≠ m.name) : f.toMember.Apart m :=
  k.independent_members.apart_of_name_ne (k.toMember_mem_members f hf) hm hname

end Kinds

end GridStore
