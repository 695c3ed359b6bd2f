import GridStore.Proofs.FieldsApart
import GridStore.Proofs.Settled
import GridStore.Resource

/-!
# Resources through JSON

The members of an object are read back one by one (`Member.rereadAll`). A plain double beyond the
finite ones is written as null, which is refused where a double has to be and is no double where one
may be; every other member is read back as it was (`Member.Settles`). So a resource is read back from
its JSON exactly if the doubles of its attributes are finite, and otherwise refused or without the
doubles that are not (`Resource.ofJson?_encode`).
-/

namespace GridStore

namespace Member

variable {A : Type} {m : Member A} {members : List (Member A)} {room : Nat} {a : A}

/-! ## Reading members one by one -/

theorem reread_of_encode {j : Json} (h : m.encode (m.get a) = some j) :
    m.reread room a = m.decode room j.toTree := by
  unfold reread
  rw [h]

theorem reread_of_left_out (h : m.encode (m.get a) = none) : m.reread room a = m.absent := by
  unfold reread
  rw [h]

theorem rereadAll_append {ms ns : List (Member A)} (b : A) :
    rereadAll (ms ++ ns) room a b = (rereadAll ms room a b).bind (rereadAll ns room a) :=
  List.foldlM_append

theorem rereadAll_eq_none (h : ∃ m ∈ members, m.reread room a = none) (b : A) :
    rereadAll members room a b = none := by
  induction members generalizing b with
  | nil => simp at h
  | cons m members ih =>
    rw [rereadAll, List.foldlM_cons]
    cases hm : m.reread room a with
    | none => rfl
    | some v =>
      obtain ⟨n, hn, hnone⟩ := h
      rcases List.mem_cons.1 hn with rfl | hn
      · rw [hm] at hnone
        cases hnone
      · exact ih ⟨n, hn, hnone⟩ _

/-- Independent members that are all read each hold what they are read as, and leave the others. -/
theorem rereadAll_eq_some (hmembers : Independent members)
    (h : ∀ m ∈ members, ∃ v, m.reread room a = some v) (b : A) :
    ∃ b', rereadAll members room a b = some b' ∧
      (∀ m ∈ members, m.reread room a = some (m.get b')) ∧
      ∀ n : Member A, (∀ m ∈ members, n.Apart m) → n.get b' = n.get b := by
  induction members generalizing b with
  | nil => exact ⟨b, rfl, List.forall_mem_nil _, fun _ _ => rfl⟩
  | cons m members ih =>
    rw [independent_cons] at hmembers
    rw [List.forall_mem_cons] at h
    obtain ⟨hget, hapart, hrest⟩ := hmembers
    obtain ⟨⟨v, hv⟩, h⟩ := h
    obtain ⟨b', hread, heach, hkeep⟩ := ih hrest h (m.set v b)
    refine ⟨b', ?_, List.forall_mem_cons.2 ⟨?_, heach⟩, fun n hn => ?_⟩
    · rw [rereadAll, List.foldlM_cons, hv]
      exact hread
    · rw [hv, hkeep m hapart, hget]
    · rw [List.forall_mem_cons] at hn
      exact (hkeep n hn.2).trans (hn.1.1 v b)

/-! ## Doubles -/

/-- The member is a double that has to be there or is defaulted, and `get` gives it. -/
def IsDouble (m : Member A) (get : A → Binary64) : Prop :=
  m.Holds JsonValue.codec get

/-- The member is a double that may be there, and `get` gives it. -/
def IsOptionalDouble (m : Member A) (get : A → Option Binary64) : Prop :=
  m.MayHold JsonValue.codec get

/-- Every value of the member is restored. -/
def IsRestored (m : Member A) : Prop :=
  ∀ a, ∃ d, m.Restores d a

/-- What becomes of the member in JSON: it is a double, or may be one, or is restored. -/
def Settles (m : Member A) : Prop :=
  (∃ get, m.IsDouble get) ∨ (∃ get, m.IsOptionalDouble get) ∨ m.IsRestored

theorem encode_double_of_isFinite {x : Binary64} (h : x.isFinite) :
    (JsonValue.codec : JsonCodec Binary64).encode x = .float x :=
  if_pos h

theorem encode_double_of_not_isFinite {x : Binary64} (h : ¬x.isFinite) :
    (JsonValue.codec : JsonCodec Binary64).encode x = .null :=
  if_neg h

theorem IsDouble.encode_eq {get : A → Binary64} (h : m.IsDouble get) :
    m.encode (m.get a) = some ((JsonValue.codec : JsonCodec Binary64).encode (get a)) := by
  cases h <;> rfl

theorem IsDouble.reread_of_isFinite {get : A → Binary64} (h : m.IsDouble get)
    (hfinite : (get a).isFinite) : m.reread room a = some (m.get a) := by
  have hencode := h.encode_eq.trans (congrArg some (encode_double_of_isFinite hfinite))
  rw [reread_of_encode hencode]
  cases h <;> rfl

theorem IsDouble.reread_of_not_isFinite {get : A → Binary64} (h : m.IsDouble get)
    (hinfinite : ¬(get a).isFinite) : m.reread room a = none := by
  have hencode := h.encode_eq.trans (congrArg some (encode_double_of_not_isFinite hinfinite))
  rw [reread_of_encode hencode]
  cases h <;> rfl

/-- A double that may be there is read back if it is finite, and otherwise as none. -/
theorem IsOptionalDouble.reread {get : A → Option Binary64} (h : m.IsOptionalDouble get)
    (room : Nat) (a : A) :
    ∃ v, m.reread room a = some v ∧
      (∀ b, m.get b = v → get b = (get a).filter (·.isFinite)) ∧
      ((get a).filter (·.isFinite) = get a → v = m.get a) := by
  obtain ⟨name, get, set⟩ := h
  refine ⟨(get a).filter (·.isFinite), ?_, fun b hb => hb, fun hfinite => hfinite⟩
  cases hget : get a with
  | none => exact reread_of_left_out (congrArg (Option.map _) hget)
  | some x =>
    have hencode : (optional name JsonValue.codec get set).encode (get a)
        = some ((JsonValue.codec : JsonCodec Binary64).encode x) := congrArg (Option.map _) hget
    by_cases hx : x.isFinite
    · rw [encode_double_of_isFinite hx] at hencode
      rw [Option.filter_some, if_pos hx]
      exact reread_of_encode hencode
    · rw [encode_double_of_not_isFinite hx] at hencode
      rw [Option.filter_some, if_neg hx]
      exact reread_of_encode hencode

theorem IsRestored.within {B : Type} (h : m.IsRestored) (getA : B → A) (setA : A → B → B) :
    (m.within getA setA).IsRestored := by
  intro b
  obtain ⟨d, hd⟩ := h (getA b)
  exact ⟨d, hd.absent, hd.storable, hd.depth_le, hd.decode⟩

theorem Settles.within {B : Type} (h : m.Settles) (getA : B → A) (setA : A → B → B) :
    (m.within getA setA).Settles := by
  rcases h with ⟨get, h⟩ | ⟨get, h⟩ | h
  · exact .inl ⟨_, Holds.within h getA setA⟩
  · exact .inr (.inl ⟨_, MayHold.within h getA setA⟩)
  · exact .inr (.inr (h.within getA setA))

section Kinds

variable {α : Type} {name : String}

@[simp]
theorem settles_double {get : A → Binary64} {set : Binary64 → A → A} :
    (required name JsonValue.codec get set).Settles :=
  .inl ⟨get, .required name get set⟩

@[simp]
theorem settles_optional_double {get : A → Option Binary64} {set : Option Binary64 → A → A} :
    (optional name JsonValue.codec get set).Settles :=
  .inr (.inl ⟨get, .optional name get set⟩)

@[simp]
theorem settles_defaulted_double {default : Binary64} {get : A → Binary64}
    {set : Binary64 → A → A} : (defaulted name JsonValue.codec default get set).Settles :=
  .inl ⟨get, .defaulted name default get set⟩

variable [JsonValue α] [Restored α 5]

@[simp]
theorem settles_required {get : A → α} {set : α → A → A} :
    (required name JsonValue.codec get set).Settles :=
  .inr (.inr fun _ => ⟨5, restores_required (restored _)⟩)

@[simp]
theorem settles_defaulted {default : α} {get : A → α} {set : α → A → A} :
    (defaulted name JsonValue.codec default get set).Settles :=
  .inr (.inr fun _ => ⟨5, restores_defaulted (restored _)⟩)

@[simp]
theorem settles_optional {get : A → Option α} {set : Option α → A → A} :
    (optional name JsonValue.codec get set).Settles :=
  .inr (.inr fun _ => ⟨5, restores_optional fun v _ => restored v⟩)

end Kinds

end Member

/-! ## Every kind -/

section Kinds

open Member

theorem Network.settles_members : ∀ m ∈ Network.members, m.Settles := by
  simp [Network.members, Network.keys, Network.own]

theorem EquipmentKind.settles_own (k : EquipmentKind) :
    k.ForallOwn fun _ f => f.toMember.Settles := by
  cases k <;> simp [ForallOwn, Substation.own, VoltageLevel.container, VoltageLevel.own, Generator.own,
    Battery.own, Load.own, ShuntCompensator.own, VscConverterStation.own, LccConverterStation.own,
    StaticVarCompensator.own, BusbarSection.container, BusbarSection.own, Switch.container,
    Switch.own, TwoWindingsTransformer.windings, TwoWindingsTransformer.tapChangers,
    ThreeWindingsTransformer.containers, ThreeWindingsTransformer.own, Line.impedance, HvdcLine.own,
    DanglingLine.own, ConfiguredBus.container, ConfiguredBus.own]

theorem EquipmentKind.settles_fields : ∀ k : EquipmentKind,
    ∀ f ∈ (Attributes.mapping (A := k.Attributes)).fields, f.toMember.Settles :=
  EquipmentKind.forall_fields (P := fun _ f => f.toMember.Settles)
    (fun get set h => Settles.within h get set)
    (by simp [Identification.fields])
    (by simp [Connection.container, Connection.terminal])
    (by simp [BranchEnds.containers, BranchEnds.terminals, BranchEnds.flows, BranchEnds.positions,
      BranchEnds.limits])
    EquipmentKind.settles_own

/-- Every member of every kind's objects is a double, may be one, or is restored. -/
theorem Kind.settles_members : ∀ k : Kind, ∀ m ∈ Attributes.members (A := k.Attributes), m.Settles
  | .network => Network.settles_members
  | .equipment k => fun m hm => by
    obtain ⟨f, hf, rfl⟩ := List.mem_map.1 (k.members_perm.mem_iff.1 hm)
    exact k.settles_fields f hf

theorem EquipmentKind.nodup_names (k : EquipmentKind) :
    ((Attributes.members (A := k.Attributes)).map (·.name)).Nodup := by
  have hnames := (TableSchema.defect?_eq_none_iff.1 (Kind.equipment k).defect?_schema).1
  rw [Kind.schema, Attributes.schema, Mapping.columnNames_schema] at hnames
  have hfields : (Field.toMembers (Attributes.mapping (A := k.Attributes)).fields).map (·.name)
      = (Attributes.mapping (A := k.Attributes)).fields.map (·.name) := by
    rw [Field.toMembers, List.map_map]
    rfl
  exact (k.members_perm.map _).nodup_iff.2 (hfields ▸ hnames)

/-- The members of objects have different names. -/
theorem Kind.nodup_names : ∀ k : Kind,
    ((Attributes.members (A := k.Attributes)).map (·.name)).Nodup
  | .network => by decide
  | .equipment k => k.nodup_names

theorem Network.ext_members {a b : Network} (h : ∀ m ∈ Network.members, m.get a = m.get b) :
    a = b := by
  cases a
  cases b
  simpa [Network.members, Network.keys, Network.own, Member.required, Member.defaulted,
    Member.optional] using h

theorem EquipmentKind.ext_members (k : EquipmentKind) {a b : k.Attributes}
    (h : ∀ m ∈ Attributes.members, m.get a = m.get b) : a = b := by
  have hfields : ∀ f ∈ (Attributes.mapping (A := k.Attributes)).fields, f.get a = f.get b :=
    fun f hf => h _ (Kind.toMember_mem_members (.equipment k) f hf)
  -- setting every field to what it is in both makes either
  have hset : ∀ {fields : List (Field k.Attributes)}, (∀ f ∈ fields, f.get a = f.get b) → ∀ c,
      fields.foldl (fun c f => f.set (f.get a) c) c
        = fields.foldl (fun c f => f.set (f.get b) c) c := by
    intro fields hfields
    induction fields with
    | nil => exact fun _ => rfl
    | cons f fields ih =>
      rw [List.forall_mem_cons] at hfields
      intro c
      rw [List.foldl_cons, List.foldl_cons, hfields.1, ih hfields.2]
  calc a = _ := (StoredAttributes.covers a a).symm
    _ = _ := hset hfields a
    _ = b := StoredAttributes.covers b a

/-- Attributes whose members are the same are the same. -/
theorem Kind.ext_members : ∀ (k : Kind) {a b : k.Attributes},
    (∀ m ∈ Attributes.members (A := k.Attributes), m.get a = m.get b) → a = b
  | .network, _, _, h => Network.ext_members h
  | .equipment k, _, _, h => k.ext_members h

end Kinds

/-! ## Attributes -/

namespace Attributes

variable {A : Type} [Attributes A]

/-- The doubles that have to be there or are defaulted are finite. -/
def DoublesFinite (a : A) : Prop :=
  ∀ m ∈ members (A := A), ∀ get, m.IsDouble get → (get a).isFinite

/-- The doubles that may be there are finite where they are. -/
def OptionalDoublesFinite (a : A) : Prop :=
  ∀ m ∈ members (A := A), ∀ get, m.IsOptionalDouble get → ∀ x ∈ get a, x.isFinite

/-- Attributes as they come back: the doubles beyond the finite that may be there are not, and
everything else is as it was. -/
def ComesBackAs (a a' : A) : Prop :=
  ∀ m ∈ members (A := A),
    (∀ get, m.IsOptionalDouble get → get a' = (get a).filter (·.isFinite)) ∧
    ((∀ get, m.IsOptionalDouble get → ∀ x ∈ get a, x.isFinite) → m.get a' = m.get a)

end Attributes

open Attributes

theorem filter_isFinite {o : Option Binary64} (h : ∀ x ∈ o, x.isFinite) :
    o.filter (·.isFinite) = o := by
  cases o with
  | none => rfl
  | some x => exact Option.filter_some_pos (h x rfl)

section Attributes

variable {k : Kind} {a : k.Attributes} {room : Nat}
  (hroom : (codec.encode a).depth ≤ room)

include hroom

theorem Kind.decode_attributes_of_not_finite (h : ¬DoublesFinite a) :
    (codec (A := k.Attributes)).decode room (codec.encode a).toTree = none := by
  rcases room with _ | room
  · exact absurd hroom (Nat.not_succ_le_zero _)
  refine (JsonCodec.decode_record k.nodup_names a).trans (Member.rereadAll_eq_none ?_ _)
  simp only [DoublesFinite, not_forall] at h
  obtain ⟨m, hm, get, hget, hx⟩ := h
  exact ⟨m, hm, hget.reread_of_not_isFinite hx⟩

theorem Kind.decode_attributes_of_finite (h : DoublesFinite a) :
    ∃ a', (codec (A := k.Attributes)).decode room (codec.encode a).toTree = some a' ∧
      ComesBackAs a a' := by
  rcases room with _ | room
  · exact absurd hroom (Nat.not_succ_le_zero _)
  have hkeys : ((Member.written members a).map Prod.fst).Nodup :=
    k.nodup_names.sublist (Member.keys_written_sublist members a)
  have hfit := (Member.depth_ofMembers_le_iff hkeys).1 hroom
  have hdepth : ∀ m ∈ members, ∀ j ∈ m.encode (m.get a), j.depth ≤ room := fun m hm j hj =>
    hfit (m.name, j) (Member.write?_mem_written hm hj)
  have hread : ∀ m ∈ members, ∃ v, m.reread room a = some v := by
    intro m hm
    rcases k.settles_members m hm with ⟨get, hget⟩ | ⟨get, hget⟩ | hrestored
    · exact ⟨_, hget.reread_of_isFinite (h m hm get hget)⟩
    · exact (hget.reread room a).imp fun _ hv => hv.1
    · obtain ⟨d, hd⟩ := hrestored a
      exact ⟨_, hd.reread (hdepth m hm)⟩
  obtain ⟨a', hdecode, heach, -⟩ := Member.rereadAll_eq_some k.independent_members hread default
  refine ⟨a', (JsonCodec.decode_record k.nodup_names a).trans hdecode, fun m hm => ⟨?_, ?_⟩⟩
  · intro get hget
    obtain ⟨v, hv, hfilter, -⟩ := hget.reread room a
    exact hfilter a' (Option.some.inj ((heach m hm).symm.trans hv))
  · intro hfinite
    have hsame : m.reread room a = some (m.get a) := by
      rcases k.settles_members m hm with ⟨get, hget⟩ | ⟨get, hget⟩ | hrestored
      · exact hget.reread_of_isFinite (h m hm get hget)
      · obtain ⟨v, hv, -, heq⟩ := hget.reread room a
        rw [hv, heq (filter_isFinite (hfinite get hget))]
      · obtain ⟨d, hd⟩ := hrestored a
        exact hd.reread (hdepth m hm)
    exact Option.some.inj ((heach m hm).symm.trans hsame)

end Attributes

/-! ## Resources -/

namespace Resource

variable {A : Type} [Attributes A]

/-- A resource is read as what its attributes are read as. -/
theorem ofJson?_encode_eq (r : Resource A) :
    ∃ room, (Attributes.codec.encode r.attributes).depth ≤ room ∧
      codec.ofJson? (codec.encode r)
        = ((Attributes.codec (A := A)).decode room (Attributes.codec.encode r.attributes).toTree).map
            fun a => { r with attributes := a } := by
  have hnames : ((members (A := A)).map (·.name)).Nodup := by simp [members]
  have hkeys : ((Member.written members r).map Prod.fst).Nodup :=
    hnames.sublist (Member.keys_written_sublist members r)
  obtain ⟨room, hroom⟩ : ∃ room, (codec.encode r).depth = room + 1 := ⟨_, rfl⟩
  have hfit := (Member.depth_ofMembers_le_iff hkeys).1 hroom.le
  refine ⟨room, hfit ("attributes", Attributes.codec.encode r.attributes) ?_, ?_⟩
  · exact .tail _ (.tail _ (.tail _ (.head _)))
  -- what stands before the attributes is restored
  have hfront : ∀ m ∈ (members (A := A)).take 3, m.Restores 0 r := by
    simp [members]
  have hread := Member.rereadAll_of_restores hfront
    (fun m hm j hj => ((hfront m hm).depth_le j hj).trans (Nat.zero_le room))
    ⟨.network, "", 0, default⟩
  rw [JsonCodec.ofJson?, hroom]
  refine (JsonCodec.decode_record hnames r).trans ?_
  rw [← List.take_append_drop 3 members, Member.rereadAll_append, hread, Option.bind_some]
  show Option.bind (Option.map _ (Member.reread _ room r)) some = _
  rw [Option.bind_fun_some, Member.reread_of_encode rfl]
  rfl

end Resource

/-- A resource is read back from its JSON exactly if the doubles of its attributes are finite. With one
that is not and has to be there, or is defaulted, it is refused; with others that are not it comes back
without them. The doubles inside nested values come back whatever they are. -/
theorem Resource.ofJson?_encode (k : Kind) (r : Resource k.Attributes) :
    let read := codec.ofJson? (codec.encode r)
    (read = some r ↔ DoublesFinite r.attributes ∧ OptionalDoublesFinite r.attributes) ∧
    (¬DoublesFinite r.attributes → read = none) ∧
    (DoublesFinite r.attributes →
      ∃ a, read = some { r with attributes := a } ∧ ComesBackAs r.attributes a) := by
  intro read
  obtain ⟨room, hroom, hread⟩ := r.ofJson?_encode_eq
  have hnone (h : ¬DoublesFinite r.attributes) : read = none := by
    rw [show read = _ from hread, k.decode_attributes_of_not_finite hroom h]
    rfl
  have hsome (h : DoublesFinite r.attributes) :
      ∃ a, read = some { r with attributes := a } ∧ ComesBackAs r.attributes a := by
    obtain ⟨a, hdecode, hback⟩ := k.decode_attributes_of_finite hroom h
    refine ⟨a, ?_, hback⟩
    rw [show read = _ from hread, hdecode]
    rfl
  refine ⟨⟨fun h => ?_, fun h => ?_⟩, hnone, hsome⟩
  · have hfinite : DoublesFinite r.attributes := by
      by_contra hno
      rw [hnone hno] at h
      cases h
    obtain ⟨a, ha, hback⟩ := hsome hfinite
    have hsame : a = r.attributes :=
      congrArg Resource.attributes (Option.some.inj (ha.symm.trans h))
    rw [hsame] at hback
    refine ⟨hfinite, fun m hm get hget x hx => ?_⟩
    have hkept : x ∈ (get r.attributes).filter (·.isFinite) := (hback m hm).1 get hget ▸ hx
    exact (Option.mem_filter_iff.1 hkept).2
  · obtain ⟨a, ha, hback⟩ := hsome h.1
    have hsame : a = r.attributes := k.ext_members fun m hm => (hback m hm).2 (h.2 m hm)
    rw [ha, hsame]

/-- A load with an infinite power is refused; a bus whose voltage is no number comes back without one. -/
theorem Resource.ofJson?_encode_bus :
    let load : Resource Load := .of "L1" 0 { (default : Load) with p0 := .infinite false }
    let bus : Resource ConfiguredBus := .of "B1" 0 { (default : ConfiguredBus) with v := some .nan }
    (codec.ofJson? (codec.encode load) : Option (Resource Load)) = none ∧
    ∃ b : ConfiguredBus, b.v = none ∧
      codec.ofJson? (codec.encode bus) = some { bus with attributes := b } := by
  intro load bus
  have hload : ¬DoublesFinite load.attributes := fun h =>
    have hp0 := h _ (List.mem_map_of_mem (List.mem_append_right _ (.tail _ (.head _)))) Load.p0
      (.required "p0" _ _)
    absurd hp0 (by decide)
  have hbus : DoublesFinite bus.attributes := by
    intro m hm get hget
    have hread : ∀ m ∈ ConfiguredBus.members, m.reread 1 bus.attributes ≠ none := by decide
    by_contra hx
    exact hread m hm (hget.reread_of_not_isFinite hx)
  obtain ⟨b, hb, hback⟩ := (Resource.ofJson?_encode (.equipment .configuredBus) bus).2.2 hbus
  refine ⟨(Resource.ofJson?_encode (.equipment .load) load).2.1 hload, b, ?_, hb⟩
  exact (hback _ (List.mem_map_of_mem (List.mem_append_right _ (.head _)))).1 ConfiguredBus.v
    (.optional "v" _ _)

end GridStore
