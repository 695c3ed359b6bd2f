import GridStore.Attributes.Values
import GridStore.Proofs.DocumentTrees
import GridStore.Store.Row
import Mathlib.Data.Set.List

/-!
# Reading a text and reading its value

A reader of JSON looks at the tree of a document, which is that of a text or that of a value made of
the text before. No reader sees the order of members: a record looks them up by name, a union splits
off the one that names the case, and properties are sorted (`JsonCodec.Agrees`). So every column of
JSON takes a text in which no object repeats a key as it takes the text's value
(`JsonColumn.ofColumn_text_eq_json`).
-/

namespace GridStore

open GridStore.Tree (Denotes Alike)

/-! ## Members -/

namespace Member

variable {A : Type} {room room' : Nat}

/-- The member's reader sees no more of a tree than the value that it denotes. -/
def Agrees (m : Member A) : Prop :=
  ∀ {room room' t v}, Denotes room room' t v → m.decode room t = m.decode room' v.toTree

variable {entries entries' : List (Option String × Tree)}

theorem readNamed?_alike {m : Member A} (hm : m.Agrees)
    (h : Alike room room' entries entries') (a : A) :
    readNamed? room entries a m = readNamed? room' entries' a m := by
  unfold readNamed?
  rcases h.lookup m.name with ⟨hleft, hright⟩ | ⟨t, v, hleft, hright, hv⟩
  · rw [hleft, hright]
  · rw [hleft, hright]
    simp only [hm hv]

theorem readMembers?_alike {members : List (Member A)} (hms : ∀ m ∈ members, m.Agrees)
    (h : Alike room room' entries entries') (a : A) :
    readMembers? room members entries a = readMembers? room' members entries' a := by
  unfold readMembers?
  rw [if_pos (List.all_eq_true.2 h.keys), if_pos (List.all_eq_true.2 h.keys')]
  induction members generalizing a with
  | nil => rfl
  | cons m members ih =>
    rw [List.forall_mem_cons] at hms
    rw [List.foldlM_cons, List.foldlM_cons, readNamed?_alike hms.1 h]
    exact congrArg _ (funext fun b => ih hms.2 b)

theorem readPositional?_denotes {members : List (Member A)} (hms : ∀ m ∈ members, m.Agrees)
    {items : List Tree} {vs : List Json} (h : List.Forall₂ (Denotes room room') items vs) (a : A) :
    readPositional? room members items a
      = readPositional? room' members (Json.itemsToTree vs) a := by
  induction members generalizing items vs a with
  | nil => cases h <;> rfl
  | cons m members ih =>
    rw [List.forall_mem_cons] at hms
    cases h with
    | nil => exact congrArg _ (funext fun x => ih hms.2 .nil _)
    | cons hv hvs =>
      rw [Json.itemsToTree, readPositional?, readPositional?, hms.1 hv]
      exact congrArg _ (funext fun x => ih hms.2 hvs _)

end Member

/-! ## Codecs -/

namespace JsonCodec

variable {α : Type} {c : JsonCodec α} {room room' : Nat}

/-- The reader sees no more of a tree than the value that it denotes. -/
def Agrees (c : JsonCodec α) : Prop :=
  ∀ {room room' t v}, Denotes room room' t v → c.decode room t = c.decode room' v.toTree

/-- A reader that takes no array and no object sees the tree itself. -/
theorem agrees_of_scalar (harr : ∀ room items, c.decode room (.arr items) = none)
    (hobj : ∀ room members, c.decode room (.obj members) = none)
    (hroom : ∀ room room' t, c.decode room t = c.decode room' t) : c.Agrees := by
  intro room room' t v h
  cases t with
  | arr items =>
    obtain ⟨r, r', vs, -, -, rfl, -⟩ := h.arr
    exact (harr _ _).trans (harr _ _).symm
  | obj members =>
    obtain ⟨r, r', ms, -, -, rfl, -⟩ := h.obj
    exact (hobj _ _).trans (hobj _ _).symm
  | _ => rw [h.toTree_eq (by simp) (by simp), hroom]

@[simp]
theorem agrees_string : string.Agrees :=
  agrees_of_scalar (fun _ _ => rfl) (fun _ _ => rfl) (by rintro _ _ (_ | _) <;> rfl)

@[simp]
theorem agrees_bool : bool.Agrees :=
  agrees_of_scalar (fun _ _ => rfl) (fun _ _ => rfl) (by rintro _ _ (_ | _) <;> rfl)

@[simp]
theorem agrees_int32 : int32.Agrees :=
  agrees_of_scalar (fun _ _ => rfl) (fun _ _ => rfl) (fun _ _ _ => rfl)

@[simp]
theorem agrees_lossless : lossless.Agrees :=
  agrees_of_scalar (fun _ _ => rfl) (fun _ _ => rfl) (by rintro _ _ (_ | _) <;> rfl)

theorem decode_nullable_of_ne_null {t : Tree} (ht : t ≠ .null) :
    c.nullable.decode room t = (c.decode room t).map some := by
  cases t <;> first | rfl | exact absurd rfl ht

@[simp]
theorem agrees_nullable (h : c.Agrees) : c.nullable.Agrees := by
  intro room room' t v hv
  by_cases ht : t = .null
  · rw [ht, hv.null_iff.1 ht]
    rfl
  · rw [decode_nullable_of_ne_null ht, decode_nullable_of_ne_null (mt hv.null_iff.2 ht), h hv]

theorem decode_choice_of_ne_null [Choice α] {key : Option String} {t : Tree} (ht : t ≠ .null) :
    (choice : JsonCodec α).decode (room + 1) (.obj [(key, t)]) = none := by
  cases t <;> first | rfl | exact absurd rfl ht

theorem decode_choice_of_two [Choice α] (e e' : Option String × Tree)
    (es : List (Option String × Tree)) :
    (choice : JsonCodec α).decode room (.obj (e :: e' :: es)) = none := by
  obtain ⟨key, t⟩ := e
  cases room <;> cases t <;> rfl

/-- The label of a choice stands alone, or is the key of the only member. -/
@[simp]
theorem agrees_choice [Choice α] : (choice : JsonCodec α).Agrees := by
  intro room room' t v h
  cases t with
  | arr items =>
    obtain ⟨r, r', vs, rfl, rfl, rfl, -⟩ := h.arr
    rfl
  | obj members =>
    obtain ⟨r, r', ms, rfl, rfl, rfl, hkeys, hms⟩ := h.obj
    have hlength := (Json.arranged_perm hkeys).length_eq
    cases hms with
    | nil => rfl
    | @cons e m es _ hem hes =>
      obtain ⟨hkey, hw⟩ := hem
      cases hes with
      | nil =>
        show choice.decode (r + 1) (.obj [(e.1, e.2)])
          = choice.decode (r' + 1) (.obj [(some m.1, m.2.toTree)])
        by_cases hnull : e.2 = .null
        · rw [hnull, hw.null_iff.1 hnull, hkey]
          rfl
        · rw [decode_choice_of_ne_null hnull, decode_choice_of_ne_null (mt hw.null_iff.2 hnull)]
      | cons _ _ =>
        -- neither object has a single member
        rw [Json.ofMembers_eq]
        match Json.arranged (_ :: _ :: _), hlength with
        | (_, _) :: (_, _) :: _, _ =>
          exact (decode_choice_of_two _ _ _).trans (decode_choice_of_two _ _ _).symm
  | _ =>
    rw [h.toTree_eq (by simp) (by simp)]
    rfl

@[simp]
theorem agrees_list (h : c.Agrees) : (list c).Agrees := by
  intro room room' t v hv
  cases t with
  | arr items =>
    obtain ⟨r, r', vs, rfl, rfl, rfl, hvs⟩ := hv.arr
    show items.mapM (c.decode r) = (Json.itemsToTree vs).mapM (c.decode r')
    clear hv
    induction hvs with
    | nil => rfl
    | cons hw _ ih => rw [List.mapM_cons, Json.itemsToTree, List.mapM_cons, h hw, ih]
  | obj members =>
    obtain ⟨r, r', ms, rfl, rfl, rfl, -⟩ := hv.obj
    rfl
  | _ =>
    rw [hv.toTree_eq (by simp) (by simp)]
    cases room <;> cases room' <;> rfl

/-! ## Properties -/

/-- The member of an entry. -/
def textMember (e : String × String) : String × Json :=
  (e.1, .str e.2)

theorem mapM_property?_denotes {entries : List (Option String × Tree)} {ms : List (String × Json)}
    (h : List.Forall₂ (fun e m => e.1 = some m.1 ∧ Denotes room room' e.2 m.2) entries ms) :
    entries.mapM (property? room) = (Json.membersToTree ms).mapM (property? room') := by
  induction h with
  | nil => rfl
  | cons hem _ ih =>
    rw [List.mapM_cons, Json.membersToTree, List.mapM_cons, ih]
    simp only [property?, hem.1, agrees_string hem.2]

theorem mapM_property?_eq_some {ms : List (String × Json)} {es : List (String × String)} :
    (Json.membersToTree ms).mapM (property? room) = some es ↔ ms = es.map textMember := by
  induction ms generalizing es with
  | nil => cases es <;> simp [Json.membersToTree]
  | cons m ms ih =>
    obtain ⟨key, v⟩ := m
    rw [Json.membersToTree, List.mapM_cons]
    cases v with
    | str text =>
      have hproperty : property? room (some key, Json.toTree (.str text)) = some (key, text) := rfl
      simp only [hproperty, Option.bind_eq_bind, Option.bind_some, Option.bind_eq_some_iff,
        Option.pure_def, Option.some.injEq, ih]
      constructor
      · rintro ⟨es, rfl, rfl⟩
        rfl
      · intro h
        obtain ⟨e, es, rfl, he, hes⟩ := List.map_eq_cons_iff.1 h.symm
        obtain ⟨rfl, htext⟩ := Prod.mk.inj he
        obtain rfl := Json.str.inj htext
        exact ⟨es, hes.symm, rfl⟩
    | _ => cases es <;> simp [property?, string, Json.toTree, textMember]

theorem insertByKey_texts (key text : String) (es : List (String × String)) :
    insertByKey key (.str text) (es.map textMember) = (insertByKey key text es).map textMember := by
  induction es with
  | nil => rfl
  | cons e es ih =>
    rw [List.map_cons, textMember, insertByKey, insertByKey, ih]
    split_ifs <;> rfl

theorem arranged_texts (es : List (String × String)) :
    Json.arranged (es.map textMember) = (Properties.ofList es).entries.map textMember := by
  rw [Properties.ofList, Properties.foldl_insert, Json.arranged]
  show _ = (es.foldl _ []).map textMember
  suffices h : ∀ before : List (String × String),
      (es.map textMember).foldl (fun sorted e => insertByKey e.1 e.2 sorted)
          (before.map textMember)
        = (es.foldl (fun sorted e => insertByKey e.1 e.2 sorted) before).map textMember
    from h []
  induction es with
  | nil => exact fun _ => rfl
  | cons e es ih =>
    intro before
    obtain ⟨key, text⟩ := e
    rw [List.map_cons, List.foldl_cons, List.foldl_cons, ← ih, ← insertByKey_texts]
    rfl

@[simp]
theorem agrees_properties : properties.Agrees := by
  intro room room' t v hv
  cases t with
  | arr items =>
    obtain ⟨r, r', vs, rfl, rfl, rfl, -⟩ := hv.arr
    rfl
  | obj members =>
    obtain ⟨r, r', ms, rfl, rfl, rfl, hkeys, hms⟩ := hv.obj
    show (members.mapM (property? r)).map Properties.ofList
      = ((Json.membersToTree (Json.arranged ms)).mapM (property? r')).map Properties.ofList
    rw [mapM_property?_denotes hms]
    by_cases htexts : ∃ es : List (String × String), ms = es.map textMember
    · obtain ⟨es, rfl⟩ := htexts
      rw [arranged_texts, mapM_property?_eq_some.2 rfl, mapM_property?_eq_some.2 rfl,
        Option.map_some, Option.map_some, Properties.ofList_entries]
    · -- a member that is no text is among the arranged ones too
      have hnone : (Json.membersToTree ms).mapM (property? r') = none :=
        Option.eq_none_iff_forall_ne_some.2 fun es hes => htexts ⟨es, mapM_property?_eq_some.1 hes⟩
      have harranged : (Json.membersToTree (Json.arranged ms)).mapM (property? r') = none := by
        refine Option.eq_none_iff_forall_ne_some.2 fun es hes => htexts ?_
        have hrange : ms ∈ Set.range (List.map textMember) := by
          rw [Set.range_list_map]
          intro m hm
          have hmem := (Json.arranged_perm hkeys).mem_iff.2 hm
          rw [mapM_property?_eq_some.1 hes] at hmem
          exact Set.mem_range.2 ((List.mem_map.1 hmem).imp fun e he => he.2)
        exact hrange.imp fun es hes => hes.symm
      rw [hnone, harranged]
  | _ =>
    rw [hv.toTree_eq (by simp) (by simp)]
    cases room <;> cases room' <;> rfl

/-! ## Records and unions -/

variable {A : Type}

theorem agrees_record {members : List (Member A)} {start : A} (hms : ∀ m ∈ members, m.Agrees) :
    (record members start).Agrees := by
  intro room room' t v hv
  cases t with
  | arr items =>
    obtain ⟨r, r', vs, rfl, rfl, rfl, hvs⟩ := hv.arr
    exact Member.readPositional?_denotes hms hvs start
  | obj members =>
    obtain ⟨r, r', ms, rfl, rfl, rfl, hkeys, hentries⟩ := hv.obj
    exact Member.readMembers?_alike hms (Tree.alike_arranged hkeys hentries) start
  | _ =>
    rw [hv.toTree_eq (by simp) (by simp)]
    cases room <;> cases room' <;> rfl

section Tagged

variable {tag : String} {cases : List (Case A)} {entries : List (Option String × Tree)}

theorem decode_union_tagged (hjson : ((Tree.obj entries).toJson? (room + 1)).isSome) {t : Tree}
    (htag : entries.filter (fun e => e.1 = some tag) = [(some tag, t)]) :
    (union tag cases).decode (room + 1) (.obj entries)
      = (string.decode room t).bind fun label => (cases.find? (·.label = label)).bind fun c =>
          c.readMembers? room (entries.filter (not ∘ fun e => e.1 = some tag)) := by
  obtain ⟨v, hv⟩ := Option.isSome_iff_exists.1 hjson
  rcases t with _ | _ | _ | (_ | label) | _ | _ <;> simp [union, hv, htag, string]

theorem decode_union_untagged (htag : entries.filter (fun e => e.1 = some tag) = []) :
    (union tag cases).decode (room + 1) (.obj entries) = none := by
  cases hjson : (Tree.obj entries).toJson? (room + 1) <;> simp [union, hjson, htag]

theorem decode_union_items {t : Tree} {items : List Tree}
    (hjson : ((Tree.arr (t :: items)).toJson? (room + 1)).isSome) :
    (union tag cases).decode (room + 1) (.arr (t :: items))
      = (string.decode room t).bind fun label => (cases.find? (·.label = label)).bind fun c =>
          c.readItems? room items := by
  obtain ⟨v, hv⟩ := Option.isSome_iff_exists.1 hjson
  rcases t with _ | _ | _ | (_ | label) | _ | _ <;> simp [union, hv, string]

end Tagged

/-- A union splits off the member that names the case, and what is left of the object is alike. -/
theorem agrees_union {tag : String} {cases : List (Case A)}
    (hms : ∀ c ∈ cases, ∀ m ∈ c.members, m.Agrees) : (union tag cases).Agrees := by
  intro room room' t v hv
  have hleft := Option.isSome_of_mem hv.toJson
  have hright := Json.isSome_toJson?_toTree hv.depth_le
  cases t with
  | arr items =>
    obtain ⟨r, r', vs, rfl, rfl, rfl, hvs⟩ := hv.arr
    cases hvs with
    | nil => rfl
    | cons hw hws =>
      rw [Json.toTree, Json.itemsToTree] at hright ⊢
      rw [decode_union_items hleft, decode_union_items hright, agrees_string hw]
      refine Option.bind_congr fun label _ => Option.bind_congr fun c hc => ?_
      have hread := Member.readPositional?_denotes (hms c (List.mem_of_find?_eq_some hc)) hws
      exact congrArg _ (hread c.start)
  | obj members =>
    obtain ⟨r, r', ms, rfl, rfl, rfl, hkeys, hentries⟩ := hv.obj
    have halike := Tree.alike_arranged hkeys hentries
    rw [Json.ofMembers_eq, Json.toTree] at hright ⊢
    rcases halike.lookup tag with ⟨hno, hno'⟩ | ⟨t, w, htag, htag', hw⟩
    · rw [decode_union_untagged hno, decode_union_untagged hno']
    · rw [decode_union_tagged hleft htag, decode_union_tagged hright htag', agrees_string hw]
      refine Option.bind_congr fun label _ => Option.bind_congr fun c hc => ?_
      exact congrArg _ (Member.readMembers?_alike (hms c (List.mem_of_find?_eq_some hc))
        (halike.without tag) c.start)
  | _ =>
    rw [hv.toTree_eq (by simp) (by simp)]
    cases room <;> cases room' <;> rfl

end JsonCodec

namespace Member

variable {A α : Type} {name : String} {c : JsonCodec α}

@[simp]
theorem agrees_required {get : A → α} {set : α → A → A} (h : c.Agrees) :
    (required name c get set).Agrees :=
  h

@[simp]
theorem agrees_defaulted {default : α} {get : A → α} {set : α → A → A} (h : c.Agrees) :
    (defaulted name c default get set).Agrees :=
  h

@[simp]
theorem agrees_optional {get : A → Option α} {set : Option α → A → A} (h : c.Agrees) :
    (optional name c get set).Agrees :=
  JsonCodec.agrees_nullable h

end Member

/-! ## Types -/

/-- A type whose reader sees no more of a tree than the value that it denotes. -/
class Agreeing (α : Type) [JsonValue α] : Prop where
  agrees : (JsonValue.codec : JsonCodec α).Agrees

section Instances

open JsonCodec

@[simp]
theorem agrees {α : Type} [JsonValue α] [Agreeing α] : (JsonValue.codec : JsonCodec α).Agrees :=
  Agreeing.agrees

instance : Agreeing String := ⟨agrees_string⟩
instance : Agreeing Bool := ⟨agrees_bool⟩
instance : Agreeing Int32 := ⟨agrees_int32⟩
instance : Agreeing Properties := ⟨agrees_properties⟩
instance {α : Type} [Choice α] : Agreeing α := ⟨agrees_choice⟩
instance {α : Type} [JsonValue α] [Agreeing α] : Agreeing (List α) := ⟨agrees_list agrees⟩

instance : Agreeing ConnectablePosition := ⟨agrees_record (by simp [ConnectablePosition.members])⟩
instance : Agreeing TerminalRef := ⟨agrees_record (by simp [TerminalRef.members])⟩
instance : Agreeing InternalConnection := ⟨agrees_record (by simp [InternalConnection.members])⟩
instance : Agreeing ReactiveCapabilityCurvePoint :=
  ⟨agrees_record (by simp [ReactiveCapabilityCurvePoint.members])⟩
instance : Agreeing ReactiveLimits :=
  ⟨agrees_union (by simp [ReactiveLimits.minMaxCase, ReactiveLimits.curveCase,
    MinMaxReactiveLimits.members, ReactiveCapabilityCurve.members])⟩
instance : Agreeing ActivePowerControl := ⟨agrees_record (by simp [ActivePowerControl.members])⟩
instance : Agreeing CoordinatedReactiveControl :=
  ⟨agrees_record (by simp [CoordinatedReactiveControl.members])⟩
instance : Agreeing VoltagePerReactivePowerControl :=
  ⟨agrees_record (by simp [VoltagePerReactivePowerControl.members])⟩
instance : Agreeing TemporaryLimit := ⟨agrees_record (by simp [TemporaryLimit.members])⟩
instance : Agreeing CurrentLimits := ⟨agrees_record (by simp [CurrentLimits.members])⟩
instance : Agreeing TapChangerStep := ⟨agrees_record (by simp [TapChangerStep.members])⟩
instance : Agreeing RatioTapChanger := ⟨agrees_record (by simp [RatioTapChanger.members])⟩
instance : Agreeing PhaseTapChanger := ⟨agrees_record (by simp [PhaseTapChanger.members])⟩
instance : Agreeing Leg := ⟨agrees_record (by simp [Leg.members])⟩
instance : Agreeing ShuntCompensatorSection :=
  ⟨agrees_record (by simp [ShuntCompensatorSection.members])⟩
instance : Agreeing ShuntCompensatorModel :=
  ⟨agrees_union (by simp [ShuntCompensatorModel.linearCase, ShuntCompensatorModel.nonLinearCase,
    LinearShuntModel.members, NonLinearShuntModel.members])⟩
instance : Agreeing DanglingLineGeneration :=
  ⟨agrees_record (by simp [DanglingLineGeneration.members])⟩
instance : Agreeing HvdcAngleDroopActivePowerControl :=
  ⟨agrees_record (by simp [HvdcAngleDroopActivePowerControl.members])⟩
instance : Agreeing HvdcOperatorActivePowerRange :=
  ⟨agrees_record (by simp [HvdcOperatorActivePowerRange.members])⟩
instance : Agreeing CgmesSvMetadata := ⟨agrees_record (by simp [CgmesSvMetadata.members])⟩
instance : Agreeing CgmesSshMetadata := ⟨agrees_record (by simp [CgmesSshMetadata.members])⟩
instance : Agreeing CimCharacteristics := ⟨agrees_record (by simp [CimCharacteristics.members])⟩

end Instances

/-! ## Columns -/

/-- A type and how its values are held in a column. -/
structure JsonColumn where
  Value : Type
  codec : ColumnCodec Value

/-- The types whose values are held as JSON. -/
def jsonColumns : List JsonColumn :=
  [⟨List String, inferInstance⟩, ⟨List Int32, inferInstance⟩, ⟨Properties, inferInstance⟩,
   ⟨ConnectablePosition, inferInstance⟩, ⟨TerminalRef, inferInstance⟩,
   ⟨List InternalConnection, inferInstance⟩, ⟨ReactiveLimits, inferInstance⟩,
   ⟨ActivePowerControl, inferInstance⟩, ⟨CoordinatedReactiveControl, inferInstance⟩,
   ⟨VoltagePerReactivePowerControl, inferInstance⟩, ⟨CurrentLimits, inferInstance⟩,
   ⟨RatioTapChanger, inferInstance⟩, ⟨PhaseTapChanger, inferInstance⟩, ⟨Leg, inferInstance⟩,
   ⟨ShuntCompensatorModel, inferInstance⟩, ⟨DanglingLineGeneration, inferInstance⟩,
   ⟨HvdcAngleDroopActivePowerControl, inferInstance⟩, ⟨HvdcOperatorActivePowerRange, inferInstance⟩,
   ⟨CgmesSvMetadata, inferInstance⟩, ⟨CgmesSshMetadata, inferInstance⟩,
   ⟨CimCharacteristics, inferInstance⟩]

theorem JsonCodec.Agrees.ofColumn_text {α : Type} {c : JsonCodec α} (hc : c.Agrees)
    (type : ColumnType) {text : String} {v : Json} (hv : Json.ofText? text = some v)
    (hdistinct : ∀ t, Tree.ofText? text = some t → t.Distinct) :
    (ColumnCodec.ofJson type c).ofColumn (.text text)
      = (ColumnCodec.ofJson type c).ofColumn (.json v) := by
  obtain ⟨t, ht, htv⟩ := Option.bind_eq_some_iff.1 hv
  have hread : c.ofText? text = c.ofJson? v := by
    rw [JsonCodec.ofText?, ht]
    exact hc ⟨htv, hdistinct t ht, Nat.le_refl _⟩
  unfold ColumnCodec.ofColumn
  dsimp only [ColumnCodec.ofJson]
  rw [hread]

namespace JsonColumn

/-- Each of the columns holds JSON, and its reader sees no more than values. -/
theorem exists_codec : ∀ c ∈ jsonColumns, ∃ (α : Type) (type : ColumnType) (codec : JsonCodec α),
    c = ⟨α, .ofJson type codec⟩ ∧ codec.Agrees ∧ (type = .list ∨ type = .json) := by
  simp only [jsonColumns, List.forall_mem_cons, List.not_mem_nil, false_implies, implies_true,
    and_true]
  refine ⟨⟨_, .list, JsonValue.codec, rfl, agrees, .inl rfl⟩,
    ⟨_, .list, JsonValue.codec, rfl, agrees, .inl rfl⟩, ?_⟩
  repeat' apply And.intro
  all_goals exact ⟨_, .json, JsonValue.codec, rfl, agrees, .inr rfl⟩

/-- A column takes the text of a document in which no object repeats a key as it takes the value
that the text denotes, so as it takes what a row's cell with the text is read as, and as it takes
every other text of the value. -/
theorem ofColumn_text_eq_json {c : JsonColumn} (hc : c ∈ jsonColumns) {text : String} {v : Json}
    (hv : Json.ofText? text = some v) (hdistinct : ∀ t, Tree.ofText? text = some t → t.Distinct) :
    c.codec.ofColumn (.text text) = c.codec.ofColumn (.json v) ∧
      (∀ table name, ((Cell.text text).fetch table ⟨name, c.codec.columnType⟩).map c.codec.ofColumn
        = .ok (c.codec.ofColumn (.text text))) ∧
      ∀ text', Json.ofText? text' = some v →
        (∀ t, Tree.ofText? text' = some t → t.Distinct) →
          c.codec.ofColumn (.text text') = c.codec.ofColumn (.text text) := by
  obtain ⟨α, type, codec, rfl, hagrees, htype⟩ := exists_codec c hc
  have htext := hagrees.ofColumn_text type hv hdistinct
  refine ⟨htext, fun table name => ?_, fun text' hv' hdistinct' => ?_⟩
  · have hfetch : (Cell.text text).fetch table ⟨name, type⟩ = .ok (.json v) := by
      rcases htype with rfl | rfl <;> simp [Cell.fetch, hv]
    show ((Cell.text text).fetch table ⟨name, type⟩).map _ = _
    rw [hfetch, htext]
    rfl
  · exact (hagrees.ofColumn_text type hv' hdistinct').trans htext.symm

/-- Blanks, an escape and the order of the members make no difference. -/
theorem ofColumn_text_eq_json_position :
    let c : JsonColumn := ⟨ConnectablePosition, inferInstance⟩
    let text := " \x7b\"label\" : \"\\u0061\",\n\"direction\":\"TOP\"\x7d"
    let v : Json := .obj [("direction", .str "TOP"), ("label", .str "a")]
    c ∈ jsonColumns ∧ Json.ofText? text = some v ∧
      (∀ t, Tree.ofText? text = some t → t.Distinct) ∧
      c.codec.ofColumn (.text text) = c.codec.ofColumn (.json v) ∧
      c.codec.ofColumn (.json v)
        = .ok { label := "a", order := none, direction := .top : ConnectablePosition } := by
  intro c text v
  have hc : c ∈ jsonColumns := .tail _ (.tail _ (.tail _ (.head _)))
  have htree : Tree.ofText? text = some (.obj [(some "label", .str (some "a")),
      (some "direction", .str (some "TOP"))]) := by cbv
  have hv : Json.ofText? text = some v := by
    rw [Json.ofText?, htree]
    rfl
  have hdistinct : ∀ t, Tree.ofText? text = some t → t.Distinct := by
    rw [htree]
    rintro _ ⟨⟩
    simp [Tree.Distinct, Tree.DistinctMembers]
  exact ⟨hc, hv, hdistinct, (ofColumn_text_eq_json hc hv hdistinct).1, rfl⟩

end JsonColumn

end GridStore
