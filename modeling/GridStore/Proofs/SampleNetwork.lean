import GridStore.Proofs.Digits
import GridStore.Proofs.Lookups
import GridStore.Seed.Sample

/-!
# The sample network

Every id of the sample is made of letters, a number, and what stands after it, and can be taken
apart again (`NumberedId.text_injective`). So no two resources have the same id, of whatever kinds
they are (`nodup_ids`), and ids are short enough to be valid for any number of substations that the
program counts (`valid_ids`). What the resources are in is in the sample too (`connected`).
-/

namespace GridStore.Sample

/-! ## Numbered ids -/

/-- An id with a number in it: no digit stands before the number, and none right after it. -/
@[ext]
structure NumberedId where
  letters : String
  number : Nat
  rest : String
  noDigit_letters : ∀ c ∈ letters.toList, c.isDigit = false
  noDigit_rest : NoDigit rest.toList

namespace NumberedId

/-- The id. -/
def text (i : NumberedId) : String :=
  i.letters ++ toString i.number ++ i.rest

theorem toList_text (i : NumberedId) :
    i.text.toList = i.letters.toList ++ (Nat.toDigits 10 i.number ++ i.rest.toList) := by
  rw [text, String.toList_append, String.toList_append, Nat.toString_eq_repr, Nat.toList_repr,
    List.append_assoc]

/-- The letters are what stands before the first digit. -/
theorem span_letters (i : NumberedId) :
    i.text.toList.takeWhile (!·.isDigit) = i.letters.toList ∧
      i.text.toList.dropWhile (!·.isDigit) = Nat.toDigits 10 i.number ++ i.rest.toList := by
  have hletters : ∀ c ∈ i.letters.toList, (!c.isDigit) = true := by
    simpa using i.noDigit_letters
  obtain ⟨d, ds, hdigits, hd⟩ := exists_toDigits_eq_cons i.number
  rw [toList_text, List.takeWhile_append_of_pos hletters, List.dropWhile_append_of_pos hletters,
    hdigits, List.cons_append]
  simp [hd]

/-- The parts can be read back from the id. -/
theorem text_injective : Function.Injective text := by
  intro i j h
  obtain ⟨hi, hi'⟩ := i.span_letters
  obtain ⟨hj, hj'⟩ := j.span_letters
  rw [h] at hi hi'
  have hdigits := congrArg spanDigits (hi'.symm.trans hj')
  rw [spanDigits_append isDigit_of_mem_toDigits i.noDigit_rest,
    spanDigits_append isDigit_of_mem_toDigits j.noDigit_rest, Prod.mk.injEq] at hdigits
  refine NumberedId.ext (String.toList_inj.1 (hi.symm.trans hj)) ?_ (String.toList_inj.1 hdigits.2)
  rw [← digitsValue_toDigits i.number, hdigits.1, digitsValue_toDigits]

end NumberedId

/-! ## What the sample is made of -/

/-- The resources of a kind that the sample has. -/
def resources (count : Nat) : (k : EquipmentKind) → List (Resource k.Attributes)
  | .substation => substations count
  | .voltageLevel => voltageLevels count
  | .busbarSection => busbarSections count
  | .switch => breakers count
  | .twoWindingsTransformer => transformers count
  | .generator => generators count
  | .load => loads count
  | .line => lines count
  | _ => []

/-- The resources of a kind that are made for one number. -/
def made : (k : EquipmentKind) → Nat → List (Resource k.Attributes)
  | .substation, n => [substation n]
  | .voltageLevel, n => [voltageLevel n 400, voltageLevel n 225]
  | .busbarSection, n => [busbarSection n]
  | .switch, n => [breaker n]
  | .twoWindingsTransformer, n => [transformer n]
  | .generator, n => [generator n]
  | .load, n => [load n]
  | .line, n => [line n]
  | _, _ => []

/-- How many numbers there are for a kind: a line less than substations. -/
def numbers (count : Nat) (k : EquipmentKind) : Nat :=
  if k = .line then count - 1 else count

theorem numbers_le (count : Nat) (k : EquipmentKind) : numbers count k ≤ count := by
  rw [numbers]
  split <;> omega

theorem resources_eq (count : Nat) (k : EquipmentKind) :
    resources count k = (List.range (numbers count k)).flatMap (made k) := by
  cases k with
  | voltageLevel => rfl
  | substation | busbarSection | switch | generator | load | twoWindingsTransformer | line =>
    exact List.map_eq_flatMap
  | battery | shuntCompensator | vscConverterStation | lccConverterStation | staticVarCompensator
  | threeWindingsTransformer | hvdcLine | danglingLine | configuredBus =>
    exact (List.flatMap_eq_nil_iff.2 fun _ _ => rfl).symm

/-- The parts of the ids that are made for one number. -/
def madeIds : EquipmentKind → Nat → List NumberedId
  | .substation, n => [⟨"S", n, "", by simp, by simp [NoDigit]⟩]
  | .voltageLevel, n =>
    [⟨"S", n, "_400", by simp, by simp [NoDigit]⟩, ⟨"S", n, "_225", by simp, by simp [NoDigit]⟩]
  | .busbarSection, n => [⟨"S", n, "_BBS", by simp, by simp [NoDigit]⟩]
  | .switch, n => [⟨"S", n, "_BRK", by simp, by simp [NoDigit]⟩]
  | .twoWindingsTransformer, n => [⟨"T", n, "", by simp, by simp [NoDigit]⟩]
  | .generator, n => [⟨"G", n, "", by simp, by simp [NoDigit]⟩]
  | .load, n => [⟨"LD", n, "", by simp, by simp [NoDigit]⟩]
  | .line, n => [⟨"L", n, "_" ++ toString (n + 1), by simp, by simp [NoDigit]⟩]
  | _, _ => []

theorem levelId_eq (n : Nat) : levelId n 400 = "S" ++ toString n ++ "_400" ∧
    levelId n 225 = "S" ++ toString n ++ "_225" :=
  ⟨String.append_assoc, String.append_assoc⟩

theorem map_id_made (k : EquipmentKind) (n : Nat) :
    (made k n).map (·.id) = (madeIds k n).map NumberedId.text := by
  cases k with
  | substation => exact congrArg ([·]) String.append_empty.symm
  | voltageLevel =>
    show [levelId n 400, levelId n 225] = _
    rw [(levelId_eq n).1, (levelId_eq n).2]
    rfl
  | busbarSection => rfl
  | switch => rfl
  | twoWindingsTransformer => exact congrArg ([·]) String.append_empty.symm
  | generator => exact congrArg ([·]) String.append_empty.symm
  | load => exact congrArg ([·]) String.append_empty.symm
  | line => exact congrArg ([·]) String.append_assoc
  | battery | shuntCompensator | vscConverterStation | lccConverterStation | staticVarCompensator
  | threeWindingsTransformer | hvdcLine | danglingLine | configuredBus => rfl

/-! ## How much there is -/

/-- How many resources of a kind the sample has. -/
def size (count : Nat) : EquipmentKind → Nat
  | .voltageLevel => 2 * count
  | .line => count - 1
  | .substation | .busbarSection | .switch | .twoWindingsTransformer | .generator | .load => count
  | _ => 0

theorem length_resources (count : Nat) (k : EquipmentKind) :
    (resources count k).length = size count k := by
  have hmap {α : Type} (n : Nat) (f : Nat → α) : ((List.range n).map f).length = n := by
    rw [List.length_map, List.length_range]
  cases k with
  | voltageLevel =>
    show (voltageLevels count).length = 2 * count
    simp [voltageLevels, Nat.mul_comm]
  | substation | busbarSection | switch | twoWindingsTransformer | generator | load | line =>
    exact hmap _ _
  | battery | shuntCompensator | vscConverterStation | lccConverterStation | staticVarCompensator
  | threeWindingsTransformer | hvdcLine | danglingLine | configuredBus => rfl

theorem sum_size (count : Nat) :
    (EquipmentKind.all.map (size count)).sum = 8 * count + (count - 1) := by
  simp only [EquipmentKind.all, List.map_cons, List.map_nil, List.sum_cons, List.sum_nil, size]
  omega

/-! ## Ids are distinct -/

/-- The kind of resource that has an id. -/
def NumberedId.kind (i : NumberedId) : EquipmentKind :=
  if i.letters = "T" then .twoWindingsTransformer
  else if i.letters = "G" then .generator
  else if i.letters = "LD" then .load
  else if i.letters = "L" then .line
  else if i.rest = "" then .substation
  else if i.rest = "_BBS" then .busbarSection
  else if i.rest = "_BRK" then .switch
  else .voltageLevel

theorem nodup_madeIds (k : EquipmentKind) (n : Nat) : (madeIds k n).Nodup := by
  cases k <;> simp [madeIds, NumberedId.ext_iff]

theorem kind_of_mem_madeIds (k : EquipmentKind) (n : Nat) :
    ∀ i ∈ madeIds k n, i.kind = k ∧ i.number = n := by
  cases k <;> simp [madeIds, NumberedId.kind]

theorem nodup_flatMap_of_key {α β : Type} {as : List α} {f : α → List β} (key : β → α)
    (has : as.Nodup) (hf : ∀ a ∈ as, (f a).Nodup) (hkey : ∀ a, ∀ b ∈ f a, key b = a) :
    (as.flatMap f).Nodup := by
  refine List.nodup_flatMap.2 ⟨hf, has.imp fun {a a'} hne b hb hb' => hne ?_⟩
  rw [← hkey a b hb, hkey a' b hb']

theorem map_id_resources (count : Nat) (k : EquipmentKind) : (resources count k).map (·.id)
    = ((List.range (numbers count k)).flatMap (madeIds k)).map NumberedId.text := by
  rw [resources_eq, List.map_flatMap, List.map_flatMap]
  exact List.flatMap_congr fun n _ => map_id_made k n

/-- A text without digits is no such id. -/
theorem NumberedId.text_ne {t : String} (ht : ∀ c ∈ t.toList, c.isDigit = false) (i : NumberedId) :
    i.text ≠ t := by
  rintro rfl
  obtain ⟨d, ds, hdigits, hd⟩ := exists_toDigits_eq_cons i.number
  rw [ht d (by simp [toList_text, hdigits])] at hd
  cases hd

/-- The id of a resource is one of those made for its number. -/
theorem exists_numberedId {count : Nat} {k : EquipmentKind} {r : Resource k.Attributes}
    (hr : r ∈ resources count k) : ∃ n < numbers count k, ∃ i ∈ madeIds k n, i.text = r.id := by
  have hid : r.id ∈ (resources count k).map (·.id) := List.mem_map_of_mem hr
  rw [map_id_resources] at hid
  obtain ⟨i, hi, htext⟩ := List.mem_map.1 hid
  obtain ⟨n, hn, hi⟩ := List.mem_flatMap.1 hi
  exact ⟨n, List.mem_range.1 hn, i, hi, htext⟩

/-- Resources with the same id are of the same kind. -/
theorem kind_eq_of_id_eq {count : Nat} {j k : EquipmentKind} {r : Resource j.Attributes}
    {x : Resource k.Attributes} (hr : r ∈ resources count j) (hx : x ∈ resources count k)
    (hid : r.id = x.id) : j = k := by
  obtain ⟨m, -, i, hi, hitext⟩ := exists_numberedId hr
  obtain ⟨n, -, i', hi', hitext'⟩ := exists_numberedId hx
  obtain rfl : i = i' := NumberedId.text_injective (hitext.trans (hid.trans hitext'.symm))
  exact (kind_of_mem_madeIds j m i hi).1.symm.trans (kind_of_mem_madeIds k n i hi').1

/-- No two resources of the sample have the same id, of whatever kinds they are. -/
theorem nodup_ids (count : Nat) :
    (EquipmentKind.all.flatMap fun k => (resources count k).map (·.id)).Nodup := by
  simp only [map_id_resources]
  rw [← List.map_flatMap]
  refine List.Nodup.map NumberedId.text_injective ?_
  refine nodup_flatMap_of_key NumberedId.kind (by decide) (fun k _ => ?_) fun k i hi => ?_
  · exact nodup_flatMap_of_key NumberedId.number List.nodup_range (fun n _ => nodup_madeIds k n)
      fun n i hi => (kind_of_mem_madeIds k n i hi).2
  · obtain ⟨n, -, hi⟩ := List.mem_flatMap.1 hi
    exact (kind_of_mem_madeIds k n i hi).1

/-- Nor has a resource the id of the network. -/
theorem nodup_network_ids (count : Nat) (u : Uuid) (date : Timestamp) :
    ((network u date).id ::
      EquipmentKind.all.flatMap fun k => (resources count k).map (·.id)).Nodup := by
  refine List.nodup_cons.2 ⟨fun hmem => ?_, nodup_ids count⟩
  obtain ⟨k, -, hmem⟩ := List.mem_flatMap.1 hmem
  obtain ⟨r, hr, hid⟩ := List.mem_map.1 hmem
  obtain ⟨n, -, i, -, htext⟩ := exists_numberedId hr
  exact i.text_ne (by simp [network, Resource.of]) (htext.trans hid)

/-! ## Ids are valid -/

theorem length_toString_le {n : Nat} (h : n ≤ 2 ^ 63) : (toString n).toList.length ≤ 19 := by
  rw [Nat.toString_eq_repr, Nat.toList_repr]
  exact Nat.toDigits_length 10 n 19 (by decide) (by omega)

theorem length_of_mem_madeIds (k : EquipmentKind) {n : Nat} (hn : n < 2 ^ 63) :
    ∀ i ∈ madeIds k n, i.letters.toList.length ≤ 2 ∧ i.rest.toList.length ≤ 20 := by
  have hnext := length_toString_le (Nat.succ_le_of_lt hn)
  cases k <;> simp [madeIds] at hnext ⊢
  omega

/-- An id is not blank, for it has a digit, and it is not too long. -/
theorem NumberedId.valid {i : NumberedId} (hnumber : i.number < 2 ^ 63)
    (hletters : i.letters.toList.length ≤ 2) (hrest : i.rest.toList.length ≤ 20) :
    Validation.resourceId i.text = .ok () := by
  obtain ⟨d, ds, hdigits, hd⟩ := exists_toDigits_eq_cons i.number
  have hblank : ¬ i.text.toList.all isBlank = true := by
    rw [toList_text, hdigits, List.all_append, List.cons_append, List.all_cons,
      isBlank_of_isDigit hd]
    simp
  have hlength : ¬ maxIdLength < i.text.toList.length := by
    have hnum := length_toString_le (Nat.le_of_lt hnumber)
    rw [Nat.toString_eq_repr, Nat.toList_repr] at hnum
    rw [toList_text, List.length_append, List.length_append, maxIdLength]
    omega
  rw [Validation.resourceId, Validation.identifier, if_neg hblank, if_neg hlength]

/-- The ids of the sample are valid. -/
theorem valid_ids {count : Nat} (hcount : count < 2 ^ 63) (k : EquipmentKind) :
    ∀ r ∈ resources count k, Validation.resourceId r.id = .ok () := by
  intro r hr
  obtain ⟨n, hn, i, hi, htext⟩ := exists_numberedId hr
  have hlt : n < 2 ^ 63 :=
    Nat.lt_of_lt_of_le hn ((numbers_le count k).trans (Nat.le_of_lt hcount))
  obtain ⟨hletters, hrest⟩ := length_of_mem_madeIds k hlt i hi
  rw [← htext]
  exact i.valid ((kind_of_mem_madeIds k n i hi).2 ▸ hlt) hletters hrest

theorem valid_network_id (u : Uuid) (date : Timestamp) :
    Validation.resourceId (network u date).id = .ok () := by
  have hdemo : Validation.resourceId "demo" = .ok () := by decide
  exact hdemo

/-! ## Containers -/

theorem exists_of_mem_resources {count : Nat} {k : EquipmentKind} {r : Resource k.Attributes} :
    r ∈ resources count k ↔ ∃ n < numbers count k, r ∈ made k n := by
  rw [resources_eq, List.mem_flatMap]
  simp only [List.mem_range]

theorem substation_mem {count n : Nat} (hn : n < count) : substation n ∈ substations count :=
  List.mem_map_of_mem (List.mem_range.2 hn)

theorem level_mem {count n : Nat} (kv : Nat) (hn : n < count) (hkv : kv = 400 ∨ kv = 225) :
    voltageLevel n kv ∈ voltageLevels count := by
  refine List.mem_flatMap.2 ⟨n, List.mem_range.2 hn, ?_⟩
  rcases hkv with rfl | rfl <;> simp

/-- The levels that the resources made for a number are at. -/
def levelsOf : EquipmentKind → Nat → List (Resource VoltageLevel)
  | .busbarSection, n | .switch, n | .generator, n => [voltageLevel n 400]
  | .load, n => [voltageLevel n 225]
  | .twoWindingsTransformer, n => [voltageLevel n 400, voltageLevel n 225]
  | .line, n => [voltageLevel n 400, voltageLevel (n + 1) 400]
  | _, _ => []

/-- The levels that a resource is at are in the sample. -/
theorem levelsOf_mem {count n : Nat} {k : EquipmentKind} (hn : n < numbers count k) :
    ∀ x ∈ levelsOf k n, x ∈ voltageLevels count := by
  have hlt := Nat.lt_of_lt_of_le hn (numbers_le count k)
  have h400 := level_mem 400 hlt (.inl rfl)
  have h225 := level_mem 225 hlt (.inr rfl)
  cases k with
  | line =>
    have hnext : n + 1 < count := by
      rw [numbers, if_pos rfl] at hn
      omega
    simp [levelsOf, h400, level_mem 400 hnext (.inl rfl)]
  | _ => simp [levelsOf, h400, h225]

theorem containerIds_made {k : EquipmentKind} (hk : k ≠ .voltageLevel) {n : Nat}
    {r : Resource k.Attributes} (hr : r ∈ made k n) :
    k.containerIds r.attributes = (levelsOf k n).map (·.id) := by
  cases k with
  | voltageLevel => exact absurd rfl hk
  | substation | busbarSection | switch | generator | load | twoWindingsTransformer | line =>
    obtain rfl := List.mem_singleton.1 hr
    rfl
  | battery | shuntCompensator | vscConverterStation | lccConverterStation | staticVarCompensator
  | threeWindingsTransformer | hvdcLine | danglingLine | configuredBus =>
    exact absurd hr List.not_mem_nil

/-- The resources of the sample are in each other: the two levels of a number are in the substation
of that number, and all else is at levels of the number that it is made for, but for a line, which
also is at one of the next. -/
structure Connected (count : Nat) : Prop where
  level : ∀ r ∈ voltageLevels count, ∃ n, substation n ∈ substations count ∧
    (r = voltageLevel n 400 ∨ r = voltageLevel n 225) ∧
      r.attributes.substationId = (substation n).id
  other : ∀ k ≠ .voltageLevel, ∀ r ∈ resources count k, ∃ n, r ∈ made k n ∧
    k.containerIds r.attributes = (levelsOf k n).map (·.id) ∧
      ∀ x ∈ levelsOf k n, x ∈ voltageLevels count

theorem connected (count : Nat) : Connected count where
  level r hr := by
    obtain ⟨n, hn, hr⟩ := List.mem_flatMap.1 hr
    simp only [List.mem_cons, List.not_mem_nil, or_false] at hr
    refine ⟨n, substation_mem (List.mem_range.1 hn), hr, ?_⟩
    rcases hr with rfl | rfl <;> rfl
  other k hk r hr := by
    obtain ⟨n, hn, hr⟩ := exists_of_mem_resources.1 hr
    exact ⟨n, hr, containerIds_made hk hr, levelsOf_mem hn⟩

end GridStore.Sample
