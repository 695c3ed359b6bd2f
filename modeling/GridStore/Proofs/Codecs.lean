import GridStore.Json.Member
import GridStore.Proofs.JsonText

/-!
# Codecs that restore what they write

`JsonCodec.Restores c depth a` says that `c` writes `a` as a value that a document can hold, nested
no deeper than `depth`, and reads `a` back from it. Scalars, lists and properties restore their
values, a record does where its members do (`restores_record`), and a union where its cases do
(`restores_union`).
-/

namespace GridStore

/-! ## Parts of a value -/

namespace Json

theorem storableItems_iff {items : List Json} : StorableItems items ↔ ∀ v ∈ items, v.Storable := by
  induction items with
  | nil => simp [StorableItems]
  | cons item items ih => simp [StorableItems, ih]

theorem storableMembers_iff {members : List (String × Json)} :
    StorableMembers members ↔ ∀ e ∈ members, e.2.Storable := by
  induction members with
  | nil => simp [StorableMembers]
  | cons e members ih => simp [StorableMembers, ih]

theorem depthItems_le_iff {items : List Json} {d : Nat} :
    depthItems items ≤ d ↔ ∀ v ∈ items, v.depth ≤ d := by
  induction items with
  | nil => simp [depthItems]
  | cons item items ih => simp [depthItems, ih]

theorem depthMembers_le_iff {members : List (String × Json)} {d : Nat} :
    depthMembers members ≤ d ↔ ∀ e ∈ members, e.2.depth ≤ d := by
  induction members with
  | nil => simp [depthMembers]
  | cons e members ih => simp [depthMembers, ih]

theorem itemsToTree_eq_map (items : List Json) : itemsToTree items = items.map toTree := by
  induction items with
  | nil => rfl
  | cons item items ih => rw [itemsToTree, ih, List.map_cons]

theorem membersToTree_eq_map (members : List (String × Json)) :
    membersToTree members = members.map fun e => (some e.1, e.2.toTree) := by
  induction members with
  | nil => rfl
  | cons e members ih => rw [membersToTree, ih, List.map_cons]

theorem toTree_ne_null {v : Json} (h : v ≠ .null) : v.toTree ≠ .null := by
  cases v with
  | null => exact absurd rfl h
  | _ => simp [toTree]

end Json

namespace Binary64

theorem ofNonFiniteText?_of_nonFiniteText? :
    ∀ {x : Binary64} {word : String}, x.nonFiniteText? = some word →
      ofNonFiniteText? word = some x
  | .nan, _, rfl => rfl
  | .infinite false, _, rfl => rfl
  | .infinite true, _, rfl => rfl

theorem isFinite_of_nonFiniteText? : ∀ {x : Binary64}, x.nonFiniteText? = none → x.isFinite
  | .infinite false, h => by simp [nonFiniteText?] at h
  | .infinite true, h => by simp [nonFiniteText?] at h
  | .finite .., _ => rfl

end Binary64

/-- A type whose labels are told apart. -/
class LawfulChoice (α : Type) [Choice α] : Prop where
  ofLabel?_label : ∀ a : α, Choice.ofLabel? (Choice.label a) = some a

namespace JsonCodec

variable {α : Type} {c : JsonCodec α} {d : Nat}

/-- A value is written as something other than null that a document can hold, and read back. -/
structure Restores (c : JsonCodec α) (d : Nat) (a : α) : Prop where
  storable : (c.encode a).Storable
  depth_le : (c.encode a).depth ≤ d
  ne_null : c.encode a ≠ .null
  decode : ∀ room, (c.encode a).depth ≤ room → c.decode room (c.encode a).toTree = some a

theorem Restores.ofJson? {a : α} (h : c.Restores d a) : c.ofJson? (c.encode a) = some a :=
  h.decode _ (Nat.le_refl _)

/-! ## Scalars -/

@[simp]
theorem restores_string (s : String) : string.Restores d s :=
  ⟨trivial, Nat.zero_le d, by simp [string], fun _ _ => rfl⟩

@[simp]
theorem restores_bool (b : Bool) : bool.Restores d b :=
  ⟨trivial, Nat.zero_le d, by simp [bool], fun _ _ => rfl⟩

@[simp]
theorem restores_int32 (n : Int32) : int32.Restores d n := by
  have hlo : Int32.minValue.toInt ≤ n.toInt := n.minValue_le_toInt
  have hhi : n.toInt ≤ Int32.maxValue.toInt := n.toInt_le
  refine ⟨?_, Nat.zero_le d, by simp [int32, Json.int], fun room _ => ?_⟩
  · have hmin : Int32.minValue.toInt = -0x80000000 := rfl
    have hmax : Int32.maxValue.toInt = 0x7fffffff := rfl
    show -0x8000000000000000 ≤ n.toInt ∧ n.toInt < 0x10000000000000000
    omega
  · show (if Int32.minValue.toInt ≤ n.toInt ∧ n.toInt ≤ Int32.maxValue.toInt then
      some (Int32.ofInt n.toInt) else none) = some n
    rw [if_pos ⟨hlo, hhi⟩, Int32.ofInt_toInt]

/-- Every double is restored, the ones beyond the finite too. -/
@[simp]
theorem restores_lossless (x : Binary64) : lossless.Restores d x := by
  cases hword : x.nonFiniteText? with
  | none =>
    have hencode : lossless.encode x = .num (.float x) := by simp [lossless, hword, Json.float]
    refine ⟨?_, ?_, ?_, fun room _ => ?_⟩
    all_goals rw [hencode]
    · exact Binary64.isFinite_of_nonFiniteText? hword
    · exact Nat.zero_le d
    · simp
    · rfl
  | some word =>
    have hencode : lossless.encode x = .str word := by simp [lossless, hword]
    refine ⟨?_, ?_, ?_, fun room _ => ?_⟩
    all_goals rw [hencode]
    · trivial
    · exact Nat.zero_le d
    · simp
    · exact Binary64.ofNonFiniteText?_of_nonFiniteText? hword

@[simp]
theorem restores_choice [Choice α] [LawfulChoice α] (a : α) : choice.Restores d a :=
  ⟨trivial, Nat.zero_le d, by simp [choice], fun _ _ => LawfulChoice.ofLabel?_label a⟩

/-! ## Collections -/

theorem mapM_map_eq_some {β : Type} {f : β → Option α} {g : α → β} {as : List α}
    (h : ∀ a ∈ as, f (g a) = some a) : (as.map g).mapM f = some as := by
  induction as with
  | nil => rfl
  | cons a as ih =>
    rw [List.forall_mem_cons] at h
    rw [List.map_cons, List.mapM_cons, h.1, ih h.2]
    rfl

theorem restores_list {as : List α} (h : ∀ a ∈ as, c.Restores d a) : (list c).Restores (d + 1) as := by
  have hdepth (room : Nat) : Json.depthItems (as.map c.encode) ≤ room ↔
      ∀ a ∈ as, (c.encode a).depth ≤ room := by
    simp [Json.depthItems_le_iff]
  refine ⟨?_, ?_, by simp [list], fun room hroom => ?_⟩
  · exact Json.storableItems_iff.2 (by simpa using fun a ha => (h a ha).storable)
  · exact Nat.succ_le_succ ((hdepth d).2 fun a ha => (h a ha).depth_le)
  · rcases room with _ | room
    · exact absurd hroom (Nat.not_succ_le_zero _)
    · have hfit := (hdepth room).1 (Nat.le_of_succ_le_succ hroom)
      simp only [list, Json.toTree, Json.itemsToTree_eq_map, List.map_map]
      exact mapM_map_eq_some fun a ha => (h a ha).decode room (hfit a ha)

theorem Properties.foldl_insert (entries : List (String × String)) (p : Properties) :
    (entries.foldl (fun p (key, value) => p.insert key value) p).entries
      = entries.foldl (fun sorted (key, value) => insertByKey key value sorted) p.entries := by
  induction entries generalizing p with
  | nil => rfl
  | cons e entries ih => exact ih _

theorem Properties.ofList_entries (p : Properties) : Properties.ofList p.entries = p := by
  apply Properties.ext
  have hfold := @Json.foldl_insertByKey String [] p.entries p.sorted
  rw [Properties.ofList, Properties.foldl_insert]
  exact hfold

@[simp]
theorem restores_properties (p : Properties) : properties.Restores (d + 1) p := by
  refine ⟨⟨?_, ?_⟩, ?_, by simp [properties], fun room hroom => ?_⟩
  · exact List.pairwise_map.2 p.sorted
  · exact Json.storableMembers_iff.2 (List.forall_mem_map.2 fun e _ => trivial)
  · exact Nat.succ_le_succ (Json.depthMembers_le_iff.2 (List.forall_mem_map.2 fun e _ => Nat.zero_le d))
  · rcases room with _ | room
    · exact absurd hroom (Nat.not_succ_le_zero _)
    · have hentries : (p.entries.map fun e => (some e.1, Tree.str (some e.2))).mapM (property? room)
          = some p.entries := mapM_map_eq_some fun e _ => rfl
      simp only [properties, Json.toTree, Json.membersToTree_eq_map, List.map_map]
      show (List.mapM (property? room) (p.entries.map fun e => (some e.1, Tree.str (some e.2)))).map _ = _
      rw [hentries, Option.map_some, Properties.ofList_entries]

end JsonCodec

/-! ## Members of an object -/

namespace Member

variable {A : Type} {d : Nat}

/-- A field is written as a value that a document can hold, and read back; where it is left out it
is what a missing member stands for. -/
structure Restores (m : Member A) (d : Nat) (a : A) : Prop where
  absent : m.encode (m.get a) = none → m.absent = some (m.get a)
  storable : ∀ j ∈ m.encode (m.get a), j.Storable
  depth_le : ∀ j ∈ m.encode (m.get a), j.depth ≤ d
  decode : ∀ j ∈ m.encode (m.get a), ∀ room, j.depth ≤ room →
    m.decode room j.toTree = some (m.get a)

section Kinds

variable {α : Type} {name : String} {c : JsonCodec α}

@[simp]
theorem name_required {get : A → α} {set : α → A → A} : (required name c get set).name = name :=
  rfl

@[simp]
theorem name_defaulted {default : α} {get : A → α} {set : α → A → A} :
    (defaulted name c default get set).name = name :=
  rfl

@[simp]
theorem name_optional {get : A → Option α} {set : Option α → A → A} :
    (optional name c get set).name = name :=
  rfl

@[simp]
theorem restores_required {get : A → α} {set : α → A → A} {a : A} (h : c.Restores d (get a)) :
    (required name c get set).Restores d a := by
  refine ⟨by simp [required], ?_, ?_, ?_⟩
  all_goals
    rintro j hj
    obtain rfl : c.encode (get a) = j := Option.some.inj hj
  · exact h.storable
  · exact h.depth_le
  · exact h.decode

@[simp]
theorem restores_defaulted {default : α} {get : A → α} {set : α → A → A} {a : A}
    (h : c.Restores d (get a)) : (defaulted name c default get set).Restores d a := by
  have hrequired : (required name c get set).Restores d a := restores_required h
  exact ⟨by simp [defaulted, required], hrequired.storable, hrequired.depth_le, hrequired.decode⟩

@[simp]
theorem restores_optional {get : A → Option α} {set : Option α → A → A} {a : A}
    (h : ∀ v ∈ get a, c.Restores d v) : (optional name c get set).Restores d a := by
  cases hget : get a with
  | none =>
    have hencode : (optional name c get set).encode ((optional name c get set).get a) = none := by
      simp [optional, hget]
    refine ⟨fun _ => ?_, ?_, ?_, ?_⟩
    · simp [optional, hget]
    all_goals simp [hencode]
  | some v =>
    have hv : c.Restores d v := h v hget
    have hencode : (optional name c get set).encode ((optional name c get set).get a)
        = some (c.encode v) := by
      simp [optional, hget]
    refine ⟨by simp [hencode], ?_, ?_, ?_⟩
    all_goals
      rw [hencode]
      rintro j hj
      obtain rfl : c.encode v = j := Option.some.inj hj
    · exact hv.storable
    · exact hv.depth_le
    · intro room hroom
      have htree := Json.toTree_ne_null hv.ne_null
      simp only [optional, JsonCodec.nullable, hget]
      rw [hv.decode room hroom]
      rfl

end Kinds

end Member

/-! ## The members of an object in order -/

namespace Json

/-- The members of an object in the order in which it holds them. -/
def arranged (members : List (String × Json)) : List (String × Json) :=
  members.foldl (fun sorted (key, value) => insertByKey key value sorted) []

theorem ofMembers_eq (members : List (String × Json)) : ofMembers members = .obj (arranged members) :=
  rfl

theorem insertByKey_perm {key : String} {value : Json} :
    ∀ {members : List (String × Json)}, key ∉ members.map Prod.fst →
      (insertByKey key value members).Perm ((key, value) :: members)
  | [], _ => List.Perm.refl _
  | (k, v) :: members, h => by
    simp only [List.map_cons, List.mem_cons, not_or] at h
    rw [insertByKey]
    by_cases hlt : key < k
    · rw [if_pos hlt]
    · rw [if_neg hlt, if_neg h.1]
      exact ((insertByKey_perm h.2).cons (k, v)).trans (List.Perm.swap _ _ _)

theorem foldl_insertByKey_perm : ∀ {members before : List (String × Json)},
    ((members ++ before).map Prod.fst).Nodup →
      (members.foldl (fun sorted (key, value) => insertByKey key value sorted) before).Perm
        (members ++ before)
  | [], _, _ => List.Perm.refl _
  | (key, value) :: members, before, h => by
    have hperm : (insertByKey key value before).Perm ((key, value) :: before) := by
      refine insertByKey_perm fun hkey => ?_
      rw [List.cons_append, List.map_cons, List.nodup_cons] at h
      exact h.1 (by rw [List.map_append]; exact List.mem_append_right _ hkey)
    have hmove : (members ++ insertByKey key value before).Perm ((key, value) :: members ++ before) :=
      (hperm.append_left members).trans List.perm_middle
    have hrest := foldl_insertByKey_perm ((hmove.map Prod.fst).nodup_iff.2 h)
    exact hrest.trans hmove

theorem arranged_perm {members : List (String × Json)} (h : (members.map Prod.fst).Nodup) :
    (arranged members).Perm members := by
  have hperm := @foldl_insertByKey_perm members [] (by rwa [List.append_nil])
  rwa [List.append_nil] at hperm

theorem sortedByKey_foldl : ∀ (members : List (String × Json)) {before : List (String × Json)},
    SortedByKey before →
      SortedByKey (members.foldl (fun sorted (key, value) => insertByKey key value sorted) before)
  | [], _, h => h
  | (key, value) :: members, _, h => sortedByKey_foldl members (h.insertByKey key value)

theorem sortedByKey_arranged (members : List (String × Json)) : SortedByKey (arranged members) :=
  sortedByKey_foldl members List.Pairwise.nil

/-- The entries of an object's tree under a key are the members with that key. -/
theorem filter_membersToTree (members : List (String × Json)) (key : String) :
    (membersToTree members).filter (fun e => e.1 = some key)
      = (members.filter fun e => e.1 = key).map fun e => (some e.1, e.2.toTree) := by
  rw [membersToTree_eq_map, List.filter_map]
  congr 2
  funext e
  simp

end Json

/-! ## Records -/

namespace Member

variable {A : Type} {a : A} {d room : Nat} {members : List (Member A)}

/-- What is written of a record's members. -/
def written (members : List (Member A)) (a : A) : List (String × Json) :=
  members.filterMap (·.write? a)

theorem keys_written_sublist (members : List (Member A)) (a : A) :
    ((written members a).map Prod.fst).Sublist (members.map (·.name)) := by
  induction members with
  | nil => exact List.Sublist.slnil
  | cons m members ih =>
    unfold written at ih ⊢
    rw [List.filterMap_cons]
    unfold write?
    cases m.encode (m.get a) with
    | none => exact ih.cons _
    | some j => exact ih.cons_cons _

theorem mem_written {e : String × Json} (he : e ∈ written members a) :
    ∃ m ∈ members, e.1 = m.name ∧ e.2 ∈ m.encode (m.get a) := by
  obtain ⟨m, hm, hw⟩ := List.mem_filterMap.1 he
  obtain ⟨j, hj, rfl⟩ := Option.map_eq_some_iff.1 hw
  exact ⟨m, hm, rfl, hj⟩

/-- Under the name of a member stands what it is written as. -/
theorem filter_written (hnames : (members.map (·.name)).Nodup) {m : Member A} (hm : m ∈ members) :
    (written members a).filter (fun e => e.1 = m.name) = (m.write? a).toList := by
  induction members with
  | nil => simp at hm
  | cons x members ih =>
    rw [List.map_cons, List.nodup_cons] at hnames
    have hsplit : written (x :: members) a = (x.write? a).toList ++ written members a := by
      unfold written
      rw [List.filterMap_cons]
      cases x.write? a <;> rfl
    have hkey : ∀ e ∈ (x.write? a).toList, e.1 = x.name := by
      intro e he
      obtain ⟨j, -, rfl⟩ := Option.map_eq_some_iff.1 (Option.mem_toList.1 he)
      rfl
    rw [hsplit, List.filter_append]
    rcases List.mem_cons.1 hm with rfl | hm
    · -- no later member has the name of the first
      have hrest : (written members a).filter (fun e => e.1 = m.name) = [] := by
        rw [List.filter_eq_nil_iff]
        intro e he hname
        obtain ⟨y, hy, hkey, -⟩ := mem_written he
        rw [of_decide_eq_true hname] at hkey
        exact hnames.1 (hkey ▸ List.mem_map_of_mem hy)
      have hfirst : ((m.write? a).toList).filter (fun e => e.1 = m.name) = (m.write? a).toList :=
        List.filter_eq_self.2 fun e he => decide_eq_true (hkey e he)
      rw [hfirst, hrest, List.append_nil]
    · have hne : x.name ≠ m.name := fun heq => hnames.1 (heq ▸ List.mem_map_of_mem hm)
      have hfirst : ((x.write? a).toList).filter (fun e => e.1 = m.name) = [] :=
        List.filter_eq_nil_iff.2 fun e he hname => hne ((hkey e he).symm.trans (of_decide_eq_true hname))
      rw [hfirst, List.nil_append]
      exact ih hnames.2 hm

/-- What a member is read as from what it is written as. -/
def reread (m : Member A) (room : Nat) (a : A) : Option m.Value :=
  match m.encode (m.get a) with
  | none => m.absent
  | some j => m.decode room j.toTree

theorem Restores.reread {m : Member A} (h : m.Restores d a)
    (hroom : ∀ j ∈ m.encode (m.get a), j.depth ≤ room) : m.reread room a = some (m.get a) := by
  unfold Member.reread
  split
  · rename_i hwritten
    exact h.absent hwritten
  · rename_i j hwritten
    exact h.decode j hwritten room (hroom j hwritten)

/-- A member is read where its name stands for what it is written as, and once. -/
theorem readNamed?_of_filter {m : Member A} {entries : List (Option String × Tree)}
    (hentries : entries.filter (fun e => e.1 = some m.name)
      = (m.write? a).toList.map fun e => (some e.1, e.2.toTree)) (b : A) :
    readNamed? room entries b m = (m.reread room a).map (m.set · b) := by
  unfold readNamed? Member.reread
  rw [hentries]
  cases hwritten : m.encode (m.get a) with
  | none =>
    have hnone : m.write? a = none := by simp [write?, hwritten]
    rw [hnone]
    rfl
  | some j =>
    have hsome : m.write? a = some (m.name, j) := by simp [write?, hwritten]
    rw [hsome]
    rfl

/-- The members of a record set one after the other to what they are read as. -/
def rereadAll (members : List (Member A)) (room : Nat) (a b : A) : Option A :=
  members.foldlM (fun b m => (m.reread room a).map (m.set · b)) b

theorem readMembers?_of_filter {entries : List (Option String × Tree)}
    (hkeys : ∀ e ∈ entries, e.1.isSome)
    (hentries : ∀ m ∈ members, entries.filter (fun e => e.1 = some m.name)
      = (m.write? a).toList.map fun e => (some e.1, e.2.toTree)) (b : A) :
    readMembers? room members entries b = rereadAll members room a b := by
  unfold readMembers? rereadAll
  rw [if_pos (List.all_eq_true.2 hkeys)]
  clear hkeys
  induction members generalizing b with
  | nil => rfl
  | cons m members ih =>
    rw [List.forall_mem_cons] at hentries
    rw [List.foldlM_cons, List.foldlM_cons, readNamed?_of_filter hentries.1]
    exact congrArg _ (funext fun b => ih hentries.2 b)

theorem rereadAll_of_restores (hmembers : ∀ m ∈ members, m.Restores d a)
    (hroom : ∀ m ∈ members, ∀ j ∈ m.encode (m.get a), j.depth ≤ room) (b : A) :
    rereadAll members room a b = some (members.foldl (fun b m => m.set (m.get a) b) b) := by
  induction members generalizing b with
  | nil => rfl
  | cons m members ih =>
    rw [List.forall_mem_cons] at hmembers hroom
    rw [rereadAll, List.foldlM_cons, hmembers.1.reread hroom.1]
    exact ih hmembers.2 hroom.2 _

theorem write?_mem_written {m : Member A} (hm : m ∈ members) {j : Json} (hj : j ∈ m.encode (m.get a)) :
    (m.name, j) ∈ written members a := by
  refine List.mem_filterMap.2 ⟨m, hm, ?_⟩
  rw [write?, Option.mem_def.1 hj]
  rfl

theorem filter_arranged {ms : List (String × Json)} (hkeys : (ms.map Prod.fst).Nodup) {m : Member A}
    (h : ms.filter (fun e => e.1 = m.name) = (m.write? a).toList) :
    (Json.membersToTree (Json.arranged ms)).filter (fun e => e.1 = some m.name)
      = (m.write? a).toList.map fun e => (some e.1, e.2.toTree) := by
  have hperm := (Json.arranged_perm hkeys).filter fun e => e.1 = m.name
  rw [h] at hperm
  rw [Json.filter_membersToTree]
  congr 1
  cases hw : m.write? a with
  | none =>
    rw [hw] at hperm
    exact List.perm_nil.1 hperm
  | some e =>
    rw [hw] at hperm
    exact List.perm_singleton.1 hperm

theorem isSome_of_mem_membersToTree {ms : List (String × Json)} :
    ∀ e ∈ Json.membersToTree ms, e.1.isSome := by
  rw [Json.membersToTree_eq_map]
  exact List.forall_mem_map.2 fun _ _ => rfl

theorem storableMembers_arranged {ms : List (String × Json)} (hkeys : (ms.map Prod.fst).Nodup)
    (h : ∀ e ∈ ms, e.2.Storable) : (Json.ofMembers ms).Storable := by
  refine ⟨Json.sortedByKey_arranged ms, Json.storableMembers_iff.2 fun e he => h e ?_⟩
  exact (Json.arranged_perm hkeys).mem_iff.1 he

theorem depth_ofMembers_le_iff {ms : List (String × Json)} (hkeys : (ms.map Prod.fst).Nodup) :
    (Json.ofMembers ms).depth ≤ d + 1 ↔ ∀ e ∈ ms, e.2.depth ≤ d := by
  show Json.depthMembers (Json.arranged ms) + 1 ≤ d + 1 ↔ _
  rw [Nat.succ_le_succ_iff, Json.depthMembers_le_iff]
  exact ⟨fun h e he => h e ((Json.arranged_perm hkeys).mem_iff.2 he),
    fun h e he => h e ((Json.arranged_perm hkeys).mem_iff.1 he)⟩

end Member

namespace JsonCodec

variable {A : Type} {a : A} {d : Nat}

open Member

/-- A record is read as what its members are read as. -/
theorem decode_record {members : List (Member A)} {start : A} {room : Nat}
    (hnames : (members.map (·.name)).Nodup) (a : A) :
    (record members start).decode (room + 1) ((record members start).encode a).toTree
      = rereadAll members room a start := by
  have hkeys : ((written members a).map Prod.fst).Nodup := hnames.sublist (keys_written_sublist members a)
  exact readMembers?_of_filter isSome_of_mem_membersToTree
    (fun m hm => filter_arranged hkeys (filter_written hnames hm)) start

/-- A record restores a value whose members are restored, if setting them all makes the value. -/
theorem restores_record {members : List (Member A)} {start : A}
    (hnames : (members.map (·.name)).Nodup) (hmembers : ∀ m ∈ members, m.Restores d a)
    (hcover : members.foldl (fun b m => m.set (m.get a) b) start = a) :
    (record members start).Restores (d + 1) a := by
  have hkeys : ((written members a).map Prod.fst).Nodup := hnames.sublist (keys_written_sublist members a)
  refine ⟨?_, ?_, by simp [record, Json.ofMembers], fun room hroom => ?_⟩
  · refine storableMembers_arranged hkeys fun e he => ?_
    obtain ⟨m, hm, -, hj⟩ := mem_written he
    exact (hmembers m hm).storable _ hj
  · refine (depth_ofMembers_le_iff hkeys).2 fun e he => ?_
    obtain ⟨m, hm, -, hj⟩ := mem_written he
    exact (hmembers m hm).depth_le _ hj
  · rcases room with _ | room
    · exact absurd hroom (Nat.not_succ_le_zero _)
    have hfit := (depth_ofMembers_le_iff hkeys).1 hroom
    have hread := rereadAll_of_restores hmembers
      (fun m hm j hj => hfit _ (write?_mem_written hm hj)) start
    rw [hcover] at hread
    exact (decode_record hnames a).trans hread

/-! ## Unions -/

theorem filter_others {α : Type} {key tag : String} (h : key ≠ tag) (es : List (Option String × α)) :
    (es.filter (not ∘ fun e => e.1 = some tag)).filter (fun e => e.1 = some key)
      = es.filter fun e => e.1 = some key := by
  rw [List.filter_filter]
  refine List.filter_congr fun e _ => ?_
  by_cases hkey : e.1 = some key <;> simp [hkey, h]

theorem nodup_keys_tagged {tag : String} {members : List (Member A)}
    (hnames : (tag :: members.map (·.name)).Nodup) (a : A) (label : Json) :
    (((tag, label) :: written members a).map Prod.fst).Nodup := by
  rw [List.nodup_cons] at hnames
  have hsublist := keys_written_sublist members a
  exact List.nodup_cons.2 ⟨fun h => hnames.1 (hsublist.subset h), hnames.2.sublist hsublist⟩

theorem filter_tagged {tag : String} {label : Json} {ms : List (String × Json)}
    (hkeys : (((tag, label) :: ms).map Prod.fst).Nodup) :
    (Json.membersToTree (Json.arranged ((tag, label) :: ms))).filter (fun e => e.1 = some tag)
      = [(some tag, label.toTree)] := by
  have hperm := (Json.arranged_perm hkeys).filter fun e => e.1 = tag
  have hrest : ms.filter (fun e => e.1 = tag) = [] := by
    rw [List.map_cons, List.nodup_cons] at hkeys
    rw [List.filter_eq_nil_iff]
    intro e he htag
    exact hkeys.1 (List.mem_map.2 ⟨e, he, of_decide_eq_true htag⟩)
  rw [List.filter_cons_of_pos (by simp), hrest] at hperm
  rw [Json.filter_membersToTree, List.perm_singleton.1 hperm]
  rfl

theorem decode_union {tag label : String} {cases : List (Case A)} {c : Case A} {room : Nat}
    {entries : List (Option String × Tree)} {v : Json}
    (hjson : (Tree.obj entries).toJson? (room + 1) = some v)
    (htag : entries.filter (fun e => e.1 = some tag) = [(some tag, .str (some label))])
    (hfind : cases.find? (·.label = label) = some c) :
    (union tag cases).decode (room + 1) (.obj entries)
      = c.readMembers? room (entries.filter (not ∘ fun e => e.1 = some tag)) := by
  simp [union, hjson, htag, hfind]

/-- A union restores a value of a case whose members are restored. -/
theorem restores_union {tag : String} {cases : List (Case A)} {c : Case A} {p : c.Payload}
    (hfirst : cases.findSome? (·.write? tag a) = c.write? tag a)
    (hfind : cases.find? (·.label = c.label) = some c) (hproject : c.project a = some p)
    (hinject : c.inject p = a) (hnames : (tag :: c.members.map (·.name)).Nodup)
    (hmembers : ∀ m ∈ c.members, m.Restores d p)
    (hcover : c.members.foldl (fun b m => m.set (m.get p) b) c.start = p) :
    (union tag cases).Restores (d + 1) a := by
  have hkeys := nodup_keys_tagged hnames p (.str c.label)
  rw [List.nodup_cons] at hnames
  generalize hms : (tag, Json.str c.label) :: written c.members p = ms at hkeys
  have hwrite : c.write? tag a = some (.ofMembers ((tag, .str c.label) :: written c.members p)) := by
    rw [Case.write?, hproject]
    rfl
  have hencode : (union tag cases).encode a = .ofMembers ms := by
    show (cases.findSome? _).getD _ = _
    rw [hfirst, hwrite, hms]
    rfl
  have hmem : ∀ e ∈ ms, e.2 = .str c.label ∨ ∃ m ∈ c.members, e.2 ∈ m.encode (m.get p) := by
    rw [← hms]
    intro e he
    rcases List.mem_cons.1 he with rfl | he
    · exact .inl rfl
    · obtain ⟨m, hm, -, hj⟩ := mem_written he
      exact .inr ⟨m, hm, hj⟩
  have hstorable : (Json.ofMembers ms).Storable := by
    refine storableMembers_arranged hkeys fun e he => ?_
    rcases hmem e he with hlabel | ⟨m, hm, hj⟩
    · rw [hlabel]
      trivial
    · exact (hmembers m hm).storable _ hj
  have hdepth : (Json.ofMembers ms).depth ≤ d + 1 := by
    refine (depth_ofMembers_le_iff hkeys).2 fun e he => ?_
    rcases hmem e he with hlabel | ⟨m, hm, hj⟩
    · rw [hlabel]
      exact Nat.zero_le d
    · exact (hmembers m hm).depth_le _ hj
  refine ⟨by rwa [hencode], by rwa [hencode], by simp [hencode, Json.ofMembers], fun room hroom => ?_⟩
  rw [hencode] at hroom ⊢
  rcases room with _ | room
  · exact absurd hroom (Nat.not_succ_le_zero _)
  · have hjson := Json.toJson?_toTree _ _ hstorable hroom
    have hfit := (depth_ofMembers_le_iff hkeys).1 hroom
    rw [Json.ofMembers_eq, Json.toTree] at hjson ⊢
    have htag : (Json.membersToTree (Json.arranged ms)).filter (fun e => e.1 = some tag)
        = [(some tag, .str (some c.label))] := by
      rw [← hms] at hkeys ⊢
      exact filter_tagged hkeys
    have hothers : ∀ m ∈ c.members,
        ((Json.membersToTree (Json.arranged ms)).filter (not ∘ fun e => e.1 = some tag)).filter
          (fun e => e.1 = some m.name) = (m.write? p).toList.map fun e => (some e.1, e.2.toTree) := by
      intro m hm
      have hne : tag ≠ m.name := fun heq => hnames.1 (heq ▸ List.mem_map_of_mem hm)
      have hms' : ms.filter (fun e => e.1 = m.name) = (m.write? p).toList := by
        rw [← hms, List.filter_cons_of_neg (by simpa using hne)]
        exact filter_written hnames.2 hm
      rw [filter_others hne.symm, filter_arranged hkeys hms']
    have hread := rereadAll_of_restores hmembers
      (fun m hm j hj => hfit (m.name, j) (hms ▸ List.mem_cons_of_mem _ (write?_mem_written hm hj)))
      c.start
    rw [← readMembers?_of_filter
      (fun e he => isSome_of_mem_membersToTree e (List.mem_filter.1 he).1) hothers] at hread
    rw [decode_union hjson htag hfind, Case.readMembers?, hread, hcover, Option.map_some, hinject]

end JsonCodec

end GridStore
