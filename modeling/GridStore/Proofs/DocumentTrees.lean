import GridStore.Proofs.Codecs
import Mathlib.Data.List.Forall2

/-!
# Trees and the values they denote

The tree of a document in which no object repeats a key and the tree of the value that it denotes
differ only in the order of members: arrays agree item by item (`Tree.Denotes.arr`), objects member
by member in some order (`Tree.Denotes.obj`), and anything else is the same in both
(`Tree.Denotes.toTree_eq`). So what is looked up in the one by its key is found in the other
(`Tree.alike_arranged`).
-/

namespace GridStore

namespace Tree

/-! ## Trees without repeated keys -/

mutual

/-- No object in the tree has two members with one key. -/
def Distinct : Tree → Prop
  | .arr items => DistinctItems items
  | .obj members => (members.map Prod.fst).Nodup ∧ DistinctMembers members
  | _ => True

/-- Arrays of such trees. -/
def DistinctItems : List Tree → Prop
  | [] => True
  | item :: items => Distinct item ∧ DistinctItems items

/-- Members with such trees. -/
def DistinctMembers : List (Option String × Tree) → Prop
  | [] => True
  | (_, value) :: members => Distinct value ∧ DistinctMembers members

end

/-- A tree without repeated keys denotes a value where there is `room`, and the value's own tree fits
`room'`, which is what its reader is given. -/
structure Denotes (room room' : Nat) (t : Tree) (v : Json) : Prop where
  toJson : t.toJson? room = some v
  distinct : t.Distinct
  depth_le : v.depth ≤ room'

variable {room room' : Nat} {t : Tree} {v : Json} {items : List Tree} {vs : List Json}
  {entries : List (Option String × Tree)} {ms : List (String × Json)}

theorem denotes_items (h : itemsToJson? room items = some vs) (hd : DistinctItems items)
    (hdepth : Json.depthItems vs ≤ room') : List.Forall₂ (Denotes room room') items vs := by
  induction items generalizing vs with
  | nil =>
    obtain rfl := Option.some.inj h
    exact .nil
  | cons item items ih =>
    simp only [itemsToJson?, Option.bind_eq_bind, Option.bind_eq_some_iff, Option.some.injEq] at h
    obtain ⟨w, hw, ws, hws, rfl⟩ := h
    have hle := max_le_iff.1 hdepth
    exact .cons ⟨hw, hd.1, hle.1⟩ (ih hws hd.2 hle.2)

theorem keys_membersToJson? (h : membersToJson? room entries = some ms) :
    entries.map Prod.fst = (ms.map Prod.fst).map some := by
  induction entries generalizing ms with
  | nil =>
    obtain rfl := Option.some.inj h
    rfl
  | cons e entries ih =>
    simp only [membersToJson?, Option.bind_eq_bind, Option.bind_eq_some_iff, Option.some.injEq] at h
    obtain ⟨key, hkey, w, -, ws, hws, rfl⟩ := h
    simp [ih hws, hkey]

theorem denotes_members (h : membersToJson? room entries = some ms) (hd : DistinctMembers entries)
    (hdepth : ∀ e ∈ ms, e.2.depth ≤ room') :
    List.Forall₂ (fun e m => e.1 = some m.1 ∧ Denotes room room' e.2 m.2) entries ms := by
  induction entries generalizing ms with
  | nil =>
    obtain rfl := Option.some.inj h
    exact .nil
  | cons e entries ih =>
    simp only [membersToJson?, Option.bind_eq_bind, Option.bind_eq_some_iff, Option.some.injEq] at h
    obtain ⟨key, hkey, w, hw, ws, hws, rfl⟩ := h
    rw [List.forall_mem_cons] at hdepth
    exact .cons ⟨hkey, hw, hd.1, hdepth.1⟩ (ih hws hd.2 hdepth.2)

namespace Denotes

/-! ## What a tree with a value is -/

theorem toTree_eq (h : Denotes room room' t v) (harr : ∀ items, t ≠ .arr items)
    (hobj : ∀ members, t ≠ .obj members) : v.toTree = t := by
  have hjson := h.toJson
  cases t with
  | null =>
    obtain rfl := Option.some.inj hjson
    rfl
  | bool b =>
    obtain rfl := Option.some.inj hjson
    rfl
  | num n =>
    obtain ⟨n, rfl, rfl⟩ := Option.map_eq_some_iff.1 hjson
    rfl
  | str s =>
    obtain ⟨s, rfl, rfl⟩ := Option.map_eq_some_iff.1 hjson
    rfl
  | arr items => exact absurd rfl (harr items)
  | obj members => exact absurd rfl (hobj members)

theorem arr (h : Denotes room room' (.arr items) v) :
    ∃ r r' vs, room = r + 1 ∧ room' = r' + 1 ∧ v = .arr vs ∧
      List.Forall₂ (Denotes r r') items vs := by
  obtain ⟨hjson, hd, hdepth⟩ := h
  rcases room with _ | r
  · simp [toJson?] at hjson
  obtain ⟨vs, hvs, rfl⟩ := Option.map_eq_some_iff.1 hjson
  rcases room' with _ | r'
  · exact absurd hdepth (Nat.not_succ_le_zero _)
  exact ⟨r, r', vs, rfl, rfl, rfl, denotes_items hvs hd (Nat.le_of_succ_le_succ hdepth)⟩

theorem obj (h : Denotes room room' (.obj entries) v) :
    ∃ r r' ms, room = r + 1 ∧ room' = r' + 1 ∧ v = .ofMembers ms ∧ (ms.map Prod.fst).Nodup ∧
      List.Forall₂ (fun e m => e.1 = some m.1 ∧ Denotes r r' e.2 m.2) entries ms := by
  obtain ⟨hjson, hd, hdepth⟩ := h
  rcases room with _ | r
  · simp [toJson?] at hjson
  obtain ⟨ms, hms, rfl⟩ := Option.map_eq_some_iff.1 hjson
  have hkeys : (ms.map Prod.fst).Nodup := by
    have hentries := hd.1
    rw [keys_membersToJson? hms] at hentries
    exact hentries.of_map some
  rcases room' with _ | r'
  · exact absurd hdepth (Nat.not_succ_le_zero _)
  exact ⟨r, r', ms, rfl, rfl, rfl, hkeys,
    denotes_members hms hd.2 ((Member.depth_ofMembers_le_iff hkeys).1 hdepth)⟩

theorem null_iff (h : Denotes room room' t v) : t = .null ↔ v.toTree = .null := by
  cases t with
  | arr items =>
    obtain ⟨r, r', vs, -, -, rfl, -⟩ := h.arr
    simp [Json.toTree]
  | obj members =>
    obtain ⟨r, r', ms, -, -, rfl, -⟩ := h.obj
    simp [Json.toTree, Json.ofMembers]
  | _ => rw [h.toTree_eq (by simp) (by simp)]

end Denotes

end Tree

namespace Json

mutual

/-- The tree of a value that fits the room denotes something. -/
theorem isSome_toJson?_toTree : ∀ {v : Json} {room : Nat}, v.depth ≤ room →
    (v.toTree.toJson? room).isSome
  | .null, _, _ | .bool _, _, _ | .num _, _, _ | .str _, _, _ => rfl
  | .arr items, 0, h | .obj members, 0, h => absurd h (Nat.not_succ_le_zero _)
  | .arr items, room + 1, h => by
    have hitems := isSome_itemsToJson?_toTree (Nat.le_of_succ_le_succ h)
    simpa [toTree, Tree.toJson?] using hitems
  | .obj members, room + 1, h => by
    have hmembers := isSome_membersToJson?_toTree (Nat.le_of_succ_le_succ h)
    simpa [toTree, Tree.toJson?] using hmembers

theorem isSome_itemsToJson?_toTree : ∀ {items : List Json} {room : Nat},
    depthItems items ≤ room → (Tree.itemsToJson? room (itemsToTree items)).isSome
  | [], _, _ => rfl
  | item :: items, room, h => by
    have hle := max_le_iff.1 h
    obtain ⟨v, hv⟩ := Option.isSome_iff_exists.1 (isSome_toJson?_toTree hle.1)
    obtain ⟨vs, hvs⟩ := Option.isSome_iff_exists.1 (isSome_itemsToJson?_toTree hle.2)
    simp [itemsToTree, Tree.itemsToJson?, hv, hvs]

theorem isSome_membersToJson?_toTree : ∀ {members : List (String × Json)} {room : Nat},
    depthMembers members ≤ room → (Tree.membersToJson? room (membersToTree members)).isSome
  | [], _, _ => rfl
  | (key, value) :: members, room, h => by
    have hle := max_le_iff.1 h
    obtain ⟨v, hv⟩ := Option.isSome_iff_exists.1 (isSome_toJson?_toTree hle.1)
    obtain ⟨vs, hvs⟩ := Option.isSome_iff_exists.1 (isSome_membersToJson?_toTree hle.2)
    simp [membersToTree, Tree.membersToJson?, hv, hvs]

end

end Json

namespace Tree

variable {room room' : Nat} {entries : List (Option String × Tree)} {ms : List (String × Json)}

/-! ## Looking up members -/

/-- Members found in one list under a key are found in the other, as the value that they denote. -/
structure Alike (room room' : Nat) (entries entries' : List (Option String × Tree)) : Prop where
  keys : ∀ e ∈ entries, e.1.isSome
  keys' : ∀ e ∈ entries', e.1.isSome
  lookup : ∀ key : String,
    (entries.filter (fun e => e.1 = some key) = [] ∧
        entries'.filter (fun e => e.1 = some key) = []) ∨
      ∃ t v, entries.filter (fun e => e.1 = some key) = [(some key, t)] ∧
        entries'.filter (fun e => e.1 = some key) = [(some key, v.toTree)] ∧ Denotes room room' t v

/-- Of members with different keys at most one has a given key. -/
theorem filter_key (hkeys : (ms.map Prod.fst).Nodup) (key : String) :
    ms.filter (fun e => e.1 = key) = [] ∨ ∃ v, ms.filter (fun e => e.1 = key) = [(key, v)] := by
  induction ms with
  | nil => exact .inl rfl
  | cons e ms ih =>
    rw [List.map_cons, List.nodup_cons] at hkeys
    by_cases hkey : e.1 = key
    · subst hkey
      have hrest : ms.filter (fun m => m.1 = e.1) = [] := by
        rw [List.filter_eq_nil_iff]
        intro m hm hname
        exact hkeys.1 (List.mem_map.2 ⟨m, hm, of_decide_eq_true hname⟩)
      rw [List.filter_cons_of_pos (by simp), hrest]
      exact .inr ⟨e.2, rfl⟩
    · rw [List.filter_cons_of_neg (by simpa using hkey)]
      exact ih hkeys.2

theorem alike_arranged (hkeys : (ms.map Prod.fst).Nodup)
    (h : List.Forall₂ (fun e m => e.1 = some m.1 ∧ Denotes room room' e.2 m.2) entries ms) :
    Alike room room' entries (Json.membersToTree (Json.arranged ms)) where
  keys := by
    have hkeyed : List.Forall₂ (fun e m => e.1.isSome ∧ e.1 = some m.1) entries ms :=
      h.imp fun e m hem => ⟨by rw [hem.1, Option.isSome_some], hem.1⟩
    exact ((List.forall₂_and_left _ _).1 hkeyed).1
  keys' := Member.isSome_of_mem_membersToTree
  lookup key := by
    have hfilter : List.Forall₂ (fun e m => e.1 = some m.1 ∧ Denotes room room' e.2 m.2)
        (entries.filter fun e => e.1 = some key) (ms.filter fun m => m.1 = key) :=
      List.rel_filter (fun e m hem => by simp [hem.1]) h
    have hperm := (Json.arranged_perm hkeys).filter fun m => m.1 = key
    rw [Json.filter_membersToTree]
    rcases filter_key hkeys key with hnone | ⟨v, hone⟩
    · rw [hnone] at hfilter hperm
      rw [List.forall₂_nil_right_iff.1 hfilter, List.perm_nil.1 hperm]
      exact .inl ⟨rfl, rfl⟩
    · rw [hone] at hfilter hperm
      obtain ⟨e, es, ⟨hkey, hv⟩, hes, heq⟩ := List.forall₂_cons_right_iff.1 hfilter
      rw [List.forall₂_nil_right_iff.1 hes] at heq
      rw [heq, List.perm_singleton.1 hperm]
      exact .inr ⟨e.2, v, by rw [← hkey], rfl, hv⟩

/-- Lists without the members of one key are still alike. -/
theorem Alike.without {entries' : List (Option String × Tree)}
    (h : Alike room room' entries entries') (tag : String) :
    Alike room room' (entries.filter (not ∘ fun e => e.1 = some tag))
      (entries'.filter (not ∘ fun e => e.1 = some tag)) where
  keys e he := h.keys e (List.mem_filter.1 he).1
  keys' e he := h.keys' e (List.mem_filter.1 he).1
  lookup key := by
    by_cases hkey : key = tag
    · have hnone (es : List (Option String × Tree)) :
          (es.filter (not ∘ fun e => e.1 = some tag)).filter (fun e => e.1 = some key) = [] := by
        simp [List.filter_filter, hkey]
      exact .inl ⟨hnone entries, hnone entries'⟩
    · rw [JsonCodec.filter_others hkey, JsonCodec.filter_others hkey]
      exact h.lookup key

end Tree

end GridStore
