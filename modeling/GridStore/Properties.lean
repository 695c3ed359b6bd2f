import GridStore.Json.Basic

/-!
# Properties

Free-form texts attached to a resource under names of their own, in increasing order of the names.
-/

namespace GridStore

theorem forall_mem_insertByKey {α : Type} {P : String × α → Prop} {key : String} {value : α}
    {entries : List (String × α)} (h : P (key, value)) (hs : ∀ e ∈ entries, P e) :
    ∀ e ∈ insertByKey key value entries, P e := by
  induction entries with
  | nil => simpa [insertByKey] using h
  | cons e rest ih =>
    obtain ⟨k, v⟩ := e
    simp only [List.mem_cons, forall_eq_or_imp] at hs
    simp only [insertByKey]
    split
    · simp only [List.mem_cons, forall_eq_or_imp]
      exact ⟨h, hs.1, hs.2⟩
    · split
      · simp only [List.mem_cons, forall_eq_or_imp]
        exact ⟨h, hs.2⟩
      · simp only [List.mem_cons, forall_eq_or_imp]
        exact ⟨hs.1, ih hs.2⟩

/-- The entries stand in increasing order of their keys, each key once. -/
def SortedByKey {α : Type} (entries : List (String × α)) : Prop :=
  entries.Pairwise fun a b => a.1 < b.1

theorem SortedByKey.insertByKey {α : Type} {entries : List (String × α)} (key : String) (value : α)
    (h : SortedByKey entries) : SortedByKey (insertByKey key value entries) := by
  induction entries with
  | nil => simp [GridStore.insertByKey, SortedByKey]
  | cons e rest ih =>
    obtain ⟨k, v⟩ := e
    simp only [SortedByKey, List.pairwise_cons] at h
    simp only [GridStore.insertByKey]
    split
    · rename_i hlt
      refine List.pairwise_cons.2 ⟨?_, List.pairwise_cons.2 h⟩
      simp only [List.mem_cons, forall_eq_or_imp]
      exact ⟨hlt, fun e he => String.lt_trans hlt (h.1 e he)⟩
    · rename_i hlt
      split
      · rename_i heq
        subst heq
        exact List.pairwise_cons.2 h
      · rename_i hne
        have hgt : k < key :=
          String.not_le.1 fun hle => hne (String.le_antisymm hle (String.not_lt.1 hlt))
        exact List.pairwise_cons.2
          ⟨forall_mem_insertByKey (P := fun e => k < e.1) hgt h.1, ih h.2⟩

/-- Texts under names. -/
@[ext]
structure Properties where
  entries : List (String × String)
  sorted : SortedByKey entries

namespace Properties

/-- No properties. -/
def empty : Properties :=
  ⟨[], List.Pairwise.nil⟩

instance : Inhabited Properties := ⟨empty⟩

instance : BEq Properties := ⟨fun a b => a.entries == b.entries⟩

/-- Sets a property. -/
def insert (key value : String) (p : Properties) : Properties :=
  ⟨insertByKey key value p.entries, p.sorted.insertByKey key value⟩

/-- The properties set one after the other; the last of several with one name counts. -/
def ofList (entries : List (String × String)) : Properties :=
  entries.foldl (fun p (key, value) => p.insert key value) empty

end Properties

end GridStore
