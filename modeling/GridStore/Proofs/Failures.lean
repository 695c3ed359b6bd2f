import GridStore.Proofs.Statements

/-!
# Why statements fail

A result fails with errors of a sort if it can fail with no others (`FailsWith`). Statements fail
with errors of the backend only: their table is missing, or a row would share a key with another
(`failsWith_insert`, `failsWith_update`, `failsWith_delete`, `failsWith_copy`).
-/

namespace GridStore

/-- Errors of the backend and of the connections to it. -/
def StoreError.OfBackend : StoreError → Prop
  | uniqueViolation .. | connectionFailed _ | queryFailed _ | poolExhausted => True
  | _ => False

/-- A result that fails, if it does, with an error of a sort. -/
def FailsWith {ε α : Type} (E : ε → Prop) (x : Except ε α) : Prop :=
  ∀ e, x = .error e → E e

section FailsWith

variable {ε α β : Type} {E : ε → Prop}

theorem failsWith_ok (a : α) : FailsWith E (.ok a) := by
  rintro e ⟨⟩

theorem failsWith_error {e : ε} (h : E e) : FailsWith E (.error e : Except ε α) := by
  rintro _ ⟨⟩
  exact h

theorem FailsWith.bind {x : Except ε α} {f : α → Except ε β} (hx : FailsWith E x)
    (hf : ∀ a, FailsWith E (f a)) : FailsWith E (x >>= f) := by
  rcases x with e | a
  · exact failsWith_error (hx e rfl)
  · exact hf a

theorem failsWith_foldlM {f : β → α → Except ε β} (hf : ∀ b a, FailsWith E (f b a)) :
    ∀ (as : List α) (b : β), FailsWith E (as.foldlM f b)
  | [], b => failsWith_ok b
  | a :: as, b => by
    rw [List.foldlM_cons]
    exact (hf b a).bind fun b' => failsWith_foldlM hf as b'

theorem failsWith_mapM {f : α → Except ε β} (hf : ∀ a, FailsWith E (f a)) :
    ∀ as : List α, FailsWith E (as.mapM f)
  | [] => failsWith_ok []
  | a :: as => by
    rw [List.mapM_cons]
    exact (hf a).bind fun _ => (failsWith_mapM hf as).bind fun _ => failsWith_ok _

end FailsWith

/-! ## Keys -/

namespace Table

theorem failsWith_check (k : Kind) (others : List Row) (r : Row) :
    FailsWith StoreError.OfBackend (check k others r) := by
  unfold check
  split
  · exact failsWith_error trivial
  · exact failsWith_ok _

theorem failsWith_insertRow (k : Kind) (rows : List Row) (r : Row) :
    FailsWith StoreError.OfBackend (insertRow k rows r) :=
  (failsWith_check k rows r).bind fun _ => failsWith_ok _

theorem failsWith_updateRows {k : Kind} {p : Row → Bool} {f : Row → Row} :
    ∀ before rows, FailsWith StoreError.OfBackend (updateRows k p f before rows)
  | _, [] => failsWith_ok _
  | before, r :: rest => by
    rw [updateRows]
    split
    · exact (failsWith_check k _ (f r)).bind fun _ =>
        (failsWith_updateRows _ rest).bind fun _ => failsWith_ok _
    · exact (failsWith_updateRows _ rest).bind fun _ => failsWith_ok _

end Table

/-! ## Statements -/

namespace Tables

variable (ts : Tables) (k : Kind) (p : Row → Bool) (f : Row → Row)

theorem failsWith_existing : FailsWith StoreError.OfBackend (ts.existing k) := by
  unfold existing
  split
  · exact failsWith_ok _
  · exact failsWith_error trivial

theorem failsWith_insert (r : Row) : FailsWith StoreError.OfBackend (ts.insert k r) :=
  (failsWith_existing ts k).bind fun rows =>
    (Table.failsWith_insertRow k rows r).bind fun _ => failsWith_ok _

theorem failsWith_update : FailsWith StoreError.OfBackend (ts.update k p f) :=
  (failsWith_existing ts k).bind fun rows =>
    (Table.failsWith_updateRows [] rows).bind fun _ => failsWith_ok _

theorem failsWith_delete : FailsWith StoreError.OfBackend (ts.delete k p) :=
  (failsWith_existing ts k).bind fun _ => failsWith_ok _

theorem failsWith_copy : FailsWith StoreError.OfBackend (ts.copy k p f) :=
  (failsWith_existing ts k).bind fun rows =>
    (failsWith_foldlM (Table.failsWith_insertRow k) _ rows).bind fun _ => failsWith_ok _

end Tables

end GridStore
