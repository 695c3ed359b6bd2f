import GridStore.Proofs.Holding
import GridStore.Proofs.Related
import GridStore.Proofs.Requests
import GridStore.Proofs.Steps

/-!
# Writing in batches and one by one

A request that writes a list of resources takes a connection for each batch of them, and one write
after the other. What it leaves and answers is what comes of as many single writes, each on a
connection of its own, up to the first that fails (`Request.InBatches.alike`): writes leave the pool
as it is, so a connection that was there for the first write of a batch is there for the others.
The size of batches does not matter.
-/

namespace GridStore

namespace Call

variable {α β : Type}

/-! ## Connections -/

/-- After a call that leaves the pool as it is there still is a connection. -/
theorem alike_acquire_again {c : Call α} (hc : Keeps Store.pool c) (g : α → Call β) :
    Alike (acquire >>= fun _ => c >>= fun a => acquire >>= fun _ => g a)
      (acquire >>= fun _ => c >>= g) := by
  intro s
  rcases hs : (acquire s).result with e | ⟨⟩
  · rw [(bind_of_error hs _).1, (bind_of_error hs _).2, (bind_of_error hs _).1,
      (bind_of_error hs _).2]
    exact ⟨rfl, rfl⟩
  rw [(bind_of_ok hs _).1, (bind_of_ok hs _).2, (bind_of_ok hs _).1, (bind_of_ok hs _).2,
    store_acquire]
  rcases ha : (c s).result with e | a
  · rw [(bind_of_error ha _).1, (bind_of_error ha _).2, (bind_of_error ha _).1,
      (bind_of_error ha _).2]
    exact ⟨rfl, rfl⟩
  · have hagain : (acquire (c s).store).result = .ok () :=
      (result_acquire_congr (hc s)).trans hs
    rw [(bind_of_ok ha _).1, (bind_of_ok ha _).2, (bind_of_ok ha _).1, (bind_of_ok ha _).2,
      (bind_of_ok hagain _).1, (bind_of_ok hagain _).2, store_acquire]
    exact ⟨rfl, rfl⟩

/-! ## Sums of what calls answer -/

/-- Calls one after the other, until one fails, and the sum of their answers. -/
def total (c : α → Call Nat) : List α → Call Nat
  | [] => pure 0
  | a :: as => do
    let n ← c a
    let rest ← total c as
    return n + rest

variable {c d : α → Call Nat}

theorem total_append (c : α → Call Nat) (as bs : List α) :
    total c (as ++ bs) = (do
      let m ← total c as
      let n ← total c bs
      return m + n) := by
  induction as with
  | nil => simp only [List.nil_append, total, pure_bind, Nat.zero_add, bind_pure]
  | cons a as ih => simp only [List.cons_append, total, ih, bind_assoc, pure_bind, Nat.add_assoc]

theorem total_map (c : β → Call Nat) (f : α → β) (as : List α) :
    total c (as.map f) = total (fun a => c (f a)) as := by
  induction as with
  | nil => rfl
  | cons a as ih => rw [List.map_cons, total, ih, total]

theorem foldlM_eq_total_add (c : α → Call Nat) (as : List α) (n : Nat) :
    as.foldlM (fun sum a => do return sum + (← c a)) n = (do return n + (← total c as)) := by
  induction as generalizing n with
  | nil => simp only [List.foldlM_nil, total, pure_bind, Nat.add_zero]
  | cons a as ih => simp only [List.foldlM_cons, total, ih, bind_assoc, pure_bind, Nat.add_assoc]

theorem foldlM_eq_total (c : α → Call Nat) (as : List α) :
    as.foldlM (fun sum a => do return sum + (← c a)) 0 = total c as := by
  simp only [foldlM_eq_total_add, Nat.zero_add, bind_pure]

theorem forM_eq_total (c : α → Call Unit) (as : List α) :
    as.forM c = (do let _ ← total (fun a => c a >>= fun _ => pure 0) as) := by
  induction as with
  | nil => rfl
  | cons a as ih =>
    show (c a >>= fun _ => as.forM c) = _
    simp only [total, ih, bind_assoc, pure_bind]

theorem Alike.total (h : ∀ a, Alike (c a) (d a)) : ∀ as, Alike (total c as) (total d as)
  | [] => refl _
  | a :: as => (h a).bind fun _ => (Alike.total h as).bind fun _ => refl _

theorem Respects.total {R : Store → Store → Prop} : ∀ {as : List α}, (∀ a ∈ as, Respects R (c a)) →
    Respects R (total c as)
  | [], _ => respects_pure 0
  | a :: as, h => by
    rw [List.forall_mem_cons] at h
    exact h.1.bind fun _ => (Respects.total h.2).bind fun _ => respects_pure _

/-- Calls that leave the pool as it is share a connection. -/
theorem alike_total_cons (hc : ∀ a, Keeps Store.pool (c a)) : ∀ (a : α) (as : List α),
    Alike (acquire >>= fun _ => total c (a :: as))
      (total (fun a => acquire >>= fun _ => c a) (a :: as))
  | a, [] => by
    simp only [total, bind_assoc]
    exact .refl _
  | a, b :: as => by
    have hshared := alike_acquire_again (hc a) fun n => do
      let rest ← total c (b :: as)
      return n + rest
    refine hshared.symm.trans ?_
    simp only [total, bind_assoc]
    refine (Alike.refl _).bind fun _ => (Alike.refl _).bind fun n => ?_
    have hrest := (alike_total_cons hc b as).bind fun rest => Alike.refl (pure (n + rest))
    simpa only [total, bind_assoc] using hrest

/-- Calls in batches, on a connection for each batch, are like calls one by one. -/
theorem alike_total_batches (hc : ∀ a, Keeps Store.pool (c a)) {batch : List α × Nat → Call Nat}
    (hbatch : ∀ x, Alike (batch x) (acquire >>= fun _ => total c x.1)) (size : Nat) (as : List α) :
    ∀ index, Alike (total batch ((batches size as).zipIdx index))
      (total (fun a => acquire >>= fun _ => c a) as) := by
  fun_induction batches size as with
  | case1 => exact fun _ => .refl _
  | case2 a as ih =>
    intro index
    rw [List.zipIdx_cons]
    have happend := total_append (fun a => acquire >>= fun _ => c a) (a :: as.take (size - 1))
      (as.drop (size - 1))
    rw [List.cons_append, List.take_append_drop] at happend
    rw [happend, total]
    refine ((hbatch _).trans (alike_total_cons hc _ _)).bind fun n => ?_
    exact (ih (index + 1)).bind fun rest => .refl _

end Call

namespace Store

open Call

variable {α : Type}

theorem alike_sumBatches {c : α → Call Nat} (hc : ∀ a, Keeps pool (c a))
    {f : List α → Nat → Call Nat}
    (hf : ∀ batch index, Alike (f batch index) (acquire >>= fun _ => total c batch))
    (items : List α) :
    Alike (sumBatches items f) (total (fun a => acquire >>= fun _ => c a) items) := by
  intro s
  unfold sumBatches
  rw [view_bind]
  have hfold := foldlM_eq_total (fun x : List α × Nat => f x.1 x.2)
    (batches s.batchSize items).zipIdx
  rw [hfold]
  exact alike_total_batches hc (fun x => hf x.1 x.2) _ _ 0 s

theorem alike_forBatches {c : α → Call Unit} (hc : ∀ a, Keeps pool (c a))
    {f : List α → Nat → Call Unit}
    (hf : ∀ batch index, Alike (f batch index) (acquire >>= fun _ => batch.forM c))
    (items : List α) :
    Alike (forBatches items f)
      (do let _ ← total (fun a => acquire >>= fun _ => c a >>= fun _ => pure 0) items) := by
  intro s
  unfold forBatches
  rw [view_bind]
  have hfor := forM_eq_total (fun x : List α × Nat => f x.1 x.2) (batches s.batchSize items).zipIdx
  rw [hfor]
  refine ((alike_total_batches (fun a => (hc a).bind fun _ => keeps_pure 0) (fun x => ?_)
    _ _ 0).bind fun _ => .refl _) s
  -- a batch answers nothing, so its sum is 0
  have hbatch := (hf x.1 x.2).bind fun _ => Alike.refl (pure 0 : Call Nat)
  rw [forM_eq_total] at hbatch
  simp only [bind_assoc, pure_bind] at hbatch
  refine hbatch.trans ((Alike.refl _).bind fun _ => ?_)
  induction x.1 with
  | nil => exact .refl _
  | cons a as ih =>
    simp only [total, bind_assoc, pure_bind, Nat.zero_add]
    simpa using (Alike.refl (c a)).bind fun _ => ih

end Store

/-! ## Writes of single rows -/

/-- What a request does with one of its resources: it puts a row at the end of a table, or replaces
the one that it finds. -/
inductive RowWrite (k : Kind) where
  | insert (r : Row)
  | replace (p : Row → Bool) (f : Row → Row)
      (hone : ∀ r s, p r = true → p s = true → Table.clash k r s = true)

namespace RowWrite

variable {k : Kind}

/-- The statement that makes the write and says how many rows it replaced. -/
def run : RowWrite k → Tables → Except StoreError (Tables × Nat)
  | insert r, ts => do return (← ts.insert k r, 0)
  | replace p f _, ts => ts.update k p f

/-- Replaces the attributes of an equipment. -/
def update {k : EquipmentKind} (network : Uuid) (r : Resource k.Attributes) :
    RowWrite (.equipment k) :=
  replace (·.isFoundBy network r) (·.updatedBy r) fun _ _ hs ht => Row.clash_of_isFoundBy hs ht

/-- Replaces a network in a variant. -/
def updateNetwork (r : Resource Network) : RowWrite .network :=
  replace (·.isIn r.attributes.uuid r.variantNum) (Store.replaceNetwork r)
    fun _ _ hs ht => Table.clash_of_isIn_network hs ht

end RowWrite

namespace Store

open Call

/-- Writes made one by one, each on a connection of its own. -/
def writeEach {k : Kind} (writes : List (RowWrite k)) : Call Nat :=
  total (fun w => acquire >>= fun _ => execute w.run) writes

theorem alike_insertRow (k : Kind) (r : Row) :
    Alike (insertRow k r >>= fun _ => pure 0) (execute (RowWrite.insert (k := k) r).run) := by
  intro s
  rcases h : s.tables.insert k r with e | ts
  · have hnone : insertRow k r s = fail e s :=
      execute_of_error (show (s.tables.insert k r >>= _) = _ by rw [h]; rfl)
    have hrun : (RowWrite.insert (k := k) r).run s.tables = .error e := by
      show (s.tables.insert k r >>= _) = _
      rw [h]
      rfl
    rw [bind_apply, andThen, hnone, execute_of_error hrun]
    exact ⟨rfl, rfl⟩
  · have hdone : insertRow k r s = answer () { s with tables := ts } :=
      execute_of_ok (show (s.tables.insert k r >>= _) = _ by rw [h]; rfl)
    have hrun : (RowWrite.insert (k := k) r).run s.tables = .ok (ts, 0) := by
      show (s.tables.insert k r >>= _) = _
      rw [h]
      rfl
    rw [bind_apply, andThen, hdone, execute_of_ok hrun]
    exact ⟨rfl, rfl⟩

theorem keeps_pool_insertRow (k : Kind) (r : Row) : Keeps pool (insertRow k r) :=
  keeps_insertRow fun _ _ _ => rfl

theorem alike_report (c : Call Nat) (e : Event) :
    Alike (c >>= fun n => if n = 0 then emit e >>= fun _ => pure n else pure n) c := by
  have hreport := (Alike.refl c).bind
    (f := fun n => if n = 0 then emit e >>= fun _ => pure n else pure n) (g := pure) fun n => by
      split
      · exact alike_emit_bind e _
      · exact .refl _
  rwa [bind_pure] at hreport

end Store

/-! ## Requests -/

open Call

/-- The requests that write a list of resources, if the rules let them: the table, what they do with
each resource, and what they answer for a number of replaced rows. -/
inductive Request.InBatches :
    (q : Request) → (k : Kind) → List (RowWrite k) → (Nat → q.Answer) → Prop
  | create {k : EquipmentKind} {network : Uuid} {rs : List (Resource k.Attributes)}
      (hrule : Store.checkResources rs = .ok ()) :
      InBatches (.create k network rs) (.equipment k)
        (rs.map fun r => .insert (.ofEquipment network r)) fun _ => ()
  | update {k : EquipmentKind} {network : Uuid} {rs : List (Resource k.Attributes)}
      (hrule : Store.checkResources rs = .ok ()) :
      InBatches (.update k network rs) (.equipment k) (rs.map (.update network)) id
  | createNetworks {fresh : Nat → String} {rs : List (Resource Network)} {rows : List Row}
      (hrows : (rs.zipIdx.mapM fun (r, i) => Store.newNetworkRow (fresh i) r) = .ok rows) :
      InBatches (.createNetworks fresh rs) .network (rows.map .insert) fun _ => ()
  | updateNetworks {rs : List (Resource Network)} (hrule : Store.checkResources rs = .ok ()) :
      InBatches (.updateNetworks rs) .network (rs.map .updateNetwork) id

namespace Store

theorem alike_insertBatches {k : Kind} (rows : List Row) (event : List Row → Nat → Event) :
    Alike (forBatches rows fun batch index => do
        acquire
        batch.forM (insertRow k)
        emit (event batch index))
      ((fun _ => ()) <$> writeEach (rows.map (RowWrite.insert (k := k)))) := by
  have hbatch (batch : List Row) (index : Nat) :
      Alike (acquire >>= fun _ => batch.forM (insertRow k) >>= fun _ => emit (event batch index))
        (acquire >>= fun _ => batch.forM (insertRow k)) :=
    (Alike.refl _).bind fun _ => alike_bind_emit _ fun _ => event batch index
  refine (alike_forBatches (keeps_pool_insertRow k) hbatch rows).trans ?_
  rw [writeEach, total_map, map_eq_pure_bind]
  refine (Alike.total (fun r => ?_) rows).bind fun _ => .refl _
  exact (Alike.refl _).bind fun _ => alike_insertRow k r

theorem alike_updateBatches {α : Type} {k : Kind} {c : α → Call Nat} {write : α → RowWrite k}
    (hc : ∀ a, Alike (c a) (execute (write a).run)) (hkeeps : ∀ a, Keeps pool (c a))
    {f : List α → Nat → Call Nat}
    (hf : ∀ batch index, Alike (f batch index) (acquire >>= fun _ => total c batch))
    (items : List α) : Alike (sumBatches items f) (writeEach (items.map write)) := by
  rw [writeEach, total_map]
  refine (alike_sumBatches hkeeps hf items).trans (Alike.total (fun a => ?_) items)
  exact (Alike.refl _).bind fun _ => hc a

theorem alike_create {k : EquipmentKind} {network : Uuid} {rs : List (Resource k.Attributes)}
    (hrule : checkResources rs = .ok ()) :
    Alike (create network rs) ((fun _ => ()) <$> writeEach (rs.map fun r =>
      RowWrite.insert (k := .equipment k) (.ofEquipment network r))) := by
  unfold create
  rw [require_bind_of_ok hrule, EquipmentKind.kind_attributes]
  have halike := alike_insertBatches (k := .equipment k) (rs.map (Row.ofEquipment network))
    fun batch index => .insertedBatch (Kind.equipment k).table index batch.length
  rwa [List.map_map] at halike

theorem alike_update {k : EquipmentKind} {network : Uuid} {rs : List (Resource k.Attributes)}
    (hrule : checkResources rs = .ok ()) :
    Alike (update network rs) (writeEach (rs.map (RowWrite.update network))) := by
  unfold update
  rw [require_bind_of_ok hrule]
  refine alike_updateBatches (c := updateRow network) (fun r => ?_)
    (fun r => keeps_updateRow fun _ _ _ _ => rfl) (fun batch index => ?_) rs
  · refine (alike_report _ _).trans ?_
    have hkind := k.kind_attributes
    show Alike (execute fun ts => ts.update (Attributes.kind k.Attributes) _ _) _
    rw [hkind]
    exact .refl _
  · simp only [foldlM_eq_total]
    exact (Alike.refl _).bind fun _ => alike_bind_emit _ fun _ => _

theorem alike_createNetworks {fresh : Nat → String} {rs : List (Resource Network)} {rows : List Row}
    (hrows : (rs.zipIdx.mapM fun (r, i) => newNetworkRow (fresh i) r) = .ok rows) :
    Alike (createNetworks fresh rs)
      ((fun _ => ()) <$> writeEach (rows.map (RowWrite.insert (k := .network)))) := by
  unfold createNetworks
  rw [hrows]
  exact alike_insertBatches rows fun batch index =>
    .insertedBatch Kind.network.table index batch.length

theorem alike_updateNetworks {rs : List (Resource Network)} (hrule : checkResources rs = .ok ()) :
    Alike (updateNetworks rs) (writeEach (rs.map RowWrite.updateNetwork)) := by
  unfold updateNetworks
  rw [require_bind_of_ok hrule]
  refine alike_updateBatches (c := updateNetwork) (fun r => alike_report _ _)
    (fun r => keeps_updateNetwork fun _ _ _ _ => rfl) (fun batch index => ?_) rs
  rw [foldlM_eq_total]
  exact .refl _

end Store

theorem Request.InBatches.alike {q : Request} {k : Kind} {writes : List (RowWrite k)}
    {answer : Nat → q.Answer} (h : q.InBatches k writes answer) :
    Alike q.call (answer <$> Store.writeEach writes) := by
  cases h with
  | create hrule => exact Store.alike_create hrule
  | @update k network rs hrule =>
    have halike := @Store.alike_update k network rs hrule
    rwa [← id_map (Store.writeEach _)] at halike
  | createNetworks hrows => exact Store.alike_createNetworks hrows
  | updateNetworks hrule =>
    have halike := Store.alike_updateNetworks hrule
    rwa [← id_map (Store.writeEach _)] at halike

end GridStore
