import GridStore.Proofs.Listing

/-!
# Spellings of uuids

A text that spells 32 hexadecimal digits in one of four ways is read as the uuid that has them in
lower case (`Uuid.Spells.exists_read?`), and no other text is read (`Uuid.exists_spells_of_read?`).
So what is written of a uuid that was read is the hyphenated spelling in lower case, whatever the
text was, and networks have the same key exactly if they have the same uuid
(`Uuid.keys_canonical`).
-/

namespace GridStore

namespace Uuid

/-! ## Spellings -/

/-- Digits in groups of 8, 4, 4, 4 and 12, with hyphens between them. -/
inductive Hyphenated : List Char → List Char → Prop
  | groups {a b c d e : List Char} (ha : a.length = 8) (hb : b.length = 4) (hc : c.length = 4)
      (hd : d.length = 4) (he : e.length = 12) :
    Hyphenated (a ++ b ++ c ++ d ++ e) (a ++ '-' :: b ++ '-' :: c ++ '-' :: d ++ '-' :: e)

/-- How digits are spelled: alone, with hyphens, with these between braces, or with these after
`urn:uuid:` in either case. -/
inductive Spelling (ds : List Char) : List Char → Prop
  | plain : Spelling ds ds
  | hyphenated {cs : List Char} (h : Hyphenated ds cs) : Spelling ds cs
  | braced {cs : List Char} (h : Hyphenated ds cs) : Spelling ds ('{' :: cs ++ ['}'])
  | urn {scheme cs : List Char} (hscheme : scheme.map Char.toLower = "urn:uuid:".toList)
      (h : Hyphenated ds cs) : Spelling ds (scheme ++ cs)

/-- Whether a text spells 32 hexadecimal digits of either case. -/
structure Spells (text : String) (ds : List Char) : Prop where
  count : ds.length = 32
  hex : ∀ c ∈ ds, IsHexDigit c
  spelling : Spelling ds text.toList

theorem hyphenated_iff {ds cs : List Char} :
    Hyphenated ds cs ↔ ds.length = 32 ∧ hyphenate ds = cs := by
  constructor
  · rintro ⟨ha, hb, hc, hd, he⟩
    refine ⟨by simp [*], ?_⟩
    simp [hyphenate, List.drop_append, List.drop_eq_nil_of_le, *]
  · rintro ⟨hcount, rfl⟩
    have hgroups := @Hyphenated.groups (ds.take 8) ((ds.drop 8).take 4) ((ds.drop 12).take 4)
      ((ds.drop 16).take 4) (ds.drop 20) (by simp [hcount]) (by simp [hcount]) (by simp [hcount])
      (by simp [hcount]) (by simp [hcount])
    rwa [append_groups] at hgroups

theorem hyphenated_text (u : Uuid) : Hyphenated u.digits u.text.toList :=
  hyphenated_iff.2 ⟨u.length_digits, u.toList_text.symm⟩

/-! ## Reading -/

theorem hyphenated_of_unhyphenate? {ds cs : List Char} (h : unhyphenate? cs = some ds) :
    Hyphenated ds cs := by
  obtain ⟨hdigits, h⟩ := Option.ite_none_right_eq_some.1 h
  obtain rfl := Option.some.inj h
  exact hyphenated_iff.2 hdigits

theorem spelling_of_spelledDigits? {ds cs : List Char} (h : spelledDigits? cs = some ds) :
    ds.length = 32 ∧ Spelling ds cs := by
  have hhyphens {cs : List Char} (h : unhyphenate? cs = some ds) :
      ds.length = 32 ∧ Hyphenated ds cs :=
    ⟨(hyphenated_iff.1 (hyphenated_of_unhyphenate? h)).1, hyphenated_of_unhyphenate? h⟩
  unfold spelledDigits? at h
  split at h
  · rename_i rest
    split_ifs at h with hclosed
    obtain ⟨hcount, hrest⟩ := hhyphens h
    rw [← List.dropLast_append_getLast? _ hclosed]
    exact ⟨hcount, .braced hrest⟩
  · split_ifs at h with hlength hscheme
    · obtain rfl := Option.some.inj h
      exact ⟨hlength, .plain⟩
    · obtain ⟨hcount, hrest⟩ := hhyphens h
      rw [← List.take_append_drop 9 cs]
      exact ⟨hcount, .urn hscheme hrest⟩
    · obtain ⟨hcount, hrest⟩ := hhyphens h
      exact ⟨hcount, .hyphenated hrest⟩

theorem spelledDigits?_of_spelling {ds cs : List Char} (hcount : ds.length = 32)
    (hhex : ∀ c ∈ ds, IsHexDigit c) (h : Spelling ds cs) : spelledDigits? cs = some ds := by
  have hsome : ∀ c ∈ ds, (hexDigitValue? c).isSome :=
    fun c hc => isSome_hexDigitValue?_iff.2 (hhex c hc)
  have hread : unhyphenate? (hyphenate ds) = some ds :=
    unhyphenate?_hyphenate hcount (not_mem_of_hexDigits hsome (by decide))
  cases h with
  | plain =>
    unfold spelledDigits?
    split
    · exact absurd List.mem_cons_self (not_mem_of_hexDigits hsome (c := '{') (by decide))
    · exact if_pos hcount
  | hyphenated h =>
    obtain ⟨-, rfl⟩ := hyphenated_iff.1 h
    exact spelledDigits?_hyphenate hcount hsome
  | braced h =>
    obtain ⟨-, rfl⟩ := hyphenated_iff.1 h
    rw [List.cons_append, spelledDigits?, if_pos List.getLast?_concat, List.dropLast_concat, hread]
  | @urn scheme cs hscheme h =>
    obtain ⟨-, rfl⟩ := hyphenated_iff.1 h
    have hlength : scheme.length = 9 := by
      rw [← List.length_map Char.toLower, hscheme]
      rfl
    have hlong : (scheme ++ hyphenate ds).length ≠ 32 := by
      simp [hyphenate, hlength, hcount]
    unfold spelledDigits?
    split
    · -- a scheme does not begin with a brace
      rename_i rest hbrace
      rcases scheme with _ | ⟨c, scheme⟩
      · cases hlength
      · obtain ⟨rfl, -⟩ := List.cons.inj hbrace
        exact absurd (List.cons.inj hscheme).1 (by decide)
    · rw [if_neg hlong, ← hlength, List.take_left, if_pos hscheme, List.drop_left, hread]

theorem digits_of_hexValue? {ds : List Char} {n : Nat} (hcount : ds.length = 32)
    (h : hexValue? ds = some n) : digits ⟨BitVec.ofNat 128 n⟩ = ds.map Char.toLower := by
  obtain ⟨hlt, hdigits⟩ := hexDigits_of_hexValue? h
  rw [hcount] at hlt hdigits
  rw [digits, BitVec.toNat_ofNat, Nat.mod_eq_of_lt (hlt.trans_eq (by norm_num)), hdigits]

/-- A text that spells digits is read as the uuid that has them in lower case. -/
theorem Spells.exists_read? {text : String} {ds : List Char} (h : Spells text ds) :
    ∃ u, read? text = some u ∧ u.digits = ds.map Char.toLower := by
  obtain ⟨n, hn⟩ := Option.isSome_iff_exists.1 (isSome_hexValue?_iff.2 h.hex)
  refine ⟨⟨BitVec.ofNat 128 n⟩, ?_, digits_of_hexValue? h.count hn⟩
  rw [read?, spelledDigits?_of_spelling h.count h.hex h.spelling]
  simp [hn]

/-- Only texts that spell digits are read. -/
theorem exists_spells_of_read? {text : String} {u : Uuid} (h : read? text = some u) :
    ∃ ds, Spells text ds := by
  obtain ⟨ds, hds, h⟩ := Option.bind_eq_some_iff.1 h
  obtain ⟨n, hn, -⟩ := Option.bind_eq_some_iff.1 h
  obtain ⟨hcount, hspelling⟩ := spelling_of_spelledDigits? hds
  exact ⟨ds, hcount, isSome_hexValue?_iff.1 (hn ▸ rfl), hspelling⟩

/-- The digits of a uuid that was read are those that its text spells, in lower case. -/
theorem Spells.digits_of_read? {text : String} {ds : List Char} {u : Uuid}
    (hspells : Spells text ds) (h : read? text = some u) : u.digits = ds.map Char.toLower := by
  obtain ⟨v, hv, hdigits⟩ := hspells.exists_read?
  rwa [Option.some.inj (h.symm.trans hv)]

end Uuid

/-! ## Networks listed -/

/-- Whether a row holds the uuid and the id of a network as they are written. -/
def Row.Lists (r : Row) (x : ListedNetwork) : Prop :=
  r.network = .ofUuid x.uuid ∧ r.id = .text x.id

theorem Row.Lists.listed_eq {r : Row} {x : ListedNetwork} (h : r.Lists x) : r.listed = x :=
  Row.listed_eq (isOf_iff.2 h.1) h.2

theorem Row.map_listed {rows : List Row} {infos : List ListedNetwork}
    (h : List.Forall₂ Row.Lists rows infos) :
    rows.map Row.listed = infos ∧ ∀ r ∈ rows, r.Lists r.listed := by
  induction h with
  | nil => exact ⟨rfl, List.forall_mem_nil _⟩
  | cons hr _ ih =>
    rw [List.map_cons, List.forall_mem_cons, hr.listed_eq, ih.1]
    exact ⟨rfl, hr, ih.2⟩

/-- Where rows hold networks as they are written, these are listed. -/
theorem Store.listNetworks_written {s : Store} {infos : List ListedNetwork} (hs : s.Available)
    (hpresent : (s.tables.table? .network).isSome)
    (hrows : List.Forall₂ Row.Lists (listingRows s.tables) infos) :
    (listNetworks s).result = .ok (sortNetworks infos) := by
  obtain ⟨hlisted, hholds⟩ := Row.map_listed hrows
  rw [listNetworks_result hs hpresent fun r hr => ⟨Row.isOf_iff.2 (hholds r hr).1, (hholds r hr).2⟩,
    hlisted]

/-- Wherever requests lead, rows hold networks as they are written. -/
theorem Store.Reachable.exists_lists {P : Request → Prop} {s : Store} (h : s.Reachable P) :
    ∃ infos, List.Forall₂ Row.Lists (listingRows s.tables) infos := by
  refine ⟨(listingRows s.tables).map Row.listed,
    List.forall₂_map_right_iff.2 (List.forall₂_same.2 fun r hr => ?_)⟩
  obtain ⟨hof, hid⟩ := listed_of_mem h r (List.mem_filter.1 hr).1
  exact ⟨Row.isOf_iff.1 hof, hid⟩

/-! ## Keys of networks -/

open ColumnCodec

theorem ColumnCodec.ofColumn_text_uuid {text : String} {u : Uuid} :
    ofColumn (.text text) = .ok u ↔ Uuid.read? text = some u :=
  readColumn_text_eq_ok_iff

/-- The key of a network is its uuid: different uuids are written as different texts, and each is
read as what it was, so that networks are listed under the uuids that were written, which rows hold
wherever requests lead. A text is taken as a uuid exactly if it spells 32 hexadecimal digits in one
of the four ways. What is written of that uuid is the hyphenated spelling, of 36 characters and in
lower case, which is read and written as itself; two texts are taken as one uuid exactly if their
digits agree but for case. -/
theorem Uuid.keys_canonical :
    (∀ u v : Uuid, u.text = v.text ↔ u = v) ∧
    (∀ u : Uuid, ofColumn (.text u.text) = .ok u) ∧
    (∀ (s : Store) (infos : List ListedNetwork), s.Available →
      (s.tables.table? .network).isSome →
      List.Forall₂ Row.Lists (Store.listingRows s.tables) infos →
      ∃ listed, (Store.listNetworks s).result = .ok listed ∧ listed.Perm infos) ∧
    (∀ (P : Request → Prop) (s : Store), s.Reachable P → (s.tables.table? .network).isSome ∧
      ∃ infos, List.Forall₂ Row.Lists (Store.listingRows s.tables) infos) ∧
    (∀ text : String, (∃ u : Uuid, ofColumn (.text text) = .ok u) ↔ ∃ ds, Spells text ds) ∧
    (∀ (text : String) (ds : List Char) (u : Uuid), Spells text ds → ofColumn (.text text) = .ok u →
      ∃ stored, toColumn u = .text stored ∧ stored.length = 36 ∧
        Hyphenated (ds.map Char.toLower) stored.toList ∧ ofColumn (.text stored) = .ok u) ∧
    ∀ (text text' : String) (ds ds' : List Char) (u u' : Uuid), Spells text ds →
      Spells text' ds' → ofColumn (.text text) = .ok u → ofColumn (.text text') = .ok u' →
      (u = u' ↔ ds.map Char.toLower = ds'.map Char.toLower) := by
  have hdigits {text : String} {ds : List Char} {u : Uuid} (hspells : Spells text ds)
      (h : ofColumn (.text text) = .ok u) : u.digits = ds.map Char.toLower :=
    hspells.digits_of_read? (ofColumn_text_uuid.1 h)
  have hback (u : Uuid) : ofColumn (.text u.text) = .ok u := ofColumn_text_uuid.2 u.read?_text
  refine ⟨fun u v => text_injective.eq_iff, hback, fun s infos hs hpresent hrows => ?_,
    fun P s h => ⟨h.keyed.present _, h.exists_lists⟩, fun text => ⟨?_, ?_⟩,
    fun text ds u hspells h => ?_, fun text text' ds ds' u u' hs hs' h h' => ?_⟩
  · exact ⟨_, Store.listNetworks_written hs hpresent hrows, List.mergeSort_perm _ _⟩
  · rintro ⟨u, h⟩
    exact exists_spells_of_read? (ofColumn_text_uuid.1 h)
  · rintro ⟨ds, hspells⟩
    obtain ⟨u, h, -⟩ := hspells.exists_read?
    exact ⟨u, ofColumn_text_uuid.2 h⟩
  · exact ⟨u.text, rfl, u.length_text, hdigits hspells h ▸ u.hyphenated_text, hback u⟩
  · rw [← hdigits hs h, ← hdigits hs' h', digits_inj]

/-- A text in braces and upper case, and one without hyphens and in lower case, are taken as one
uuid. -/
theorem Uuid.keys_canonical_case :
    let text := "\x7bF9168C5E-CEB2-4FAA-B6BF-329BF39FA1E4\x7d"
    let text' := "f9168c5eceb24faab6bf329bf39fa1e4"
    let ds := "F9168C5ECEB24FAAB6BF329BF39FA1E4".toList
    Store.single.Available ∧ Store.single.Reachable (fun _ => True) ∧
      (Store.single.tables.table? .network).isSome ∧
      List.Forall₂ Row.Lists (Store.listingRows Store.single.tables) [⟨.nil, "grid"⟩] ∧
      (∃ listed, (Store.listNetworks .single).result = .ok listed ∧ listed.Perm [⟨.nil, "grid"⟩]) ∧
      Spells text ds ∧ Spells text' text'.toList ∧
      ∃ u : Uuid, ofColumn (.text text) = .ok u ∧ ofColumn (.text text') = .ok u ∧
        toColumn u = .text "f9168c5e-ceb2-4faa-b6bf-329bf39fa1e4" := by
  intro text text' ds
  have hrows : List.Forall₂ Row.Lists (Store.listingRows Store.single.tables) [⟨.nil, "grid"⟩] := by
    rw [Store.listingRows, Tables.rows_single_network]
    exact .cons ⟨rfl, rfl⟩ .nil
  have hspells : Spells text ds := by
    have hhyphens : Hyphenated ds "F9168C5E-CEB2-4FAA-B6BF-329BF39FA1E4".toList :=
      hyphenated_iff.2 (by simp [ds, hyphenate])
    have hbraced := Spelling.braced hhyphens
    refine ⟨by simp [ds], by simp [ds, IsHexDigit], ?_⟩
    simpa [text] using hbraced
  have hspells' : Spells text' text'.toList :=
    ⟨by simp [text'], by simp [text', IsHexDigit], .plain⟩
  obtain ⟨-, -, hlist, hreached, htaken, hstored, hsame⟩ := keys_canonical
  obtain ⟨u, h⟩ := (htaken text).2 ⟨ds, hspells⟩
  obtain ⟨u', h'⟩ := (htaken text').2 ⟨_, hspells'⟩
  obtain rfl : u = u' := (hsame text text' ds _ u u' hspells hspells' h h').2 (by simp [ds, text'])
  obtain ⟨stored, hu, -, hhyphens, -⟩ := hstored text ds u hspells h
  have hfree : Store.single.Available := ⟨rfl, by decide⟩
  have hreach : Store.single.Reachable fun _ => True := Store.reachable_single trivial
  obtain ⟨hpresent, -⟩ := hreached _ _ hreach
  refine ⟨hfree, hreach, hpresent, hrows, hlist _ _ hfree hpresent hrows, hspells, hspells', u, h,
    h', ?_⟩
  rw [hu]
  refine congrArg _ (String.toList_inj.1 ?_)
  rw [← (hyphenated_iff.1 hhyphens).2]
  simp [ds, hyphenate]

end GridStore
