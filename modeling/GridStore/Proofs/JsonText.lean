import GridStore.Json.Printer
import GridStore.Proofs.ReadBack
import GridStore.Properties

/-!
# JSON text read back

The text of a value is split into the lexemes that it was written from (`ofText?_write`), the
machine on lexemes rebuilds its tree (`run_tokens`), and the tree of a value that is not nested too
deep denotes the value (`toJson?_toTree`). So a value whose numbers are finite and whose members are
sorted is read from its own text (`ofText?_render`).
-/

namespace GridStore

/-! ## Strings -/

namespace Quoted

/-- The piece that a written character is read as. -/
def pieceOf (c : Char) : Piece :=
  if c.toNat < 0x20 ∧ c ∉ ['\x08', '\x0c', '\n', '\r', '\t'] then .unit c.toNat else .char c

theorem pieces?_letter {e c : Char} (he : unescape? e = some c) (cs : List Char) :
    pieces? ('\\' :: e :: cs) = (pieces? cs).map fun (ps, rest) => (.char c :: ps, rest) := by
  have hu : e ≠ 'u' := by
    rintro rfl
    simp [unescape?] at he
  rw [pieces?, he]
  · simp only [Option.bind_eq_bind, Option.bind_some, Option.map_eq_bind]
    rfl
  · exact fun a b c d rest h => absurd h hu

theorem pieces?_unit {n : Nat} (hn : n < 16 ^ 4) (cs : List Char) :
    pieces? ('\\' :: 'u' :: (hexDigits 4 n ++ cs))
      = (pieces? cs).map fun (ps, rest) => (.unit n :: ps, rest) := by
  have hvalue := hexValue?_hexDigits 4 n
  rw [Nat.mod_eq_of_lt hn] at hvalue
  obtain ⟨a, b, c, d, hds⟩ : ∃ a b c d, hexDigits 4 n = [a, b, c, d] := ⟨_, _, _, _, rfl⟩
  rw [hds] at hvalue ⊢
  simp only [List.cons_append, List.nil_append]
  rw [pieces?, hvalue]
  simp only [Option.bind_eq_bind, Option.bind_some, Option.map_eq_bind]
  rfl

theorem pieces?_plain {c : Char} (hquote : c ≠ '"') (hslash : c ≠ '\\') (hc : ¬ c.toNat < 0x20)
    (cs : List Char) :
    pieces? (c :: cs) = (pieces? cs).map fun (ps, rest) => (.char c :: ps, rest) := by
  rw [pieces?, if_neg (by simp [hc, hslash])]
  · simp only [Option.bind_eq_bind, Option.map_eq_bind]
    rfl
  · exact fun h => absurd h hquote
  · exact fun a b c d rest h => absurd h hslash
  · exact fun e rest h => absurd h hslash

theorem pieces?_escape (c : Char) (cs : List Char) :
    pieces? (escape c ++ cs) = (pieces? cs).map fun (ps, rest) => (pieceOf c :: ps, rest) := by
  unfold escape
  split
  · exact pieces?_letter rfl cs
  · exact pieces?_letter rfl cs
  · exact pieces?_letter rfl cs
  · exact pieces?_letter rfl cs
  · exact pieces?_letter rfl cs
  · exact pieces?_letter rfl cs
  · exact pieces?_letter rfl cs
  · rename_i hquote hslash hb hf hn hr ht
    by_cases hc : c.toNat < 0x20
    · have hmem : c ∉ ['\x08', '\x0c', '\n', '\r', '\t'] := by
        simp only [List.mem_cons, List.not_mem_nil, or_false, not_or]
        exact ⟨hb, hf, hn, hr, ht⟩
      have hpiece : pieceOf c = .unit c.toNat := if_pos ⟨hc, hmem⟩
      rw [if_pos hc, hpiece]
      exact pieces?_unit (by omega) cs
    · have hpiece : pieceOf c = .char c := by
        simp [pieceOf, hc]
      rw [if_neg hc, hpiece]
      exact pieces?_plain hquote hslash hc cs

theorem pieces?_flatMap_escape (s rest : List Char) :
    pieces? (s.flatMap escape ++ '"' :: rest) = some (s.map pieceOf, rest) := by
  induction s with
  | nil => rfl
  | cons c s ih =>
    rw [List.flatMap_cons, List.append_assoc, pieces?_escape, ih]
    rfl

theorem chars?_pieceOf_cons (c : Char) (ps : List Piece) :
    chars? (pieceOf c :: ps) = (chars? ps).map (c :: ·) := by
  unfold pieceOf
  split
  · rename_i hc
    have hhigh : isHigh c.toNat = false := by simp [isHigh]; omega
    have hlow : isLow c.toNat = false := by simp [isLow]; omega
    have hself : Char.ofNat c.toNat = c := Char.ofNat_toNat c
    rcases ps with _ | ⟨_ | low, ps⟩
    all_goals simp [chars?, hhigh, hlow, hself]
  · rfl

theorem chars?_map_pieceOf (s : List Char) : chars? (s.map pieceOf) = some s := by
  induction s with
  | nil => rfl
  | cons c s ih => rw [List.map_cons, chars?_pieceOf_cons, ih, Option.map_some]

/-- A written string is read as itself. -/
theorem read?_write (s : String) (rest : List Char) :
    read? (s.toList.flatMap escape ++ '"' :: rest) = some (some s, rest) := by
  simp [read?, pieces?_flatMap_escape, chars?_map_pieceOf]

end Quoted

/-! ## Lexemes -/

namespace Token

/-- Text that may stand behind a value of a document. -/
def Follows (rest : List Char) : Prop :=
  ∀ c ∈ rest.head?, c = ',' ∨ c = ']' ∨ c = '}'

theorem Follows.stops {rest : List Char} (h : Follows rest) : Numeral.Stops rest := by
  intro c hc
  rcases h c hc with rfl | rfl | rfl
  all_goals decide

theorem ofText?_of_lexeme? {cs rest : List Char} {t : Option Token}
    (h : lexeme? cs = some (t, rest)) : ofText? cs = (ofText? rest).map (t.toList ++ ·) := by
  have hne : cs.isEmpty = false := by
    rcases cs with _ | _
    · simp [lexeme?] at h
    · rfl
  rw [ofText?, hne, if_neg (by simp)]
  split
  · rename_i hnone
    simp [h] at hnone
  · rename_i hsome
    rw [h] at hsome
    obtain ⟨rfl, rfl⟩ := Prod.mk.inj (Option.some.inj hsome)
    rfl

theorem head_of_read? {cs rest : List Char} {n : Numeral} (h : Numeral.read? cs = some (n, rest)) :
    ∃ c tail, cs = c :: tail ∧ (c.isDigit ∨ c = '-') := by
  rcases cs with _ | ⟨c, tail⟩
  · simp [Numeral.read?, Numeral.readUnsigned?, Numeral.readWhole?, spanDigits] at h
  · refine ⟨c, tail, rfl, ?_⟩
    by_cases hminus : c = '-'
    · exact .inr hminus
    · by_cases hdigit : c.isDigit
      · exact .inl hdigit
      · rw [Numeral.read?] at h
        · simp [Numeral.readUnsigned?, Numeral.readWhole?, spanDigits, hdigit] at h
        · exact fun _ hcons => hminus (List.cons.inj hcons).1

theorem lexeme?_of_read? {cs rest : List Char} {n : Numeral}
    (h : Numeral.read? cs = some (n, rest)) :
    lexeme? cs = some (some (.num n.value?), rest) := by
  obtain ⟨c, tail, rfl, hc⟩ := head_of_read? h
  -- no other lexeme begins as a numeral does
  have hne : ∀ k ∈ ['{', '}', '[', ']', ',', ':', 'n', 't', 'f', '"'], c ≠ k := by
    rintro k hk rfl
    simp only [List.mem_cons, List.not_mem_nil, or_false] at hk
    rcases hk with rfl | rfl | rfl | rfl | rfl | rfl | rfl | rfl | rfl | rfl
    all_goals exact absurd hc (by decide)
  have hblank : isBlank c = false := by
    by_contra h
    simp only [isBlank, Bool.not_eq_false, Bool.or_eq_true, decide_eq_true_eq] at h
    rcases h with ((rfl | rfl) | rfl) | rfl
    all_goals exact absurd hc (by decide)
  unfold lexeme?
  split
  case h_11 heq =>
    obtain ⟨rfl, rfl⟩ := List.cons.inj heq
    rw [if_neg (by simp [hblank]), h]
    rfl
  case h_12 heq =>
    exact absurd heq (List.cons_ne_nil _ _)
  all_goals
    rename_i heq
    exact absurd (List.cons.inj heq).1 (hne _ (by simp))

theorem lexeme?_write (s : String) (rest : List Char) :
    lexeme? (Quoted.write s ++ rest) = some (some (.str (some s)), rest) := by
  have htext : Quoted.write s ++ rest = '"' :: (s.toList.flatMap Quoted.escape ++ '"' :: rest) := by
    simp [Quoted.write]
  rw [htext, lexeme?, Quoted.read?_write]
  rfl

theorem ofText?_quoted (s : String) (rest : List Char) :
    ofText? (Quoted.write s ++ rest) = (ofText? rest).map (.str (some s) :: ·) :=
  ofText?_of_lexeme? (lexeme?_write s rest)

theorem ofText?_comma (cs : List Char) : ofText? (',' :: cs) = (ofText? cs).map (.comma :: ·) :=
  ofText?_of_lexeme? (t := some .comma) rfl

theorem ofText?_colon (cs : List Char) : ofText? (':' :: cs) = (ofText? cs).map (.colon :: ·) :=
  ofText?_of_lexeme? (t := some .colon) rfl

theorem ofText?_openArray (cs : List Char) :
    ofText? ('[' :: cs) = (ofText? cs).map (.openArray :: ·) :=
  ofText?_of_lexeme? (t := some .openArray) rfl

theorem ofText?_closeArray (cs : List Char) :
    ofText? (']' :: cs) = (ofText? cs).map (.closeArray :: ·) :=
  ofText?_of_lexeme? (t := some .closeArray) rfl

theorem ofText?_openObject (cs : List Char) :
    ofText? ('{' :: cs) = (ofText? cs).map (.openObject :: ·) :=
  ofText?_of_lexeme? (t := some .openObject) rfl

theorem ofText?_closeObject (cs : List Char) :
    ofText? ('}' :: cs) = (ofText? cs).map (.closeObject :: ·) :=
  ofText?_of_lexeme? (t := some .closeObject) rfl

end Token

namespace Json

mutual

/-- Values whose text denotes them: whole numbers have 64 bits, doubles are finite, and the members
of an object are in order. -/
def Storable : Json → Prop
  | .null | .bool _ | .str _ => True
  | .num (.int n) => -0x8000000000000000 ≤ n ∧ n < 0x10000000000000000
  | .num (.float x) => x.isFinite
  | .arr items => StorableItems items
  | .obj members => SortedByKey members ∧ StorableMembers members

/-- Arrays of such values. -/
def StorableItems : List Json → Prop
  | [] => True
  | item :: items => Storable item ∧ StorableItems items

/-- Members with such values. -/
def StorableMembers : List (String × Json) → Prop
  | [] => True
  | (_, value) :: members => Storable value ∧ StorableMembers members

end

mutual

/-- The lexemes of a value's text. -/
def tokens : Json → List Token
  | .null => [.null]
  | .bool b => [.bool b]
  | .num n => [.num (some n)]
  | .str s => [.str (some s)]
  | .arr items => .openArray :: (itemTokens items ++ [.closeArray])
  | .obj members => .openObject :: (memberTokens members ++ [.closeObject])

/-- The lexemes of items and the commas between them. -/
def itemTokens : List Json → List Token
  | [] => []
  | [item] => tokens item
  | item :: items => tokens item ++ .comma :: itemTokens items

/-- The lexemes of members and the commas between them. -/
def memberTokens : List (String × Json) → List Token
  | [] => []
  | [(key, value)] => .str (some key) :: .colon :: tokens value
  | (key, value) :: members =>
    .str (some key) :: .colon :: (tokens value ++ .comma :: memberTokens members)

end

open Token

theorem ofText?_num {n : Number} (h : Storable (.num n)) {rest : List Char} (hr : Follows rest) :
    Token.ofText? (n.write ++ rest) = (Token.ofText? rest).map (.num (some n) :: ·) := by
  rcases n with n | x
  · obtain ⟨m, hread, hvalue⟩ := Numeral.read?_writeInt h.1 h.2 hr.stops
    have hlex := lexeme?_of_read? hread
    rw [hvalue] at hlex
    exact ofText?_of_lexeme? hlex
  · obtain ⟨m, hread, hvalue⟩ := Numeral.read?_write h hr.stops
    have hlex := lexeme?_of_read? hread
    rw [hvalue] at hlex
    exact ofText?_of_lexeme? hlex

mutual

/-- The text of a value is split into the value's lexemes. -/
theorem ofText?_write : ∀ (v : Json) (_ : v.Storable) (rest : List Char) (_ : Follows rest),
    Token.ofText? (v.write ++ rest) = (Token.ofText? rest).map (v.tokens ++ ·)
  | .null, _, rest, _ => ofText?_of_lexeme? (t := some .null) rfl
  | .bool true, _, rest, _ => ofText?_of_lexeme? (t := some (.bool true)) rfl
  | .bool false, _, rest, _ => ofText?_of_lexeme? (t := some (.bool false)) rfl
  | .num n, h, rest, hr => ofText?_num h hr
  | .str s, _, rest, _ => ofText?_quoted s rest
  | .arr items, h, rest, _ => by
    have hitems := ofText?_writeItems items h rest
    rw [write, List.cons_append, List.append_assoc, List.singleton_append, ofText?_openArray, hitems,
      Option.map_map]
    simp [tokens, Function.comp_def]
  | .obj members, h, rest, _ => by
    have hmembers := ofText?_writeMembers members h.2 rest
    rw [write, List.cons_append, List.append_assoc, List.singleton_append, ofText?_openObject, hmembers,
      Option.map_map]
    simp [tokens, Function.comp_def]

theorem ofText?_writeItems : ∀ (items : List Json) (_ : StorableItems items) (rest : List Char),
    Token.ofText? (writeItems items ++ ']' :: rest)
      = (Token.ofText? rest).map (itemTokens items ++ .closeArray :: ·)
  | [], _, rest => ofText?_closeArray rest
  | [item], h, rest => by
    have hitem := ofText?_write item h.1 (']' :: rest) (by simp [Follows])
    rw [writeItems, hitem, ofText?_closeArray, Option.map_map]
    rfl
  | item :: next :: items, h, rest => by
    have hitem := ofText?_write item h.1 (',' :: (writeItems (next :: items) ++ ']' :: rest))
      (by simp [Follows])
    have hitems := ofText?_writeItems (next :: items) h.2 rest
    rw [writeItems, List.append_assoc, List.cons_append, hitem, ofText?_comma, hitems,
      Option.map_map, Option.map_map]
    · simp [itemTokens, Function.comp_def]
    · exact List.cons_ne_nil _ _

theorem ofText?_writeMembers : ∀ (members : List (String × Json)) (_ : StorableMembers members)
    (rest : List Char), Token.ofText? (writeMembers members ++ '}' :: rest)
      = (Token.ofText? rest).map (memberTokens members ++ .closeObject :: ·)
  | [], _, rest => ofText?_closeObject rest
  | [(key, value)], h, rest => by
    have hvalue := ofText?_write value h.1 ('}' :: rest) (by simp [Follows])
    rw [writeMembers, List.append_assoc, List.cons_append, ofText?_quoted, ofText?_colon, hvalue,
      ofText?_closeObject]
    simp [memberTokens, Function.comp_def]
  | (key, value) :: next :: members, h, rest => by
    have hvalue := ofText?_write value h.1 (',' :: (writeMembers (next :: members) ++ '}' :: rest))
      (by simp [Follows])
    have hmembers := ofText?_writeMembers (next :: members) h.2 rest
    rw [writeMembers, List.append_assoc, List.cons_append, List.append_assoc, List.cons_append,
      ofText?_quoted, ofText?_colon, hvalue, ofText?_comma, hmembers]
    · simp [memberTokens, Function.comp_def]
    · exact List.cons_ne_nil _ _

end

/-! ## Trees -/

open GridStore.Tree

theorem step_firstItem {t : Token} (ht : t ≠ .closeArray) (frames : List Frame) :
    step .firstItem frames t = step .value frames t := by
  rcases frames with _ | ⟨_ | _, frames⟩
  all_goals cases t <;> first | rfl | exact absurd rfl ht

theorem run_firstItem_tokens (v : Json) (frames : List Frame) (ts : List Token) :
    run .firstItem frames (v.tokens ++ ts) = run .value frames (v.tokens ++ ts) := by
  obtain ⟨t, rest, htokens, ht⟩ : ∃ t rest, v.tokens = t :: rest ∧ t ≠ .closeArray := by
    cases v <;> exact ⟨_, _, rfl, by simp⟩
  rw [htokens, List.cons_append, run, run, step_firstItem ht]

mutual

/-- Reading the lexemes of a value where a value may stand gives the value's tree. -/
theorem run_tokens : ∀ (v : Json) (frames : List Frame) (ts : List Token),
    run .value frames (v.tokens ++ ts) = run (.separator v.toTree) frames ts
  | .null, _, _ => rfl
  | .bool _, _, _ => rfl
  | .num _, _, _ => rfl
  | .str _, _, _ => rfl
  | .arr [], _, _ => rfl
  | .arr [item], frames, ts => by
    rw [tokens, List.cons_append, List.append_assoc, List.singleton_append]
    exact (run_firstItem_tokens item _ _).trans (run_itemTokens [item] (by simp) [] frames ts)
  | .arr (item :: next :: items), frames, ts => by
    have hitems := run_itemTokens (item :: next :: items) (by simp) [] frames ts
    rw [itemTokens, List.append_assoc] at hitems
    · rw [tokens, itemTokens, List.cons_append, List.append_assoc, List.append_assoc]
      · exact (run_firstItem_tokens item _ _).trans hitems
      · exact List.cons_ne_nil _ _
    · exact List.cons_ne_nil _ _
  | .obj [], _, _ => rfl
  | .obj [(key, value)], frames, ts => by
    rw [tokens, List.cons_append, List.append_assoc, List.singleton_append]
    exact run_memberTokens [(key, value)] (by simp) [] frames ts
  | .obj ((key, value) :: next :: members), frames, ts => by
    have hmembers := run_memberTokens ((key, value) :: next :: members) (by simp) [] frames ts
    rw [memberTokens] at hmembers
    · rw [tokens, memberTokens, List.cons_append, List.append_assoc]
      · exact hmembers
      · exact List.cons_ne_nil _ _
    · exact List.cons_ne_nil _ _

theorem run_itemTokens : ∀ (items : List Json) (_ : items ≠ []) (done : List Tree)
    (frames : List Frame) (ts : List Token),
    run .value (.arr done :: frames) (itemTokens items ++ .closeArray :: ts)
      = run (.separator (.arr (done.reverse ++ itemsToTree items))) frames ts
  | [], h, _, _, _ => absurd rfl h
  | [item], _, done, frames, ts => by
    rw [itemTokens, run_tokens item]
    simp [run, step, itemsToTree]
  | item :: next :: items, _, done, frames, ts => by
    have hitems := run_itemTokens (next :: items) (by simp) (item.toTree :: done) frames ts
    simp only [List.reverse_cons, List.append_assoc, List.singleton_append] at hitems
    rw [itemTokens, List.append_assoc, List.cons_append, run_tokens item]
    · exact hitems
    · exact List.cons_ne_nil _ _

theorem run_memberTokens : ∀ (members : List (String × Json)) (_ : members ≠ [])
    (done : List (Option String × Tree)) (frames : List Frame) (ts : List Token),
    run (.key done) frames (memberTokens members ++ .closeObject :: ts)
      = run (.separator (.obj (done.reverse ++ membersToTree members))) frames ts
  | [], h, _, _, _ => absurd rfl h
  | [(key, value)], _, done, frames, ts => by
    have hvalue := run_tokens value (.obj done (some key) :: frames) (.closeObject :: ts)
    refine hvalue.trans ?_
    simp [run, step, membersToTree]
  | (key, value) :: next :: members, _, done, frames, ts => by
    have hvalue := run_tokens value (.obj done (some key) :: frames)
      (.comma :: (memberTokens (next :: members) ++ .closeObject :: ts))
    have hmembers := run_memberTokens (next :: members) (by simp) ((some key, value.toTree) :: done)
      frames ts
    simp only [List.reverse_cons, List.append_assoc, List.singleton_append] at hmembers
    rw [memberTokens, List.cons_append, List.cons_append, List.append_assoc, List.cons_append]
    · exact hvalue.trans hmembers
    · exact List.cons_ne_nil _ _

end

/-- The text of a value says the value's tree. -/
theorem treeOfText?_render {v : Json} (h : v.Storable) : Tree.ofText? v.render = some v.toTree := by
  have hlex := ofText?_write v h [] (by simp [Follows])
  have hnil : Token.ofText? [] = some [] := by
    rw [Token.ofText?]
    rfl
  rw [List.append_nil, hnil, Option.map_some, List.append_nil] at hlex
  have hrun := run_tokens v [] []
  rw [List.append_nil] at hrun
  simp only [Tree.ofText?, render, String.toList_ofList, hlex, Option.bind_eq_bind, Option.bind_some,
    hrun]
  rfl

/-! ## Values -/

theorem insertByKey_of_lt {α : Type} (key : String) (value : α) :
    ∀ {members : List (String × α)}, (∀ e ∈ members, e.1 < key) →
      insertByKey key value members = members ++ [(key, value)]
  | [], _ => rfl
  | (k, v) :: members, h => by
    have hlt : k < key := h (k, v) List.mem_cons_self
    have hrest := insertByKey_of_lt key value fun e he => h e (List.mem_cons_of_mem _ he)
    have hnlt : ¬ key < k := fun hgt => String.lt_irrefl _ (String.lt_trans hlt hgt)
    have hne : key ≠ k := by
      rintro rfl
      exact String.lt_irrefl _ hlt
    rw [insertByKey, if_neg hnlt, if_neg hne, hrest]
    rfl

theorem foldl_insertByKey {α : Type} {before : List (String × α)} :
    ∀ {members : List (String × α)}, SortedByKey (before ++ members) →
      members.foldl (fun sorted (key, value) => insertByKey key value sorted) before = before ++ members
  | [], _ => by simp
  | (key, value) :: members, h => by
    have hlt : ∀ e ∈ before, e.1 < key := fun e he =>
      (List.pairwise_append.1 h).2.2 e he (key, value) List.mem_cons_self
    have hrest : SortedByKey ((before ++ [(key, value)]) ++ members) := by
      rwa [List.append_assoc, List.singleton_append]
    show members.foldl _ (insertByKey key value before) = _
    rw [insertByKey_of_lt key value hlt, foldl_insertByKey hrest, List.append_assoc,
      List.singleton_append]

theorem ofMembers_of_sorted {members : List (String × Json)} (h : SortedByKey members) :
    ofMembers members = .obj members := by
  have hfold := @foldl_insertByKey Json [] members h
  rw [ofMembers, hfold, List.nil_append]

mutual

/-- A tree of a value that fits the room denotes the value. -/
theorem toJson?_toTree : ∀ (v : Json) (room : Nat), v.Storable → v.depth ≤ room →
    v.toTree.toJson? room = some v
  | .null, _, _, _ => rfl
  | .bool _, _, _, _ => rfl
  | .num _, _, _, _ => rfl
  | .str _, _, _, _ => rfl
  | .arr items, 0, _, hd => by simp [depth] at hd
  | .arr items, room + 1, h, hd => by
    have hitems := itemsToJson?_toTree items room h (by simpa [depth] using hd)
    simp [toTree, toJson?, hitems]
  | .obj members, 0, _, hd => by simp [depth] at hd
  | .obj members, room + 1, h, hd => by
    have hmembers := membersToJson?_toTree members room h.2 (by simpa [depth] using hd)
    simp [toTree, toJson?, hmembers, ofMembers_of_sorted h.1]

theorem itemsToJson?_toTree : ∀ (items : List Json) (room : Nat), StorableItems items →
    depthItems items ≤ room → itemsToJson? room (itemsToTree items) = some items
  | [], _, _, _ => rfl
  | item :: items, room, h, hd => by
    have hle := max_le_iff.1 hd
    simp [itemsToTree, itemsToJson?, toJson?_toTree item room h.1 hle.1,
      itemsToJson?_toTree items room h.2 hle.2]

theorem membersToJson?_toTree : ∀ (members : List (String × Json)) (room : Nat),
    StorableMembers members → depthMembers members ≤ room →
    membersToJson? room (membersToTree members) = some members
  | [], _, _, _ => rfl
  | (key, value) :: members, room, h, hd => by
    have hle := max_le_iff.1 hd
    simp [membersToTree, membersToJson?, toJson?_toTree value room h.1 hle.1,
      membersToJson?_toTree members room h.2 hle.2]

end

/-- A value that is not nested too deep is read from its own text. -/
theorem ofText?_render {v : Json} (h : v.Storable) (hd : v.depth ≤ maxDepth) :
    ofText? v.render = some v := by
  simp [ofText?, treeOfText?_render h, toJson?_toTree v maxDepth h hd]

end Json

end GridStore
