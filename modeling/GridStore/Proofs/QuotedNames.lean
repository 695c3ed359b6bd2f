import GridStore.Proofs.StatementText

/-!
# Quoted names

A quoted name is read as the name, whatever follows it but a quote (`Token.scanName?_quote`), so a
list of them is read as the list (`Token.scanList?_quotedList`). Names are nothing but themselves in
the text of a statement: with other names its tokens are the same but for these
(`Statement.tokens_rename`).
-/

namespace GridStore.Sql

namespace Token

/-! ## Scanning -/

/-- Reads a quoted name at the start of a text: the name, and what follows it. -/
def scanName? : List Char → Option (String × List Char)
  | '"' :: cs => (readName? cs).map fun (name, rest) => (.ofList name, rest)
  | _ => none

theorem length_of_scanName? {cs rest : List Char} {name : String}
    (h : scanName? cs = some (name, rest)) : rest.length < cs.length := by
  unfold scanName? at h
  split at h
  · obtain ⟨⟨n, r⟩, hread, hnamed⟩ := Option.map_eq_some_iff.1 h
    obtain ⟨-, rfl⟩ := Prod.mk.inj hnamed
    exact Nat.lt_succ_of_lt (length_of_readName? hread)
  · cases h

/-- Reads a text of one or more quoted names with commas between, to its end. -/
def scanNames? (cs : List Char) : Option (List String) :=
  match _h : scanName? cs with
  | some (name, []) => some [name]
  | some (name, ',' :: ' ' :: rest) => (scanNames? rest).map (name :: ·)
  | _ => none
termination_by cs.length
decreasing_by
  have := length_of_scanName? _h
  simp only [List.length_cons] at this
  omega

/-- Reads a text of quoted names with commas between, to its end. -/
def scanList? (cs : List Char) : Option (List String) :=
  if cs = [] then some [] else scanNames? cs

/-- A quoted name is read as the name, and what follows it is left, unless that is a quote. -/
theorem scanName?_quote (name : String) {rest : List Char} (h : '"' ∉ rest.head?) :
    scanName? ((quote name).toList ++ rest) = some (name, rest) := by
  have htext : (quote name).toList ++ rest = '"' ::
      (name.toList.flatMap (fun c => if c = '"' then ['"', '"'] else [c]) ++ '"' :: rest) := by
    simp [quote, quoteChars]
  rw [htext, scanName?, readName?_quoteChars h]
  exact congrArg (fun n => some (n, rest)) String.ofList_toList

section List

variable {cs rest : List Char} {name : String}

theorem scanNames?_last (h : scanName? cs = some (name, [])) : scanNames? cs = some [name] := by
  rw [scanNames?]
  split <;> simp_all

theorem scanNames?_comma (h : scanName? cs = some (name, ',' :: ' ' :: rest)) :
    scanNames? cs = (scanNames? rest).map (name :: ·) := by
  rw [scanNames?]
  split <;> simp_all

end List

theorem scanNames?_quotedList (name : String) : ∀ names : List String,
    scanNames? (quotedList (name :: names)).toList = some (name :: names)
  | [] => by
    have hname : scanName? ((quote name).toList ++ []) = some (name, []) :=
      scanName?_quote name (by simp)
    rw [List.append_nil] at hname
    exact scanNames?_last hname
  | next :: names => by
    have htext : (quotedList (name :: next :: names)).toList
        = (quote name).toList ++ ',' :: ' ' :: (quotedList (next :: names)).toList := by
      simp [quotedList, commaSeparated, String.toList_intercalate]
    rw [htext, scanNames?_comma (scanName?_quote name (by simp)), scanNames?_quotedList next names]
    rfl

/-- Quoted names with commas between are read as the names. -/
theorem scanList?_quotedList : ∀ names : List String,
    scanList? (quotedList names).toList = some names
  | [] => rfl
  | name :: names => by
    have hne : (quotedList (name :: names)).toList ≠ [] := by
      intro hnil
      have hread := scanNames?_quotedList name names
      rw [hnil, scanNames?] at hread
      simp [scanName?] at hread
    rw [scanList?, if_neg hne, scanNames?_quotedList]

end Token

/-! ## Other names -/

/-- The token with another name, if it is one. -/
def Token.rename (f : String → String) : Token → Token
  | quoted name => quoted (f name)
  | t => t

/-- The condition with other names. -/
def Condition.rename (f : String → String) : Condition → Condition
  | equals column => equals (f column)
  | isZero column => isZero (f column)
  | anyOf columns => anyOf (columns.map f)

/-- The assignment with other names. -/
def Assignment.rename (f : String → String) : Assignment → Assignment
  | set column => set (f column)
  | setUnlessNull column => setUnlessNull (f column)

/-- The source with other names. -/
def Source.rename (f : String → String) : Source → Source
  | bound => bound
  | column name => column (f name)

/-- The statement with other names. -/
def Statement.rename (f : String → String) : Statement → Statement
  | select columns table conditions orderBy =>
    select (columns.map f) (f table) (conditions.map (Condition.rename f)) (orderBy.map f)
  | insert table columns => insert (f table) (columns.map f)
  | update table assignments conditions =>
    update (f table) (assignments.map (Assignment.rename f)) (conditions.map (Condition.rename f))
  | delete table conditions => delete (f table) (conditions.map (Condition.rename f))
  | copy table target source conditions =>
    copy (f table) (target.map f) (source.map (Source.rename f))
      (conditions.map (Condition.rename f))

section Rename

variable (f : String → String)

theorem map_intercalate_map {α β : Type} (sep : List Token) {g : α → List Token}
    {k : β → List Token} {r : α → β} (hsep : sep.map (Token.rename f) = sep)
    (hg : ∀ a, k (r a) = (g a).map (Token.rename f)) : ∀ as : List α,
      sep.intercalate ((as.map r).map k) = (sep.intercalate (as.map g)).map (Token.rename f)
  | [] => rfl
  | [a] => by simpa using hg a
  | a :: b :: as => by
    have hrest := map_intercalate_map sep hsep hg (b :: as)
    simp only [List.map_cons, List.intercalate_cons_cons, List.map_append, hsep, hg] at hrest ⊢
    rw [hrest]

theorem listTokens_rename {α β : Type} {g : α → List Token} {k : β → List Token} {r : α → β}
    (hg : ∀ a, k (r a) = (g a).map (Token.rename f)) (as : List α) :
    listTokens ((as.map r).map k) = (listTokens (as.map g)).map (Token.rename f) :=
  map_intercalate_map f _ rfl hg as

theorem nameTokens_rename (names : List String) :
    nameTokens (names.map f) = (nameTokens names).map (Token.rename f) :=
  listTokens_rename f (g := fun name => [.quoted name]) (k := fun name => [.quoted name])
    (fun _ => rfl) names

theorem Condition.tokens_rename : ∀ c : Condition,
    (c.rename f).tokens = c.tokens.map (Token.rename f)
  | equals _ | isZero _ => rfl
  | anyOf columns => by
    have hbound (c : String) : boundTokens (f c) = (boundTokens c).map (Token.rename f) := rfl
    have hcolumns := map_intercalate_map f [.word "OR"] rfl hbound columns
    rw [rename, tokens, tokens, hcolumns, List.map_append]
    rfl

theorem whereTokens_rename (conditions : List Condition) :
    whereTokens (conditions.map (Condition.rename f))
      = (whereTokens conditions).map (Token.rename f) :=
  map_intercalate_map f _ rfl (Condition.tokens_rename f) conditions

theorem Assignment.tokens_rename : ∀ a : Assignment,
    (a.rename f).tokens = a.tokens.map (Token.rename f)
  | set _ | setUnlessNull _ => rfl

theorem Source.tokens_rename : ∀ s : Source,
    (s.rename f).tokens = s.tokens.map (Token.rename f)
  | bound | column _ => rfl

/-- With other names a statement has the same tokens but for these names. -/
theorem Statement.tokens_rename (st : Statement) :
    (st.rename f).tokens = st.tokens.map (Token.rename f) := by
  cases st with
  | select columns table conditions orderBy =>
    cases orderBy <;>
      simp [rename, tokens, nameTokens_rename, whereTokens_rename, Token.rename]
  | insert table columns =>
    have hbound := listTokens_rename f (g := fun _ => [.placeholder]) (k := fun _ => [.placeholder])
      (r := f) (fun _ => rfl) columns
    simp only [rename, tokens, nameTokens_rename, hbound, List.map_append]
    rfl
  | update table assignments conditions =>
    have hassigned := listTokens_rename f (Assignment.tokens_rename f) assignments
    simp only [rename, tokens, hassigned, whereTokens_rename, List.map_append]
    rfl
  | delete table conditions =>
    simp only [rename, tokens, whereTokens_rename, List.map_append]
    rfl
  | copy table target source conditions =>
    have hsources := listTokens_rename f (Source.tokens_rename f) source
    simp only [rename, tokens, hsources, nameTokens_rename, whereTokens_rename, List.map_append]
    rfl

end Rename

/-- Quoting loses nothing and cannot be escaped. A text of quoted names is read as the names, all of
it, and a quoted name before anything but a quote is read as the name, so different lists of names
have different texts. In the text of a statement a name is one token: with other names the tokens
are the same but for these. -/
theorem quoting_lossless :
    (∀ names : List String, Token.scanList? (quotedList names).toList = some names) ∧
    (∀ (name : String) (rest : List Char), '"' ∉ rest.head? →
      Token.scanName? ((quote name).toList ++ rest) = some (name, rest)) ∧
    Function.Injective quotedList ∧
    ∀ st : Statement, ∃ ts, Token.ofText? st.text.toList = some ts ∧
      ∀ f : String → String,
        Token.ofText? (st.rename f).text.toList = some (ts.map (Token.rename f)) := by
  refine ⟨Token.scanList?_quotedList, fun name rest h => Token.scanName?_quote name h, ?_,
    fun st => ⟨st.tokens, st.ofText?_text, fun f => ?_⟩⟩
  · intro names names' h
    have hread := Token.scanList?_quotedList names
    rw [h, Token.scanList?_quotedList] at hread
    exact (Option.some.inj hread).symm
  · rw [Statement.ofText?_text, Statement.tokens_rename]

/-- A name that ends in a quote, and one that looks like the end of a list, are read before the
mark that follows. -/
theorem quoting_lossless_delimiters :
    let rest := [')', '"']
    '"' ∉ rest.head? ∧ Token.scanName? ((quote "a\"").toList ++ rest) = some ("a\"", rest) ∧
      Token.scanName? ((quote "\", \"?").toList ++ rest) = some ("\", \"?", rest) := by
  intro rest
  have hrest : '"' ∉ rest.head? := by decide
  obtain ⟨-, hread, -⟩ := quoting_lossless
  exact ⟨hrest, hread _ _ hrest, hread _ _ hrest⟩

end GridStore.Sql
