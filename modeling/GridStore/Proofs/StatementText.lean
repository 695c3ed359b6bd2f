import GridStore.Sql.Token
import Mathlib.Data.List.Basic

/-!
# The text of a statement read back

A quoted name is read as the name, whatever characters it has (`readName?_quoteChars`), so the
tokens of a statement's text are those of its parts, in order (`Statement.ofText?_text`).
-/

namespace GridStore.Sql

/-! ## Tokens of the parts -/

open Sql.Token

/-- A column and the value bound for it. -/
def boundTokens (column : String) : List Token :=
  [quoted column, mark '=', placeholder]

/-- The tokens of a condition. -/
def Condition.tokens : Condition → List Token
  | equals column => boundTokens column
  | isZero column => [quoted column, mark '=', word "0"]
  | anyOf columns => mark '(' :: [word "OR"].intercalate (columns.map boundTokens) ++ [mark ')']

/-- The tokens of an assignment. -/
def Assignment.tokens : Assignment → List Token
  | set column => boundTokens column
  | setUnlessNull column =>
    [quoted column, mark '=', word "COALESCE", mark '(', placeholder, mark ',', quoted column,
      mark ')']

/-- The tokens of a source. -/
def Source.tokens : Source → List Token
  | bound => [placeholder]
  | column name => [quoted name]

/-- Parts with commas between. -/
def listTokens (parts : List (List Token)) : List Token :=
  [mark ','].intercalate parts

/-- Quoted names with commas between. -/
def nameTokens (names : List String) : List Token :=
  listTokens (names.map fun name => [quoted name])

/-- The tokens of conditions that all have to hold. -/
def whereTokens (conditions : List Condition) : List Token :=
  [word "AND"].intercalate (conditions.map Condition.tokens)

/-- The tokens of a statement. -/
def Statement.tokens : Statement → List Token
  | select columns table conditions orderBy =>
    [word "SELECT"] ++ nameTokens columns ++ [word "FROM"] ++ [quoted table] ++ [word "WHERE"] ++
      whereTokens conditions ++
      (match orderBy with
        | some column => [word "ORDER", word "BY"] ++ [quoted column]
        | none => [])
  | insert table columns =>
    [word "INSERT", word "INTO"] ++ [quoted table] ++ [mark '('] ++ nameTokens columns ++
      [mark ')', word "VALUES", mark '('] ++ listTokens (columns.map fun _ => [placeholder]) ++
      [mark ')']
  | update table assignments conditions =>
    [word "UPDATE"] ++ [quoted table] ++ [word "SET"] ++
      listTokens (assignments.map Assignment.tokens) ++ [word "WHERE"] ++ whereTokens conditions
  | delete table conditions =>
    [word "DELETE", word "FROM"] ++ [quoted table] ++ [word "WHERE"] ++ whereTokens conditions
  | copy table target source conditions =>
    [word "INSERT", word "INTO"] ++ [quoted table] ++ [mark '('] ++ nameTokens target ++
      [mark ')', word "SELECT"] ++ listTokens (source.map Source.tokens) ++ [word "FROM"] ++
      [quoted table] ++ [word "WHERE"] ++ whereTokens conditions

/-! ## Names -/

/-- A quoted name is read up to its closing quote, if no quote follows that. -/
theorem readName?_quoteChars {rest : List Char} (h : '"' ∉ rest.head?) : ∀ name : List Char,
    readName? (name.flatMap (fun c => if c = '"' then ['"', '"'] else [c]) ++ '"' :: rest)
      = some (name, rest)
  | [] => by
    rcases rest with _ | ⟨c, rest⟩
    · rfl
    · have hc : c ≠ '"' := by simpa using h
      rw [List.flatMap_nil, List.nil_append, readName?]
      simpa using hc
  | c :: name => by
    have hname := readName?_quoteChars h name
    rw [List.flatMap_cons, List.append_assoc]
    by_cases hc : c = '"'
    · rw [if_pos hc, List.cons_append, List.cons_append, List.nil_append, readName?, hname, hc]
      rfl
    · rw [if_neg hc, List.cons_append, List.nil_append, readName?, hname]
      · rfl
      · exact fun _ hquote => absurd hquote hc
      · exact hc

/-! ## Reading parts -/

/-- Whether a text begins with what ends a name or a word. -/
def Divides (rest : List Char) : Prop :=
  ∃ c ∈ rest.head?, c = ' ' ∨ isMark c = true

/-- A text is read as tokens, whatever follows it. -/
def Reads (cs : List Char) (ts : List Token) : Prop :=
  ∀ rest, ofText? (cs ++ rest) = (ofText? rest).map (ts ++ ·)

/-- A text is read as tokens at the end of a text and before what ends a name or a word. -/
def ReadsBefore (cs : List Char) (ts : List Token) : Prop :=
  ∀ rest, rest = [] ∨ Divides rest → ofText? (cs ++ rest) = (ofText? rest).map (ts ++ ·)

variable {cs ds : List Char} {ts us : List Token}

theorem Divides.append (h : Divides ds) (rest : List Char) : Divides (ds ++ rest) := by
  obtain ⟨c, hc, hdivides⟩ := h
  rcases ds with _ | ⟨d, ds⟩
  · cases hc
  · exact ⟨c, hc, hdivides⟩

theorem Reads.before (h : Reads cs ts) : ReadsBefore cs ts :=
  fun rest _ => h rest

theorem Reads.append (h : Reads cs ts) (h' : ReadsBefore ds us) :
    ReadsBefore (cs ++ ds) (ts ++ us) := by
  intro rest hrest
  rw [List.append_assoc, h, h' rest hrest, Option.map_map]
  simp only [Function.comp_def, List.append_assoc]

theorem ReadsBefore.append (h : ReadsBefore cs ts) (h' : Reads ds us) (hds : Divides ds) :
    Reads (cs ++ ds) (ts ++ us) := by
  intro rest
  rw [List.append_assoc, h _ (.inr (hds.append rest)), h', Option.map_map]
  simp only [Function.comp_def, List.append_assoc]

theorem ReadsBefore.ofText? (h : ReadsBefore cs ts) : ofText? cs = some ts := by
  have hread := h [] (.inl rfl)
  rwa [List.append_nil, Token.ofText?, Option.map_some, List.append_nil] at hread

theorem readsBefore_nil : ReadsBefore [] [] := by
  intro rest _
  simp

theorem readsBefore_intercalate {α : Type} {f : α → List Char} {g : α → List Token}
    (hsep : Reads cs ts) (hdivides : Divides cs) (h : ∀ a, ReadsBefore (f a) (g a)) : ∀ as : List α,
      ReadsBefore (cs.intercalate (as.map f)) (ts.intercalate (as.map g))
  | [] => readsBefore_nil
  | [a] => by simpa using h a
  | a :: b :: as => by
    have hrest := readsBefore_intercalate hsep hdivides h (b :: as)
    simp only [List.map_cons, List.intercalate_cons_cons] at hrest ⊢
    exact ((h a).append hsep hdivides).append hrest

theorem readsBefore_quote (name : String) : ReadsBefore (quote name).toList [quoted name] := by
  intro rest hrest
  have hquote : '"' ∉ rest.head? := by
    rcases hrest with rfl | ⟨c, hc, hdivides⟩
    · simp
    · intro hq
      obtain rfl := Option.mem_unique hq hc
      simp [isMark] at hdivides
  have hread := readName?_quoteChars hquote name.toList
  have htext : (quote name).toList ++ rest = '"' ::
      (name.toList.flatMap (fun c => if c = '"' then ['"', '"'] else [c]) ++ '"' :: rest) := by
    simp [quote, quoteChars]
  rw [htext, Token.ofText?, if_neg (by decide), if_neg (by decide), if_neg (by decide), if_pos rfl]
  split
  · rename_i heq
    rw [hread] at heq
    obtain ⟨rfl, rfl⟩ := Prod.mk.inj (Option.some.inj heq)
    simp
  · rename_i heq
    rw [hread] at heq
    cases heq

theorem readsBefore_commaSeparated {α : Type} {f : α → String} {g : α → List Token}
    (h : ∀ a, ReadsBefore (f a).toList (g a)) (as : List α) :
    ReadsBefore (commaSeparated (as.map f)).toList (listTokens (as.map g)) := by
  have hcomma : Reads ", ".toList [mark ','] := by simp [Reads, Token.ofText?, isMark]
  rw [commaSeparated, String.toList_intercalate, List.map_map]
  exact readsBefore_intercalate hcomma ⟨',', rfl, .inr rfl⟩ h as

theorem readsBefore_quotedList (names : List String) :
    ReadsBefore (quotedList names).toList (nameTokens names) :=
  readsBefore_commaSeparated readsBefore_quote names

theorem reads_bound (column : String) :
    Reads (quote column ++ " = ?").toList (boundTokens column) := by
  have hbound : Reads " = ?".toList [mark '=', placeholder] := by
    simp [Reads, Token.ofText?, isMark, Function.comp_def]
  rw [String.toList_append]
  exact (readsBefore_quote column).append hbound ⟨' ', rfl, .inl rfl⟩

/-- The last word of a text ends where a name or word would. -/
theorem readsBefore_zero : ReadsBefore "0".toList [word "0"] := by
  intro rest hrest
  have hrest : rest.takeWhile isLetter = [] ∧ rest.dropWhile isLetter = rest := by
    rcases hrest with rfl | ⟨c, hc, hdivides⟩
    · exact ⟨rfl, rfl⟩
    · obtain ⟨rest, rfl⟩ := List.head?_eq_some_iff.1 hc
      rcases hdivides with rfl | hmark <;> simp_all [isLetter]
  have hzero : Token.isLetter '0' = true := by decide
  simp [Token.ofText?, isMark, hrest]

theorem readsBefore_condition : ∀ c : Condition, ReadsBefore c.text.toList c.tokens
  | .equals column => (reads_bound column).before
  | .isZero column => by
    have hequals : Reads " = ".toList [mark '='] := by simp [Reads, Token.ofText?, isMark]
    have htext : (Condition.isZero column).text.toList
        = ((quote column).toList ++ " = ".toList) ++ "0".toList := by
      rw [Condition.text, String.toList_append, List.append_assoc]
      rfl
    rw [htext]
    exact ((readsBefore_quote column).append hequals ⟨' ', rfl, .inl rfl⟩).append readsBefore_zero
  | .anyOf columns => by
    have hopen : Reads "(".toList [mark '('] := by simp [Reads, Token.ofText?, isMark]
    have hclose : Reads ")".toList [mark ')'] := by simp [Reads, Token.ofText?, isMark]
    have hor : Reads " OR ".toList [word "OR"] := by simp [Reads, Token.ofText?, isMark, isLetter]
    have hcolumns := readsBefore_intercalate hor ⟨' ', rfl, .inl rfl⟩
      (fun c => (reads_bound c).before) columns
    rw [Condition.text, String.toList_append, String.toList_append, String.toList_intercalate,
      List.map_map]
    exact ((hopen.append hcolumns).append hclose ⟨')', rfl, .inr rfl⟩).before

theorem readsBefore_allOf (conditions : List Condition) :
    ReadsBefore (allOf conditions).toList (whereTokens conditions) := by
  have hand : Reads " AND ".toList [word "AND"] := by simp [Reads, Token.ofText?, isMark, isLetter]
  rw [allOf, String.toList_intercalate, List.map_map]
  exact readsBefore_intercalate hand ⟨' ', rfl, .inl rfl⟩ readsBefore_condition conditions

theorem readsBefore_assignment : ∀ a : Assignment, ReadsBefore a.text.toList a.tokens
  | .set column => (reads_bound column).before
  | .setUnlessNull column => by
    have hopen : Reads " = COALESCE(?, ".toList
        [mark '=', word "COALESCE", mark '(', placeholder, mark ','] := by
      simp [Reads, Token.ofText?, isMark, isLetter, Function.comp_def]
    have hclose : Reads ")".toList [mark ')'] := by simp [Reads, Token.ofText?, isMark]
    have hname := readsBefore_quote column
    simp only [Assignment.text, String.toList_append]
    exact ((((hname.append hopen ⟨' ', rfl, .inl rfl⟩).append hname).append hclose
      ⟨')', rfl, .inr rfl⟩)).before

theorem reads_placeholder : Reads "?".toList [placeholder] := by
  simp [Reads, Token.ofText?]

theorem readsBefore_source : ∀ s : Source, ReadsBefore s.text.toList s.tokens
  | .bound => reads_placeholder.before
  | .column name => readsBefore_quote name

/-! ## Reading statements -/

theorem Statement.readsBefore_text (st : Statement) : ReadsBefore st.text.toList st.tokens := by
  have hfrom : Reads " FROM ".toList [word "FROM"] := by
    simp [Reads, Token.ofText?, isMark, isLetter]
  have hwhere : Reads " WHERE ".toList [word "WHERE"] := by
    simp [Reads, Token.ofText?, isMark, isLetter]
  have hinsert : Reads "INSERT INTO ".toList [word "INSERT", word "INTO"] := by
    simp [Reads, Token.ofText?, isMark, isLetter, Function.comp_def]
  have hopen : Reads " (".toList [mark '('] := by simp [Reads, Token.ofText?, isMark]
  have hclose : Reads ")".toList [mark ')'] := by simp [Reads, Token.ofText?, isMark]
  unfold text tokens
  cases st with
  | select columns table conditions orderBy =>
    have hselect : Reads "SELECT ".toList [word "SELECT"] := by
      simp [Reads, Token.ofText?, isMark, isLetter]
    have horder : Reads " ORDER BY ".toList [word "ORDER", word "BY"] := by
      simp [Reads, Token.ofText?, isMark, isLetter, Function.comp_def]
    have hfilter := ((((hselect.append (readsBefore_quotedList columns)).append hfrom
      ⟨' ', rfl, .inl rfl⟩).append (readsBefore_quote table)).append hwhere
      ⟨' ', rfl, .inl rfl⟩).append (readsBefore_allOf conditions)
    rcases orderBy with _ | column
    · simpa only [String.append_empty, List.append_nil, String.toList_append] using hfilter
    · have hordered := (hfilter.append horder ⟨' ', rfl, .inl rfl⟩).append (readsBefore_quote column)
      simpa only [String.toList_append, List.append_assoc] using hordered
  | insert table columns =>
    have hvalues : Reads ") VALUES (".toList [mark ')', word "VALUES", mark '('] := by
      simp [Reads, Token.ofText?, isMark, isLetter, Function.comp_def]
    have hbound := readsBefore_commaSeparated (fun _ : String => reads_placeholder.before) columns
    simp only [String.toList_append]
    exact ((((((hinsert.append (readsBefore_quote table)).append hopen ⟨' ', rfl, .inl rfl⟩).append
      (readsBefore_quotedList columns)).append hvalues ⟨')', rfl, .inr rfl⟩).append hbound).append
      hclose ⟨')', rfl, .inr rfl⟩).before
  | update table assignments conditions =>
    have hupdate : Reads "UPDATE ".toList [word "UPDATE"] := by
      simp [Reads, Token.ofText?, isMark, isLetter]
    have hset : Reads " SET ".toList [word "SET"] := by
      simp [Reads, Token.ofText?, isMark, isLetter]
    have hassigned := readsBefore_commaSeparated readsBefore_assignment assignments
    simp only [String.toList_append]
    exact ((((hupdate.append (readsBefore_quote table)).append hset ⟨' ', rfl, .inl rfl⟩).append
      hassigned).append hwhere ⟨' ', rfl, .inl rfl⟩).append (readsBefore_allOf conditions)
  | delete table conditions =>
    have hdelete : Reads "DELETE FROM ".toList [word "DELETE", word "FROM"] := by
      simp [Reads, Token.ofText?, isMark, isLetter, Function.comp_def]
    simp only [String.toList_append]
    exact ((hdelete.append (readsBefore_quote table)).append hwhere ⟨' ', rfl, .inl rfl⟩).append
      (readsBefore_allOf conditions)
  | copy table target source conditions =>
    have hselect : Reads ") SELECT ".toList [mark ')', word "SELECT"] := by
      simp [Reads, Token.ofText?, isMark, isLetter, Function.comp_def]
    have hsources := readsBefore_commaSeparated readsBefore_source source
    simp only [String.toList_append]
    exact ((((((((hinsert.append (readsBefore_quote table)).append hopen ⟨' ', rfl, .inl rfl⟩).append
      (readsBefore_quotedList target)).append hselect ⟨')', rfl, .inr rfl⟩).append
      hsources).append hfrom ⟨' ', rfl, .inl rfl⟩).append (readsBefore_quote table)).append hwhere
      ⟨' ', rfl, .inl rfl⟩).append (readsBefore_allOf conditions)

/-- The text of a statement reads back as the tokens of its parts, whatever the names in it. -/
theorem Statement.ofText?_text (st : Statement) : Token.ofText? st.text.toList = some st.tokens :=
  st.readsBefore_text.ofText?

end GridStore.Sql
