import GridStore.Proofs.Placeholders

/-!
# Statements that copy rows

A statement that copies rows lists the columns that the copies are inserted into, and apart from them
what is selected for each. The lists are aligned (`cloneVariant_eq`, `cloneNetwork_eq`): read back
from the text they are as long, and where a column is bound its source is a placeholder, else the
column itself (`copies_cloneVariant`, `copies_cloneNetwork`).
-/

namespace GridStore.Sql

open Sql.Token

namespace Token

/-- The tokens between the first of a kind and the next of another. -/
def between (first last : Token) (ts : List Token) : List Token :=
  (ts.dropWhile (· ≠ first)).tail.takeWhile (· ≠ last)

/-- The columns that a row is inserted into, each as its tokens. -/
def insertedParts (ts : List Token) : List (List Token) :=
  (between (mark '(') (mark ')') ts).splitOn (mark ',')

/-- What a query selects, each as its tokens. -/
def selectedParts (ts : List Token) : List (List Token) :=
  (between (word "SELECT") (word "FROM") ts).splitOn (mark ',')

theorem between_append {first last : Token} {before inner after : List Token} (hfirst : first ∉ before)
    (hlast : last ∉ inner) :
    between first last (before ++ first :: (inner ++ last :: after)) = inner := by
  have hdrop : (before ++ first :: (inner ++ last :: after)).dropWhile (· ≠ first)
      = first :: (inner ++ last :: after) := by
    rw [List.dropWhile_append_of_pos, List.dropWhile_cons_of_neg (by simp)]
    intro t ht
    simpa using ne_of_mem_of_not_mem ht hfirst
  rw [between, hdrop, List.tail_cons, List.takeWhile_append_of_pos, List.takeWhile_cons_of_neg (by simp),
    List.append_nil]
  intro t ht
  simpa using ne_of_mem_of_not_mem ht hlast

end Token

/-! ## The lists of a copy -/

section Copy

variable {target : List String} {source : List Source} {table : String}
  {conditions : List Condition}

theorem splitOn_listTokens {α : Type} {f : α → List Token} (hf : ∀ a, mark ',' ∉ f a) {as : List α}
    (has : as ≠ []) : (listTokens (as.map f)).splitOn (mark ',') = as.map f := by
  refine List.splitOn_intercalate _ (fun part hpart => ?_) (by simpa using has)
  obtain ⟨a, -, rfl⟩ := List.mem_map.1 hpart
  exact hf a

theorem not_mem_nameTokens {t : Token} (hcomma : t ≠ mark ',') (hname : ∀ name, t ≠ quoted name)
    (names : List String) : t ∉ nameTokens names := by
  intro ht
  refine forall_mem_intercalate (p := (· ≠ t)) ?_ ?_ t ht rfl
  · simpa using hcomma.symm
  · intro part hpart u hu
    obtain ⟨name, -, rfl⟩ := List.mem_map.1 hpart
    rw [List.mem_singleton.1 hu]
    exact (hname name).symm

theorem not_mem_sources {t : Token} (hcomma : t ≠ mark ',') (hname : ∀ name, t ≠ quoted name)
    (hbound : t ≠ placeholder) (source : List Source) :
    t ∉ listTokens (source.map Source.tokens) := by
  intro ht
  refine forall_mem_intercalate (p := (· ≠ t)) ?_ ?_ t ht rfl
  · simpa using hcomma.symm
  · intro part hpart u hu
    obtain ⟨_ | name, -, rfl⟩ := List.mem_map.1 hpart <;> rw [List.mem_singleton.1 hu]
    · exact hbound.symm
    · exact (hname name).symm

theorem insertedParts_copy (htarget : target ≠ []) :
    insertedParts (Statement.copy table target source conditions).tokens
      = target.map fun c => [quoted c] := by
  have htokens : (Statement.copy table target source conditions).tokens
      = [word "INSERT", word "INTO", quoted table] ++ mark '(' ::
        (nameTokens target ++ mark ')' :: (word "SELECT" ::
          (listTokens (source.map Source.tokens) ++ [word "FROM"] ++ [quoted table] ++
            [word "WHERE"] ++ whereTokens conditions))) := by
    simp [Statement.tokens]
  rw [insertedParts, htokens, between_append (by simp)
    (not_mem_nameTokens (by simp) (by simp) _), nameTokens, splitOn_listTokens (by simp) htarget]

theorem selectedParts_copy (hsource : source ≠ []) :
    selectedParts (Statement.copy table target source conditions).tokens
      = source.map Source.tokens := by
  have htokens : (Statement.copy table target source conditions).tokens
      = ([word "INSERT", word "INTO", quoted table, mark '('] ++ nameTokens target ++
          [mark ')']) ++ word "SELECT" :: (listTokens (source.map Source.tokens) ++
            word "FROM" :: (quoted table :: word "WHERE" :: whereTokens conditions)) := by
    simp [Statement.tokens]
  have hsources := not_mem_sources (t := word "FROM") (by simp) (by simp) (by simp) source
  have hnames := not_mem_nameTokens (t := word "SELECT") (by simp) (by simp) target
  rw [selectedParts, htokens, between_append (by simpa using hnames) hsources]
  exact splitOn_listTokens (fun s => by cases s <;> simp [Source.tokens]) hsource

theorem dropWhile_copy :
    (Statement.copy table target source conditions).tokens.dropWhile (· ≠ word "WHERE")
      = word "WHERE" :: whereTokens conditions := by
  have htokens : (Statement.copy table target source conditions).tokens
      = ([word "INSERT", word "INTO", quoted table, mark '('] ++ nameTokens target ++
          [mark ')', word "SELECT"] ++ listTokens (source.map Source.tokens) ++
            [word "FROM", quoted table]) ++ word "WHERE" :: whereTokens conditions := by
    simp [Statement.tokens]
  have hnames := not_mem_nameTokens (t := word "WHERE") (by simp) (by simp) target
  have hsources := not_mem_sources (t := word "WHERE") (by simp) (by simp) (by simp) source
  rw [htokens, List.dropWhile_append_of_pos, List.dropWhile_cons_of_neg (by simp)]
  intro t ht
  rw [decide_eq_true_iff]
  rintro rfl
  simp [hnames, hsources] at ht

theorem count_sources : ∀ source : List Source,
    (listTokens (source.map Source.tokens)).count placeholder = source.count .bound
  | [] => rfl
  | s :: source => by
    have hrest := count_sources source
    rw [count_listTokens] at hrest ⊢
    rw [List.map_cons, List.flatten_cons, List.count_append, hrest, List.count_cons, Nat.add_comm]
    cases s <;> simp [Source.tokens]

theorem count_copy : (Statement.copy table target source conditions).tokens.count placeholder
    = source.count .bound + (whereTokens conditions).count placeholder := by
  have hnames : (nameTokens target).count placeholder = 0 :=
    List.count_eq_zero.2 (not_mem_nameTokens (by simp) (by simp) _)
  simp [Statement.tokens, hnames, count_sources]

end Copy

/-! ## Aligned lists -/

/-- What the columns of a copy hold if some of them, which stand first, are bound and the others as in
the row. -/
def sources (bound kept : List String) : List Source :=
  bound.map (fun _ => .bound) ++ kept.map .column

theorem count_bound_sources (bound kept : List String) :
    (sources bound kept).count .bound = bound.length := by
  simp [sources, List.count_eq_zero.2, List.map_const']

/-- The two lists of a copy of a variant are aligned. -/
theorem cloneVariant_eq (l : TableLayout) (columns : List String) :
    cloneVariant l columns
      = .copy l.table ("variantNum" :: l.variantIdColumn.toList ++ l.networkColumn :: "id" :: columns)
          (sources ("variantNum" :: l.variantIdColumn.toList) (l.networkColumn :: "id" :: columns))
          (ofVariant l) := by
  rw [cloneVariant]
  cases l.variantIdColumn <;> simp [copyVariant, sources]

/-- So are those of a copy to another network. -/
theorem cloneNetwork_eq (l : TableLayout) (columns : List String) :
    cloneNetwork l columns
      = .copy l.table
          ("variantNum" :: l.variantIdColumn.toList ++ [l.networkColumn] ++ "id" :: columns)
          (sources ("variantNum" :: l.variantIdColumn.toList ++ [l.networkColumn]) ("id" :: columns))
          (ofVariant l) := by
  rw [cloneNetwork]
  cases l.variantIdColumn <;> simp [copyVariant, sources]

/-- Whether the text of a copy inserts into some columns what is bound for them, and into others
what the row that it copies holds there, and selects the rows by columns with bound values. -/
structure Token.Copies (ts : List Token) (bound kept filter : List String) : Prop where
  inserted : insertedParts ts = (bound ++ kept).map fun c => [quoted c]
  length : (insertedParts ts).length = (selectedParts ts).length
  selected : ∀ i, i < bound.length → (selectedParts ts)[i]? = some [placeholder]
  same : ∀ i, bound.length ≤ i → (selectedParts ts)[i]? = (insertedParts ts)[i]?
  /-- Where no column is among both, a placeholder is told by the name of its column. -/
  named : (∀ c ∈ kept, c ∉ bound) → ∀ (i : Nat) (c : String), (insertedParts ts)[i]? = some [quoted c] →
    (selectedParts ts)[i]? = some (if c ∈ bound then [placeholder] else [quoted c])
  compared : boundColumns (ts.dropWhile (· ≠ word "WHERE")) = filter.map some
  /-- There are no other placeholders. -/
  count : ts.count placeholder = bound.length + filter.length

section Copies

variable {table : String} {bound kept filter : List String}

theorem selected_of_named {inserted selected : List (List Token)}
    (hinserted : inserted = (bound ++ kept).map fun c => [quoted c])
    (hbound : ∀ i, i < bound.length → selected[i]? = some [placeholder])
    (hsame : ∀ i, bound.length ≤ i → selected[i]? = inserted[i]?) (hkept : ∀ c ∈ kept, c ∉ bound)
    {i : Nat} {c : String} (hc : inserted[i]? = some [quoted c]) :
    selected[i]? = some (if c ∈ bound then [placeholder] else [quoted c]) := by
  have hname : (bound ++ kept)[i]? = some c := by
    rw [hinserted, List.getElem?_map] at hc
    obtain ⟨d, hd, heq⟩ := Option.map_eq_some_iff.1 hc
    obtain rfl : d = c := by simpa using heq
    exact hd
  by_cases hi : i < bound.length
  · rw [List.getElem?_append_left hi] at hname
    rw [hbound i hi, if_pos (List.mem_of_getElem? hname)]
  · have hi := Nat.le_of_not_lt hi
    rw [List.getElem?_append_right hi] at hname
    rw [hsame i hi, hc, if_neg (hkept c (List.mem_of_getElem? hname))]

theorem copies_of_copy (hbound : bound ≠ []) :
    Copies (Statement.copy table (bound ++ kept) (sources bound kept)
      (filter.map .equals)).tokens bound kept filter := by
  have htarget : bound ++ kept ≠ [] := List.append_ne_nil_of_left_ne_nil hbound _
  have hsource : sources bound kept ≠ [] :=
    List.append_ne_nil_of_left_ne_nil (by simpa using hbound) _
  have hinserted := @insertedParts_copy _ (sources bound kept) table (filter.map .equals) htarget
  have hselected := @selectedParts_copy (bound ++ kept) _ table (filter.map .equals) hsource
  have hfilter := @dropWhile_copy (bound ++ kept) (sources bound kept) table (filter.map .equals)
  have hcount := @count_copy (bound ++ kept) (sources bound kept) table (filter.map .equals)
  generalize (Statement.copy table (bound ++ kept) (sources bound kept)
    (filter.map .equals)).tokens = ts at *
  have hparts : (sources bound kept).map Source.tokens
      = bound.map (fun _ => [placeholder]) ++ kept.map fun c => [quoted c] := by
    simp [sources, Function.comp_def, Source.tokens]
  rw [hparts] at hselected
  have hplaceholder (i : Nat) (hi : i < bound.length) :
      (selectedParts ts)[i]? = some [placeholder] := by
    rw [hselected, List.getElem?_append_left (by simpa using hi)]
    simp [hi]
  have hsame (i : Nat) (hi : bound.length ≤ i) :
      (selectedParts ts)[i]? = (insertedParts ts)[i]? := by
    rw [hselected, hinserted, List.map_append, List.getElem?_append_right (by simpa using hi),
      List.getElem?_append_right (by simpa using hi), List.length_map, List.length_map]
  refine ⟨hinserted, ?_, hplaceholder, hsame,
    fun hkept i c hc => selected_of_named hinserted hplaceholder hsame hkept hc, ?_, ?_⟩
  · rw [hinserted, hselected]
    simp
  · rw [hfilter]
    refine (columns_of_uses ?_).1
    have huses := ((using_word "WHERE").append (using_where (filter.map .equals))).uses none none
    rw [List.flatMap_map] at huses
    exact huses
  · have hcompared : (whereTokens (filter.map .equals)).count placeholder = filter.length := by
      rw [whereTokens, count_intercalate (by simp), List.map_map, List.count_flatten, List.map_map]
      simp [Function.comp_def, Condition.tokens, boundTokens]
    rw [hcount, hcompared, count_bound_sources]

end Copies

theorem copies_cloneVariant (l : TableLayout) (columns : List String) :
    ∃ ts, ofText? (cloneVariant l columns).text.toList = some ts ∧
      Copies ts ("variantNum" :: l.variantIdColumn.toList) (l.networkColumn :: "id" :: columns)
        [l.networkColumn, "variantNum"] := by
  refine ⟨_, Statement.ofText?_text _, ?_⟩
  rw [cloneVariant_eq]
  exact @copies_of_copy _ _ _ [l.networkColumn, "variantNum"] (List.cons_ne_nil _ _)

theorem copies_cloneNetwork (l : TableLayout) (columns : List String) :
    ∃ ts, ofText? (cloneNetwork l columns).text.toList = some ts ∧
      Copies ts ("variantNum" :: l.variantIdColumn.toList ++ [l.networkColumn]) ("id" :: columns)
        [l.networkColumn, "variantNum"] := by
  refine ⟨_, Statement.ofText?_text _, ?_⟩
  rw [cloneNetwork_eq]
  exact @copies_of_copy _ _ _ [l.networkColumn, "variantNum"] (List.cons_ne_nil _ _)

end GridStore.Sql
