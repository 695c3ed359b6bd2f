import GridStore.Json.Numeral
import GridStore.Json.Quoted

/-!
# JSON tokens

The lexemes of a document: punctuation, words, numerals and strings, with blanks between them left
out. A numeral beyond the range of a double and a string with half a character are lexemes too;
they denote nothing.
-/

namespace GridStore

/-- A lexeme of a JSON document. -/
inductive Token where
  | openObject | closeObject | openArray | closeArray | comma | colon
  | null
  | bool (b : Bool)
  | num (n : Option Number)
  | str (s : Option String)

namespace Token

/-- The blanks that may stand between lexemes. -/
def isBlank (c : Char) : Bool :=
  c = ' ' || c = '\t' || c = '\n' || c = '\r'

/-- The lexeme at the head of a text, none where a blank stands there, and what follows it. -/
def lexeme? : List Char → Option (Option Token × List Char)
  | '{' :: rest => some (some .openObject, rest)
  | '}' :: rest => some (some .closeObject, rest)
  | '[' :: rest => some (some .openArray, rest)
  | ']' :: rest => some (some .closeArray, rest)
  | ',' :: rest => some (some .comma, rest)
  | ':' :: rest => some (some .colon, rest)
  | 'n' :: 'u' :: 'l' :: 'l' :: rest => some (some .null, rest)
  | 't' :: 'r' :: 'u' :: 'e' :: rest => some (some (.bool true), rest)
  | 'f' :: 'a' :: 'l' :: 's' :: 'e' :: rest => some (some (.bool false), rest)
  | '"' :: cs => (Quoted.read? cs).map fun (s, rest) => (some (.str s), rest)
  | c :: cs =>
    if isBlank c then some (none, cs)
    else (Numeral.read? (c :: cs)).map fun (n, rest) => (some (.num n.value?), rest)
  | [] => none

end Token

theorem Quoted.length_of_pieces? {cs rest : List Char} {pieces : List Piece}
    (h : pieces? cs = some (pieces, rest)) : rest.length < cs.length := by
  fun_induction pieces? cs generalizing pieces rest with
  | case1 => simp at h
  | case2 => simp at h; simp [h.2]
  | case3 a b c d cs ih =>
    simp only [Option.bind_eq_bind, Option.bind_eq_some_iff, Option.some.injEq, Prod.mk.injEq] at h
    obtain ⟨n, -, ⟨p, r⟩, hr, -, rfl⟩ := h
    have := ih hr
    simp only [List.length_cons]
    omega
  | case4 e cs _ ih =>
    simp only [Option.bind_eq_bind, Option.bind_eq_some_iff, Option.some.injEq, Prod.mk.injEq] at h
    obtain ⟨n, -, ⟨p, r⟩, hr, -, rfl⟩ := h
    have := ih hr
    simp only [List.length_cons]
    omega
  | case5 => simp at h
  | case6 c cs _ _ _ hc ih =>
    simp only [Option.bind_eq_bind, Option.bind_eq_some_iff, Option.some.injEq, Prod.mk.injEq] at h
    obtain ⟨⟨p, r⟩, hr, -, rfl⟩ := h
    have := ih hr
    simp only [List.length_cons]
    omega

namespace Numeral

theorem length_spanDigits (cs : List Char) :
    (spanDigits cs).1.length + (spanDigits cs).2.length = cs.length := by
  rw [← List.length_append]
  simp [spanDigits, List.takeWhile_append_dropWhile]

theorem length_spanDigits_rest (cs : List Char) : (spanDigits cs).2.length ≤ cs.length := by
  have := length_spanDigits cs
  omega

theorem length_of_readWhole? {cs whole rest : List Char} (h : readWhole? cs = some (whole, rest)) :
    rest.length < cs.length := by
  have hlen := length_spanDigits cs
  simp only [readWhole?] at h
  split at h
  · simp at h
  · simp at h
  · rename_i ds r hds _ heq
    simp only [Option.some.injEq, Prod.mk.injEq] at h
    obtain ⟨rfl, rfl⟩ := h
    rw [heq] at hlen
    cases ds with
    | nil => exact (hds rfl).elim
    | cons d ds => simp only [List.length_cons] at hlen; omega

theorem length_of_readPlaces? {cs places rest : List Char}
    (h : readPlaces? cs = some (places, rest)) : rest.length ≤ cs.length := by
  unfold readPlaces? at h
  split at h
  · rename_i cs'
    have hlen := length_spanDigits_rest cs'
    split at h
    · simp at h
    · rename_i heq
      simp only [Option.some.injEq, Prod.mk.injEq] at h
      rw [heq] at hlen
      simp only [List.length_cons] at hlen ⊢
      rw [← h.2]
      omega
  · simp only [Option.some.injEq, Prod.mk.injEq] at h
    exact Nat.le_of_eq (congrArg List.length h.2.symm)

theorem length_of_readExponentDigits? {sign : Int} {cs rest : List Char} {e : Option Int}
    (h : readExponentDigits? sign cs = some (e, rest)) : rest.length ≤ cs.length := by
  have hlen := length_spanDigits_rest cs
  simp only [readExponentDigits?] at h
  split at h
  · simp at h
  · rename_i heq
    simp only [Option.some.injEq, Prod.mk.injEq] at h
    rw [heq] at hlen
    rw [← h.2]
    exact hlen

theorem length_of_readExponent? {cs rest : List Char} {e : Option Int}
    (h : readExponent? cs = some (e, rest)) : rest.length ≤ cs.length := by
  unfold readExponent? at h
  split at h
  all_goals first
    | have := length_of_readExponentDigits? h
      simp only [List.length_cons]
      omega
    | simp only [Option.some.injEq, Prod.mk.injEq] at h
      exact Nat.le_of_eq (congrArg List.length h.2.symm)

theorem length_of_readUnsigned? {negative : Bool} {cs rest : List Char} {n : Numeral}
    (h : readUnsigned? negative cs = some (n, rest)) : rest.length < cs.length := by
  simp only [readUnsigned?, Option.bind_eq_bind, Option.bind_eq_some_iff, Option.some.injEq,
    Prod.mk.injEq] at h
  obtain ⟨⟨whole, a⟩, ha, ⟨places, b⟩, hb, ⟨exponent, c⟩, hc, -, rfl⟩ := h
  have ha := length_of_readWhole? ha
  have hb := length_of_readPlaces? hb
  have hc := length_of_readExponent? hc
  simp only at hb hc ⊢
  omega

theorem length_of_read? {cs rest : List Char} {n : Numeral} (h : read? cs = some (n, rest)) :
    rest.length < cs.length := by
  unfold read? at h
  split at h
  · have := length_of_readUnsigned? h
    simp only [List.length_cons]
    omega
  · exact length_of_readUnsigned? h

end Numeral

namespace Token

theorem length_of_lexeme? {cs rest : List Char} {t : Option Token}
    (h : lexeme? cs = some (t, rest)) : rest.length < cs.length := by
  unfold lexeme? at h
  split at h
  case h_10 cs =>
    simp only [Quoted.read?, Option.map_eq_some_iff, Option.bind_eq_bind, Option.bind_eq_some_iff,
      Option.some.injEq, Prod.mk.injEq] at h
    obtain ⟨⟨s, r⟩, ⟨⟨p, r'⟩, hr, -, rfl⟩, -, rfl⟩ := h
    have := Quoted.length_of_pieces? hr
    simp only [List.length_cons]
    omega
  case h_11 c cs _ _ _ _ _ _ _ _ _ _ =>
    split at h
    · simp only [Option.some.injEq, Prod.mk.injEq] at h
      simp [h.2]
    · simp only [Option.map_eq_some_iff, Prod.mk.injEq] at h
      obtain ⟨⟨n, r⟩, hr, -, rfl⟩ := h
      exact Numeral.length_of_read? hr
  case h_12 => simp at h
  all_goals
    simp only [Option.some.injEq, Prod.mk.injEq] at h
    obtain ⟨-, rfl⟩ := h
    simp only [List.length_cons]
    omega

/-- The lexemes of a document. -/
def ofText? (cs : List Char) : Option (List Token) :=
  if cs.isEmpty then some []
  else
    match _h : lexeme? cs with
    | none => none
    | some (t, rest) => (ofText? rest).map (t.toList ++ ·)
termination_by cs.length
decreasing_by exact length_of_lexeme? _h

end Token

end GridStore
