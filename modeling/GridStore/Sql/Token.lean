import GridStore.Sql.Statement

/-!
# Tokens of statements

What the text of a statement consists of: names between double quotes, in which a quote is written
twice, placeholders, marks and words. Blanks divide and mean nothing.
-/

namespace GridStore.Sql

/-- A token of a statement. -/
inductive Token where
  | quoted (name : String)
  | placeholder
  | mark (c : Char)
  | word (s : String)
deriving DecidableEq, Repr

namespace Token

/-- The characters that are tokens of their own. -/
def isMark (c : Char) : Bool :=
  c = '(' || c = ')' || c = ',' || c = '='

/-- The characters of words. -/
def isLetter (c : Char) : Bool :=
  !(c = ' ' || c = '"' || c = '?' || isMark c)

/-- Reads a name after its opening quote: the name, and what follows the closing one. -/
def readName? : List Char → Option (List Char × List Char)
  | '"' :: '"' :: cs => (readName? cs).map fun (name, rest) => ('"' :: name, rest)
  | '"' :: cs => some ([], cs)
  | c :: cs => (readName? cs).map fun (name, rest) => (c :: name, rest)
  | [] => none

theorem length_of_readName? {cs name rest : List Char} (h : readName? cs = some (name, rest)) :
    rest.length < cs.length := by
  fun_induction readName? cs generalizing name with
  | case1 cs ih =>
    obtain ⟨⟨n, r⟩, hr, heq⟩ := Option.map_eq_some_iff.1 h
    obtain ⟨-, rfl⟩ := Prod.mk.inj heq
    have := ih hr
    simp only [List.length_cons]
    omega
  | case2 cs =>
    obtain ⟨-, rfl⟩ := Prod.mk.inj (Option.some.inj h)
    simp
  | case3 c cs _ _ ih =>
    obtain ⟨⟨n, r⟩, hr, heq⟩ := Option.map_eq_some_iff.1 h
    obtain ⟨-, rfl⟩ := Prod.mk.inj heq
    have := ih hr
    simp only [List.length_cons]
    omega
  | case4 => cases h

/-- The tokens of a text, unless a name in it has no end. -/
def ofText? : List Char → Option (List Token)
  | [] => some []
  | c :: cs =>
    if c = ' ' then ofText? cs
    else if c = '?' then (ofText? cs).map (placeholder :: ·)
    else if isMark c then (ofText? cs).map (mark c :: ·)
    else if c = '"' then
      match _h : readName? cs with
      | some (name, rest) => (ofText? rest).map (quoted (.ofList name) :: ·)
      | none => none
    else
      (ofText? (cs.dropWhile isLetter)).map
        (word (.ofList (c :: cs.takeWhile isLetter)) :: ·)
termination_by cs => cs.length
decreasing_by
  · simp
  · simp
  · simp
  · have := length_of_readName? _h
    simp only [List.length_cons]
    omega
  · have := (List.dropWhile_sublist isLetter (l := cs)).length_le
    simp only [List.length_cons]
    omega

end Token
end GridStore.Sql
