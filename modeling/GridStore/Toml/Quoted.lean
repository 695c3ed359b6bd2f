import GridStore.Text.Hex

/-!
# Writing the texts of a TOML document

There are four forms of a text: between quotes, where escapes may stand, or literally between
apostrophes, and each of the two on one line or between three of its marks, where it may hold line
ends and single marks as well. A text takes the first of these forms that shows it as it is:
quotes, apostrophes, three quotes, three apostrophes. A text that none of them shows stands between
quotes with what they cannot hold escaped, three if it has several lines.

A text of several lines begins on a line of its own.
-/

namespace GridStore.Toml

/-- The forms of a written text. -/
inductive TextForm where
  /-- On one line between quotes. -/
  | basic
  /-- On one line between apostrophes. -/
  | literal
  /-- Between three quotes. -/
  | basicLines
  /-- Between three apostrophes. -/
  | literalLines
deriving DecidableEq

/-- Whether only an escape can write a character. -/
def needsEscape (c : Char) : Bool :=
  (c.toNat < 0x20 && c ≠ '\t' && c ≠ '\n') || c = '\x7f'

/-- Whether three of a mark follow each other. -/
def hasTriple (mark : Char) : List Char → Bool
  | [] => false
  | c :: cs => [mark, mark, mark].isPrefixOf (c :: cs) || hasTriple mark cs

namespace TextForm

/-- Whether a form shows a text as it is. -/
def shows : TextForm → List Char → Bool
  | basic, cs => !cs.any fun c => needsEscape c || c = '\\' || c = '"' || c = '\n'
  | literal, cs => !cs.any fun c => needsEscape c || c = '\'' || c = '\n'
  | basicLines, cs => !cs.any (fun c => needsEscape c || c = '\\') && !hasTriple '"' cs
  | literalLines, cs => !cs.any needsEscape && !hasTriple '\'' cs

/-- The form that a text is written in. -/
def ofText (cs : List Char) : TextForm :=
  match [basic, literal, basicLines, literalLines].find? (·.shows cs) with
  | some form => form
  | none => if cs.contains '\n' then basicLines else basic

/-- What stands on both sides of a text. -/
def marks : TextForm → List Char
  | basic => ['"']
  | literal => ['\'']
  | basicLines => ['"', '"', '"']
  | literalLines => ['\'', '\'', '\'']

end TextForm

/-- A hexadecimal digit in upper case. -/
def upperHexDigits (count n : Nat) : List Char :=
  (hexDigits count n).map Char.toUpper

/-- The written form of a character between quotes, unless it is a quote itself. Line ends stay:
only a text of several lines has them. -/
def escape (c : Char) : List Char :=
  match c with
  | '\x08' => ['\\', 'b']
  | '\t' => ['\\', 't']
  | '\n' => ['\n']
  | '\x0c' => ['\\', 'f']
  | '\r' => ['\\', 'r']
  | '\\' => ['\\', '\\']
  | c => if needsEscape c then '\\' :: 'u' :: upperHexDigits 4 c.toNat else [c]

/-- The written form of a text between quotes. As many quotes as given may follow each other, of
which some stand before the text already; the next one is escaped. -/
def escapeAfter (most : Nat) : Nat → List Char → List Char
  | _, [] => []
  | before, '"' :: cs =>
    if before < most then '"' :: escapeAfter most (before + 1) cs
    else '\\' :: '"' :: escapeAfter most 0 cs
  | _, c :: cs => escape c ++ escapeAfter most 0 cs

/-- A text as it stands between the marks of a form. -/
def TextForm.body : TextForm → List Char → List Char
  | basic, cs => escapeAfter 0 0 cs
  | basicLines, cs => escapeAfter 2 0 cs
  | literal, cs | literalLines, cs => cs

/-- The written form of a text. -/
def quote (s : String) : String :=
  let cs := s.toList
  let form := TextForm.ofText cs
  let start := if cs.contains '\n' then ['\n'] else []
  String.ofList (form.marks ++ start ++ form.body cs ++ form.marks)

end GridStore.Toml
