/-!
# Lines of a TOML document

Blanks are spaces and tabs. A comment runs from a number sign to the end of its line and holds no
control character but the tab. A line ends with a line feed, alone or after a carriage return.
-/

namespace GridStore.Toml

/-- The blanks inside a line. -/
def isBlank (c : Char) : Bool :=
  c = ' ' || c = '\t'

/-- What follows the blanks at the head of a text. -/
def skipBlanks (cs : List Char) : List Char :=
  cs.dropWhile isBlank

/-- The characters of comments and of texts on one line. -/
def isPrintable (c : Char) : Bool :=
  c = '\t' || (0x20 ≤ c.toNat && c ≠ '\x7f')

/-- What follows the end of a line at the head of a text. -/
def newline? : List Char → Option (List Char)
  | '\n' :: rest => some rest
  | '\r' :: '\n' :: rest => some rest
  | _ => none

/-- What follows a comment at the head of a text, if one stands there. -/
def skipComment : List Char → List Char
  | '#' :: cs => cs.dropWhile isPrintable
  | cs => cs

/-- What follows a line of which only blanks and a comment are left. -/
def endLine? (cs : List Char) : Option (List Char) :=
  match skipComment (skipBlanks cs) with
  | [] => some []
  | cs => newline? cs

/-- What follows blanks, comments and ends of lines; the flag says whether a comment is open. -/
def skipLines : Bool → List Char → List Char
  | _, '\n' :: cs => skipLines false cs
  | _, '\r' :: '\n' :: cs => skipLines false cs
  | false, '#' :: cs => skipLines true cs
  | inComment, c :: cs =>
    if isBlank c || (inComment && isPrintable c) then skipLines inComment cs else c :: cs
  | _, [] => []

end GridStore.Toml
