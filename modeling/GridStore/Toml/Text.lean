import GridStore.Text.Hex
import GridStore.Toml.Basic
import GridStore.Toml.Line

/-!
# Texts and keys of a TOML document

A basic text stands between quotes and may hold escapes; a literal text stands between apostrophes
and holds none. Either may span lines between three of its marks; a line end right after the
opening marks is left out, and one or two marks may precede the closing ones. In a basic text a
backslash at the end of a line takes the blanks and line ends after it away.

A key is one or more names with points between them, each bare or a text on one line.
-/

namespace GridStore.Toml

/-- The character that a letter after a backslash stands for. -/
def unescape? : Char → Option Char
  | 'b' => some '\x08'
  | 't' => some '\t'
  | 'n' => some '\n'
  | 'f' => some '\x0c'
  | 'r' => some '\r'
  | '"' => some '"'
  | '\\' => some '\\'
  | _ => none

/-- The character whose number hexadecimal digits give, unless that is half of one. -/
def charOfHex? (digits : List Char) : Option Char := do
  let n ← hexValue? digits
  if n < 0xd800 ∨ (0xdfff < n ∧ n < 0x110000) then some (Char.ofNat n) else none

/-- Puts a character in front of what a reader of texts gives. -/
def consText (c : Char) : List Char × List Char → List Char × List Char
  | (text, rest) => (c :: text, rest)

/-- Reads the rest of a basic text on one line. -/
def basic? : List Char → Option (List Char × List Char)
  | [] => none
  | '"' :: rest => some ([], rest)
  | '\\' :: 'u' :: a :: b :: c :: d :: cs => do
    let x ← charOfHex? [a, b, c, d]
    consText x <$> basic? cs
  | '\\' :: 'U' :: a :: b :: c :: d :: e :: f :: g :: h :: cs => do
    let x ← charOfHex? [a, b, c, d, e, f, g, h]
    consText x <$> basic? cs
  | '\\' :: e :: cs => do
    let x ← unescape? e
    consText x <$> basic? cs
  | c :: cs => if isPrintable c && c ≠ '\\' then consText c <$> basic? cs else none

/-- Reads the rest of a literal text on one line. -/
def literal? : List Char → Option (List Char × List Char)
  | [] => none
  | '\'' :: rest => some ([], rest)
  | c :: cs => if isPrintable c then consText c <$> literal? cs else none

/-- Where a reader of a basic text on several lines stands. -/
inductive Margin where
  /-- Among the characters of the text. -/
  | inside
  /-- Behind a backslash and perhaps blanks, before the end of the line. -/
  | ending
  /-- Behind such an end, among the blanks and line ends that are taken away. -/
  | beyond
deriving DecidableEq

/-- Reads the rest of a basic text that may span lines. -/
def basicLines? : Margin → List Char → Option (List Char × List Char)
  | .ending, ' ' :: cs | .ending, '\t' :: cs => basicLines? .ending cs
  | .ending, '\n' :: cs | .ending, '\r' :: '\n' :: cs => basicLines? .beyond cs
  | .ending, _ => none
  | .beyond, ' ' :: cs | .beyond, '\t' :: cs | .beyond, '\n' :: cs
  | .beyond, '\r' :: '\n' :: cs => basicLines? .beyond cs
  | _, [] => none
  | _, '"' :: '"' :: '"' :: '"' :: '"' :: rest => some (['"', '"'], rest)
  | _, '"' :: '"' :: '"' :: '"' :: rest => some (['"'], rest)
  | _, '"' :: '"' :: '"' :: rest => some ([], rest)
  | _, '\\' :: 'u' :: a :: b :: c :: d :: cs => do
    let x ← charOfHex? [a, b, c, d]
    consText x <$> basicLines? .inside cs
  | _, '\\' :: 'U' :: a :: b :: c :: d :: e :: f :: g :: h :: cs => do
    let x ← charOfHex? [a, b, c, d, e, f, g, h]
    consText x <$> basicLines? .inside cs
  | _, '\\' :: ' ' :: cs | _, '\\' :: '\t' :: cs => basicLines? .ending cs
  | _, '\\' :: '\n' :: cs | _, '\\' :: '\r' :: '\n' :: cs => basicLines? .beyond cs
  | _, '\\' :: e :: cs => do
    let x ← unescape? e
    consText x <$> basicLines? .inside cs
  | _, '\n' :: cs | _, '\r' :: '\n' :: cs => consText '\n' <$> basicLines? .inside cs
  | _, c :: cs =>
    if isPrintable c && c ≠ '\\' then consText c <$> basicLines? .inside cs else none

/-- Reads the rest of a literal text that may span lines. -/
def literalLines? : List Char → Option (List Char × List Char)
  | [] => none
  | '\'' :: '\'' :: '\'' :: '\'' :: '\'' :: rest => some (['\'', '\''], rest)
  | '\'' :: '\'' :: '\'' :: '\'' :: rest => some (['\''], rest)
  | '\'' :: '\'' :: '\'' :: rest => some ([], rest)
  | '\n' :: cs | '\r' :: '\n' :: cs => consText '\n' <$> literalLines? cs
  | c :: cs => if isPrintable c then consText c <$> literalLines? cs else none

/-- Reads a text on one line. -/
def line? : List Char → Option (String × List Char)
  | '"' :: cs => (basic? cs).map fun (text, rest) => (String.ofList text, rest)
  | '\'' :: cs => (literal? cs).map fun (text, rest) => (String.ofList text, rest)
  | _ => none

/-- Reads a text. -/
def text? : List Char → Option (String × List Char)
  | '"' :: '"' :: '"' :: cs =>
    (basicLines? .inside ((newline? cs).getD cs)).map fun (text, rest) =>
      (String.ofList text, rest)
  | '\'' :: '\'' :: '\'' :: cs =>
    (literalLines? ((newline? cs).getD cs)).map fun (text, rest) => (String.ofList text, rest)
  | cs => line? cs

/-- The characters of bare names. -/
def isBare (c : Char) : Bool :=
  c.isAlphanum || c = '_' || c = '-'

/-- Reads a name of a key. -/
def name? (cs : List Char) : Option (String × List Char) :=
  match cs.takeWhile isBare with
  | [] => line? cs
  | bare => some (String.ofList bare, cs.dropWhile isBare)

/-- How deep values nest and how many names a key has, at most. -/
def maxDepth : Nat := 79

/-- Reads a key of at most so many names, with the blanks around it. -/
def keyUpTo? : Nat → List Char → Option (Key × List Char)
  | 0, _ => none
  | n + 1, cs => do
    let (name, rest) ← name? (skipBlanks cs)
    match skipBlanks rest with
    | '.' :: rest =>
      let (key, rest) ← keyUpTo? n rest
      some ({ key with path := name :: key.path }, rest)
    | rest => some (⟨[], name⟩, rest)

/-- Reads a key, with the blanks around it. -/
def key? : List Char → Option (Key × List Char) :=
  keyUpTo? maxDepth

end GridStore.Toml
