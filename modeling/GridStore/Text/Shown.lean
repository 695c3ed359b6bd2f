import GridStore.Text.Shapeless

/-!
# Showing a text

A text is shown between quotes. Quotes, backslashes and the commonest control characters are
written with a backslash and a letter; other characters without a shape of their own are written
with their number.
-/

namespace GridStore

/-- The shown form of a character. -/
def shownChar (c : Char) : List Char :=
  match c with
  | '"' => ['\\', '"']
  | '\\' => ['\\', '\\']
  | '\x00' => ['\\', '0']
  | '\n' => ['\\', 'n']
  | '\r' => ['\\', 'r']
  | '\t' => ['\\', 't']
  | c =>
    if isShapeless c then ['\\', 'u', '\x7b'] ++ Nat.toDigits 16 c.toNat ++ ['\x7d'] else [c]

/-- The shown form of a text. -/
def shown (s : String) : String :=
  String.ofList ('"' :: s.toList.flatMap shownChar ++ ['"'])

end GridStore
