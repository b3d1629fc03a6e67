import DocFilter.Text.Character

/-!
# Quoted text for people

A text between double quotes in which everything that cannot be seen is spelt out: hidden
characters, and marks that would join the character before them.
-/

namespace DocFilter

/-- The number of a character in lower-case hexadecimal digits. -/
def hexText (n : Nat) : List Char :=
  Nat.toDigits 16 n

/-- A character as it is shown in quoted text. -/
def showChar (c : Char) : List Char :=
  match c with
  | '"' => ['\\', '"']
  | '\\' => ['\\', '\\']
  | '\n' => ['\\', 'n']
  | '\r' => ['\\', 'r']
  | '\t' => ['\\', 't']
  | '\x00' => ['\\', '0']
  | c =>
    if isPrintable c && !extendsGrapheme c then [c]
    else '\\' :: 'u' :: '\x7b' :: hexText c.toNat ++ ['\x7d']

/-- A text between double quotes, with hidden characters spelt out. -/
def showText (s : String) : String :=
  String.ofList ('"' :: s.toList.flatMap showChar ++ ['"'])

end DocFilter
