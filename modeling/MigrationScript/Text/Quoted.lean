import MigrationScript.Text.Printable

/-!
# Quoted texts

Messages show a text between quotes, so that its ends and its invisible characters can be seen. A
quote, a backslash and the common controls have short escapes; any other character that cannot be
shown is written as its code point, `\u{301}`.
-/

namespace MigrationScript.Text

/-- A character inside quotes. -/
def quotedChar (c : Char) : Text :=
  match c with
  | '\x00' => ['\\', '0']
  | '\t' => ['\\', 't']
  | '\n' => ['\\', 'n']
  | '\r' => ['\\', 'r']
  | '"' => ['\\', '"']
  | '\\' => ['\\', '\\']
  | c =>
    if isPrintable c then [c]
    else ['\\', 'u', '\x7b'] ++ Nat.toDigits 16 c.toNat ++ ['\x7d']

/-- A text between quotes. -/
def quoted (t : Text) : String := String.ofList ('"' :: t.flatMap quotedChar ++ ['"'])

end MigrationScript.Text
