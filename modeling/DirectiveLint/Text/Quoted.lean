import DirectiveLint.Unicode.Property

/-!
# Quoted listing of a text

The form in which an error message shows a text that may hold anything: between double
quotes, with quotes, backslashes and every character that does not print replaced by an
escape.
-/

namespace DirectiveLint

/-- The lower case hexadecimal digits of a number. -/
def hexadecimal (n : Nat) : Text := Nat.toDigits 16 n

/-- The form of a character inside a quoted listing. -/
def escapeChar (c : Char) : Text :=
  match c with
  | '"' => ['\\', '"']
  | '\\' => ['\\', '\\']
  | '\n' => ['\\', 'n']
  | '\r' => ['\\', 'r']
  | '\t' => ['\\', 't']
  | '\x00' => ['\\', '0']
  | c =>
    if Unicode.isPrintable c && !Unicode.isExtending c then [c]
    else ['\\', 'u', '\x7b'] ++ hexadecimal c.toNat ++ ['\x7d']

/-- A text between double quotes, with escapes. -/
def quoted (t : Text) : Text := ['"'] ++ t.flatMap escapeChar ++ ['"']

end DirectiveLint
