import NativeViews.Text.Ranges

/-!
String literals between single quotes. A written literal holds no control character and no
line terminator, so it stays on its line whatever the text is.
-/

namespace NativeViews.Script.Quoted

/-- The last four hexadecimal digits of a number, in small letters. -/
def fourHexDigits (n : Nat) : List Char :=
  [n / 4096 % 16, n / 256 % 16, n / 16 % 16, n % 16].map Nat.digitChar

/-- How a character is written inside a literal. -/
def encodeChar (c : Char) : List Char :=
  if c = '\'' then ['\\', '\'']
  else if c = '\\' then ['\\', '\\']
  else if c = '\n' then ['\\', 'n']
  else if c = '\r' then ['\\', 'r']
  else if c = '\t' then ['\\', 't']
  else if c = '\u2028' ∨ c = '\u2029' ∨ Text.isControl c then
    '\\' :: 'u' :: fourHexDigits c.toNat
  else [c]

/-- The inside of a literal. -/
def encode (chars : List Char) : List Char :=
  chars.flatMap encodeChar

end Quoted

/-- The literal that stands for a text. -/
def quote (value : String) : String :=
  String.ofList ('\'' :: Quoted.encode value.toList ++ ['\''])

end NativeViews.Script
