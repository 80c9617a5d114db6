import NativeViews.Toml.Basic

/-!
Strings of TOML documents, of four kinds: with or without escapes, on one line or on several;
and keys, which are bare or strings on one line.
-/

namespace NativeViews.Toml

def hexDigit? (c : Char) : Option Nat :=
  if c.isDigit then some (c.toNat - '0'.toNat)
  else if 'a' ≤ c ∧ c ≤ 'f' then some (c.toNat - 'a'.toNat + 10)
  else if 'A' ≤ c ∧ c ≤ 'F' then some (c.toNat - 'A'.toNat + 10)
  else none

/-- The character whose code point hexadecimal digits spell, if it is one. -/
def hexChar? (digits : List Char) : Option Char := do
  let point ← digits.foldlM (fun value digit => (16 * value + ·) <$> hexDigit? digit) 0
  if point.isValidChar then some (Char.ofNat point) else none

/-- The character that a one-letter escape stands for. -/
def escapedChar? : Char → Option Char
  | 'b' => some '\x08'
  | 't' => some '\t'
  | 'n' => some '\n'
  | 'f' => some '\x0c'
  | 'r' => some '\r'
  | 'e' => some '\x1b'
  | '"' => some '"'
  | '\\' => some '\\'
  | _ => none

/-- The inside of a string with escapes on one line, with what follows its closing quote. The
characters of `before` come last first. -/
def scanBasic (before : List Char) : List Char → Option (List Char × List Char)
  | [] => none
  | '"' :: rest => some (before.reverse, rest)
  | '\\' :: 'x' :: a :: b :: rest => do
    let c ← hexChar? [a, b]
    scanBasic (c :: before) rest
  | '\\' :: 'u' :: a :: b :: c :: d :: rest => do
    let c ← hexChar? [a, b, c, d]
    scanBasic (c :: before) rest
  | '\\' :: 'U' :: a :: b :: c :: d :: e :: f :: g :: h :: rest => do
    let c ← hexChar? [a, b, c, d, e, f, g, h]
    scanBasic (c :: before) rest
  | '\\' :: c :: rest => do
    let c ← escapedChar? c
    scanBasic (c :: before) rest
  | c :: rest => if isPlain c ∧ c ≠ '\\' then scanBasic (c :: before) rest else none

/-- The inside of a string without escapes on one line, with what follows its closing quote. -/
def scanLiteral (before : List Char) : List Char → Option (List Char × List Char)
  | [] => none
  | '\'' :: rest => some (before.reverse, rest)
  | c :: rest => if isPlain c then scanLiteral (c :: before) rest else none

/-- Where a reader of a string on several lines stands. -/
inductive Position where
  /-- Between characters. -/
  | inside
  /-- Behind a backslash that joins lines: nothing but blanks up to the end of the line. -/
  | joining
  /-- On the lines that a backslash joins: blanks and line ends do not count. -/
  | joined
  deriving DecidableEq, Repr

/-- The inside of a string with escapes on several lines, with what follows its closing quotes.
One or two quotes before the closing ones belong to the string. -/
def scanLongBasic (position : Position) (before : List Char) :
    List Char → Option (List Char × List Char)
  | [] => none
  | '\r' :: '\n' :: rest =>
    match position with
    | .inside => scanLongBasic .inside ('\n' :: '\r' :: before) rest
    | _ => scanLongBasic .joined before rest
  | '\n' :: rest =>
    match position with
    | .inside => scanLongBasic .inside ('\n' :: before) rest
    | _ => scanLongBasic .joined before rest
  | c :: rest =>
    if position ≠ .inside ∧ isBlank c then scanLongBasic position before rest
    else if position = .joining then none
    else
      match c, rest with
      | '"', '"' :: '"' :: '"' :: '"' :: rest => some (('"' :: '"' :: before).reverse, rest)
      | '"', '"' :: '"' :: '"' :: rest => some (('"' :: before).reverse, rest)
      | '"', '"' :: '"' :: rest => some (before.reverse, rest)
      | '\\', 'x' :: a :: b :: rest => do
        let c ← hexChar? [a, b]
        scanLongBasic .inside (c :: before) rest
      | '\\', 'u' :: a :: b :: c :: d :: rest => do
        let c ← hexChar? [a, b, c, d]
        scanLongBasic .inside (c :: before) rest
      | '\\', 'U' :: a :: b :: c :: d :: e :: f :: g :: h :: rest => do
        let c ← hexChar? [a, b, c, d, e, f, g, h]
        scanLongBasic .inside (c :: before) rest
      | '\\', c :: rest =>
        match escapedChar? c with
        | some c => scanLongBasic .inside (c :: before) rest
        | none => scanLongBasic .joining before (c :: rest)
      | c, rest => if isPlain c ∧ c ≠ '\\' then scanLongBasic .inside (c :: before) rest else none

/-- The inside of a string without escapes on several lines, with what follows its closing
quotes. -/
def scanLongLiteral (before : List Char) : List Char → Option (List Char × List Char)
  | [] => none
  | '\'' :: '\'' :: '\'' :: '\'' :: '\'' :: rest => some (('\'' :: '\'' :: before).reverse, rest)
  | '\'' :: '\'' :: '\'' :: '\'' :: rest => some (('\'' :: before).reverse, rest)
  | '\'' :: '\'' :: '\'' :: rest => some (before.reverse, rest)
  | '\r' :: '\n' :: rest => scanLongLiteral ('\n' :: '\r' :: before) rest
  | c :: rest =>
    if isPlain c ∨ c = '\n' then scanLongLiteral (c :: before) rest else none

/-- A text without a line end at its start. -/
def dropLineEnd : List Char → List Char
  | '\n' :: rest => rest
  | '\r' :: '\n' :: rest => rest
  | chars => chars

/-- A string of any kind that begins here, with what follows it. The inner option tells a text
that is no string from one that is no good string. -/
def scanString (chars : List Char) : Option (Option (String × List Char)) :=
  let text (found : Option (List Char × List Char)) :=
    found.map fun (inside, rest) => (String.ofList inside, rest)
  match chars with
  | '"' :: '"' :: '"' :: rest => some (text (scanLongBasic .inside [] (dropLineEnd rest)))
  | '"' :: rest => some (text (scanBasic [] rest))
  | '\'' :: '\'' :: '\'' :: rest => some (text (scanLongLiteral [] (dropLineEnd rest)))
  | '\'' :: rest => some (text (scanLiteral [] rest))
  | _ => none

/-- Whether a character may stand in a bare key. -/
def isBare (c : Char) : Bool :=
  c.isAlphanum || c = '_' || c = '-'

/-- A key without dots, with what follows it. -/
def scanKey (chars : List Char) : Option (String × List Char) :=
  match chars with
  | '"' :: rest => (scanBasic [] rest).map fun (key, rest) => (String.ofList key, rest)
  | '\'' :: rest => (scanLiteral [] rest).map fun (key, rest) => (String.ofList key, rest)
  | _ =>
    let key := chars.takeWhile isBare
    if key.isEmpty then none else some (String.ofList key, chars.dropWhile isBare)

end NativeViews.Toml
