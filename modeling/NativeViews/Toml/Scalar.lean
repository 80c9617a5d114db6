import NativeViews.Toml.Basic

/-!
Values of TOML documents that are neither strings nor have parts: truth values, numbers, dates
and times. What a spelling is meant to be is told by its look; whether a number has a value is
another question.
-/

namespace NativeViews.Toml

/-- The pieces of a spelling between its underscores. -/
def splitUnderscores : List Char → List (List Char)
  | [] => [[]]
  | c :: rest =>
    if c = '_' then [] :: splitUnderscores rest
    else
      match splitUnderscores rest with
      | [] => [[c]]
      | piece :: pieces => (c :: piece) :: pieces

/-- Whether the pieces behind the first underscore begin with digits, and all of them but the last
one end with one. -/
def areGroups (isDigit : Char → Bool) : List (List Char) → Bool
  | [] => true
  | piece :: rest =>
    piece.head?.any isDigit && (rest.isEmpty || piece.getLast?.any isDigit) && areGroups isDigit rest

/-- Whether every underscore of a spelling stands between digits. The first one may also stand
behind a single character, such as a sign. -/
def isGrouped (isDigit : Char → Bool) (chars : List Char) : Bool :=
  match splitUnderscores chars with
  | first :: second :: rest =>
    (first.length = 1 || first.getLast?.any isDigit) && areGroups isDigit (second :: rest)
  | _ => true

def ungrouped (chars : List Char) : List Char :=
  chars.filter (· ≠ '_')

def isHexDigit (c : Char) : Bool :=
  c.isDigit || ('a' ≤ c && c ≤ 'f') || ('A' ≤ c && c ≤ 'F')

/-- The number that digits of a base spell. -/
def digitsValue (base : Nat) (digits : List Char) : Nat :=
  digits.foldl (fun value digit =>
    let weight :=
      if digit.isDigit then digit.toNat - '0'.toNat
      else if 'a' ≤ digit then digit.toNat - 'a'.toNat + 10
      else digit.toNat - 'A'.toNat + 10
    base * value + weight) 0

/-- A sign at the start, with what follows it. -/
def splitSign : List Char → Option Char × List Char
  | '-' :: rest => (some '-', rest)
  | '+' :: rest => (some '+', rest)
  | chars => (none, chars)

/-- The integer that digits of a base spell behind a sign, if there are digits, nothing else, and
not too many for 128 bits. -/
def integerValue? (sign : Option Char) (base : Nat) (isDigit : Char → Bool)
    (digits : List Char) : Option Int :=
  if digits.isEmpty || !digits.all isDigit then none
  else
    let size : Int := digitsValue base digits
    let value := if sign = some '-' then -size else size
    if -(Nat.pow 2 127 : Int) ≤ value && value < Nat.pow 2 128 then some value else none

/-- The integer of digits behind a zero and the letter of their base. The digits may be missing,
but then there is no value. -/
def based? (base : Nat) (isDigit : Char → Bool) (digits : List Char) : Option Toml :=
  if digits.all (fun c => isDigit c || c = '_') && isGrouped isDigit digits then
    some (.integer (integerValue? none base isDigit (ungrouped digits)))
  else
    none

/-- Whether a number, as digits and a power of ten, is too large for a double. -/
def overflowsDouble (digits : List Char) (power : Int) : Bool :=
  let significant := digits.dropWhile (· = '0')
  let size : Int := significant.length + power
  if significant.isEmpty || size < 300 then false
  else if size > 310 then true
  else
    let value := digitsValue 10 significant
    let limit := Nat.pow 2 1024 - Nat.pow 2 970
    if power < 0 then limit * Nat.pow 10 (-power).toNat ≤ value
    else limit ≤ value * Nat.pow 10 power.toNat

/-- The digits at the start of a spelling, whose underscores do not count, and what follows them.
There must be one, and `leadingZero` tells whether the first of several may be a zero. -/
def splitDigits (leadingZero : Bool) (chars : List Char) : Option (List Char × List Char) :=
  let isInner (c : Char) : Bool := c.isDigit || c = '_'
  let digits := ungrouped (chars.takeWhile isInner)
  if digits.isEmpty || (!leadingZero && 1 < digits.length && chars.head? = some '0') then none
  else some (digits, chars.dropWhile isInner)

/-- The digits behind a point, if there is one, and what follows them. -/
def splitFraction : List Char → Option (List Char × List Char)
  | '.' :: rest => splitDigits true rest
  | chars => some ([], chars)

/-- The power of ten behind a letter, if there is one; nothing may follow it. -/
def power? : List Char → Option Int
  | [] => some 0
  | mark :: rest =>
    if mark = 'e' ∨ mark = 'E' then
      let (sign, rest) := splitSign rest
      match splitDigits true rest with
      | some (digits, []) =>
        let size : Int := digitsValue 10 digits
        some (if sign = some '-' then -size else size)
      | _ => none
    else
      none

/-- The number with a fraction or an exponent that has a spelling; `magnitude` is the spelling
without its sign. -/
def float? (chars magnitude : List Char) : Option Toml := do
  if !isGrouped Char.isDigit chars then none
  let (whole, rest) ← splitDigits false magnitude
  let (fraction, rest) ← splitFraction rest
  let power ← power? rest
  if overflowsDouble (whole ++ fraction) (power - fraction.length) then some (.float none)
  else some (.float (some (String.ofList chars)))

def twoDigits? (a b : Char) : Option Nat :=
  if a.isDigit ∧ b.isDigit then some (digitsValue 10 [a, b]) else none

def daysIn (year month : Nat) : Nat :=
  if month = 2 then
    if year % 4 = 0 ∧ (year % 100 ≠ 0 ∨ year % 400 = 0) then 29 else 28
  else if month = 4 ∨ month = 6 ∨ month = 9 ∨ month = 11 then 30
  else 31

/-- What follows a date that begins here. -/
def afterDate? : List Char → Option (List Char)
  | y1 :: y2 :: y3 :: y4 :: '-' :: m1 :: m2 :: '-' :: d1 :: d2 :: rest => do
    let century ← twoDigits? y1 y2
    let year ← twoDigits? y3 y4
    let month ← twoDigits? m1 m2
    let day ← twoDigits? d1 d2
    if 1 ≤ month ∧ month ≤ 12 ∧ 1 ≤ day ∧ day ≤ daysIn (100 * century + year) month then
      some rest
    else
      none
  | _ => none

/-- What follows the hour and minute that begin here. -/
def afterMinutes? : List Char → Option (List Char)
  | h1 :: h2 :: ':' :: m1 :: m2 :: rest => do
    let hour ← twoDigits? h1 h2
    let minute ← twoDigits? m1 m2
    if hour ≤ 23 ∧ minute ≤ 59 then some rest else none
  | _ => none

/-- What follows the seconds that begin here, which may have a fraction. -/
def afterSeconds? : List Char → Option (List Char)
  | s1 :: s2 :: rest => do
    let second ← twoDigits? s1 s2
    if second > 60 then none
    else
      match rest with
      | '.' :: fraction =>
        if (fraction.takeWhile Char.isDigit).isEmpty then none
        else some (fraction.dropWhile Char.isDigit)
      | _ => some rest
  | _ => none

/-- What follows a time that begins here. Seconds may be left out. -/
def afterTime? (chars : List Char) : Option (List Char) := do
  match ← afterMinutes? chars with
  | ':' :: rest => afterSeconds? rest
  | rest => some rest

/-- Whether a spelling is nothing or the distance of a time from the universal one. -/
def isOffset : List Char → Bool
  | [] => true
  | ['Z'] | ['z'] => true
  | '+' :: rest | '-' :: rest => afterMinutes? rest = some []
  | _ => false

/-- Whether a spelling is a date, a time, or a date and a time with or without an offset. -/
def isMoment (chars : List Char) : Bool :=
  match afterDate? chars with
  | none => afterTime? chars = some []
  | some [] => true
  | some (mark :: rest) =>
    (mark = 'T' || mark = 't' || mark = ' ') && ((afterTime? rest).map isOffset).getD false

/-- The date or time that has a spelling. -/
def moment? (chars : List Char) : Option Toml :=
  if isMoment chars then some (.moment (String.ofList chars)) else none

/-- The number, date or time that has a spelling; `magnitude` is the spelling without its sign.
What follows the digits at the start decides. An integer with underscores may hold anything but
a space, a point and the letter of an exponent; it has a value only if it holds digits alone. -/
def decimal? (chars : List Char) (sign : Option Char) (magnitude : List Char) : Option Toml :=
  match magnitude.dropWhile Char.isDigit with
  | [] =>
    if magnitude.isEmpty || (magnitude.head? = some '0' && magnitude != ['0']) then none
    else some (.integer (integerValue? sign 10 Char.isDigit magnitude))
  | mark :: rest =>
    if mark = '-' ∨ mark = ':' then moment? chars
    else if (mark :: rest).contains ' ' then none
    else if (mark :: rest).any (fun c => c = '.' || c = 'e' || c = 'E') then float? chars magnitude
    else if mark = '_' ∧ magnitude.head? ≠ some '0' ∧ isGrouped isHexDigit chars then
      some (.integer (integerValue? sign 10 Char.isDigit (ungrouped magnitude)))
    else none

def scalar? (chars : List Char) : Option Toml :=
  if chars = "true".toList then some (.boolean true)
  else if chars = "false".toList then some (.boolean false)
  else
    let (sign, magnitude) := splitSign chars
    if magnitude = "inf".toList ∨ magnitude = "nan".toList then
      some (.float (some (String.ofList chars)))
    else
      match sign, magnitude with
      | none, '0' :: 'x' :: digits => based? 16 isHexDigit digits
      | none, '0' :: 'o' :: digits => based? 8 (fun c => '0' ≤ c && c ≤ '7') digits
      | none, '0' :: 'b' :: digits => based? 2 (fun c => c = '0' || c = '1') digits
      | _, _ => decimal? chars sign magnitude

/-- Whether a character may stand in a spelling: all but blanks, line ends, and the marks around
values. -/
def isSpelling (c : Char) : Bool :=
  !isBlank c && c ∉ ['\r', '\n', '#', '=', ',', '[', ']', '\x7b', '\x7d']

/-- Whether a spelling goes on over blanks to what follows them. -/
def continues (chars : List Char) : Bool :=
  match skipBlanks chars with
  | c :: _ => isSpelling c && c ∉ ['.', '"', '\'']
  | [] => false

/-- The spelling that begins here, with what follows it. It may hold blanks, as between a date and
a time. -/
def splitSpelling : List Char → List Char × List Char
  | [] => ([], [])
  | c :: rest =>
    if isSpelling c || (isBlank c && continues rest) then
      let (more, after) := splitSpelling rest
      (c :: more, after)
    else
      ([], c :: rest)

/-- A value that begins here, with what follows it. -/
def scanScalar (chars : List Char) : Option (Toml × List Char) :=
  let (spelling, rest) := splitSpelling chars
  (scalar? spelling).map ((·, rest))

end NativeViews.Toml
