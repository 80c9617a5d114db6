import NativeViews.Toml.Scalar
import NativeViews.Toml.Table
import NativeViews.Toml.Text

/-!
Reading TOML documents. A document is a list of lines, each a header, a key with a value, or
nothing; a value may go on over several lines between its brackets.
-/

namespace NativeViews.Toml

/-- The parts of the key that begins here, with what follows it. At most so many parts are read as
`parts` says. -/
def scanParts (chars : List Char) : (parts : Nat) → Option (List String × List Char)
  | 0 => none
  | parts + 1 => do
    let (key, rest) ← scanKey (skipBlanks chars)
    match skipBlanks rest with
    | '.' :: rest =>
      let (keys, rest) ← scanParts rest parts
      some (key :: keys, rest)
    | rest => some ([key], rest)

/-- The parts of the key that begins here, with what follows it and the blanks behind it. -/
def scanKeys (chars : List Char) : Option (List String × List Char) :=
  scanParts chars keyLimit

/-- What follows blanks, line ends and comments. -/
def skipLines (chars : List Char) : Nat → Option (List Char)
  | 0 => none
  | fuel + 1 => do
    match ← skipComment (skipBlanks chars) with
    | '\n' :: rest => skipLines rest fuel
    | '\r' :: '\n' :: rest => skipLines rest fuel
    | rest => some rest

mutual

/-- A value that begins here, with what follows it; `levels` counts the brackets that it may
still open. -/
def scanValue (levels : Nat) (chars : List Char) : Nat → Option (Toml × List Char)
  | 0 => none
  | fuel + 1 =>
    match chars with
    | '[' :: rest =>
      match levels with
      | 0 => none
      | levels + 1 => scanItems levels [] rest fuel
    | '\x7b' :: rest =>
      match levels with
      | 0 => none
      | levels + 1 => scanEntries levels [] rest fuel
    | chars =>
      match scanString chars with
      | some found => found.map fun (text, rest) => (.string text, rest)
      | none => scanScalar chars
termination_by structural fuel => fuel

/-- The items of an array from here to its bracket, after those of `before`, the last of which
comes first. -/
def scanItems (levels : Nat) (before : List Toml) (chars : List Char) :
    Nat → Option (Toml × List Char)
  | 0 => none
  | fuel + 1 => do
    match ← skipLines chars fuel with
    | ']' :: rest => some (.array before.reverse, rest)
    | chars =>
      let (item, rest) ← scanValue levels chars fuel
      match ← skipLines rest fuel with
      | ',' :: rest => scanItems levels (item :: before) rest fuel
      | ']' :: rest => some (.array (item :: before).reverse, rest)
      | _ => none
termination_by structural fuel => fuel

/-- The entries of a table between braces from here to its brace, after those of `before`. -/
def scanEntries (levels : Nat) (before : Entries) (chars : List Char) :
    Nat → Option (Toml × List Char)
  | 0 => none
  | fuel + 1 => do
    match ← skipLines chars fuel with
    | '\x7d' :: rest => some (.table (Node.toValues before), rest)
    | chars =>
      let (entries, rest) ← scanEntry levels before chars fuel
      match ← skipLines rest fuel with
      | ',' :: rest => scanEntries levels entries rest fuel
      | '\x7d' :: rest => some (.table (Node.toValues entries), rest)
      | _ => none
termination_by structural fuel => fuel

/-- The entries of a table between braces once a key with its value has been added, with what
follows it. -/
def scanEntry (levels : Nat) (before : Entries) (chars : List Char) :
    Nat → Option (Entries × List Char)
  | 0 => none
  | fuel + 1 => do
    let (keys, rest) ← scanKeys chars
    match ← skipLines rest fuel with
    | '=' :: rest =>
      let (value, rest) ← scanValue levels (← skipLines rest fuel) fuel
      let entries ← before.insert value keys
      some (entries, rest)
    | _ => none
termination_by structural fuel => fuel

end

/-- A header that begins behind its first bracket: whether it is one of an array, and its keys,
with what follows it. -/
def scanHeader (chars : List Char) : Option (Bool × List String × List Char) :=
  match chars with
  | '[' :: rest => do
    match ← scanKeys rest with
    | (keys, ']' :: ']' :: rest) => some (true, keys, rest)
    | _ => none
  | _ => do
    match ← scanKeys chars with
    | (keys, ']' :: rest) => some (false, keys, rest)
    | _ => none

def Entries.openHeader (isItem : Bool) (keys : List String) (entries : Entries) :
    Option Entries :=
  match keys.getLast? with
  | none => none
  | some key =>
    entries.below keys.dropLast (if isItem then Entries.openItem key else Entries.openTable key)

/-- The entries of a document from here to its end, after `entries`, in the table under the keys
of `place`. -/
def scanLines (place : List String) (entries : Entries) (chars : List Char) :
    Nat → Option Entries
  | 0 => none
  | fuel + 1 =>
    match skipBlanks chars with
    | [] => some entries
    | '[' :: rest => do
      let (isItem, keys, rest) ← scanHeader rest
      let entries ← entries.openHeader isItem keys
      let rest ← endLine? rest
      scanLines keys entries rest fuel
    | chars => do
      match ← skipComment chars with
      | [] => some entries
      | '\n' :: rest => scanLines place entries rest fuel
      | '\r' :: '\n' :: rest => scanLines place entries rest fuel
      | chars =>
        -- The entry is read on its own first, so that its keys are added at the place.
        let (keys, rest) ← scanKeys chars
        match rest with
        | '=' :: rest =>
          let (value, rest) ← scanValue depthLimit (skipBlanks rest) fuel
          let entries ← entries.below place (Entries.insert value keys)
          let rest ← endLine? rest
          scanLines place entries rest fuel
        | _ => none

/-- The table of a document, or none where the text is no document. A byte order mark may come
first. -/
def parse? (text : String) : Option Toml :=
  let chars :=
    match text.toList with
    | '\uFEFF' :: rest => rest
    | chars => chars
  (scanLines [] [] chars (2 * chars.length + 8)).map fun entries =>
    .table (Node.toValues entries)

end NativeViews.Toml
