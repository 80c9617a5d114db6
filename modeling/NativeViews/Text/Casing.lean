import NativeViews.Text.Casing.Tables

/-!
Capital and small forms of characters and words, by the full case mappings: one character may
become several, and a sigma that ends a word has a small form of its own.
-/

namespace NativeViews.Text

/-- The image of `c` under a case mapping; what the mapping does not name is kept. -/
def mapCase (runs : List CaseRun) (expansions : List (Nat × List Nat)) (c : Char) : List Char :=
  match expansions.lookup c.toNat with
  | some points => points.map Char.ofNat
  | none =>
    match runs.findSome? (·.image? c.toNat) with
    | some point => [Char.ofNat point]
    | none => [c]

/-- The capital form of a character. -/
def upper (c : Char) : List Char :=
  mapCase upperRuns upperExpansions c

/-- The small form of a character outside any word. -/
def lower (c : Char) : List Char :=
  mapCase lowerRuns lowerExpansions c

/-- Whether the first character that is not case-ignorable is cased. -/
def facesCased (chars : List Char) : Bool :=
  match chars.dropWhile caseIgnorableRanges.holds with
  | [] => false
  | c :: _ => casedRanges.holds c

/-- The small form of `chars`, which follow the characters of `before`, the nearest first.
A capital sigma after a cased letter and before none is final. -/
def lowerAfter (before : List Char) : List Char → List Char
  | [] => []
  | c :: rest =>
    let small :=
      if c = 'Σ' then
        if facesCased before && !facesCased rest then ['ς'] else ['σ']
      else
        lower c
    small ++ lowerAfter (c :: before) rest

def upperAll (chars : List Char) : List Char :=
  chars.flatMap upper

def lowerAll (chars : List Char) : List Char :=
  lowerAfter [] chars

/-- The text with its first character in capital form. -/
def upperFirst : List Char → List Char
  | [] => []
  | c :: rest => upper c ++ rest

/-- The text with its first character in capital form and all others in small form. -/
def capitalize : List Char → List Char
  | [] => []
  | c :: rest => upper c ++ lowerAll rest

end NativeViews.Text
