import NativeViews.Text.Cluster.Tables

/-!
User-perceived characters: a text falls into clusters, each a base with the marks that belong
to it. The rules are those of extended grapheme clusters.
-/

namespace NativeViews.Text

/-- What a character does at the border of a cluster. -/
inductive ClusterClass where
  | carriageReturn
  | lineFeed
  | control
  | extend
  | joiner
  | flagLetter
  | prepend
  | spacingMark
  | leadingConsonant
  | vowel
  | trailingConsonant
  | openSyllable
  | closedSyllable
  | other
  deriving DecidableEq, Repr

namespace ClusterClass

/-- The part a character plays in a Hangul syllable, if any. Of the composed syllables every
twenty-eighth has no trailing consonant. -/
def hangul? (point : Nat) : Option ClusterClass :=
  if (0x1100 ≤ point ∧ point ≤ 0x115F) ∨ (0xA960 ≤ point ∧ point ≤ 0xA97C) then
    some leadingConsonant
  else if (0x1160 ≤ point ∧ point ≤ 0x11A7) ∨ (0xD7B0 ≤ point ∧ point ≤ 0xD7C6) ∨
      point = 0x16D63 ∨ (0x16D67 ≤ point ∧ point ≤ 0x16D6A) then
    some vowel
  else if (0x11A8 ≤ point ∧ point ≤ 0x11FF) ∨ (0xD7CB ≤ point ∧ point ≤ 0xD7FB) then
    some trailingConsonant
  else if 0xAC00 ≤ point ∧ point ≤ 0xD7A3 then
    some (if (point - 0xAC00) % 28 = 0 then openSyllable else closedSyllable)
  else
    none

def of (c : Char) : ClusterClass :=
  if c = '\r' then carriageReturn
  else if c = '\n' then lineFeed
  else if c.toNat = 0x200D then joiner
  else if 0x1F1E6 ≤ c.toNat ∧ c.toNat ≤ 0x1F1FF then flagLetter
  else if controlRanges.holds c then control
  else if extendRanges.holds c then extend
  else if spacingMarkRanges.holds c then spacingMark
  else if prependRanges.holds c then prepend
  else (hangul? c.toNat).getD other

/-- Whether a cluster always ends before and after a character of the class. -/
def isBreaking (kind : ClusterClass) : Bool :=
  kind = carriageReturn || kind = lineFeed || kind = control

/-- Whether two neighbouring parts of Hangul make one syllable. -/
def makeSyllable (left right : ClusterClass) : Bool :=
  match left with
  | leadingConsonant =>
    right = leadingConsonant || right = vowel || right = openSyllable || right = closedSyllable
  | openSyllable | vowel => right = vowel || right = trailingConsonant
  | closedSyllable | trailingConsonant => right = trailingConsonant
  | _ => false

end ClusterClass

/-- How far a sequence that joins two like characters has come. -/
inductive Link where
  | idle
  | started
  | linked
  deriving DecidableEq, Repr

/-- What the end of the current cluster lets follow. -/
structure ClusterEnd where
  last : ClusterClass
  /-- A pictograph, extended, then a joiner. -/
  pictograph : Link
  /-- A consonant, extended, with a virama among the extenders. -/
  conjunct : Link
  /-- Whether the flag letters at the end are odd in number. -/
  oddFlag : Bool

namespace ClusterEnd

/-- The end of a cluster that is `c` alone. -/
def start (c : Char) : ClusterEnd where
  last := .of c
  pictograph := if pictographRanges.holds c then .started else .idle
  conjunct := if conjunctConsonantRanges.holds c then .started else .idle
  oddFlag := ClusterClass.of c = .flagLetter

/-- Whether `c` belongs to the cluster that ends so. -/
def joins (tail : ClusterEnd) (c : Char) : Bool :=
  let next := ClusterClass.of c
  if tail.last = .carriageReturn ∧ next = .lineFeed then true
  else if tail.last.isBreaking || next.isBreaking then false
  else
    tail.last.makeSyllable next
      || next = .extend || next = .joiner || next = .spacingMark
      || tail.last = .prepend
      || (tail.conjunct = .linked && conjunctConsonantRanges.holds c)
      || (tail.pictograph = .linked && pictographRanges.holds c)
      || (tail.oddFlag && next = .flagLetter)

/-- The end of the cluster once `c` has joined it. -/
def push (tail : ClusterEnd) (c : Char) : ClusterEnd where
  last := .of c
  pictograph :=
    if pictographRanges.holds c then .started
    else match tail.pictograph, ClusterClass.of c with
      | .started, .extend => .started
      | .started, .joiner => .linked
      | _, _ => .idle
  conjunct :=
    if conjunctConsonantRanges.holds c then .started
    else if tail.conjunct = .idle then .idle
    else if conjunctLinkerRanges.holds c then .linked
    else if (ClusterClass.of c = .extend ∧ c.toNat ≠ 0x200C) ∨ ClusterClass.of c = .joiner then
      tail.conjunct
    else .idle
  oddFlag := ClusterClass.of c = .flagLetter && !tail.oddFlag

end ClusterEnd

/-- The clusters of `chars`, after a cluster begun by `begun`, its last character first. -/
def clustersAfter (begun : List Char) (tail : ClusterEnd) : List Char → List (List Char)
  | [] => [begun.reverse]
  | c :: rest =>
    if tail.joins c then
      clustersAfter (c :: begun) (tail.push c) rest
    else
      begun.reverse :: clustersAfter [c] (.start c) rest

def clusters : List Char → List (List Char)
  | [] => []
  | c :: rest => clustersAfter [c] (.start c) rest

theorem flatten_clustersAfter (begun : List Char) (tail : ClusterEnd) (chars : List Char) :
    (clustersAfter begun tail chars).flatten = begun.reverse ++ chars := by
  induction chars generalizing begun tail with
  | nil => simp [clustersAfter]
  | cons c rest ih =>
    unfold clustersAfter
    split <;> simp [ih]

/-- Clusters cut a text and lose nothing of it. -/
theorem flatten_clusters (chars : List Char) : (clusters chars).flatten = chars := by
  cases chars with
  | nil => rfl
  | cons c rest => simp [clusters, flatten_clustersAfter]

end NativeViews.Text
