import NativeViews.Text.Casing
import NativeViews.Text.Cluster

/-!
The words of a name: a name falls apart at underscores, hyphens and spaces, where a small
letter meets a capital, where letters meet digits, and before the last capital of an acronym.
-/

namespace NativeViews.Text

/-- Whether a cluster is a capital: it has two forms, and this is the capital one. -/
def isCapital (cluster : List Char) : Bool :=
  upperAll cluster != lowerAll cluster && cluster == upperAll cluster

/-- Whether a cluster is a small letter: it has two forms, and this is the small one. -/
def isSmall (cluster : List Char) : Bool :=
  upperAll cluster != lowerAll cluster && cluster == lowerAll cluster

/-- Whether a cluster holds ASCII digits alone. -/
def isFigure (cluster : List Char) : Bool :=
  cluster.all Char.isDigit

/-- Whether a cluster separates two words and belongs to neither. -/
def isSeparator (cluster : List Char) : Bool :=
  cluster == ['_'] || cluster == ['-'] || cluster == [' ']

/-- Whether a word ends with `cluster` where `following` comes next. -/
def endsWord (cluster : List Char) (following : List (List Char)) : Bool :=
  match following with
  | [] => false
  | next :: later =>
    (isSmall cluster && (isCapital next || isFigure next))
      || (isCapital cluster && isFigure next)
      || (isFigure cluster && (isSmall next || isCapital next))
      || (isCapital cluster && isCapital next && (later.head?.map isSmall).getD false)

/-- The words of a run of clusters, after a word begun by `begun`, its last character first. -/
def wordsAfter (begun : List Char) : List (List Char) → List (List Char)
  | [] => [begun.reverse]
  | cluster :: following =>
    if isSeparator cluster then
      begun.reverse :: wordsAfter [] following
    else if endsWord cluster following then
      (cluster.reverse ++ begun).reverse :: wordsAfter [] following
    else
      wordsAfter (cluster.reverse ++ begun) following

/-- The words of a name, without empty ones. -/
def words (name : List Char) : List (List Char) :=
  (wordsAfter [] (clusters name)).filter (!·.isEmpty)

/-- The name in Pascal case: its words, each capitalized, with nothing between them. -/
def pascalCase (name : String) : String :=
  String.ofList ((words name.toList).flatMap capitalize)

end NativeViews.Text
