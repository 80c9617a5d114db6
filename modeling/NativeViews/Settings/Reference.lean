import NativeViews.Environment
import NativeViews.Failure

/-!
References to variables inside settings: a name, and perhaps a default, between a dollar sign
with a brace and a closing brace. What is no reference is kept as it is.
-/

namespace NativeViews

structure Reference where
  name : String
  default : Option String
  deriving DecidableEq, Repr

/-- A piece of a text that may hold references. -/
inductive Piece where
  | char (c : Char)
  | reference (reference : Reference)
  deriving DecidableEq, Repr

namespace Reference

def isNameChar (c : Char) : Bool :=
  c != '\x7d' && c != ':'

/-- The reference whose name and default begin here, behind the opening brace, with what follows
its closing brace. -/
def scan (chars : List Char) : Option (Reference × List Char) :=
  let name := chars.takeWhile isNameChar
  if name.isEmpty then none
  else
    match chars.dropWhile isNameChar with
    | '\x7d' :: rest => some (⟨String.ofList name, none⟩, rest)
    | ':' :: '-' :: rest =>
      match rest.dropWhile (· != '\x7d') with
      | '\x7d' :: after =>
        some (⟨String.ofList name, some (String.ofList (rest.takeWhile (· != '\x7d')))⟩, after)
      | _ => none
    | _ => none

theorem length_scan {chars rest : List Char} {reference : Reference}
    (scanned : scan chars = some (reference, rest)) : rest.length < chars.length := by
  have name := (List.dropWhile_sublist isNameChar (l := chars)).length_le
  unfold scan at scanned
  simp only at scanned
  split at scanned
  · simp at scanned
  · split at scanned
    · next after same =>
      simp only [Option.some.injEq, Prod.mk.injEq] at scanned
      rw [same, scanned.2, List.length_cons] at name
      omega
    · next tail same =>
      have default := (List.dropWhile_sublist (· != '\x7d') (l := tail)).length_le
      rw [same] at name
      simp only [List.length_cons] at name
      split at scanned
      · next after closed =>
        simp only [Option.some.injEq, Prod.mk.injEq] at scanned
        rw [closed, scanned.2, List.length_cons] at default
        omega
      · simp at scanned
    · simp at scanned

end Reference

/-- The pieces of a text, references from left to right. -/
def pieces : List Char → List Piece
  | [] => []
  | '$' :: '\x7b' :: rest =>
    match _scanned : Reference.scan rest with
    | some (reference, after) => .reference reference :: pieces after
    | none => .char '$' :: pieces ('\x7b' :: rest)
  | c :: rest => .char c :: pieces rest
termination_by chars => chars.length
decreasing_by
  · have := Reference.length_scan _scanned
    simp only [List.length_cons]
    omega
  · simp
  · simp

/-- What a reference stands for: what is found under its name, or else its default. -/
def Reference.value? (environment : Environment) (reference : Reference) : Option String :=
  (environment.find? reference.name).orElse fun _ => reference.default

/-- The names of the variables that pieces refer to. -/
def Piece.names (pieces : List Piece) : List String :=
  pieces.filterMap fun
    | .char _ => none
    | .reference found => some (Environment.variableOf found.name)

/-- The names of the variables that a text refers to. -/
def referredNames (text : String) : List String :=
  Piece.names (pieces text.toList)

/-- The text that stands for a piece. -/
def Piece.resolve (environment : Environment) : Piece → Except Failure (List Char)
  | .char c => .ok [c]
  | .reference found =>
    match found.value? environment with
    | some value => .ok value.toList
    | none => .error (.variableNotSet found.name)

/-- The text with every reference replaced. What replaces a reference is not looked at again. -/
def substitute (environment : Environment) (text : String) : Except Failure String :=
  ((pieces text.toList).mapM (Piece.resolve environment)).map fun parts =>
    String.ofList parts.flatten

end NativeViews
