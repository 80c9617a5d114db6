import NativeViews.Json.Token

/-!
Reading a document. The tokens are taken one by one; a stack holds the arrays and objects that
are still open, so that documents may nest as deep as they like.
-/

namespace NativeViews.Json

/-- An array or object that is open while one of its values is read. Parts come last first. -/
inductive Frame where
  | items (before : List Json)
  | member (before : List (Text × Json)) (key : Text)

/-- What has been read of a document, and what may follow. -/
inductive Progress where
  /-- A value must follow. -/
  | wantValue (stack : List Frame)
  /-- An array has just been opened. -/
  | arrayOpen (stack : List Frame)
  /-- An item has just been read. -/
  | afterItem (items : List Json) (stack : List Frame)
  /-- An object has just been opened. -/
  | objectOpen (stack : List Frame)
  /-- A key must follow. -/
  | wantKey (members : List (Text × Json)) (stack : List Frame)
  /-- A colon must follow. -/
  | wantColon (members : List (Text × Json)) (key : Text) (stack : List Frame)
  /-- A member has just been read. -/
  | afterMember (members : List (Text × Json)) (stack : List Frame)
  /-- The document is complete. -/
  | complete (document : Json)

namespace Progress

/-- The progress once a value has been read. -/
def deliver (value : Json) : List Frame → Progress
  | [] => .complete value
  | .items before :: stack => .afterItem (value :: before) stack
  | .member before key :: stack => .afterMember ((key, value) :: before) stack

/-- The progress once a token has been read where a value must follow. -/
def readValue (stack : List Frame) : Token → Option Progress
  | .openArray => some (.arrayOpen stack)
  | .openObject => some (.objectOpen stack)
  | .scalar value => some (deliver (.scalar value) stack)
  | _ => none

/-- The progress once a token has been read. -/
def step (progress : Progress) (token : Token) : Option Progress :=
  match progress, token with
  | .wantValue stack, token => readValue stack token
  | .arrayOpen stack, .closeArray => some (deliver (.array []) stack)
  | .arrayOpen stack, token => readValue (.items [] :: stack) token
  | .afterItem items stack, .comma => some (.wantValue (.items items :: stack))
  | .afterItem items stack, .closeArray => some (deliver (.array items.reverse) stack)
  | .objectOpen stack, .closeObject => some (deliver (.object []) stack)
  | .objectOpen stack, .scalar (.text key) => some (.wantColon [] key stack)
  | .wantKey members stack, .scalar (.text key) => some (.wantColon members key stack)
  | .wantColon members key stack, .colon => some (.wantValue (.member members key :: stack))
  | .afterMember members stack, .comma => some (.wantKey members stack)
  | .afterMember members stack, .closeObject => some (deliver (.object members.reverse) stack)
  | _, _ => none

def run (progress : Progress) (tokens : List Token) : Option Progress :=
  tokens.foldlM step progress

/-- The document, if it is complete. -/
def document? : Progress → Option Json
  | .complete document => some document
  | _ => none

end Progress

/-- The tree of a document, or none where the text is no document. -/
def parse? (text : String) : Option Json := do
  let tokens ← scan text.toList
  let progress ← Progress.run (.wantValue []) tokens
  progress.document?

end NativeViews.Json
