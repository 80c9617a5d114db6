import NativeViews.Host.Building
import NativeViews.Schema.Basic
import NativeViews.Script.Syntax
import NativeViews.Text.Casing

/-!
Registrations: the names under which the host sends an event to its listeners.
-/

namespace NativeViews

open Script (Expr Member)

def topMark : List Char := ['t', 'o', 'p']

def onMark : List Char := ['o', 'n']

/-- The top-level name of an event: a listener's mark is exchanged for the top-level one, which
otherwise goes before the capitalized name, unless it is there already. -/
def topLevelChars (name : List Char) : List Char :=
  if onMark.isPrefixOf name then topMark ++ name.drop onMark.length
  else if topMark.isPrefixOf name then name
  else topMark ++ Text.upperFirst name

/-- The top-level name of an event. -/
def topLevelName (name : String) : String :=
  String.ofList (topLevelChars name.toList)

/-- How an event is registered under a key. -/
inductive Registration where
  | bubbling (key captured bubbled : String)
  | direct (key listener : String)
  deriving DecidableEq, Repr

namespace Registration

def key : Registration → String
  | bubbling key _ _ => key
  | direct key _ => key

def isBubbling : Registration → Bool
  | bubbling .. => true
  | direct .. => false

/-- The registration of an event. A top-level name of older hosts replaces the key and nothing
else. -/
def ofEvent (event : Event) : Registration :=
  let key := event.legacyName?.getD (topLevelName event.name)
  match event.travel with
  | .bubble => bubbling key (event.name ++ "Capture") event.name
  | .direct => direct key event.name

/-- The entry of a registration in the events of a descriptor. -/
def toMember : Registration → Member
  | bubbling key captured bubbled =>
    .property key (.object [
      .property "phasedRegistrationNames" (.object [
        .property "captured" (.text captured),
        .property "bubbled" (.text bubbled)])])
  | direct key listener =>
    .property key (.object [.property "registrationName" (.text listener)])

end Registration

/-- The entry that makes the listeners of all events valid attributes; none without events. -/
def eventAttributes (events : List Event) : Building (Option Member) := do
  if events.isEmpty then
    pure none
  else
    Building.need .ignoredEventHandlers
    let handlers := events.map fun event => Member.property event.name (.bool true)
    pure (some (.spread (.call Import.ignoredEventHandlers.binding [.object handlers])))

end NativeViews
