import NativeViews.Json.Record
import NativeViews.Schema.Wire

/-!
Reading schemas out of JSON texts. Every record may be an object or an array of its fields in
order; `levels` counts the brackets that may still be opened.
-/

namespace NativeViews.Wire

open Json (Fields)

def PropType.read? : Nat → Json → Option PropType
  | 0, _ => none
  | levels + 1, json => do
    let fields ← json.fields? ["type", "name", "elementType"]
    let kind ← fields.require "type" Json.text?
    let name ← fields.read? "name" Json.text?
    let element ← fields.read? "elementType" (PropType.read? levels)
    pure (.ofParts kind name element)

def Base.read? : Nat → Json → Option Base
  | 0, _ => none
  | _ + 1, json => do
    let fields ← json.fields? ["type", "knownTypeName"]
    let kind ← fields.require "type" Json.text?
    let known ← fields.readD "knownTypeName" Json.text? ""
    pure ⟨kind, known⟩

def Property.read? : Nat → Json → Option Property
  | 0, _ => none
  | levels + 1, json => do
    let fields ← json.fields? ["name", "typeAnnotation"]
    let name ← fields.require "name" Json.text?
    let type ← fields.require "typeAnnotation" (PropType.read? levels)
    pure ⟨name, type⟩

/-- Where a record is read from: its text directly, or a module that is kept until its type is
known. A kept module takes an empty object for null where a name stands with a value. -/
inductive Source where
  | direct
  | kept
  deriving DecidableEq, Repr

/-- Whether a value counts as null beside the name of a way to travel. -/
def Source.isUnit : Source → Json → Bool
  | _, .scalar .null => true
  | kept, .object [] => true
  | _, _ => false

/-- Reads a way to travel: its name, or an object with the name as the only key. -/
def readTravel? (source : Source) : Nat → Json → Option Travel
  | _, .scalar (.text name) => name.bind Travel.ofName?
  | _ + 1, .object [(some name, value)] =>
    if source.isUnit value then Travel.ofName? name else none
  | _, _ => none

def readEvent? (source : Source) : Nat → Json → Option Event
  | 0, _ => none
  | levels + 1, json => do
    let fields ← json.fields? ["name", "bubblingType", "paperTopLevelNameDeprecated"]
    let name ← fields.require "name" Json.text?
    let travel ← fields.require "bubblingType" (readTravel? source levels)
    let legacyName ← fields.read? "paperTopLevelNameDeprecated" Json.text?
    pure ⟨name, travel, legacyName⟩

/-- Reads the name of a parameter. -/
def readParam? : Nat → Json → Option String
  | 0, _ => none
  | _ + 1, json => do
    let fields ← json.fields? ["name"]
    fields.require "name" Json.text?

/-- Reads the names of the parameters out of the type of a command. -/
def readParams? : Nat → Json → Option (List String)
  | 0, _ => none
  | levels + 1, json => do
    let fields ← json.fields? ["params"]
    fields.readD "params" (Json.list? readParam? levels) []

def readCommand? : Nat → Json → Option Command
  | 0, _ => none
  | levels + 1, json => do
    let fields ← json.fields? ["name", "typeAnnotation"]
    let name ← fields.require "name" Json.text?
    let params ← fields.require "typeAnnotation" (readParams? levels)
    pure ⟨name, params⟩

def Component.read? (source : Source) : Nat → Json → Option Component
  | 0, _ => none
  | levels + 1, json => do
    let fields ← json.fields?
      ["props", "events", "commands", "extendsProps", "paperComponentName",
        "paperComponentNameDeprecated"]
    let props ← fields.readD "props" (Json.list? Property.read? levels) []
    let events ← fields.readD "events" (Json.list? (readEvent? source) levels) []
    let commands ← fields.readD "commands" (Json.list? readCommand? levels) []
    let bases ← fields.readD "extendsProps" (Json.list? Base.read? levels) []
    let paperName ← fields.read? "paperComponentName" Json.text?
    let legacyName ← fields.read? "paperComponentNameDeprecated" Json.text?
    pure { props, events, commands, bases, paperName, legacyName }

/-- The type of a module, with what else the module holds. The type is the member under that
key, which stands once, or the first item. -/
def Module.tagged? : Json → Option (String × Json)
  | .object members =>
    match members.partition (·.1 == some "type") with
    | ([(_, tag)], rest) => tag.text?.map fun kind => (kind, .object rest)
    | _ => none
  | .array (tag :: rest) => tag.text?.map fun kind => (kind, .array rest)
  | _ => none

/-- The type of modules that hold components. -/
def Module.componentType : String := "Component"

/-- Reads a module. It is sound as a whole, whatever its type; one of another type may hold
anything under keys, and nothing after its type as an array. -/
def ListedModule.read? (levels : Nat) (json : Json) : Option ListedModule := do
  if !json.isSound levels then none
  let (kind, rest) ← Module.tagged? json
  if kind = Module.componentType then
    let fields ← rest.fields? ["components"]
    let parts ← fields.require "components"
      (Json.entries? (Component.read? .kept) (levels - 1))
    pure (.components parts)
  else
    match rest with
    | .array (_ :: _) => none
    | _ => pure .other

/-- Reads what a schema lists. -/
def Listing.read? : Nat → Json → Option Listing
  | 0, _ => none
  | levels + 1, json => do
    let fields ← json.fields? ["modules"]
    fields.require "modules" (Json.entries? ListedModule.read? levels)

def Schema.read? (levels : Nat) (json : Json) : Option Schema :=
  (Listing.read? levels json).map Listing.toSchema

/-- Reads a value out of a text. -/
def readText {α : Type} [Libraries] (target : JsonTarget) (read : Nat → Json → Option α)
    (text : String) : Except Failure α :=
  match (Json.parse? text).bind (read Json.depthLimit) with
  | some value => .ok value
  | none => .error (.malformedJson (Libraries.json target text))

end NativeViews.Wire

namespace NativeViews

variable [Libraries]

/-- The map that an object spells: its members, put in one after the other. -/
def OrderedMap.ofText {α : Type} (read : Nat → Json → Option α) (text : String) :
    Except Failure (OrderedMap α) :=
  Wire.readText .map (fun levels json => (Json.entries? read levels json).map .ofList) text

def PropType.ofText (text : String) : Except Failure PropType := do
  (← Wire.readText .type Wire.PropType.read? text).convert

def Base.ofText (text : String) : Except Failure Base := do
  (← Wire.readText .base Wire.Base.read? text).convert

def Component.ofText (text : String) : Except Failure Component := do
  (← Wire.readText .component (Wire.Component.read? .direct) text).convert

def Schema.ofText (text : String) : Except Failure Schema := do
  (← Wire.readText .schema Wire.Schema.read? text).convert

end NativeViews
