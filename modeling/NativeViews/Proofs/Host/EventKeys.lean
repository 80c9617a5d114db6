import Mathlib.Data.List.Nodup
import NativeViews.Proofs.Host.Content
import NativeViews.Proofs.Script.Evaluation

/-!
The keys under which the events of a component are registered. Two names lead to one key exactly
if they have one stem, and of events with one key only the last is registered where a component
holds both in one object.
-/

namespace NativeViews

open Script (Expr Member Value Host Run Running Scope)

/-! ## Stems of names -/

/-- What a top-level name has after its mark: the name of a listener without its own mark, a
top-level name without its mark, and any other name capitalized. -/
def stemChars (name : List Char) : List Char :=
  if onMark.isPrefixOf name then name.drop onMark.length
  else if topMark.isPrefixOf name then name.drop topMark.length
  else Text.upperFirst name

/-- The stem of the name of an event. -/
def Event.stem (event : Event) : List Char :=
  stemChars event.name.toList

/-- The top-level name with a stem. -/
def topLevelNameOf (stem : List Char) : String :=
  String.ofList (topMark ++ stem)

theorem topLevelChars_eq (name : List Char) : topLevelChars name = topMark ++ stemChars name := by
  rw [topLevelChars, stemChars]
  split
  · rfl
  split
  · next marked => exact (List.prefix_iff_eq_append.mp (List.isPrefixOf_iff_prefix.mp marked)).symm
  · rfl

theorem topLevelName_eq (name : String) :
    topLevelName name = topLevelNameOf (stemChars name.toList) := by
  rw [topLevelName, topLevelChars_eq, topLevelNameOf]

theorem topLevelNameOf_injective : Function.Injective topLevelNameOf := by
  intro first second same
  exact List.append_cancel_left (String.ofList_injective same)

theorem topLevelNameOf_ne_proto (stem : List Char) : topLevelNameOf stem ≠ "__proto__" := by
  intro same
  have chars := congrArg String.toList same
  simp [topLevelNameOf, topMark] at chars

/-- Without a name of older hosts, the key of an event has its stem. -/
theorem Event.key_eq {event : Event} (plain : event.legacyName? = none) :
    event.key = topLevelNameOf event.stem := by
  rw [key, plain, Option.getD_none, topLevelName_eq, stem]

theorem Event.nodup_keys_iff {events : List Event}
    (plain : ∀ event ∈ events, event.legacyName? = none) :
    (events.map Event.key).Nodup ↔ (events.map Event.stem).Nodup := by
  have keys : events.map Event.key = (events.map Event.stem).map topLevelNameOf := by
    rw [List.map_map]
    exact List.map_congr_left fun event member => Event.key_eq (plain event member)
  rw [keys, List.nodup_map_iff topLevelNameOf_injective]

/-! ## Registrations of a component -/

namespace Registration

@[simp] theorem key_ofEvent (event : Event) : (ofEvent event).key = event.key := by
  cases travel : event.travel <;> simp [ofEvent, travel, key, Event.key]

/-- What the host is told about an event. -/
def value : Registration → Value
  | bubbling _ captured bubbled =>
    .object [("phasedRegistrationNames",
      .object [("captured", .text captured), ("bubbled", .text bubbled)])]
  | direct _ listener => .object [("registrationName", .text listener)]

/-- The entry of a registration in an object of registrations. -/
def entry (registration : Registration) : String × Value :=
  (registration.key, registration.value)

variable (host : Host) (call : Value → List Value → Run Value) (scope : Scope)

theorem onward_toMember {registration : Registration} (proper : registration.key ≠ "__proto__")
    (entries : List (String × Value)) (running : Running) :
    (Member.evaluate host call scope registration.toMember entries).onward running
      = (.ok (OrderedMap.putEntry registration.key registration.value entries), running) := by
  cases registration with
  | bubbling key captured bubbled =>
    have value : (Expr.evaluate host call scope (.object [
        .property "phasedRegistrationNames" (.object [
          .property "captured" (.text captured),
          .property "bubbled" (.text bubbled)])])).onward running
        = (.ok (bubbling key captured bubbled).value, running) := rfl
    exact Script.onward_property proper value entries
  | direct key listener =>
    have value : (Expr.evaluate host call scope (.object [
        .property "registrationName" (.text listener)])).onward running
        = (.ok (direct key listener).value, running) := rfl
    exact Script.onward_property proper value entries

/-- Registrations become the entries of an object by their keys, a later one in the place of an
earlier one with its key. -/
theorem onward_toMembers {registrations : List Registration}
    (proper : ∀ registration ∈ registrations, registration.key ≠ "__proto__")
    (map : OrderedMap Value) (running : Running) :
    (Member.evaluateAll host call scope (registrations.map toMember) map.entries).onward running
      = (.ok ((registrations.map entry).foldl (fun map pair => map.insert pair.1 pair.2)
          map).entries, running) := by
  induction registrations generalizing map with
  | nil => rfl
  | cons registration registrations ih =>
    obtain ⟨first, others⟩ := List.forall_mem_cons.mp proper
    rw [List.map_cons, Member.evaluateAll,
      Run.onward_bind_of_ok (onward_toMember host call scope first map.entries running)]
    exact ih others (map.insert registration.key registration.value)

/-- What a descriptor holds for registrations is an object. -/
theorem onward_registrations {registrations : List Registration}
    (proper : ∀ registration ∈ registrations, registration.key ≠ "__proto__")
    (running : Running) :
    (Expr.evaluate host call scope (.object (registrations.map toMember))).onward running
      = (.ok (.object (OrderedMap.ofList (registrations.map entry)).entries), running) := by
  have members := onward_toMembers host call scope proper .empty running
  exact Script.onward_object members

end Registration

/-- A descriptor holds the registrations of the events, apart by their kinds. -/
theorem Descriptor.registrations_perm {className : String} {component : Component}
    {descriptor : Descriptor} (built : (build className component).outcome = .ok descriptor) :
    (descriptor.bubbling ++ descriptor.direct).Perm
      (component.events.map Registration.ofEvent) := by
  rw [outcome_build, ← bubbling_registrations, ← direct_registrations] at built
  cases typed : component.props.mapM Property.validated with
  | error failure => rw [typed] at built; exact nomatch built
  | ok attributes =>
    rw [typed] at built
    obtain rfl := Except.ok.inj built
    exact List.filter_append_perm ..

/-! ## Keys of a component -/

/-- Events without names of older hosts have distinct keys, bubbling and other events together,
exactly if their names have distinct stems. What a descriptor holds for both kinds are objects,
which in that case have one entry for each event, and no key in common. -/
theorem Descriptor.nodup_keys_iff_nodup_stems {component : Component}
    (plain : ∀ event ∈ component.events, event.legacyName? = none) {className : String}
    {descriptor : Descriptor} (built : (build className component).outcome = .ok descriptor)
    (host : Host) (call : Value → List Value → Run Value) (scope : Scope) (running : Running) :
    (((descriptor.bubbling ++ descriptor.direct).map Registration.key).Nodup ↔
      (component.events.map Event.stem).Nodup) ∧
    ∃ bubbling direct : List (String × Value),
      (Expr.evaluate host call scope
        (.object (descriptor.bubbling.map Registration.toMember))).onward running
          = (.ok (.object bubbling), running) ∧
      (Expr.evaluate host call scope
        (.object (descriptor.direct.map Registration.toMember))).onward running
          = (.ok (.object direct), running) ∧
      ((component.events.map Event.stem).Nodup →
        (bubbling ++ direct).Perm
          (component.events.map fun event => (Registration.ofEvent event).entry) ∧
        (bubbling.map Prod.fst).Disjoint (direct.map Prod.fst)) := by
  have all := registrations_perm built
  have keys : ((descriptor.bubbling ++ descriptor.direct).map Registration.key).Perm
      (component.events.map Event.key) := by
    simpa [Function.comp_def] using all.map Registration.key
  have distinct : ((descriptor.bubbling ++ descriptor.direct).map Registration.key).Nodup ↔
      (component.events.map Event.stem).Nodup :=
    keys.nodup_iff.trans (Event.nodup_keys_iff plain)
  -- The one key that would not make an entry has not the mark of a top-level name.
  have proper : ∀ registration ∈ descriptor.bubbling ++ descriptor.direct,
      registration.key ≠ "__proto__" := by
    intro registration member
    obtain ⟨event, inside, rfl⟩ := List.mem_map.mp (all.mem_iff.mp member)
    rw [Registration.key_ofEvent, Event.key_eq (plain event inside)]
    exact topLevelNameOf_ne_proto event.stem
  obtain ⟨properBubbling, properDirect⟩ := List.forall_mem_append.mp proper
  refine ⟨distinct, _, _, Registration.onward_registrations host call scope properBubbling running,
    Registration.onward_registrations host call scope properDirect running, fun stems => ?_⟩
  have apart := distinct.mpr stems
  rw [List.map_append] at apart
  obtain ⟨distinctBubbling, distinctDirect, disjoint⟩ := List.nodup_append'.mp apart
  have entryKey : Prod.fst ∘ Registration.entry = Registration.key := rfl
  rw [OrderedMap.entries_ofList (by rwa [List.map_map, entryKey]),
    OrderedMap.entries_ofList (by rwa [List.map_map, entryKey])]
  constructor
  · rw [← List.map_append]
    simpa [Function.comp_def] using all.map Registration.entry
  · rwa [List.map_map, List.map_map, entryKey]

theorem Descriptor.nodup_keys_iff_nodup_stems_slider :
    ∃ (component : Component) (descriptor : Descriptor),
      component.events.length = 3 ∧
      (∀ event ∈ component.events, event.legacyName? = none) ∧
      (build "Slider" component).outcome = .ok descriptor ∧
      (component.events.map Event.stem).Nodup ∧
      ((descriptor.bubbling ++ descriptor.direct).map Registration.key).Nodup := by
  let component : Component := { events := [
    ⟨"onChange", .bubble, none⟩, ⟨"changed", .direct, some ""⟩, ⟨"topEnd", .direct, none⟩] }
  have plain : ∀ event ∈ component.events, event.legacyName? = none := by
    simp [component, Event.legacyName?, setName?]
  have stems : (component.events.map Event.stem).Nodup := by decide
  refine ⟨component, _, rfl, plain, rfl, stems, ?_⟩
  exact (nodup_keys_iff_nodup_stems plain rfl ⟨fun _ => .ok .undefined, fun _ => [], fun _ => false⟩
    (fun _ _ => pure .undefined) [] ⟨[], [], none, []⟩).1.mpr stems

/-- Events with distinct names may share a key, and then the earlier one is lost. -/
theorem Descriptor.not_nodup_keys_press :
    ∃ (component : Component) (descriptor : Descriptor),
      (component.events.map Event.name).Nodup ∧
      (∀ event ∈ component.events, event.legacyName? = none) ∧
      (build "Slider" component).outcome = .ok descriptor ∧
      ¬ ((descriptor.bubbling ++ descriptor.direct).map Registration.key).Nodup ∧
      ∀ host call scope running, (Expr.evaluate host call scope
        (.object (descriptor.bubbling.map Registration.toMember))).onward running
          = (.ok (.object [("topPress", .object [("phasedRegistrationNames",
              .object [("captured", .text "pressCapture"), ("bubbled", .text "press")])])]),
            running) := by
  let component : Component := { events := [⟨"onPress", .bubble, none⟩, ⟨"press", .bubble, none⟩] }
  refine ⟨component, _, by decide, ?_, rfl, by decide, fun host call scope running => rfl⟩
  simp [component, Event.legacyName?, setName?]

end NativeViews
