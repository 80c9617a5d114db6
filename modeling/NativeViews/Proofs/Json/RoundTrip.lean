import NativeViews.Json.Document
import NativeViews.Proofs.Json.Scanning

/-!
Reading what has been written: a document whose strings are texts and whose numerals are well
formed is read back from its written form, whatever it holds and however deep it nests.
-/

namespace NativeViews.Json

/-- A value without parts whose written form says all of it. -/
inductive Scalar.Spelled : Scalar → Prop where
  | null : Spelled .null
  | bool (value : Bool) : Spelled (.bool value)
  | number {value : Numeral} (formed : value.WellFormed) : Spelled (.number value)
  | text (value : String) : Spelled (.text (some value))

/-- A document whose written form says all of it. -/
inductive Spelled : Json → Prop where
  | scalar {value : Scalar} (spelled : value.Spelled) : Spelled (.scalar value)
  | array {items : List Json} (spelled : ∀ item ∈ items, Spelled item) : Spelled (.array items)
  | object {members : List (Text × Json)} (keys : ∀ member ∈ members, member.1.isSome)
      (spelled : ∀ member ∈ members, Spelled member.2) : Spelled (.object members)

/-! ## Reading token by token -/

/-- The progress after a text, from the progress before it. -/
def Progress.after (progress : Progress) (chars : List Char) : Option Progress :=
  (scan chars).bind progress.run

theorem scanAfter_append (before earlier : List Token) (chars : List Char) :
    scanAfter (before ++ earlier) chars = (scanAfter before chars).map (earlier.reverse ++ ·) := by
  fun_induction scanAfter before chars with
  | case1 before => simp [scanAfter]
  | case2 before c rest blank ih => rw [scanAfter, if_pos blank, ih]
  | case3 before c rest solid failed =>
    rw [scanAfter, if_neg solid]
    split
    · rfl
    · next token rest found => rw [failed] at found; simp at found
  | case4 before c rest solid token after found ih =>
    rw [scanAfter, if_neg solid]
    split
    · next failed => rw [failed] at found; simp at found
    · next other rest same =>
      rw [found] at same
      obtain ⟨rfl, rfl⟩ := Prod.mk.inj (Option.some.inj same)
      exact ih

/-- A token is taken before what follows it. -/
theorem Progress.after_token (progress : Progress) {c : Char} {chars rest : List Char}
    {token : Token} (solid : isBlank c = false)
    (scanned : scanToken (c :: chars) = some (token, rest)) :
    progress.after (c :: chars) = (progress.step token).bind (·.after rest) := by
  have tokens : scan (c :: chars) = (scan rest).map (token :: ·) := by
    have later := scanAfter_append [] [token] rest
    unfold scan
    rw [scanAfter, if_neg (by simp [solid])]
    split
    · next failed => rw [failed] at scanned; simp at scanned
    · next other after same =>
      rw [scanned] at same
      obtain ⟨rfl, rfl⟩ := Prod.mk.inj (Option.some.inj same)
      exact later
  unfold after
  rw [tokens]
  cases scan rest with
  | none => simp
  | some tokens => simp [run]

section Signs

variable (progress : Progress) (chars : List Char)

theorem Progress.after_openArray :
    progress.after ('[' :: chars) = (progress.step .openArray).bind (·.after chars) :=
  progress.after_token (by decide) rfl

theorem Progress.after_closeArray :
    progress.after (']' :: chars) = (progress.step .closeArray).bind (·.after chars) :=
  progress.after_token (by decide) rfl

theorem Progress.after_openObject :
    progress.after ('\x7b' :: chars) = (progress.step .openObject).bind (·.after chars) :=
  progress.after_token (by decide) rfl

theorem Progress.after_closeObject :
    progress.after ('\x7d' :: chars) = (progress.step .closeObject).bind (·.after chars) :=
  progress.after_token (by decide) rfl

theorem Progress.after_comma :
    progress.after (',' :: chars) = (progress.step .comma).bind (·.after chars) :=
  progress.after_token (by decide) rfl

theorem Progress.after_colon :
    progress.after (':' :: chars) = (progress.step .colon).bind (·.after chars) :=
  progress.after_token (by decide) rfl

end Signs

section Steps

variable (value : Json) (items : List Json) (members : List (Text × Json)) (key : Text)
  (stack : List Frame)

@[simp] theorem Progress.deliver_items :
    deliver value (.items items :: stack) = .afterItem (value :: items) stack :=
  rfl

@[simp] theorem Progress.deliver_member :
    deliver value (.member members key :: stack) = .afterMember ((key, value) :: members) stack :=
  rfl

@[simp] theorem Progress.step_nextItem :
    (afterItem items stack).step .comma = some (.wantValue (.items items :: stack)) :=
  rfl

@[simp] theorem Progress.step_lastItem :
    (afterItem items stack).step .closeArray = some (deliver (.array items.reverse) stack) :=
  rfl

@[simp] theorem Progress.step_colon :
    (wantColon members key stack).step .colon
      = some (.wantValue (.member members key :: stack)) :=
  rfl

@[simp] theorem Progress.step_nextMember :
    (afterMember members stack).step .comma = some (.wantKey members stack) :=
  rfl

@[simp] theorem Progress.step_lastMember :
    (afterMember members stack).step .closeObject
      = some (deliver (.object members.reverse) stack) :=
  rfl

@[simp] theorem Progress.step_openArray :
    (wantValue stack).step .openArray = some (.arrayOpen stack) :=
  rfl

@[simp] theorem Progress.step_noItem :
    (arrayOpen stack).step .closeArray = some (deliver (.array []) stack) :=
  rfl

@[simp] theorem Progress.step_openObject :
    (wantValue stack).step .openObject = some (.objectOpen stack) :=
  rfl

@[simp] theorem Progress.step_noMember :
    (objectOpen stack).step .closeObject = some (deliver (.object []) stack) :=
  rfl

end Steps

theorem scanToken_numeral {c : Char} (chars : List Char) (first : c = '-' ∨ c.isDigit = true) :
    scanToken (c :: chars) =
      (scanNumeral (c :: chars)).map fun (numeral, rest) => (.scalar (.number numeral), rest) := by
  have other : ∀ d : Char, d ≠ '-' → d.isDigit = false → c ≠ d := by
    rintro d sign digit rfl
    rcases first with minus | isDigit
    · exact sign minus
    · rw [digit] at isDigit
      exact Bool.noConfusion isDigit
  rw [scanToken.eq_def]
  split
  case h_11 => rfl
  all_goals
    next same =>
    exact absurd (List.cons.inj same).1 (other _ (by decide) (by decide))

/-- The written form of a value without parts is one token. -/
theorem Progress.after_scalar (progress : Progress) {value : Scalar} (spelled : value.Spelled)
    {rest : List Char} (ends : continuesNumeral rest = false) :
    progress.after (value.render.toList ++ rest)
      = (progress.step (.scalar value)).bind (·.after rest) := by
  cases spelled with
  | null => exact progress.after_token (by decide) rfl
  | bool value => cases value <;> exact progress.after_token (by decide) rfl
  | text value =>
    have scanned := scanToken_renderString value rest
    simp only [Scalar.render, Option.getD_some, renderString, String.toList_ofList,
      List.cons_append] at scanned ⊢
    exact progress.after_token (by decide) scanned
  | @number numeral formed =>
    have scanned := scanNumeral_render formed ends
    have first : ∃ c chars, numeral.render.toList = c :: chars ∧ (c = '-' ∨ c.isDigit = true) := by
      rw [Numeral.toList_render]
      cases numeral.negative with
      | true => exact ⟨'-', _, rfl, .inl rfl⟩
      | false =>
        obtain ⟨digit, digits, whole⟩ := List.exists_cons_of_ne_nil formed.whole.1
        refine ⟨digit, _, by rw [whole]; rfl, .inr ?_⟩
        exact List.all_eq_true.mp formed.whole.2 digit (by simp [whole])
    obtain ⟨c, chars, same, starts⟩ := first
    have solid : isBlank c = false := by
      rcases starts with minus | digit
      · subst minus; decide
      · cases blank : isBlank c with
        | false => rfl
        | true =>
          simp only [isBlank, Bool.or_eq_true, decide_eq_true_eq] at blank
          rcases blank with ((rfl | rfl) | rfl) | rfl <;> exact absurd digit (by decide)
    rw [same, List.cons_append] at scanned
    rw [Scalar.render, same, List.cons_append]
    exact progress.after_token solid (by rw [scanToken_numeral _ starts, scanned]; rfl)

/-! ## Arrays and objects -/

section Written

variable (items : List Json) (members : List (Text × Json)) (rest : List Char)

@[simp] theorem toList_render_array :
    (array items).render.toList ++ rest = '[' :: ((renderItems items).toList ++ ']' :: rest) := by
  simp [render]

@[simp] theorem toList_render_object :
    (object members).render.toList ++ rest
      = '\x7b' :: ((renderMembers members).toList ++ '\x7d' :: rest) := by
  simp [render]

@[simp] theorem continuesNumeral_moreItems :
    continuesNumeral ((renderMoreItems items).toList ++ ']' :: rest) = false := by
  cases items <;> simp [renderMoreItems, continuesNumeral]

@[simp] theorem continuesNumeral_moreMembers :
    continuesNumeral ((renderMoreMembers members).toList ++ '\x7d' :: rest) = false := by
  cases members <;> simp [renderMoreMembers, continuesNumeral]

end Written

/-- A document is read where a value must follow, whatever comes after it. -/
def ReadsBack (document : Json) : Prop :=
  ∀ stack rest, continuesNumeral rest = false →
    (Progress.wantValue stack).after (document.render.toList ++ rest)
      = (Progress.deliver document stack).after rest

theorem readsBack_scalar {value : Scalar} (spelled : value.Spelled) :
    (scalar value).ReadsBack := by
  intro stack rest ends
  rw [render, Progress.after_scalar _ spelled ends]
  rfl

/-- The first item of an array is read like a value elsewhere, since it does not begin with the
bracket that closes the array. -/
theorem after_arrayOpen {document : Json} (spelled : document.Spelled)
    (stack : List Frame) {rest : List Char} (ends : continuesNumeral rest = false) :
    (Progress.arrayOpen stack).after (document.render.toList ++ rest)
      = (Progress.wantValue (.items [] :: stack)).after (document.render.toList ++ rest) := by
  cases spelled with
  | scalar value =>
    rw [render, Progress.after_scalar _ value ends, Progress.after_scalar _ value ends]
    rfl
  | array =>
    rw [toList_render_array, Progress.after_openArray, Progress.after_openArray]
    rfl
  | object =>
    rw [toList_render_object, Progress.after_openObject, Progress.after_openObject]
    rfl

theorem after_moreItems {items : List Json} (read : ∀ item ∈ items, item.ReadsBack)
    (before : List Json) (stack : List Frame) (rest : List Char) :
    (Progress.afterItem before stack).after ((renderMoreItems items).toList ++ ']' :: rest)
      = (Progress.deliver (.array (before.reverse ++ items)) stack).after rest := by
  induction items generalizing before with
  | nil =>
    simp [renderMoreItems, Progress.after_closeArray]
  | cons item items ih =>
    obtain ⟨head, others⟩ := List.forall_mem_cons.mp read
    have first := head (.items before :: stack) _ (continuesNumeral_moreItems items rest)
    have later := ih others (item :: before)
    rw [Progress.deliver_items] at first
    simp [renderMoreItems, Progress.after_comma, first, later]

theorem readsBack_array {items : List Json} (spelled : ∀ item ∈ items, item.Spelled)
    (read : ∀ item ∈ items, item.ReadsBack) : (array items).ReadsBack := by
  intro stack rest ends
  rw [toList_render_array, Progress.after_openArray]
  cases items with
  | nil =>
    simp [renderItems, Progress.after_closeArray]
  | cons item items =>
    obtain ⟨head, others⟩ := List.forall_mem_cons.mp read
    have closes := continuesNumeral_moreItems items rest
    have opened := after_arrayOpen (spelled item (by simp)) stack closes
    have first := head (.items [] :: stack) _ closes
    have later := after_moreItems others [item] stack rest
    rw [Progress.deliver_items] at first
    simp [renderItems, opened, first, later]

/-- A member after its bracket or comma: key, colon and value. -/
theorem after_member (progress : Progress) (before : List (Text × Json)) (stack : List Frame)
    (key : String) {value : Json} (read : value.ReadsBack)
    (wants : progress.step (.scalar (.text (some key)))
      = some (.wantColon before (some key) stack))
    {rest : List Char} (ends : continuesNumeral rest = false) :
    progress.after ((renderString key).toList ++ ':' :: (value.render.toList ++ rest))
      = (Progress.afterMember ((some key, value) :: before) stack).after rest := by
  have colon : continuesNumeral (':' :: (value.render.toList ++ rest)) = false := rfl
  have named := progress.after_scalar (.text key) colon
  have valued := read (.member before (some key) :: stack) rest ends
  rw [Scalar.render, Option.getD_some] at named
  rw [Progress.deliver_member] at valued
  rw [named, wants, Option.bind_some, Progress.after_colon]
  rw [Progress.step_colon, Option.bind_some, valued]

theorem after_moreMembers {members : List (Text × Json)}
    (keys : ∀ member ∈ members, member.1.isSome) (read : ∀ member ∈ members, member.2.ReadsBack)
    (before : List (Text × Json)) (stack : List Frame) (rest : List Char) :
    (Progress.afterMember before stack).after ((renderMoreMembers members).toList ++ '\x7d' :: rest)
      = (Progress.deliver (.object (before.reverse ++ members)) stack).after rest := by
  induction members generalizing before with
  | nil =>
    simp [renderMoreMembers, Progress.after_closeObject]
  | cons member members ih =>
    obtain ⟨key, value⟩ := member
    obtain ⟨named, otherKeys⟩ := List.forall_mem_cons.mp keys
    obtain ⟨valued, others⟩ := List.forall_mem_cons.mp read
    obtain ⟨name, rfl⟩ := Option.isSome_iff_exists.mp named
    have first := after_member (.wantKey before stack) before stack name valued rfl
      (continuesNumeral_moreMembers members rest)
    have later := ih otherKeys others ((some name, value) :: before)
    simp [renderMoreMembers, Progress.after_comma, first, later]

theorem readsBack_object {members : List (Text × Json)}
    (keys : ∀ member ∈ members, member.1.isSome) (read : ∀ member ∈ members, member.2.ReadsBack) :
    (object members).ReadsBack := by
  intro stack rest ends
  rw [toList_render_object, Progress.after_openObject]
  cases members with
  | nil =>
    simp [renderMembers, Progress.after_closeObject]
  | cons member members =>
    obtain ⟨key, value⟩ := member
    obtain ⟨named, otherKeys⟩ := List.forall_mem_cons.mp keys
    obtain ⟨valued, others⟩ := List.forall_mem_cons.mp read
    obtain ⟨name, rfl⟩ := Option.isSome_iff_exists.mp named
    have first := after_member (.objectOpen stack) [] stack name valued rfl
      (continuesNumeral_moreMembers members rest)
    have later := after_moreMembers otherKeys others [(some name, value)] stack rest
    simp [renderMembers, first, later]

theorem Spelled.readsBack {document : Json} (spelled : document.Spelled) :
    document.ReadsBack := by
  induction spelled with
  | scalar value => exact readsBack_scalar value
  | array parts ih => exact readsBack_array parts ih
  | object keys _ ih => exact readsBack_object keys ih

/-- A document is read back from its written form. -/
theorem parse?_render {document : Json} (spelled : document.Spelled) :
    parse? document.render = some document := by
  have read := spelled.readsBack [] [] rfl
  have whole : parse? document.render
      = ((Progress.wantValue []).after document.render.toList).bind Progress.document? := by
    simp only [parse?, Progress.after, Option.bind_eq_bind, Option.bind_assoc]
  rw [List.append_nil] at read
  rw [whole, read]
  simp [Progress.deliver, Progress.after, scan, scanAfter, Progress.run, Progress.document?]

end NativeViews.Json
