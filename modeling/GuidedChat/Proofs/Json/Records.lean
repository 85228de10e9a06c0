import GuidedChat.Proofs.Json.Members

/-! # What is read of a record

What is read of a record comes of what its fields hold (`bind_fields?_eq_some_iff`). A field may
be left out or be null or neither, and tells what is read of it by what it holds (`OrAbsent`,
`OrNull`); the commonest record has one field that may be left out (`Single`). -/

namespace GuidedChat.Json

variable {α : Type} {read : Json → Option α} {reads : Json → α → Prop}

inductive IsText : Json → String → Prop
  | text (text : String) : IsText (.text text) text

/-- The value is an array, and one by one its items read as these. -/
inductive IsList (reads : Json → α → Prop) : Json → List α → Prop
  | array {items : List Json} {results : List α} :
      List.Forall₂ reads items results → IsList reads (.array items) results

/-- What is read of a field that may be left out, but not be null. -/
inductive OrAbsent (absent : α) (reads : Json → α → Prop) : Option Json → α → Prop
  | absent : OrAbsent absent reads none absent
  | value {value : Json} {result : α} :
      reads value result → OrAbsent absent reads (some value) result

/-- What is read of a field that may be left out or be null. -/
inductive OrNull (reads : Json → α → Prop) : Option Json → Option α → Prop
  | absent : OrNull reads none none
  | null : OrNull reads (some .null) none
  | value {value : Json} {result : α} :
      reads value result → OrNull reads (some value) (some result)

/-- A record with one field, which may be left out. -/
inductive Single (name : String) (absent : α) (reads : Json → α → Prop) : Json → α → Prop
  | record {value : Json} {found : Option Json} {result : α} :
      Holds [name] value [found] → OrAbsent absent reads found result →
        Single name absent reads value result

theorem text?_eq_some_iff (value : Json) (text : String) :
    value.text? = some text ↔ IsText value text := by
  constructor
  · intro h
    cases value with
    | string content =>
      cases h
      exact .text text
    | null | bool b | number n | array items | object members => cases h
  · rintro ⟨text⟩
    rfl

theorem all?_eq_some_iff (h : ∀ value result, read value = some result ↔ reads value result)
    (value : Json) (results : List α) :
    all? read value = some results ↔ IsList reads value results := by
  constructor
  · intro hall
    cases value with
    | array items =>
      exact .array ((mapM_eq_some_iff.mp hall).imp fun value result => (h value result).mp)
    | null | bool b | number n | string text | object members => cases hall
  · rintro ⟨hitems⟩
    exact mapM_eq_some_iff.mpr (hitems.imp fun value result => (h value result).mpr)

theorem optional_eq_some_iff (h : ∀ value result, read value = some result ↔ reads value result)
    {fields : List (String × Json)} {name : String} {absent result : α} :
    optional fields name absent read = some result ↔
      OrAbsent absent reads (fields.lookup name) result := by
  rw [optional]
  cases fields.lookup name with
  | none =>
    constructor
    · intro heq
      cases heq
      exact .absent
    · rintro ⟨⟩
      rfl
  | some value =>
    constructor
    · intro hread
      exact .value ((h value result).mp hread)
    · rintro ⟨⟩
      rename_i hreads
      exact (h value result).mpr hreads

theorem nullable_eq_some_iff (h : ∀ value result, read value = some result ↔ reads value result)
    (hnull : read .null = none) {fields : List (String × Json)} {name : String}
    {result : Option α} :
    nullable fields name read = some result ↔ OrNull reads (fields.lookup name) result := by
  rw [nullable]
  split
  · rename_i hlookup
    rw [hlookup]
    constructor
    · intro heq
      cases heq
      exact .null
    · rintro (_ | _ | hreads)
      · rfl
      · rw [(h _ _).mpr hreads] at hnull
        cases hnull
  · rename_i hlookup
    rw [hlookup]
    constructor
    · intro heq
      cases heq
      exact .absent
    · rintro ⟨⟩
      rfl
  · rename_i value hvalue hlookup
    rw [hlookup, Option.map_eq_some_iff]
    constructor
    · rintro ⟨result, hread, rfl⟩
      exact .value ((h _ _).mp hread)
    · rintro (_ | _ | hreads)
      · exact absurd rfl hvalue
      · exact ⟨_, (h _ _).mpr hreads, rfl⟩

/-- What is taken from the fields of a record is taken from what it holds. -/
theorem bind_fields?_eq_some_iff {names : List String} (hnodup : names.Nodup)
    {take : List (String × Json) → Option α} (takes : List (Option Json) → α → Prop)
    (h : ∀ fields result,
      take fields = some result ↔ takes (names.map (List.lookup · fields)) result)
    (value : Json) (result : α) :
    (value.fields? names).bind take = some result ↔
      ∃ held, Holds names value held ∧ takes held result := by
  rw [Option.bind_eq_some_iff]
  constructor
  · rintro ⟨fields, hfields, htake⟩
    exact ⟨_, (exists_fields?_iff hnodup).mp ⟨fields, hfields, rfl⟩, (h fields result).mp htake⟩
  · rintro ⟨held, hholds, htakes⟩
    obtain ⟨fields, hfields, rfl⟩ := (exists_fields?_iff hnodup).mpr hholds
    exact ⟨fields, hfields, (h fields result).mpr htakes⟩

theorem single_eq_some_iff (h : ∀ value result, read value = some result ↔ reads value result)
    {name : String} {absent : α} (value : Json) (result : α) :
    (value.fields? [name]).bind (fun fields => optional fields name absent read) = some result ↔
      Single name absent reads value result := by
  have htake : ∀ fields result, optional fields name absent read = some result ↔
      ∃ found, [name].map (List.lookup · fields) = [found] ∧
        OrAbsent absent reads found result := by
    simp [optional_eq_some_iff h]
  rw [bind_fields?_eq_some_iff (by simp)
    (fun held result => ∃ found, held = [found] ∧ OrAbsent absent reads found result) htake]
  constructor
  · rintro ⟨_, hholds, found, rfl, hfound⟩
    exact .record hholds hfound
  · rintro ⟨hholds, hfound⟩
    exact ⟨_, hholds, _, rfl, hfound⟩

/-- A record with one field may stand for more than the field holds. -/
theorem single_map_eq_some_iff {β : Type}
    (h : ∀ value result, read value = some result ↔ reads value result) {name : String}
    {absent : α} (make : α → β) (value : Json) (result : β) :
    (value.fields? [name]).bind (fun fields =>
        (optional fields name absent read).bind fun a => some (make a)) = some result ↔
      ∃ a, Single name absent reads value a ∧ make a = result := by
  rw [← Option.bind_assoc, Option.bind_eq_some_iff]
  simp only [single_eq_some_iff h, Option.some.injEq]

end GuidedChat.Json
