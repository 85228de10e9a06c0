import GuidedChat.Proofs.Json.Members
import GuidedChat.Proofs.Relay.Posted
import Mathlib.Data.List.Forall2

/-! # Which bodies are taken in

A body is taken in if it is a JSON object whose last `messages` is an array that is not empty,
and each value in it reads as an entry; the entries come in the order of the values
(`parse_eq_ok_iff`). A value reads as an entry if it is an object with a text as its content and
a text, null or nothing as its role (`Incoming.Described`). It also does if it is an array of a
role and a content (`Incoming.Listed`), so objects are all there is to it only where no value is
an array (`takes_in_entries`), and the two readings come apart on the smallest body that lists
an entry (`takes_in_listed_entry`). -/

namespace GuidedChat

/-! ## Entries -/

namespace Relay

namespace Incoming

/-- An object that describes an entry by its content and its role; without a role, or with null
in its place, the entry has none. -/
inductive Described : Json → Incoming → Prop
  | noRole {members : List (Option String × Json)} {content : String} :
      Json.Last "content" (.text content) members → Json.Lacks "role" members →
      Described (.object members) ⟨none, content⟩
  | nullRole {members : List (Option String × Json)} {content : String} :
      Json.Last "content" (.text content) members → Json.Last "role" .null members →
      Described (.object members) ⟨none, content⟩
  | role {members : List (Option String × Json)} {role content : String} :
      Json.Last "content" (.text content) members → Json.Last "role" (.text role) members →
      Described (.object members) ⟨some role, content⟩

/-- An array that lists a role and a content. -/
inductive Listed : Json → Incoming → Prop
  | nullRole (content : String) : Listed (.array [.null, .text content]) ⟨none, content⟩
  | role (role content : String) :
      Listed (.array [.text role, .text content]) ⟨some role, content⟩

theorem contentOf_eq_ok_iff {value : Json} {text : String} :
    contentOf value = .ok text ↔ value = .text text := by
  unfold contentOf Json.text
  split <;> simp_all

theorem roleOf_eq_ok_iff {value : Json} {role : Option String} :
    roleOf value = .ok role ↔
      value = .null ∧ role = none ∨ ∃ text, value = .text text ∧ role = some text := by
  unfold roleOf
  split
  · simp [Json.text, eq_comm]
  · rename_i hnull
    cases hcontent : contentOf value with
    | ok text =>
      rw [contentOf_eq_ok_iff] at hcontent
      subst hcontent
      simp [Json.text, eq_comm]
    | error fault =>
      constructor
      · intro h
        cases h
      · rintro (⟨h, -⟩ | ⟨text, h, -⟩)
        · exact absurd h hnull
        · rw [contentOf_eq_ok_iff.mpr h] at hcontent
          cases hcontent

theorem not_described_array {items : List Json} {entry : Incoming} :
    ¬ Described (.array items) entry := by
  rintro ⟨⟩

theorem not_listed_object {members : List (Option String × Json)} {entry : Incoming} :
    ¬ Listed (.object members) entry := by
  rintro ⟨⟩

theorem mapM_eq_ok_iff_option {α β ε : Type} {f : α → Except ε β} {value : Option α}
    {result : Option β} :
    value.mapM f = .ok result ↔
      value = none ∧ result = none ∨ ∃ a b, value = some a ∧ result = some b ∧ f a = .ok b := by
  cases value with
  | none => simp [pure, Except.pure, eq_comm]
  | some a =>
    show (some <$> f a) = _ ↔ _
    cases h : f a <;> simp [h, Functor.map, Except.map, eq_comm]

/-- An object is an entry if its content and its role, as far as it has one, can be read. -/
theorem ofJson_object {members : List (Option String × Json)} {entry : Incoming} :
    ofJson (.object members) = .ok entry ↔
      ∃ role, ((Json.object members).member? "content").mapM contentOf = .ok (some entry.content) ∧
        ((Json.object members).member? "role").mapM roleOf = .ok role ∧
        entry.role = role.join := by
  obtain ⟨role, content⟩ := entry
  rw [ofJson]
  cases ((Json.object members).member? "content").mapM contentOf with
  | error fault => simp [bind, Except.bind]
  | ok found =>
    cases ((Json.object members).member? "role").mapM roleOf with
    | error fault => simp [bind, Except.bind]
    | ok role' => cases found <;> simp [bind, Except.bind, and_comm, eq_comm]

theorem ofJson_object_eq_ok_iff {members : List (Option String × Json)} {entry : Incoming} :
    ofJson (.object members) = .ok entry ↔ Described (.object members) entry := by
  rw [ofJson_object]
  constructor
  · rintro ⟨role, hcontent, hrole, hjoin⟩
    obtain ⟨role', content⟩ := entry
    rcases mapM_eq_ok_iff_option.mp hcontent with ⟨-, h⟩ | ⟨value, text, hvalue, htext, hread⟩
    · cases h
    cases htext
    rw [contentOf_eq_ok_iff.mp hread, Json.member?_eq_some_iff] at hvalue
    rcases mapM_eq_ok_iff_option.mp hrole with ⟨hnone, rfl⟩ | ⟨value', found, hvalue', rfl, hread'⟩
    · cases hjoin
      exact .noRole hvalue (Json.member?_eq_none_iff.mp hnone)
    · rw [Json.member?_eq_some_iff] at hvalue'
      rcases roleOf_eq_ok_iff.mp hread' with ⟨rfl, rfl⟩ | ⟨name, rfl, rfl⟩
      · cases hjoin
        exact .nullRole hvalue hvalue'
      · cases hjoin
        exact .role hvalue hvalue'
  · rintro (⟨hcontent, hrole⟩ | ⟨hcontent, hrole⟩ | ⟨hcontent, hrole⟩)
    · exact ⟨none, by rw [Json.member?_eq_some_iff.mpr hcontent]; rfl,
        by rw [Json.member?_eq_none_iff.mpr hrole]; rfl, rfl⟩
    · exact ⟨some none, by rw [Json.member?_eq_some_iff.mpr hcontent]; rfl,
        by rw [Json.member?_eq_some_iff.mpr hrole]; rfl, rfl⟩
    · exact ⟨some (some _), by rw [Json.member?_eq_some_iff.mpr hcontent]; rfl,
        by rw [Json.member?_eq_some_iff.mpr hrole]; rfl, rfl⟩

theorem ofJson_array_eq_ok_iff {items : List Json} {entry : Incoming} :
    ofJson (.array items) = .ok entry ↔ Listed (.array items) entry := by
  constructor
  · intro h
    match items with
    | [] => cases h
    | [role] =>
      rw [ofJson] at h
      cases hrole : roleOf role <;> rw [hrole] at h <;> cases h
    | role :: content :: rest =>
      rw [ofJson] at h
      cases hrole : roleOf role with
      | error fault => rw [hrole] at h; cases h
      | ok role' =>
        cases hcontent : contentOf content with
        | error fault => rw [hrole, hcontent] at h; cases h
        | ok text =>
          rw [hrole, hcontent] at h
          cases rest with
          | cons item rest => cases h
          | nil =>
            cases h
            rw [contentOf_eq_ok_iff.mp hcontent]
            rcases roleOf_eq_ok_iff.mp hrole with ⟨rfl, rfl⟩ | ⟨name, rfl, rfl⟩
            · exact .nullRole text
            · exact .role name text
  · rintro (⟨content⟩ | ⟨role, content⟩) <;> rfl

/-- A value is an entry if it is an object that describes one or an array that lists one. -/
theorem ofJson_eq_ok_iff {value : Json} {entry : Incoming} :
    ofJson value = .ok entry ↔ Described value entry ∨ Listed value entry := by
  cases value with
  | object members =>
    rw [ofJson_object_eq_ok_iff, or_iff_left not_listed_object]
  | array items =>
    rw [ofJson_array_eq_ok_iff, or_iff_right not_described_array]
  | null | bool b | number n | string text =>
    constructor
    · intro h
      cases h
    · rintro (h | h) <;> cases h

end Incoming

/-! ## Bodies -/

/-- The body carries an object, and its last member of the name `messages` is this array. -/
def Offers (body : List UInt8) (values : List Json) : Prop :=
  ∃ members, Json.ofBytes? body = some (.object members) ∧
    Json.Last "messages" (.array values) members

theorem offers_iff {body : List UInt8} {values : List Json} :
    Offers body values ↔ ∃ document, Json.ofBytes? body = some document ∧
      document.member? "messages" = some (.array values) := by
  constructor
  · rintro ⟨members, hdocument, hlast⟩
    exact ⟨_, hdocument, Json.member?_eq_some_iff.mpr hlast⟩
  · rintro ⟨document, hdocument, hmember⟩
    cases document with
    | object members => exact ⟨members, hdocument, Json.member?_eq_some_iff.mp hmember⟩
    | null | bool b | number n | string text | array items => cases hmember

theorem Offers.unique {body : List UInt8} {values values' : List Json} (h : Offers body values)
    (h' : Offers body values') : values = values' := by
  obtain ⟨document, hdocument, hmember⟩ := offers_iff.mp h
  obtain ⟨document', hdocument', hmember'⟩ := offers_iff.mp h'
  rw [hdocument] at hdocument'
  cases hdocument'
  rw [hmember] at hmember'
  cases hmember'
  rfl

/-- The body offers at least one value, and one by one its values read as the entries. -/
def Submits (reads : Json → Incoming → Prop) (body : List UInt8) (entries : List Incoming) :
    Prop :=
  ∃ values, Offers body values ∧ values ≠ [] ∧ List.Forall₂ reads values entries

def Incoming.Reads (value : Json) (entry : Incoming) : Prop :=
  Described value entry ∨ Listed value entry

theorem mapM_ofJson_eq_ok_iff {values : List Json} {entries : List Incoming} :
    values.mapM (fun value => (Incoming.ofJson value).mapError Rejection.badMessage) =
        .ok entries ↔
      List.Forall₂ Incoming.Reads values entries := by
  have hread : ∀ value entry,
      (Incoming.ofJson value).mapError Rejection.badMessage = .ok entry ↔
        Incoming.Reads value entry := by
    intro value entry
    rw [Incoming.Reads, ← Incoming.ofJson_eq_ok_iff]
    cases Incoming.ofJson value <;> simp [Except.mapError]
  rw [mapM_eq_ok_iff, ← List.forall₂_eq_eq_eq, List.forall₂_map_left_iff,
    List.forall₂_map_right_iff]
  simp only [hread]

theorem parse_eq_ok_iff {body : List UInt8} {entries : List Incoming} :
    parse body = .ok entries ↔ Submits Incoming.Reads body entries := by
  simp only [Submits, ← mapM_ofJson_eq_ok_iff]
  constructor
  · intro h
    rw [parse] at h
    split at h
    · cases h
    rename_i document hdocument
    split at h
    · cases h
    · rename_i values hne hmember
      exact ⟨values, offers_iff.mpr ⟨document, hdocument, hmember⟩, hne, h⟩
    · cases h
  · rintro ⟨values, hoffers, hne, h⟩
    obtain ⟨document, hdocument, hmember⟩ := offers_iff.mp hoffers
    obtain ⟨value, rest, rfl⟩ := List.exists_cons_of_ne_nil hne
    rw [parse, hdocument]
    simp only [hmember]
    exact h

/-- Where no value is an array, every entry is described by an object. -/
theorem submits_described_iff {body : List UInt8} {entries : List Incoming}
    (h : ∀ values, Offers body values → ∀ items, .array items ∉ values) :
    Submits Incoming.Reads body entries ↔ Submits Incoming.Described body entries := by
  refine exists_congr fun values => and_congr_right fun hoffers => and_congr_right fun _ => ?_
  have hobjects : ∀ value ∈ values, ∀ items, value ≠ .array items := by
    rintro value hmem items rfl
    exact h values hoffers items hmem
  constructor
  · intro hreads
    refine ((List.forall₂_and_left _ _).mpr ⟨hobjects, hreads⟩).imp ?_
    rintro value entry ⟨hobject, hdescribed | hlisted⟩
    · exact hdescribed
    · cases hlisted <;> exact absurd rfl (hobject _)
  · exact List.Forall₂.imp fun _ _ => .inl

/-- **What is taken in.** A body is taken in with the entries that it submits and is turned down
if it submits none; where no entry is listed in an array, those described by objects are all. -/
theorem takes_in_entries (body : List UInt8) :
    (∀ entries, parse body = .ok entries ↔ Submits Incoming.Reads body entries) ∧
    ((∀ entries, ¬ Submits Incoming.Reads body entries) ↔
      ∃ rejection, parse body = .error rejection) ∧
    ((∀ values, Offers body values → ∀ items, .array items ∉ values) →
      ∀ entries, parse body = .ok entries ↔ Submits Incoming.Described body entries) := by
  refine ⟨fun entries => parse_eq_ok_iff, ?_, ?_⟩
  · simp only [← parse_eq_ok_iff]
    cases parse body <;> simp
  · intro hobjects entries
    rw [parse_eq_ok_iff, submits_described_iff hobjects]

/-- The one entry of this body is an array: no object describes it, and it is taken in. -/
theorem takes_in_listed_entry :
    let body := Utf8.encode "\x7b\"messages\":[[\"user\",\"hi\"]]\x7d"
    parse body = .ok [⟨some "user", "hi"⟩] ∧
      ∀ entries, ¬ Submits Incoming.Described body entries := by
  intro body
  let entry : Json := .array [.text "user", .text "hi"]
  have hbody : body = Utf8.encode (Json.record [("messages", .array [entry])]).compact := by
    decide +kernel
  have hoffers : Offers body [entry] := by
    refine ⟨_, ?_, [], [], rfl, by simp⟩
    rw [hbody]
    exact Json.ofBytes?_compact (by decide +kernel)
  constructor
  · exact parse_eq_ok_iff.mpr ⟨_, hoffers, by simp, .cons (.inr (.role "user" "hi")) .nil⟩
  · rintro entries ⟨values, hoffers', -, hdescribed⟩
    rw [← hoffers.unique hoffers'] at hdescribed
    cases hdescribed with
    | cons hentry _ => exact Incoming.not_described_array hentry

end Relay

end GuidedChat
