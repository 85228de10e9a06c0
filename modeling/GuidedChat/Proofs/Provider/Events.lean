import GuidedChat.Proofs.Json.RoundTrip
import GuidedChat.Proofs.Provider.Errors

/-! # Errors and texts among the events of a reply

An event is read as an error first. If its document tells of an error, it is that error, whatever
else stands in the document; text comes of it only if it tells of none and the candidates in it
can be read (`events_told`). The one does not exclude an `error` that describes nothing: with a
code in quotes an event adds an empty text (`eventText_quoted_code`). -/

namespace GuidedChat.Provider

/-! ## What an event adds -/

def IsPart (value : Json) (part : Part) : Prop :=
  Json.Single "text" "" Json.IsText value part.text

def IsContent : Json → List Part → Prop := Json.Single "parts" [] (Json.IsList IsPart)

def IsCandidate (value : Json) (candidate : Candidate) : Prop :=
  Json.Single "content" [] IsContent value candidate.parts

/-- The document has these answers. -/
def Carries : Json → List Candidate → Prop :=
  Json.Single "candidates" [] (Json.IsList IsCandidate)

/-- The text is a document that adds a text to a reply: that of its first answer, if it has one. -/
inductive Adds (data : String) : String → Prop
  | nothing {document : Json} : Json.read? data = some document → Carries document [] → Adds data ""
  | first {document : Json} {candidate : Candidate} {others : List Candidate} :
      Json.read? data = some document → Carries document (candidate :: others) →
        Adds data (String.join (candidate.parts.map (·.text)))

theorem Part.ofJson?_eq_some_iff (value : Json) (part : Part) :
    Part.ofJson? value = some part ↔ IsPart value part := by
  refine (Json.single_map_eq_some_iff Json.text?_eq_some_iff Part.mk value part).trans ?_
  constructor
  · rintro ⟨text, h, rfl⟩
    exact h
  · intro h
    exact ⟨part.text, h, rfl⟩

theorem Candidate.ofJson?_eq_some_iff (value : Json) (candidate : Candidate) :
    Candidate.ofJson? value = some candidate ↔ IsCandidate value candidate := by
  have hparts : ∀ value parts, (value.fields? ["parts"]).bind (fun fields =>
      Json.optional fields "parts" [] (Json.all? Part.ofJson?)) = some parts ↔
        IsContent value parts :=
    Json.single_eq_some_iff (Json.all?_eq_some_iff Part.ofJson?_eq_some_iff)
  refine (Json.single_map_eq_some_iff hparts Candidate.mk value candidate).trans ?_
  constructor
  · rintro ⟨parts, h, rfl⟩
    exact h
  · intro h
    exact ⟨candidate.parts, h, rfl⟩

theorem candidates?_eq_some_iff (document : Json) (candidates : List Candidate) :
    candidates? document = some candidates ↔ Carries document candidates :=
  Json.single_eq_some_iff (Json.all?_eq_some_iff Candidate.ofJson?_eq_some_iff) document candidates

variable {data : String}

theorem bind_candidates?_eq_some_iff {candidates : List Candidate} :
    (Json.read? data).bind candidates? = some candidates ↔
      ∃ document, Json.read? data = some document ∧ Carries document candidates := by
  simp only [Option.bind_eq_some_iff, candidates?_eq_some_iff]

theorem adds_iff {text : String} :
    Adds data text ↔ ∃ candidates, (Json.read? data).bind candidates? = some candidates ∧
      (candidates.head?.map Candidate.text).getD "" = text := by
  simp only [bind_candidates?_eq_some_iff]
  constructor
  · rintro (⟨hdocument, hcarries⟩ | ⟨hdocument, hcarries⟩)
    · exact ⟨_, ⟨_, hdocument, hcarries⟩, rfl⟩
    · exact ⟨_, ⟨_, hdocument, hcarries⟩, rfl⟩
  · rintro ⟨candidates, ⟨document, hdocument, hcarries⟩, rfl⟩
    cases candidates with
    | nil => exact .nothing hdocument hcarries
    | cons candidate others => exact .first hdocument hcarries

/-! ## What an event comes to -/

theorem eventText_of_not_envelope (h : ∀ detail, ¬ Envelope data detail) :
    (∀ text, eventText data = .ok text ↔ Adds data text) ∧
      ((∀ text, ¬ Adds data text) → ∃ reason, eventText data = .error (.decode reason)) := by
  simp only [eventText, bind_ofDocument?_eq_none_iff.mpr h, adds_iff]
  cases (Json.read? data).bind candidates? with
  | none => simp
  | some candidates => cases candidates <;> simp

/-- **Errors and texts.** An event whose document has one `error` that describes an error is this
error and no text, and it is a rate limit if its code or its status says so. Any event is the
error that it tells of if it is an envelope, else the text that it adds, and else it cannot
be read. -/
theorem events_told (data : String) :
    (∀ members value detail, Json.read? data = some (.object members) → Json.Named members →
      Json.Sole "error" value members → Describes value detail →
        (∀ text, eventText data ≠ .ok text) ∧
        ∃ error, eventText data = .error error ∧
          (error.isRateLimited = true ↔
            detail.code = some 429 ∨ detail.status = some "RESOURCE_EXHAUSTED")) ∧
    (∀ text, eventText data = .ok text ↔ (∀ detail, ¬ Envelope data detail) ∧ Adds data text) ∧
    ((∀ detail, ¬ Envelope data detail) → (∀ text, ¬ Adds data text) →
      ∃ reason, eventText data = .error (.decode reason)) := by
  refine ⟨?_, ?_, fun h => (eventText_of_not_envelope h).2⟩
  · intro members value detail hdocument hnamed hsole hvalue
    have henvelope : Envelope data detail :=
      ⟨_, hdocument, .error (.object hnamed (.cons (.sole hsole) .nil)) hvalue⟩
    have hevent := eventText_of_envelope henvelope
    refine ⟨fun text hok => ?_, _, hevent, ?_⟩
    · rw [hevent] at hok
      cases hok
    · rw [ErrorDetail.isRateLimited_toError_iff]
      cases detail.code <;> simp
  · intro text
    by_cases henvelope : ∃ detail, Envelope data detail
    · obtain ⟨detail, h⟩ := henvelope
      rw [eventText_of_envelope h]
      exact iff_of_false (by simp) fun hnone => hnone.1 detail h
    · have hnone := not_exists.mp henvelope
      rw [(eventText_of_not_envelope hnone).1, and_iff_right hnone]

/-- An error that names a limit beside an answer that has a text. -/
theorem events_told_beside_text :
    let error : Json := .record [("message", .text "slow down"),
      ("status", .text "RESOURCE_EXHAUSTED")]
    let answer : Json := .record [("content",
      .record [("parts", .array [.record [("text", .text "ア")]])])]
    let data := (Json.record [("candidates", .array [answer]), ("error", error)]).compact
    Describes error ⟨none, "slow down", some "RESOURCE_EXHAUSTED"⟩ ∧
      (∀ text, eventText data ≠ .ok text) ∧
      ∃ error, eventText data = .error error ∧ error.isRateLimited = true := by
  intro error answer data
  have hvalue : Describes error ⟨none, "slow down", some "RESOURCE_EXHAUSTED"⟩ :=
    (ErrorDetail.ofJson?_eq_some_iff _ _).mp rfl
  have hnamed : Json.Named [(some "candidates", .array [answer]), (some "error", error)] := by
    simp [Json.Named]
  have hsole : Json.Sole "error" error
      [(some "candidates", .array [answer]), (some "error", error)] :=
    ⟨[(some "candidates", .array [answer])], [], rfl, by simp [Json.Lacks], by simp [Json.Lacks]⟩
  obtain ⟨hnone, told, htold, hlimited⟩ :=
    (events_told data).1 _ _ _ (Json.read?_compact _) hnamed hsole hvalue
  exact ⟨hvalue, hnone, told, htold, hlimited.mpr (.inr rfl)⟩

/-- A code in quotes describes no error, so this event adds an empty text. -/
theorem eventText_quoted_code :
    let error : Json := .record [("code", .text "429"), ("message", .text "quota"),
      ("status", .text "RESOURCE_EXHAUSTED")]
    let data := (Json.record [("error", error)]).compact
    Json.read? data = some (.record [("error", error)]) ∧ eventText data = .ok "" := by
  intro error data
  have hread : Json.read? data = some (.record [("error", error)]) := Json.read?_compact _
  refine ⟨hread, ?_⟩
  simp only [eventText, hread, Option.bind_some]
  rfl

end GuidedChat.Provider
