import GuidedChat.Proofs.Json.Numbers
import GuidedChat.Proofs.Json.Records
import GuidedChat.Provider.Event

/-! # What the provider's errors are read off

A text is an envelope if it is a document whose `error` describes an error: by a code of sixteen
bits, a message and a status, of which any may be left out (`Describes`, `Envelope`). Reading
finds the detail of every envelope and of nothing else (`ofDocument?_eq_some_iff`). The kind of
an error comes from the code and the status of its detail, and from the status of the response
only where there is no code; so responses and events agree on every envelope
(`errors_by_fields`). -/

namespace GuidedChat

/-- Errors that differ in their messages at most. -/
inductive ProviderError.SameKind : ProviderError → ProviderError → Prop
  | rateLimited (message message' : String) :
      SameKind (.rateLimited message) (.rateLimited message')
  | api (status : Nat) (message message' : String) :
      SameKind (.api status message) (.api status message')

namespace Provider

/-! ## Envelopes -/

/-- The value is a whole number of sixteen bits, spelled in digits. -/
inductive IsCode : Json → Nat → Prop
  | digits {n : Json.Number} {code : Nat} :
      (∀ c ∈ n.literal, c.isDigit = true) → Nat.ofDigitChars 10 n.literal 0 = code →
        code < 65536 → IsCode (.number n) code

inductive Describes : Json → ErrorDetail → Prop
  | fields {value : Json} {code message status : Option Json} {detail : ErrorDetail} :
      value.Holds ["code", "message", "status"] [code, message, status] →
        Json.OrNull IsCode code detail.code → Json.OrAbsent "" Json.IsText message detail.message →
        Json.OrNull Json.IsText status detail.status → Describes value detail

/-- The document tells of an error. -/
inductive Reports : Json → ErrorDetail → Prop
  | error {document value : Json} {detail : ErrorDetail} :
      document.Holds ["error"] [some value] → Describes value detail → Reports document detail

/-- The text is a document that tells of an error. -/
def Envelope (text : String) (detail : ErrorDetail) : Prop :=
  ∃ document, Json.read? text = some document ∧ Reports document detail

namespace ErrorDetail

theorem code?_eq_some_iff (value : Json) (code : Nat) :
    code? value = some code ↔ IsCode value code := by
  constructor
  · intro h
    unfold code? at h
    split at h
    · split at h
      · rename_i n hvalue
        obtain ⟨hlimit, hcode⟩ := Option.ite_none_right_eq_some.mp h
        cases hcode
        obtain ⟨hdigits, hspelled, -⟩ := Json.Number.value?_eq_natural_iff.mp hvalue
        exact .digits hdigits hspelled hlimit
      · cases h
    · cases h
  · rintro ⟨hdigits, hspelled, hlimit⟩
    have hsize : code < UInt64.size := Nat.lt_trans hlimit (by decide)
    rw [code?, Json.Number.value?_eq_natural_iff.mpr ⟨hdigits, hspelled, hsize⟩]
    exact if_pos hlimit

theorem fields_eq_some_iff (fields : List (String × Json)) (detail : ErrorDetail) :
    (do
      return {
        code := ← Json.nullable fields "code" code?
        message := ← Json.optional fields "message" "" Json.text?
        status := ← Json.nullable fields "status" Json.text? } : Option ErrorDetail) =
          some detail ↔
      Json.OrNull IsCode (fields.lookup "code") detail.code ∧
        Json.OrAbsent "" Json.IsText (fields.lookup "message") detail.message ∧
        Json.OrNull Json.IsText (fields.lookup "status") detail.status := by
  rw [← Json.nullable_eq_some_iff code?_eq_some_iff rfl,
    ← Json.optional_eq_some_iff Json.text?_eq_some_iff,
    ← Json.nullable_eq_some_iff Json.text?_eq_some_iff rfl]
  obtain ⟨code, message, status⟩ := detail
  cases Json.nullable fields "code" code? <;>
    cases Json.optional fields "message" "" Json.text? <;>
    cases Json.nullable fields "status" Json.text? <;> simp

theorem ofJson?_eq_some_iff (value : Json) (detail : ErrorDetail) :
    ofJson? value = some detail ↔ Describes value detail := by
  have hnodup : ["code", "message", "status"].Nodup := by decide
  have hread := Json.bind_fields?_eq_some_iff hnodup
    (fun held (detail : ErrorDetail) => ∃ code message status, held = [code, message, status] ∧
      Json.OrNull IsCode code detail.code ∧ Json.OrAbsent "" Json.IsText message detail.message ∧
      Json.OrNull Json.IsText status detail.status)
    (fun fields detail => (fields_eq_some_iff fields detail).trans (by simp))
  refine (hread value detail).trans ⟨?_, ?_⟩
  · rintro ⟨_, hholds, code, message, status, rfl, hcode, hmessage, hstatus⟩
    exact .fields hholds hcode hmessage hstatus
  · rintro ⟨hholds, hcode, hmessage, hstatus⟩
    exact ⟨_, hholds, _, _, _, rfl, hcode, hmessage, hstatus⟩

theorem ofDocument?_eq_some_iff (document : Json) (detail : ErrorDetail) :
    ofDocument? document = some detail ↔ Reports document detail := by
  have htake : ∀ fields detail, Json.required fields "error" ofJson? = some detail ↔
      ∃ value, ["error"].map (List.lookup · fields) = [some value] ∧ Describes value detail := by
    simp [Json.required, Option.bind_eq_some_iff, ofJson?_eq_some_iff]
  have hread := Json.bind_fields?_eq_some_iff (by decide)
    (fun held detail => ∃ value, held = [some value] ∧ Describes value detail) htake
  refine (hread document detail).trans ⟨?_, ?_⟩
  · rintro ⟨_, hholds, value, rfl, hvalue⟩
    exact .error hholds hvalue
  · rintro ⟨hholds, hvalue⟩
    exact ⟨_, hholds, _, rfl, hvalue⟩

/-! ## The error of a detail -/

theorem toError_sameKind {detail detail' : ErrorDetail} (hcode : detail.code = detail'.code)
    (hstatus : detail.status = detail'.status) (status : Nat) :
    (detail.toError status).SameKind (detail'.toError status) := by
  rw [toError, toError, hcode, hstatus]
  split
  · exact .rateLimited _ _
  · exact .api _ _ _

/-- A code stands for any other status. -/
theorem toError_of_code {detail : ErrorDetail} (h : detail.code ≠ none) (status status' : Nat) :
    detail.toError status = detail.toError status' := by
  obtain ⟨code, hcode⟩ := Option.ne_none_iff_exists'.mp h
  simp only [toError, hcode, Option.getD_some]

theorem isRateLimited_toError_iff (detail : ErrorDetail) (status : Nat) :
    (detail.toError status).isRateLimited = true ↔
      detail.code.getD status = 429 ∨ detail.status = some "RESOURCE_EXHAUSTED" := by
  rw [toError]
  split <;> simp_all [ProviderError.isRateLimited]

end ErrorDetail

/-! ## Responses and events -/

variable {text : String} {detail : ErrorDetail}

theorem bind_ofDocument?_eq_some_iff :
    (Json.read? text).bind ErrorDetail.ofDocument? = some detail ↔ Envelope text detail := by
  simp only [Option.bind_eq_some_iff, ErrorDetail.ofDocument?_eq_some_iff, Envelope]

theorem bind_ofDocument?_eq_none_iff :
    (Json.read? text).bind ErrorDetail.ofDocument? = none ↔ ∀ detail, ¬ Envelope text detail := by
  simp only [Option.eq_none_iff_forall_ne_some, ne_eq, bind_ofDocument?_eq_some_iff]

theorem Envelope.unique {detail' : ErrorDetail} (h : Envelope text detail)
    (h' : Envelope text detail') : detail = detail' := by
  rw [← bind_ofDocument?_eq_some_iff] at h h'
  exact Option.some.inj (h.symm.trans h')

theorem errorOfResponse_of_envelope (h : Envelope text detail) (status : Nat) :
    errorOfResponse status text = detail.toError status := by
  rw [errorOfResponse, bind_ofDocument?_eq_some_iff.mpr h]
  rfl

theorem errorOfResponse_of_not_envelope (h : ∀ detail, ¬ Envelope text detail) (status : Nat) :
    errorOfResponse status text = if status = 429 then .rateLimited text else .api status text := by
  rw [errorOfResponse, bind_ofDocument?_eq_none_iff.mpr h]
  simp [ErrorDetail.toError]

theorem eventText_of_envelope (h : Envelope text detail) :
    eventText text = .error (detail.toError 500) := by
  simp only [eventText, bind_ofDocument?_eq_some_iff.mpr h]

/-- **Errors are told apart by their fields.** Whatever the messages say, envelopes with one code
and one status come to one kind of error; an event that is an envelope is the error of a response
with status 500, or with any status if there is a code; and what is no envelope has the status
of its response alone. -/
theorem errors_by_fields (status : Nat) :
    (∀ body body' detail detail', Envelope body detail → Envelope body' detail' →
      detail.code = detail'.code → detail.status = detail'.status →
        (errorOfResponse status body).SameKind (errorOfResponse status body')) ∧
    (∀ body detail, Envelope body detail →
      eventText body = .error (errorOfResponse 500 body) ∧
        (detail.code ≠ none → eventText body = .error (errorOfResponse status body))) ∧
    ∀ body, (∀ detail, ¬ Envelope body detail) →
      errorOfResponse status body =
        if status = 429 then .rateLimited body else .api status body := by
  refine ⟨?_, ?_, ?_⟩
  · intro body body' detail detail' h h' hcode hstatus
    rw [errorOfResponse_of_envelope h, errorOfResponse_of_envelope h']
    exact ErrorDetail.toError_sameKind hcode hstatus status
  · intro body detail h
    rw [eventText_of_envelope h, errorOfResponse_of_envelope h, errorOfResponse_of_envelope h]
    refine ⟨rfl, fun hcode => ?_⟩
    rw [ErrorDetail.toError_of_code hcode 500 status]
  · intro body h
    exact errorOfResponse_of_not_envelope h status

/-- A message that speaks of a limit, the same error without it and with more about it, and a page
that is no document. -/
theorem errors_by_fields_quota :
    let body := "\x7b\"error\":\x7b\"code\":500,\"message\":\"429 quota\"\x7d\x7d"
    let body' := "\x7b\"id\":1,\"error\":\x7b\"details\":[],\"code\":500\x7d\x7d"
    let page := "<p>429 quota</p>"
    Envelope body ⟨some 500, "429 quota", none⟩ ∧
      Envelope body' ⟨some 500, "", none⟩ ∧ (∀ detail, ¬ Envelope page detail) ∧
      (errorOfResponse 429 body).SameKind (errorOfResponse 429 body') ∧
      eventText body = .error (errorOfResponse 429 body) ∧
      errorOfResponse 503 page = .api 503 page := by
  intro body body' page
  have hbody : Envelope body ⟨some 500, "429 quota", none⟩ :=
    bind_ofDocument?_eq_some_iff.mp (by decide +kernel)
  have hbody' : Envelope body' ⟨some 500, "", none⟩ :=
    bind_ofDocument?_eq_some_iff.mp (by decide +kernel)
  have hpage : ∀ detail, ¬ Envelope page detail :=
    bind_ofDocument?_eq_none_iff.mp (by decide +kernel)
  exact ⟨hbody, hbody', hpage, (errors_by_fields 429).1 _ _ _ _ hbody hbody' rfl rfl,
    ((errors_by_fields 429).2.1 _ _ hbody).2 (by simp), (errors_by_fields 503).2.2 _ hpage⟩

end Provider

end GuidedChat
