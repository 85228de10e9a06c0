import GuidedChat.Proofs.Relay.Posted
import GuidedChat.Proofs.Service.Chat

/-! # The three endings of a posted chat

What is posted to a flow ends in one of three ways and in no other (`handle_ends`). A body that
is no conversation is rejected, and the provider hears nothing of it. Any other is put to the
provider once. If an error comes before the first text, the response has a status that tells
rate limits from all else; if not, it is a reply with every text before the first error, one
frame each, and breaks off if there is an error at all. -/

namespace GuidedChat.Service

inductive Ending
  | rejected
  | failed
  | replied
  deriving DecidableEq, Repr

/-- A response that is a document which says what went wrong. -/
structure Refuses (response : Http.Response) (status : Nat) (message : String) : Prop where
  status_eq : response.status = status
  type_eq : response.headers.lookup "content-type" = some "application/json"
  bytes_eq : response.bytes = Utf8.encode ("\x7b\"error\":\"" ++ message ++ "\"\x7d")
  whole : response.aborted = false

/-- A response with the texts before the first error of a script. -/
structure Replies (response : Http.Response) (items : TextStream) : Prop where
  status_eq : response.status = 200
  type_eq : response.headers.lookup "content-type" = some "text/plain; charset=utf-8"
  frames_eq : ∃ texts rest, items = texts.map .ok ++ rest ∧
    (∀ text more, rest ≠ .ok text :: more) ∧
    response.frames = (Text.kept texts).map Utf8.encode
  aborted_iff : response.aborted = true ↔ ∃ error, .error error ∈ items

/-- A chat of this body has come to an ending, with the calls and the response it asks for. -/
def Ends (model : Relay.Model) (persona : Persona) (body : List UInt8)
    (answer : Called Relay.Call Http.Response) : Ending → Prop
  | .rejected =>
    (∃ rejection, Relay.parse body = .error rejection) ∧ answer.calls = [] ∧
      Refuses answer.result 400 "messages array is required"
  | .failed =>
    ∃ asked error, Relay.Chat.ofBody body = .ok asked ∧
      answer.calls = [⟨persona.instruction, asked⟩] ∧
      Relay.FailsEarly (model ⟨persona.instruction, asked⟩) error ∧
      Refuses answer.result (if error.isRateLimited then 429 else 500)
        (if error.isRateLimited then "Rate limit exceeded" else "Internal server error")
  | .replied =>
    ∃ asked items, Relay.Chat.ofBody body = .ok asked ∧
      answer.calls = [⟨persona.instruction, asked⟩] ∧
      model ⟨persona.instruction, asked⟩ = .ok items ∧
      (∀ error, ¬ Relay.FailsEarly (.ok items) error) ∧ Replies answer.result items

/-! ## Refusals and replies -/

theorem compact_refusal (failure : Relay.Failure) :
    (ErrorBody.mk (refusalMessage failure)).toJson.compact =
      "\x7b\"error\":\"" ++ refusalMessage failure ++ "\"\x7d" := by
  cases failure <;> simp only [refusalMessage] <;> decide +kernel

theorem refuses_refusal (failure : Relay.Failure) :
    Refuses (refusal failure) (refusalStatus failure) (refusalMessage failure) where
  status_eq := rfl
  type_eq := rfl
  bytes_eq := by
    rw [← compact_refusal]
    exact List.append_nil _
  whole := rfl

theorem refuses_ofProvider (error : ProviderError) :
    Refuses (refusal (.ofProvider error)) (if error.isRateLimited then 429 else 500)
      (if error.isRateLimited then "Rate limit exceeded" else "Internal server error") := by
  by_cases hlimited : error.isRateLimited = true
  · simp only [Relay.Failure.ofProvider, if_pos hlimited]
    exact refuses_refusal (.rateLimited error)
  · simp only [Relay.Failure.ofProvider, if_neg hlimited]
    exact refuses_refusal (.provider error)

theorem texts_broken (pieces : List String) (error : ProviderError) (rest : TextStream) :
    texts (.broken pieces error rest) = pieces := by
  induction pieces with
  | nil => rfl
  | cons piece pieces ih => exact congrArg (piece :: ·) ih

theorem replies_replyResponse (items : TextStream) :
    Replies (replyResponse (items.filter Relay.carries)) items where
  status_eq := rfl
  type_eq := rfl
  frames_eq := by
    rcases items.shape with ⟨pieces, rfl⟩ | ⟨pieces, error, rest, rfl⟩
    · refine ⟨pieces, [], (List.append_nil _).symm, by simp, ?_⟩
      show (texts ((TextStream.whole pieces).filter Relay.carries)).map Utf8.encode = _
      rw [TextStream.whole, Relay.filter_carries, texts_whole]
    · refine ⟨pieces, .error error :: rest, rfl, by simp, ?_⟩
      rw [Relay.filter_broken, replyResponse, texts_broken]
  aborted_iff := by
    show (items.filter Relay.carries).any isError = true ↔ _
    rw [List.any_eq_true]
    constructor
    · rintro ⟨item, hmem, herror⟩
      cases item with
      | ok text => cases herror
      | error error => exact ⟨error, (List.mem_filter.mp hmem).1⟩
    · rintro ⟨error, hmem⟩
      exact ⟨.error error, List.mem_filter.mpr ⟨hmem, rfl⟩, rfl⟩

/-- A script without texts or errors has an empty reply. -/
theorem Replies.of_blank {response : Http.Response} {blanks : List String}
    (h : Replies response (.whole blanks)) (hblank : ∀ text ∈ blanks, text = "") :
    response.frames = [] ∧ response.aborted = false := by
  constructor
  · obtain ⟨texts, rest, hitems, -, hframes⟩ := h.frames_eq
    have hkept : Text.kept texts = [] := by
      rw [Text.kept_eq_nil_iff]
      intro text hmem
      have hitem : .ok text ∈ TextStream.whole blanks := by
        rw [hitems]
        exact List.mem_append_left _ (List.mem_map_of_mem hmem)
      obtain ⟨_, hmem', heq⟩ := List.mem_map.mp hitem
      cases heq
      exact hblank text hmem'
    rw [hframes, hkept, List.map_nil]
  · rw [← Bool.not_eq_true, h.aborted_iff]
    rintro ⟨error, hmem⟩
    exact TextStream.error_not_mem_whole blanks error hmem

/-! ## Through the service -/

theorem lookup_withLength {response : Http.Response} {name value : String}
    (h : response.headers.lookup name = some value) :
    (withLength (openToAll response)).headers.lookup name = some value := by
  obtain ⟨added, hadded⟩ := headers_withLength response
  rw [hadded, List.lookup_append, h, Option.some_or]

theorem Refuses.withLength {response : Http.Response} {status : Nat} {message : String}
    (h : Refuses response status message) :
    Refuses (withLength (openToAll response)) status message := by
  obtain ⟨hstatus, hframes, haborted⟩ := sameBody_withLength response
  constructor
  · exact hstatus.trans h.status_eq
  · exact lookup_withLength h.type_eq
  · rw [Http.Response.bytes, hframes]
    exact h.bytes_eq
  · exact haborted.trans h.whole

theorem Replies.withLength {response : Http.Response} {items : TextStream}
    (h : Replies response items) : Replies (withLength (openToAll response)) items := by
  obtain ⟨hstatus, hframes, haborted⟩ := sameBody_withLength response
  constructor
  · exact hstatus.trans h.status_eq
  · exact lookup_withLength h.type_eq
  · rw [hframes]
    exact h.frames_eq
  · rw [haborted]
    exact h.aborted_iff

variable {model : Relay.Model} {persona : Persona} {body : List UInt8}

/-- The service adds nothing that an ending depends on. -/
theorem Ends.withLength {answer : Called Relay.Call Http.Response} {ending : Ending}
    (h : Ends model persona body answer ending) :
    Ends model persona body ⟨answer.calls, withLength (openToAll answer.result)⟩ ending := by
  cases ending with
  | rejected =>
    obtain ⟨hparse, hcalls, hrefuses⟩ := h
    exact ⟨hparse, hcalls, hrefuses.withLength⟩
  | failed =>
    obtain ⟨asked, error, hbody, hcalls, hearly, hrefuses⟩ := h
    exact ⟨asked, error, hbody, hcalls, hearly, hrefuses.withLength⟩
  | replied =>
    obtain ⟨asked, items, hbody, hcalls, hscript, hlate, hreplies⟩ := h
    exact ⟨asked, items, hbody, hcalls, hscript, hlate, hreplies.withLength⟩

/-! ## The main statement -/

theorem exists_ends (hlimit : body.length ≤ bodyLimit) :
    ∃ ending, Ends model persona body (chat model persona body) ending := by
  cases hparse : Relay.parse body with
  | error rejection =>
    refine ⟨.rejected, ⟨rejection, hparse⟩, ?_⟩
    rw [chat, if_neg (by omega), Relay.ofBody_eq_error hparse]
    exact ⟨rfl, refuses_refusal (.invalid rejection)⟩
  | ok entries =>
    obtain ⟨asked, hbody⟩ := Relay.exists_ofBody_eq_ok hparse
    obtain ⟨hcalls, hresult⟩ := chat_of_ofBody hlimit hbody
    by_cases hearly : ∃ error, Relay.FailsEarly (model ⟨persona.instruction, asked⟩) error
    · obtain ⟨error, hearly⟩ := hearly
      refine ⟨.failed, asked, error, hbody, hcalls, hearly, ?_⟩
      rw [hresult, Relay.settle_of_failsEarly hearly]
      exact refuses_ofProvider error
    · cases hscript : model ⟨persona.instruction, asked⟩ with
      | error error => exact absurd ⟨error, .inl hscript⟩ hearly
      | ok items =>
        rw [hscript] at hearly
        have hlate := not_exists.mp hearly
        refine ⟨.replied, asked, items, hbody, hcalls, hscript, hlate, ?_⟩
        rw [hresult, hscript, Relay.settle_of_not_failsEarly hlate]
        exact replies_replyResponse items

variable {answer : Called Relay.Call Http.Response}

theorem Ends.not_taken_in (h : Ends model persona body answer .rejected) (asked : Relay.Chat) :
    Relay.Chat.ofBody body ≠ .ok asked := by
  obtain ⟨⟨rejection, hparse⟩, -⟩ := h
  rw [Relay.ofBody_eq_error hparse]
  simp

theorem Ends.not_replied (hf : Ends model persona body answer .failed) :
    ¬ Ends model persona body answer .replied := by
  rintro ⟨asked', items, hbody', -, hscript, hlate, -⟩
  obtain ⟨asked, error, hbody, -, hearly, -⟩ := hf
  rw [hbody] at hbody'
  cases hbody'
  rw [hscript] at hearly
  exact hlate error hearly

/-- No chat comes to two endings. -/
theorem Ends.unique {a b : Ending} (ha : Ends model persona body answer a)
    (hb : Ends model persona body answer b) : a = b := by
  cases a <;> cases b
  case rejected.rejected | failed.failed | replied.replied => rfl
  case rejected.failed | rejected.replied =>
    obtain ⟨asked, _, hbody, -⟩ := hb
    exact absurd hbody (ha.not_taken_in asked)
  case failed.rejected | replied.rejected =>
    obtain ⟨asked, _, hbody, -⟩ := ha
    exact absurd hbody (hb.not_taken_in asked)
  case failed.replied => exact absurd hb ha.not_replied
  case replied.failed => exact absurd ha hb.not_replied

/-- **Every chat posted to a flow comes to one ending.** If the provider has nothing to say to
it, this is an empty reply. -/
theorem handle_ends (service : Service) {persona : Persona} (hpersona : persona ∈ Persona.all)
    {request : Http.Request} (hmethod : request.method = "POST")
    (hpath : request.path = persona.flow.endpoint) (hlimit : request.body.length ≤ bodyLimit) :
    let answer := service.handle request
    (∃ ending, Ends service.model persona request.body answer ending ∧
      ∀ other, Ends service.model persona request.body answer other → other = ending) ∧
    ∀ blanks, (∀ call, service.model call = .ok (.whole blanks)) →
      (∀ text ∈ blanks, text = "") → (∃ entries, Relay.parse request.body = .ok entries) →
      answer.result.status = 200 ∧ answer.result.frames = [] ∧ answer.result.aborted = false := by
  intro answer
  obtain ⟨ending, hchat⟩ := exists_ends hlimit
  have hends : Ends service.model persona request.body answer ending := by
    show Ends _ _ _ (service.handle request) _
    rw [handle_eq service hpersona hmethod hpath]
    exact hchat.withLength
  refine ⟨⟨ending, hends, fun other hother => hother.unique hends⟩, ?_⟩
  intro blanks hscript hblank ⟨entries, hparse⟩
  cases ending with
  | rejected =>
    obtain ⟨rejection, hrejected⟩ := hends.1
    rw [hparse] at hrejected
    cases hrejected
  | failed =>
    obtain ⟨asked, error, -, -, hearly, -⟩ := hends
    rw [hscript] at hearly
    exact absurd hearly (Relay.not_failsEarly_whole blanks error)
  | replied =>
    obtain ⟨asked, items, -, -, hitems, -, hreplies⟩ := hends
    rw [hscript] at hitems
    cases hitems
    exact ⟨hreplies.status_eq, hreplies.of_blank hblank⟩

/-- A rate limit after some text breaks a reply off, and a script of nothing but an empty text
has an empty reply. -/
theorem handle_ends_in_reply :
    let script : TextStream := [.ok "", .ok "ア", .error (.rateLimited "quota"), .ok "イ"]
    let body := Utf8.encode (ChatRequest.body ⟨[.user "a"]⟩)
    let asking := Http.post "/api/limit-detector" [] body
    let broken : Service := { model := fun _ => .ok script }
    let silent : Service := { model := fun _ => .ok [.ok ""] }
    asking.path = Persona.limitDetector.flow.endpoint ∧ asking.body.length ≤ bodyLimit ∧
      Ends broken.model .limitDetector asking.body (broken.handle asking) .replied ∧
      (silent.handle asking).result.status = 200 ∧ (silent.handle asking).result.frames = [] ∧
        (silent.handle asking).result.aborted = false := by
  intro script body asking broken silent
  have hpersona : Persona.limitDetector ∈ Persona.all := List.mem_cons_of_mem _ List.mem_cons_self
  have hpath : asking.path = Persona.limitDetector.flow.endpoint := by decide +kernel
  have hlimit : asking.body.length ≤ bodyLimit := by decide +kernel
  have hparse : Relay.parse body = .ok [Message.toIncoming (.user "a")] :=
    Relay.parse_body (by simp)
  refine ⟨hpath, hlimit, ?_, ?_⟩
  · obtain ⟨⟨ending, hends, -⟩, -⟩ := handle_ends broken hpersona rfl hpath hlimit
    cases ending with
    | rejected =>
      obtain ⟨rejection, hrejected⟩ := hends.1
      cases hparse.symm.trans hrejected
    | failed =>
      obtain ⟨_, error, -, -, hearly, -⟩ := hends
      rcases hearly with h | ⟨blanks, rest, h, hblank⟩
      · cases h
      · have hitems : script = .broken blanks error rest := Except.ok.inj h
        match blanks with
        | [] => simp [script, TextStream.broken] at hitems
        | [_] => simp [script, TextStream.broken] at hitems
        | _ :: text :: _ =>
          have htext : text = "" := hblank text (by simp)
          simp [script, TextStream.broken, htext] at hitems
    | replied => exact hends
  · exact (handle_ends silent hpersona rfl hpath hlimit).2 [""] (fun _ => rfl) (by simp)
      ⟨_, hparse⟩

end GuidedChat.Service
