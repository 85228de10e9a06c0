import GuidedChat.Proofs.Relay.Scripts
import GuidedChat.Proofs.Utf8.Machine
import GuidedChat.Service.Router

/-! # What the service answers to a chat

A post to the path of a flow is answered by the persona of that flow, and the headers that the
service adds leave status and body alone (`handle_post`). From there the answer follows the
script of the provider: the texts with status 200, broken off where the script has an error
after the first of them, or a refusal whose status tells rate limits from all else
(`chat_whole`, `chat_broken`, `chat_failed`). -/

namespace GuidedChat.Service

/-! ## The route of a flow -/

theorem ofPath_endpoint {persona : Persona} (h : persona ∈ Persona.all) :
    Route.ofPath persona.flow.endpoint = .chat persona := by
  simp only [Persona.all, List.mem_cons, List.not_mem_nil, or_false] at h
  rcases h with rfl | rfl <;> rfl

/-- What a header cannot change: the status, the frames of the body, and how it ends. -/
def SameBody (a b : Http.Response) : Prop :=
  a.status = b.status ∧ a.frames = b.frames ∧ a.aborted = b.aborted

theorem sameBody_withLength (response : Http.Response) :
    SameBody (withLength (openToAll response)) response := by
  unfold withLength
  split <;> exact ⟨rfl, rfl, rfl⟩

/-- The headers that the service adds come after those of the answer. -/
theorem headers_withLength (response : Http.Response) :
    ∃ added, (withLength (openToAll response)).headers = response.headers ++ added := by
  unfold withLength
  split
  · exact ⟨_, rfl⟩
  · exact ⟨_, List.append_assoc ..⟩

/-- A post to a flow is answered by its persona. -/
theorem handle_eq (service : Service) {persona : Persona} (hpersona : persona ∈ Persona.all)
    {request : Http.Request} (hmethod : request.method = "POST")
    (hpath : request.path = persona.flow.endpoint) :
    service.handle request =
      ⟨(chat service.model persona request.body).calls,
        withLength (openToAll (chat service.model persona request.body).result)⟩ := by
  have hanswer : service.respond (.chat persona) request =
      chat service.model persona request.body := by
    simp [respond, Route.takes, hmethod]
  simp only [handle, hpath, ofPath_endpoint hpersona, hmethod, hanswer]
  rfl

theorem handle_post (service : Service) {persona : Persona} (hpersona : persona ∈ Persona.all)
    {request : Http.Request} (hmethod : request.method = "POST")
    (hpath : request.path = persona.flow.endpoint) :
    (service.handle request).calls = (chat service.model persona request.body).calls ∧
      SameBody (service.handle request).result
        (chat service.model persona request.body).result := by
  rw [handle_eq service hpersona hmethod hpath]
  exact ⟨rfl, sameBody_withLength _⟩

structure PostedTo (persona : Persona) (request : Http.Request) : Prop where
  known : persona ∈ Persona.all
  method : request.method = "POST"
  path : request.path = persona.flow.endpoint

theorem PostedTo.handle_eq {persona : Persona} {request : Http.Request}
    (h : PostedTo persona request) (service : Service) :
    service.handle request =
      ⟨(chat service.model persona request.body).calls,
        withLength (openToAll (chat service.model persona request.body).result)⟩ :=
  Service.handle_eq service h.known h.method h.path

/-! ## The answer to a script -/

variable {model : Relay.Model} {persona : Persona} {body : List UInt8} {asked : Relay.Chat}

/-- A body that is taken in puts one call to the model, and the answer is what it settles to. -/
theorem chat_of_ofBody (hlimit : body.length ≤ bodyLimit)
    (hbody : Relay.Chat.ofBody body = .ok asked) :
    (chat model persona body).calls = [⟨persona.instruction, asked⟩] ∧
      (chat model persona body).result =
        match Relay.settle (model ⟨persona.instruction, asked⟩) with
        | .ok reply => replyResponse reply
        | .error failure => refusal failure := by
  rw [chat, if_neg (by omega), hbody]
  exact ⟨rfl, rfl⟩

theorem texts_whole (pieces : List String) : texts (.whole pieces) = pieces := by
  induction pieces with
  | nil => rfl
  | cons piece pieces ih => exact congrArg (piece :: ·) ih

theorem any_isError_whole (pieces : List String) :
    (TextStream.whole pieces).any isError = false := by
  simp [TextStream.whole, isError]

theorem any_isError_broken (pieces : List String) (error : ProviderError) (rest : TextStream) :
    (TextStream.broken pieces error rest).any isError = true := by
  simp [TextStream.broken, isError]

theorem bytes_replyResponse (items : TextStream) :
    (replyResponse items).bytes = Utf8.encode (String.join (texts items)) := by
  rw [Http.Response.bytes, replyResponse, ← Utf8.encode_join]

theorem chat_whole (hlimit : body.length ≤ bodyLimit)
    (hbody : Relay.Chat.ofBody body = .ok asked) {pieces : List String}
    (hscript : model ⟨persona.instruction, asked⟩ = .ok (.whole pieces)) :
    let answer := (chat model persona body).result
    answer.status = 200 ∧ answer.aborted = false ∧
      answer.bytes = Utf8.encode (String.join pieces) := by
  intro answer
  have hanswer : answer = replyResponse (.whole (Text.kept pieces)) := by
    show (chat model persona body).result = _
    rw [(chat_of_ofBody hlimit hbody).2, hscript, Relay.settle_whole]
  rw [hanswer]
  refine ⟨rfl, any_isError_whole _, ?_⟩
  rw [bytes_replyResponse, texts_whole, Text.join_kept]

theorem chat_broken (hlimit : body.length ≤ bodyLimit)
    (hbody : Relay.Chat.ofBody body = .ok asked) {pieces : List String}
    (hpieces : ∃ piece ∈ pieces, piece ≠ "") {error : ProviderError} {rest : TextStream}
    (hscript : model ⟨persona.instruction, asked⟩ = .ok (.broken pieces error rest)) :
    let answer := (chat model persona body).result
    answer.status = 200 ∧ answer.aborted = true := by
  intro answer
  have hanswer : answer =
      replyResponse (.broken (Text.kept pieces) error (rest.filter Relay.carries)) := by
    show (chat model persona body).result = _
    rw [(chat_of_ofBody hlimit hbody).2, hscript, Relay.settle_broken hpieces]
  rw [hanswer]
  exact ⟨rfl, any_isError_broken _ _ _⟩

theorem chat_failed (hlimit : body.length ≤ bodyLimit)
    (hbody : Relay.Chat.ofBody body = .ok asked) {failure : Relay.Failure}
    (hsettle : Relay.settle (model ⟨persona.instruction, asked⟩) = .error failure) :
    (chat model persona body).result = refusal failure := by
  rw [(chat_of_ofBody hlimit hbody).2, hsettle]

end GuidedChat.Service
