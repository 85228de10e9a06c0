import GuidedChat.Proofs.Relay.Posted
import GuidedChat.Proofs.Service.Chat

/-! # What failed is never told

Two scripts are alike if they differ at most in what their errors tell: in any text, status or
cause, as long as an error that comes before the first text is a rate limit in both or in
neither (`TextStream.Alike`). Whatever the provider makes of each call, services whose scripts
are alike give the same response to every request (`handle_discreet`): what the relay passes on
is alike again (`Alike.filter`), and of alike replies the same is shown
(`Alike.replyResponse_eq`). A body that is turned down is answered in the same way whatever is
wrong with it. -/

namespace GuidedChat

/-- The rest of two scripts, where `spoken` tells whether a text has come before it. -/
inductive TextStream.Alike : Bool → TextStream → TextStream → Prop
  | nil (spoken : Bool) : Alike spoken [] []
  | text {spoken : Bool} {text : String} {rest rest' : TextStream} :
      Alike (spoken || decide (text ≠ "")) rest rest' →
      Alike spoken (.ok text :: rest) (.ok text :: rest')
  | error {spoken : Bool} {error error' : ProviderError} {rest rest' : TextStream} :
      (spoken = false → error.isRateLimited = error'.isRateLimited) → Alike spoken rest rest' →
      Alike spoken (.error error :: rest) (.error error' :: rest')

namespace Relay

/-- Two scripts that differ at most in what their errors tell. -/
inductive Alike : Except ProviderError TextStream → Except ProviderError TextStream → Prop
  | refused {error error' : ProviderError} :
      error.isRateLimited = error'.isRateLimited → Alike (.error error) (.error error')
  | given {items items' : TextStream} : items.Alike false items' → Alike (.ok items) (.ok items')

end Relay

namespace TextStream.Alike

variable {spoken : Bool} {items items' : TextStream}

theorem filter (h : items.Alike spoken items') :
    Alike spoken (items.filter Relay.carries) (items'.filter Relay.carries) := by
  induction h with
  | nil spoken => exact .nil spoken
  | @text spoken text rest rest' _ ih =>
    by_cases htext : text = ""
    · simpa [Relay.carries, htext] using ih
    · have hcarries : Relay.carries (.ok text) = true := by simp [Relay.carries, htext]
      rw [List.filter_cons_of_pos hcarries, List.filter_cons_of_pos hcarries]
      exact .text ih
  | error herror _ ih => exact .error herror ih

theorem texts_eq (h : items.Alike spoken items') : Service.texts items = Service.texts items' := by
  induction h with
  | nil => rfl
  | text _ ih => exact congrArg (_ :: ·) ih
  | error => rfl

theorem any_isError_eq (h : items.Alike spoken items') :
    items.any Service.isError = items'.any Service.isError := by
  induction h with
  | nil => rfl
  | text _ ih => exact ih
  | error => rfl

/-- Of a reply only its texts are shown, and that it breaks off. -/
theorem replyResponse_eq (h : items.Alike spoken items') :
    Service.replyResponse items = Service.replyResponse items' := by
  rw [Service.replyResponse, Service.replyResponse, h.texts_eq, h.any_isError_eq]

end TextStream.Alike

namespace Service

/-- Of an error no more is shown than whether it is a rate limit. -/
theorem refusal_ofProvider_eq {error error' : ProviderError}
    (h : error.isRateLimited = error'.isRateLimited) :
    refusal (.ofProvider error) = refusal (.ofProvider error') := by
  unfold Relay.Failure.ofProvider
  rw [h]
  split <;> rfl

def shown : Except Relay.Failure TextStream → Http.Response
  | .ok reply => replyResponse reply
  | .error failure => refusal failure

theorem shown_settle_eq {script script' : Except ProviderError TextStream}
    (h : Relay.Alike script script') :
    shown (Relay.settle script) = shown (Relay.settle script') := by
  cases h with
  | refused herror => exact refusal_ofProvider_eq herror
  | given hitems =>
    have hkept := hitems.filter
    simp only [Relay.settle]
    generalize List.filter Relay.carries _ = kept at hkept
    generalize List.filter Relay.carries _ = kept' at hkept
    cases hkept with
    | nil => rfl
    | text hrest => exact (TextStream.Alike.text hrest).replyResponse_eq
    | error herror => exact refusal_ofProvider_eq (herror rfl)

theorem chat_discreet {model model' : Relay.Model}
    (h : ∀ call, Relay.Alike (model call) (model' call)) (persona : Persona)
    (body : List UInt8) : (chat model persona body).result = (chat model' persona body).result := by
  unfold chat
  split
  · rfl
  · split
    · rfl
    · exact shown_settle_eq (h _)

/-- Whatever is wrong with a body, it is turned down in the same way. -/
theorem chat_rejected {model : Relay.Model} {persona : Persona} {body : List UInt8}
    {rejection : Relay.Rejection} (hlimit : body.length ≤ bodyLimit)
    (h : Relay.parse body = .error rejection) :
    (chat model persona body).result = refusal (.invalid .notJson) := by
  rw [chat, if_neg (by omega), Relay.ofBody_eq_error h]
  rfl

theorem exists_rejection {body : List UInt8} (h : (Relay.parse body).isOk = false) :
    ∃ rejection, Relay.parse body = .error rejection := by
  cases hparse : Relay.parse body with
  | error rejection => exact ⟨rejection, rfl⟩
  | ok entries =>
    rw [hparse] at h
    cases h

/-- **What failed is never told.** Whichever flow is posted to, alike scripts have one response,
and so have all bodies that are turned down. -/
theorem handle_discreet (service service' : Service) :
    ((∀ call, Relay.Alike (service.model call) (service'.model call)) →
      ∀ persona request, PostedTo persona request →
        (service.handle request).result = (service'.handle request).result) ∧
    ∀ persona persona' request request', PostedTo persona request → PostedTo persona' request' →
      request.body.length ≤ bodyLimit → request'.body.length ≤ bodyLimit →
      (∃ rejection, Relay.parse request.body = .error rejection) →
      (∃ rejection, Relay.parse request'.body = .error rejection) →
        (service.handle request).result = (service'.handle request').result := by
  constructor
  · intro halike persona request hposted
    rw [hposted.handle_eq, hposted.handle_eq, chat_discreet halike]
  · rintro persona persona' request request' hposted hposted' hlimit hlimit' ⟨_, h⟩ ⟨_, h'⟩
    rw [hposted.handle_eq, hposted'.handle_eq, chat_rejected hlimit h, chat_rejected hlimit' h']

/-- Before the first text one provider is out of order and the other speaks no JSON, and after it
one is rate limited and the other breaks off; of two bodies one is no JSON and the other has
no messages. -/
theorem handle_discreet_secrets :
    let early : TextStream := [.ok "", .error (.api 503 "key AIza")]
    let early' : TextStream := [.ok "", .error (.decode "at line 1")]
    let late : TextStream := [.ok "ア", .error (.rateLimited "quota of project 7"), .ok "イ"]
    let late' : TextStream := [.ok "ア", .error (.stream "reset by 10.0.0.1"), .ok "イ"]
    let asking := Http.post "/api/vision-navi" [] (Utf8.encode (ChatRequest.body ⟨[.user "a"]⟩))
    let garbled := Http.post "/api/vision-navi" [] [0xFF]
    let empty := Http.post "/api/limit-detector" [] (Utf8.encode "[]")
    (Service.handle { model := fun _ => .ok early } asking).result =
        (Service.handle { model := fun _ => .ok early' } asking).result ∧
      (Service.handle { model := fun _ => .ok late } asking).result =
        (Service.handle { model := fun _ => .ok late' } asking).result ∧
      (Service.handle { model := fun _ => .ok early } garbled).result =
        (Service.handle { model := fun _ => .ok late } empty).result := by
  intro early early' late late' asking garbled empty
  have hearly : Relay.Alike (.ok early) (.ok early') :=
    .given (.text (.error (fun _ => rfl) (.nil _)))
  have hlate : Relay.Alike (.ok late) (.ok late') :=
    .given (.text (.error (fun h => nomatch h) (.text (.nil _))))
  have hposted : PostedTo .visionNavi asking :=
    ⟨List.mem_cons_self, rfl, by decide +kernel⟩
  refine ⟨(handle_discreet _ _).1 (fun _ => hearly) _ _ hposted,
    (handle_discreet _ _).1 (fun _ => hlate) _ _ hposted,
    (handle_discreet _ _).2 .visionNavi .limitDetector _ _
      ⟨List.mem_cons_self, rfl, by decide +kernel⟩
      ⟨List.mem_cons_of_mem _ List.mem_cons_self, rfl, by decide +kernel⟩
      (by decide +kernel) (by decide +kernel) ?_ ?_⟩
  · exact exists_rejection (by decide +kernel)
  · exact exists_rejection (by decide +kernel)

end Service

end GuidedChat
