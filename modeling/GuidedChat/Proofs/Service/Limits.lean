import GuidedChat.Proofs.Provider.Errors
import GuidedChat.Proofs.Service.Endings
import GuidedChat.Provider.Client

/-! # Rate limits of the provider

A response with status 429 is a rate limit unless its body overrules the status: by a code of its
own that is another one, while no status in it names a limit (`Overrules`). The relay's failure
and the status that the service answers follow (`limited_unless_overruled`). A body that gives
no more than a code overrules it already (`overruled_by_code`). -/

namespace GuidedChat

namespace Provider

/-- The body is an envelope with a code other than 429 and with no status that names a limit. -/
def Overrules (body : String) : Prop :=
  ∃ detail code, Envelope body detail ∧ detail.code = some code ∧ code ≠ 429 ∧
    detail.status ≠ some "RESOURCE_EXHAUSTED"

variable {body : String}

theorem errorOfResponse_of_overrules (h : Overrules body) :
    ∃ code message, code ≠ 429 ∧ errorOfResponse 429 body = .api code message := by
  obtain ⟨detail, code, henvelope, hcode, hother, hstatus⟩ := h
  refine ⟨code, detail.message, hother, ?_⟩
  rw [errorOfResponse_of_envelope henvelope, ErrorDetail.toError, hcode, Option.getD_some, if_neg]
  exact not_or.mpr ⟨hother, hstatus⟩

theorem errorOfResponse_of_not_overrules (h : ¬ Overrules body) :
    ∃ message, errorOfResponse 429 body = .rateLimited message := by
  by_cases henvelope : ∃ detail, Envelope body detail
  · obtain ⟨detail, henvelope⟩ := henvelope
    have hlimited : detail.code.getD 429 = 429 ∨ detail.status = some "RESOURCE_EXHAUSTED" := by
      by_cases hstatus : detail.status = some "RESOURCE_EXHAUSTED"
      · exact .inr hstatus
      · cases hcode : detail.code with
        | none => exact .inl rfl
        | some code =>
          by_cases hother : code = 429
          · exact .inl hother
          · exact absurd ⟨detail, code, henvelope, hcode, hother, hstatus⟩ h
    refine ⟨detail.message, ?_⟩
    rw [errorOfResponse_of_envelope henvelope, ErrorDetail.toError, if_pos hlimited]
  · refine ⟨body, ?_⟩
    rw [errorOfResponse_of_not_envelope (not_exists.mp henvelope), if_pos rfl]

theorem Client.asModel_of_limited (client : Client) {network : Http.Request → Http.Answer}
    {response : Http.Response} (hstatus : response.status = 429)
    (hnetwork : ∀ sent, network sent = .response response) (call : Relay.Call) :
    client.asModel network call = .error (errorOfResponse 429 (errorBody response)) := by
  have hfailed : response.isSuccess = false := by
    rw [Http.Response.isSuccess, hstatus]
    rfl
  rw [asModel, hnetwork, receive, hfailed, hstatus]
  rfl

end Provider

namespace Service

theorem PostedTo.status_of_refused {persona : Persona} {request : Http.Request}
    (h : PostedTo persona request) (service : Service) {error : ProviderError}
    (hlimit : request.body.length ≤ bodyLimit) {entries : List Relay.Incoming}
    (hparse : Relay.parse request.body = .ok entries)
    (hrefused : ∀ call, service.model call = .error error) :
    (service.handle request).result.status = if error.isRateLimited then 429 else 500 := by
  obtain ⟨asked, hbody⟩ := Relay.exists_ofBody_eq_ok hparse
  have hsettle : Relay.settle (service.model ⟨persona.instruction, asked⟩) =
      .error (.ofProvider error) := by
    rw [hrefused]
    rfl
  rw [h.handle_eq, chat_failed hlimit hbody hsettle]
  exact (refuses_ofProvider error).withLength.status_eq

/-- **Status 429 of the provider.** A response with this status is a rate limit exactly if its body
does not overrule it, for the relay and in what the service answers; if it does, it is an error
of another code. -/
theorem limited_unless_overruled (body : String) :
    ((∃ message, Provider.errorOfResponse 429 body = .rateLimited message ∧
        Relay.Failure.ofProvider (Provider.errorOfResponse 429 body) =
          .rateLimited (.rateLimited message)) ↔ ¬ Provider.Overrules body) ∧
    (Provider.Overrules body →
      ∃ code message, code ≠ 429 ∧ Provider.errorOfResponse 429 body = .api code message ∧
        Relay.Failure.ofProvider (Provider.errorOfResponse 429 body) =
          .provider (.api code message)) ∧
    ∀ client network site response persona request entries, response.status = 429 →
      Provider.Client.errorBody response = body → (∀ sent, network sent = .response response) →
      PostedTo persona request → request.body.length ≤ bodyLimit →
      Relay.parse request.body = .ok entries →
        let service : Service := { model := Provider.Client.asModel client network, site }
        (¬ Provider.Overrules body → (service.handle request).result.status = 429) ∧
          (Provider.Overrules body → (service.handle request).result.status = 500) := by
  refine ⟨⟨?_, ?_⟩, ?_, ?_⟩
  · rintro ⟨message, hlimited, -⟩ h
    obtain ⟨code, told, -, herror⟩ := Provider.errorOfResponse_of_overrules h
    rw [herror] at hlimited
    cases hlimited
  · intro h
    obtain ⟨message, herror⟩ := Provider.errorOfResponse_of_not_overrules h
    refine ⟨message, herror, ?_⟩
    rw [herror]
    rfl
  · intro h
    obtain ⟨code, message, hother, herror⟩ := Provider.errorOfResponse_of_overrules h
    refine ⟨code, message, hother, herror, ?_⟩
    rw [herror]
    rfl
  · intro client network site response persona request entries hstatus hbody hnetwork hposted
      hlimit hparse service
    have hanswer := hposted.status_of_refused service hlimit hparse
      (client.asModel_of_limited hstatus hnetwork)
    rw [hbody] at hanswer
    constructor
    · intro h
      obtain ⟨message, herror⟩ := Provider.errorOfResponse_of_not_overrules h
      rw [hanswer, herror]
      rfl
    · intro h
      obtain ⟨code, message, -, herror⟩ := Provider.errorOfResponse_of_overrules h
      rw [hanswer, herror]
      rfl

/-- The code of a body stands for the status, and the service answers as to any other error. -/
theorem overruled_by_code :
    let body := "\x7b\"error\":\x7b\"code\":500,\"message\":\"quota\"\x7d\x7d"
    Provider.errorOfResponse 429 body = .api 500 "quota" ∧
      (refusal (.ofProvider (Provider.errorOfResponse 429 body))).status = 500 := by
  intro body
  have herror : Provider.errorOfResponse 429 body = .api 500 "quota" := by decide +kernel
  refine ⟨herror, ?_⟩
  rw [herror]
  rfl

/-- A body whose status names a limit, and one that gives a code alone. -/
theorem limited_unless_overruled_bodies :
    let named := "\x7b\"error\":\x7b\"code\":503,\"status\":\"RESOURCE_EXHAUSTED\"\x7d\x7d"
    let coded := "\x7b\"error\":\x7b\"code\":503\x7d\x7d"
    let asking := Http.post "/api/vision-navi" [] (Utf8.encode (ChatRequest.body ⟨[.user "a"]⟩))
    let client : Provider.Client := ⟨"key", "model", "https://host"⟩
    let answering (body : String) : Service := {
      model := client.asModel fun _ => .response { status := 429, frames := [Utf8.encode body] } }
    ¬ Provider.Overrules named ∧ Provider.Overrules coded ∧
      ((answering named).handle asking).result.status = 429 ∧
      ((answering coded).handle asking).result.status = 500 := by
  intro named coded asking client answering
  have hposted : PostedTo .visionNavi asking := ⟨List.mem_cons_self, rfl, by decide +kernel⟩
  have hlimit : asking.body.length ≤ bodyLimit := by decide +kernel
  have hparse : Relay.parse asking.body = .ok ([Message.user "a"].map Message.toIncoming) := by
    dsimp only [asking, Http.post]
    exact Relay.parse_body (by simp)
  have hbody : ∀ body, Provider.Client.errorBody { status := 429, frames := [Utf8.encode body] } =
      body := by
    intro body
    simp [Provider.Client.errorBody, Http.Response.bytes, Utf8.lossy_encode]
  have hnamed : ¬ Provider.Overrules named := by
    rintro ⟨detail, code, henvelope, -, -, hstatus⟩
    have hdetail : Provider.Envelope named ⟨some 503, "", some "RESOURCE_EXHAUSTED"⟩ :=
      Provider.bind_ofDocument?_eq_some_iff.mp (by decide +kernel)
    rw [henvelope.unique hdetail] at hstatus
    exact hstatus rfl
  have hcoded : Provider.Overrules coded := by
    have hdetail : Provider.Envelope coded ⟨some 503, "", none⟩ :=
      Provider.bind_ofDocument?_eq_some_iff.mp (by decide +kernel)
    exact ⟨_, 503, hdetail, rfl, by decide, by decide⟩
  have hanswers := fun body => (limited_unless_overruled body).2.2 client _ none
    { status := 429, frames := [Utf8.encode body] } .visionNavi asking _ rfl (hbody body)
    (fun _ => rfl) hposted hlimit hparse
  exact ⟨hnamed, hcoded, (hanswers named).1 hnamed, (hanswers coded).2 hcoded⟩

end Service

end GuidedChat
