import GuidedChat.Proofs.Conversation.Completed
import GuidedChat.Proofs.Relay.Posted
import GuidedChat.Proofs.Service.Chat

/-! # A turn from end to end

A conversation submits its input, a client posts it to the route of a flow, the service puts
it to the provider, and what the provider gives finds its way back over a network that may cut
bodies anew (`Reaches`). However the provider behaves, the conversation is idle afterwards and
has one reply more: all the text the provider gave, or the fallback for the way in which the
turn failed, of which only a rate limit before the first text is told apart
(`answered_converse`). What the provider gave is followed in two steps, to the events of the
turn (`ofSent_relayed`) and from there into the conversation (`applyAll_finished`,
`applyAll_failed`). -/

namespace GuidedChat

/-- What a conversation would tell apart if it saw the provider's error itself. -/
def ProviderError.kind (error : ProviderError) : FailureKind :=
  if error.isRateLimited then .rateLimited else .other

/-- A network over which a service can be reached. -/
def Reaches (network : Http.Request → Http.Answer) (service : Service) : Prop :=
  ∀ request, ∃ received, network request = .response received ∧
    Delivers (service.handle request).result received

theorem RelayClient.body_request (client : RelayClient) (messages : List Message) :
    (client.request messages).body = Utf8.encode (ChatRequest.body ⟨messages⟩) := by
  rw [request, Http.post]

/-! ## From the provider to the events of the turn -/

theorem Service.refusal_kind (error : ProviderError) :
    (refusal (.ofProvider error)).isSuccess = false ∧
      (TransportError.ofStatus (refusal (.ofProvider error)).status).kind = error.kind := by
  unfold Relay.Failure.ofProvider ProviderError.kind
  by_cases h : error.isRateLimited = true
  · rw [if_pos h, if_pos h]
    exact ⟨rfl, rfl⟩
  · rw [if_neg h, if_neg h]
    exact ⟨rfl, rfl⟩

theorem Delivers.of_sameBody {sent answer received : Http.Response}
    (h : Delivers sent received) (hsame : Service.SameBody sent answer) :
    Delivers answer received := by
  obtain ⟨hstatus, hframes, haborted⟩ := hsame
  refine ⟨h.status.trans hstatus, h.aborted.trans haborted, ?_⟩
  intro hwhole
  rw [h.bytes (haborted.trans hwhole), Http.Response.bytes, Http.Response.bytes, hframes]

theorem isSuccess_of_ok {response : Http.Response} (h : response.status = 200) :
    response.isSuccess = true :=
  response.isSuccess_iff.mpr (by omega)

section Relayed

variable {service : Service} {script : Except ProviderError TextStream} {persona : Persona}
  {client : RelayClient} {network : Http.Request → Http.Answer}

/-- What the events of a turn tell of the script behind it. -/
theorem ofSent_relayed (hscript : ∀ call, service.model call = script)
    (hpersona : persona ∈ Persona.all)
    (hurl : (Http.Target.ofString client.url).path = persona.flow.endpoint)
    (hnetwork : Reaches network service) (earlier : List Message) (last : Message)
    (hlimit : (client.request (earlier ++ [last])).body.length ≤ Service.bodyLimit) :
    let events := TurnEvent.ofSent (client.transport network (earlier ++ [last]))
    (∀ texts, script = .ok (.whole texts) →
      ∃ pieces : List String, events = pieces.map .chunk ++ [.finished] ∧
        String.join pieces = String.join texts) ∧
    (∀ texts error rest, script = .ok (.broken texts error rest) →
      (∃ text ∈ texts, text ≠ "") →
        ∃ pieces : List String, events = pieces.map .chunk ++ [.failed .other]) ∧
    (∀ error, Relay.settle script = .error (.ofProvider error) →
      events = [.failed error.kind]) := by
  intro events
  have hmethod : (client.request (earlier ++ [last])).method = "POST" := rfl
  have hbody := Relay.ofBody_body earlier last
  rw [← client.body_request] at hbody
  obtain ⟨received, hreceived, hdelivers⟩ := hnetwork (client.request (earlier ++ [last]))
  obtain ⟨-, hsame⟩ := service.handle_post hpersona hmethod hurl
  have hanswer := hdelivers.of_sameBody hsame
  have hevents : events = TurnEvent.ofSent (RelayClient.receive (.response received)) := by
    show TurnEvent.ofSent (RelayClient.receive (network _)) = _
    rw [hreceived]
  rw [hevents]
  refine ⟨?_, ?_, ?_⟩
  · intro texts htexts
    obtain ⟨hstatus, haborted, hbytes⟩ :=
      Service.chat_whole hlimit hbody ((hscript _).trans htexts)
    obtain ⟨pieces, hpieces, hjoin⟩ := TurnEvent.ofSent_whole
      (isSuccess_of_ok (hanswer.status.trans hstatus)) (hanswer.aborted.trans haborted)
    refine ⟨pieces, hpieces, ?_⟩
    rw [hjoin, hanswer.bytes haborted, hbytes, Utf8.lossy_encode]
  · intro texts error rest htexts hsome
    obtain ⟨hstatus, haborted⟩ :=
      Service.chat_broken hlimit hbody hsome ((hscript _).trans htexts)
    obtain ⟨pieces, hpieces, -⟩ := TurnEvent.ofSent_broken
      (isSuccess_of_ok (hanswer.status.trans hstatus)) (hanswer.aborted.trans haborted)
    exact ⟨pieces, hpieces⟩
  · intro error hsettle
    rw [← hscript ⟨persona.instruction, _⟩] at hsettle
    have hrefusal := Service.chat_failed hlimit hbody hsettle
    obtain ⟨hrefused, hkind⟩ := Service.refusal_kind error
    have hstatus : received.status = (Service.refusal (.ofProvider error)).status := by
      rw [hanswer.status, hrefusal]
    rw [TurnEvent.ofSent_refused, hstatus, hkind]
    rw [Http.Response.isSuccess, hstatus]
    exact hrefused

end Relayed

namespace Conversation

/-! ## The whole turn -/

theorem script_cases (script : Except ProviderError TextStream) :
    (∃ texts, script = .ok (.whole texts)) ∨
      (∃ texts error rest, script = .ok (.broken texts error rest) ∧
        ∃ text ∈ texts, text ≠ "") ∨
      ∃ error, Relay.settle script = .error (.ofProvider error) := by
  cases script with
  | error error => exact .inr (.inr ⟨error, rfl⟩)
  | ok items =>
    rcases items.shape with ⟨texts, rfl⟩ | ⟨texts, error, rest, rfl⟩
    · exact .inl ⟨texts, rfl⟩
    · by_cases h : ∃ text ∈ texts, text ≠ ""
      · exact .inr (.inl ⟨texts, error, rest, rfl, h⟩)
      · have hblank : ∀ text ∈ texts, text = "" := by
          intro text hmem
          by_cases htext : text = ""
          · exact htext
          · exact absurd ⟨text, hmem, htext⟩ h
        exact .inr (.inr ⟨error, Relay.settle_blank hblank error rest⟩)

def fail (c : Conversation) (kind : FailureKind) : Conversation :=
  c.settle (c.fallbacks.text .reply kind) (some kind)

structure Settles (asked : Conversation) (script : Except ProviderError TextStream)
    (answered : Conversation) : Prop where
  whole : ∀ texts, script = .ok (.whole texts) →
    answered = asked.settle (String.join texts) none
  broken : ∀ texts error rest, script = .ok (.broken texts error rest) →
    (∃ text ∈ texts, text ≠ "") → answered = asked.fail .other
  failed : ∀ error, Relay.settle script = .error (.ofProvider error) →
    answered = asked.fail error.kind

theorem settles_converse {service : Service} {script : Except ProviderError TextStream}
    (hscript : ∀ call, service.model call = script) {persona : Persona}
    (hpersona : persona ∈ Persona.all) {client : RelayClient}
    (hurl : (Http.Target.ofString client.url).path = persona.flow.endpoint)
    {network : Http.Request → Http.Answer} (hnetwork : Reaches network service)
    {asked : Conversation} (hasked : asked.pending = some ⟨.reply, ""⟩) (earlier : List Message)
    (last : Message)
    (hlimit : (client.request (earlier ++ [last])).body.length ≤ Service.bodyLimit) :
    asked.Settles script
      (asked.converse (client.transport network) ⟨asked.turn, earlier ++ [last]⟩).result := by
  obtain ⟨hwhole, hbroken, hfailed⟩ :=
    ofSent_relayed hscript hpersona hurl hnetwork earlier last hlimit
  constructor
  · intro texts htexts
    obtain ⟨pieces, hevents, hjoin⟩ := hwhole texts htexts
    rw [converse, takeTurn, hevents, applyAll_finished hasked, hjoin, String.empty_append]
  · intro texts error rest htexts hsome
    obtain ⟨pieces, hevents⟩ := hbroken texts error rest htexts hsome
    rw [converse, takeTurn, hevents, applyAll_failed hasked]
    rfl
  · intro error hsettle
    rw [converse, takeTurn, hfailed error hsettle]
    exact applyAll_failed hasked [] error.kind

/-- How the conversation `answered` stands after a turn of `c`, which ended with `reply`, where
the provider gave this script. -/
structure Answered (c : Conversation) (script : Except ProviderError TextStream)
    (answered : Conversation) (reply : String) : Prop where
  idle : answered.phase = .idle
  messages : answered.messages = c.messages ++ [.user (Text.trim c.input), .assistant reply]
  whole : ∀ texts, script = .ok (.whole texts) →
    reply = String.join texts ∧ answered.lastFailure = none
  refused : ∀ error, script = .error error → answered.lastFailure = some error.kind
  blank : ∀ texts error rest, script = .ok (.broken texts error rest) →
    (∀ text ∈ texts, text = "") → answered.lastFailure = some error.kind
  broken : ∀ texts error rest, script = .ok (.broken texts error rest) →
    (∃ text ∈ texts, text ≠ "") → answered.lastFailure = some .other
  fallback : ∀ kind, answered.lastFailure = some kind → reply = c.fallbacks.text .reply kind

theorem reply_eq_of_settle {c : Conversation} {text text' : String}
    {failure failure' : Option FailureKind} (h : c.settle text failure = c.settle text' failure') :
    text = text' := by
  have hsettled := congrArg Conversation.settled h
  simp only [settle, List.append_cancel_left_eq, List.cons.injEq, and_true] at hsettled
  exact congrArg Message.content hsettled

theorem Settles.reply {asked answered : Conversation}
    {script : Except ProviderError TextStream} (h : asked.Settles script answered) :
    ∃ reply failure, answered = asked.settle reply failure ∧
      ∀ kind, failure = some kind → reply = asked.fallbacks.text .reply kind := by
  rcases script_cases script with ⟨texts, hscript⟩ | ⟨texts, error, rest, hscript, hsome⟩ |
    ⟨error, hscript⟩
  · exact ⟨_, none, h.whole texts hscript, fun _ hnone => nomatch hnone⟩
  · exact ⟨_, some .other, h.broken texts error rest hscript hsome, fun _ hkind => by cases hkind; rfl⟩
  · exact ⟨_, some error.kind, h.failed error hscript, fun _ hkind => by cases hkind; rfl⟩

/-- Submitting puts the input after what is settled and waits for a reply to it. -/
theorem submit_granted {c : Conversation} (hidle : c.pending = none)
    (htext : Text.trim c.input ≠ "") :
    ∃ asked, c.submit = (asked, some ⟨asked.turn, c.settled ++ [.user (Text.trim c.input)]⟩) ∧
      asked.pending = some ⟨.reply, ""⟩ ∧
      asked.settled = c.settled ++ [.user (Text.trim c.input)] ∧
      asked.fallbacks = c.fallbacks := by
  rcases c.submit_cases with ⟨hcannot, -⟩ | ⟨-, -, hsubmit⟩
  · rw [c.canSubmit_iff.mpr ⟨hidle, htext⟩] at hcannot
    cases hcannot
  · exact ⟨_, hsubmit, rfl, rfl, rfl⟩

theorem answered_of_settles {c asked answered : Conversation}
    {script : Except ProviderError TextStream} (hidle : c.pending = none)
    (hsettled : asked.settled = c.settled ++ [.user (Text.trim c.input)])
    (hfallbacks : asked.fallbacks = c.fallbacks) (h : asked.Settles script answered) :
    ∃ reply, c.Answered script answered reply := by
  obtain ⟨reply, failure, hanswered, hfallback⟩ := h.reply
  refine ⟨reply, ?_⟩
  constructor
  · rw [hanswered]
    rfl
  · rw [hanswered, messages, messages, hidle]
    simp [settle, hsettled]
  · intro texts hscript
    have hwhole := h.whole texts hscript
    exact ⟨reply_eq_of_settle (hanswered.symm.trans hwhole), by rw [hwhole]; rfl⟩
  · intro error hscript
    rw [h.failed error (by rw [hscript]; rfl)]
    rfl
  · intro texts error rest hscript hblank
    rw [h.failed error (by rw [hscript, Relay.settle_blank hblank])]
    rfl
  · intro texts error rest hscript hsome
    rw [h.broken texts error rest hscript hsome]
    rfl
  · intro kind hkind
    rw [hanswered] at hkind
    rw [← hfallbacks]
    exact hfallback kind hkind

/-- **A turn from end to end.** An idle conversation with something to say gets its request
granted, and when a client has taken it to the service and back, it stands as the script of
the provider says. -/
theorem answered_converse (c : Conversation) (hidle : c.phase = .idle)
    (htext : Text.trim c.input ≠ "") {service : Service}
    {script : Except ProviderError TextStream} (hscript : ∀ call, service.model call = script)
    {persona : Persona} (hpersona : persona ∈ Persona.all) {client : RelayClient}
    (hurl : (Http.Target.ofString client.url).path = persona.flow.endpoint)
    {network : Http.Request → Http.Answer} (hnetwork : Reaches network service) :
    ∃ request, c.submit.2 = some request ∧
      ((client.request request.messages).body.length ≤ Service.bodyLimit →
        ∃ reply, c.Answered script
          (c.submit.1.converse (client.transport network) request).result reply) := by
  have hpending : c.pending = none := by
    rw [phase_eq_idle_iff] at hidle
    simpa [isBusy] using hidle
  obtain ⟨asked, hsubmit, hasked, hsettled, hfallbacks⟩ := submit_granted hpending htext
  rw [hsubmit]
  refine ⟨_, rfl, ?_⟩
  intro hlimit
  have hsettles :=
    settles_converse hscript hpersona hurl hnetwork hasked c.settled _ hlimit
  exact answered_of_settles hpending hsettled hfallbacks hsettles

/-- Over a network that delivers byte by byte, a reply of two letters, each written in three
bytes, comes back as it was. -/
theorem answered_converse_byte_by_byte :
    let c : Conversation := { input := " a ", greetingPrompt := "p" }
    let service : Service := { model := fun _ => .ok [.ok "あ", .ok "", .ok "い"] }
    let client : RelayClient := ⟨"http://localhost/api/vision-navi"⟩
    let network (request : Http.Request) : Http.Answer :=
      let sent := (service.handle request).result
      .response { sent with frames := sent.bytes.map ([·]) }
    c.submit.2 = some ⟨1, [.user "a"]⟩ ∧
      (c.submit.1.converse (client.transport network) ⟨1, [.user "a"]⟩).result.messages =
        [.user "a", .assistant "あい"] := by
  intro c service client network
  have hidle : c.phase = .idle := by decide
  have htext : Text.trim c.input ≠ "" := by decide +kernel
  have hurl : (Http.Target.ofString client.url).path = Persona.visionNavi.flow.endpoint := by
    decide +kernel
  have hservice : ∀ call, service.model call = .ok [.ok "あ", .ok "", .ok "い"] := fun _ => rfl
  have hnetwork : Reaches network service := by
    intro request
    refine ⟨_, rfl, rfl, rfl, fun _ => ?_⟩
    exact (List.flatMap_def ..).symm.trans (List.flatMap_singleton' _)
  have hsubmit : c.submit.2 = some ⟨1, [.user "a"]⟩ := by decide +kernel
  have hlimit : (client.request [.user "a"]).body.length ≤ Service.bodyLimit := by
    decide +kernel
  obtain ⟨request, hrequest, hanswered⟩ :=
    answered_converse c hidle htext hservice
      (List.mem_cons_self : Persona.visionNavi ∈ Persona.all) hurl hnetwork
  rw [hsubmit] at hrequest
  cases hrequest
  obtain ⟨reply, hreply⟩ := hanswered hlimit
  refine ⟨hsubmit, ?_⟩
  rw [hreply.messages, (hreply.whole ["あ", "", "い"] rfl).1]
  decide +kernel

end Conversation

end GuidedChat
