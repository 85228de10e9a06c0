import GuidedChat.Proofs.Provider.Instruction
import GuidedChat.Proofs.Provider.Replies
import GuidedChat.Proofs.Service.Discretion
import GuidedChat.Proofs.Service.Endings
import GuidedChat.Service.Launch
import GuidedChat.Terminal.Program

/-! # Asking at the terminal and asking the service

A question that is asked at the terminal is put to the provider as the service puts it when the
same is posted to the flow, and the terminal shows what the service answers: the bytes of its
reply, with a line end if this came whole, and nothing where the service refuses (`Shows`). The
terminal prints up to the first error, while the service makes frames of the texts and then looks
for an error; of every script the two make the same (`printReply_eq`, `shows_shown`). -/

namespace GuidedChat.Terminal

open Service (texts isError)

/-- What the terminal shows is what the service answers. -/
structure Shows (answer : Http.Response) (outcome : Outcome) : Prop where
  status : answer.status = 200 ∨ answer.status = 429 ∨ answer.status = 500
  whole : answer.status = 200 → answer.aborted = false →
    Utf8.encode outcome.output = answer.bytes ++ Utf8.encode "\n" ∧ outcome.exit = 0
  broken : answer.status = 200 → answer.aborted = true →
    Utf8.encode outcome.output = answer.bytes ∧ outcome.exit = 1
  refused : answer.status ≠ 200 → outcome.output = "" ∧ outcome.exit = 1

theorem printReply_eq (output : String) (items : TextStream) :
    printReply output items =
      if items.any isError then (output ++ String.join (texts items), 1)
      else (output ++ String.join (texts items) ++ "\n", 0) := by
  induction items generalizing output with
  | nil => simp [printReply, texts]
  | cons item items ih =>
    cases item with
    | error error => simp [printReply, texts, isError]
    | ok text => simp [printReply, texts, isError, ih, String.append_assoc]

/-! ## The terminal's side -/

/-- The call that puts a single question to the provider. -/
def asked (persona : Persona) (message : String) : Relay.Call :=
  ⟨persona.instruction, ⟨[], message⟩⟩

def shown (requests : List Http.Request) : Except Relay.Failure TextStream → Outcome
  | .error _ => { exit := 1, requests }
  | .ok items => { exit := (printReply "" items).2, output := (printReply "" items).1, requests }

theorem askClient_eq (client : Provider.Client) (network : Http.Network) (persona : Persona)
    (message : String) :
    askClient client network persona message =
      shown [client.sends (asked persona message)]
        (Relay.settle (Provider.Client.receive (network 0))) := by
  have hchat : Relay.Chat.ofEntries [⟨some "user", message⟩] = .ok ⟨[], message⟩ := rfl
  have hresult :
      (Relay.openReply (client.asModel fun _ => network 0) persona ⟨[], message⟩).result =
        Relay.settle (Provider.Client.receive (network 0)) := rfl
  simp only [askClient, hchat, hresult]
  cases Relay.settle (Provider.Client.receive (network 0)) <;> rfl

theorem run_ask {persona : Persona} (hpersona : persona ∈ Persona.all) {env : Environment}
    {args : List String} {message : String}
    (hargs : Request.ofArguments env args = .run (.ask persona.slug message))
    {client : Provider.Client}
    (hclient : (Provider.Config.ofEnvironment env >>= Provider.Config.client) = .ok client)
    (network : Http.Network) (input : List UInt8) :
    run args env network input =
      shown [client.sends (asked persona message)]
        (Relay.settle (Provider.Client.receive (network 0))) := by
  rw [← askClient_eq, run, hargs]
  dsimp only [Command.run]
  rw [Persona.bySlug?_slug hpersona]
  dsimp only
  rw [ask, hclient]

/-! ## The service's side -/

theorem client_of_prepare {args : List String} {env : Environment} {launch : Service.Launch}
    (h : Service.Launch.prepare args env = .ok launch) :
    (Provider.Config.ofEnvironment env >>= Provider.Config.client) = .ok launch.client := by
  unfold Service.Launch.prepare at h
  split at h
  · cases h
  · cases h
  · cases h
  · rename_i options _ _
    cases hbind : Service.Launch.bindOf env options <;> rw [hbind] at h
    · cases h
    cases hdirectory : Service.Launch.directoryOf env options <;> rw [hdirectory] at h
    · cases h
    change (Except.mapError _ (Provider.Config.ofEnvironment env >>= Provider.Config.client) >>=
      fun client => _) = .ok launch at h
    cases hclient : (Provider.Config.ofEnvironment env >>= Provider.Config.client) with
    | error cause => rw [hclient] at h; cases h
    | ok client => rw [hclient] at h; cases h; rfl

/-- What the terminal shows of a script is what the service answers to it. -/
theorem shows_shown (requests : List Http.Request) (script : Except ProviderError TextStream) :
    Shows (Service.shown (Relay.settle script)) (shown requests (Relay.settle script)) := by
  cases h : Relay.settle script with
  | error failure =>
    obtain ⟨error, rfl⟩ := Relay.exists_of_settle_eq_error h
    have hstatus : (Service.refusal (.ofProvider error)).status = 429 ∨
        (Service.refusal (.ofProvider error)).status = 500 := by
      rw [(Service.refuses_ofProvider error).status_eq]
      split
      · exact .inl rfl
      · exact .inr rfl
    have hother : (Service.refusal (.ofProvider error)).status ≠ 200 := by omega
    exact {
      status := .inr hstatus
      whole := fun hok => absurd hok hother
      broken := fun hok => absurd hok hother
      refused := fun _ => ⟨rfl, rfl⟩ }
  | ok items =>
    have hbytes : (Service.shown (.ok items)).bytes = Utf8.encode (String.join (texts items)) :=
      Service.bytes_replyResponse items
    have hprinted := printReply_eq "" items
    rw [String.empty_append] at hprinted
    constructor
    · exact .inl rfl
    · intro _ haborted
      have hwhole : items.any isError = false := haborted
      rw [hwhole] at hprinted
      rw [hbytes, ← Utf8.encode_append, shown, hprinted]
      exact ⟨rfl, rfl⟩
    · intro _ haborted
      have hbroken : items.any isError = true := haborted
      rw [hbroken] at hprinted
      rw [hbytes, shown, hprinted]
      exact ⟨rfl, rfl⟩
    · exact fun hother => absurd rfl hother

theorem Shows.of_sameBody {answer sent : Http.Response} {outcome : Outcome}
    (h : Shows answer outcome) (hsame : Service.SameBody sent answer) : Shows sent outcome := by
  obtain ⟨hstatus, hframes, haborted⟩ := hsame
  have hbytes : sent.bytes = answer.bytes := congrArg List.flatten hframes
  constructor <;> rw [hstatus]
  · exact h.status
  · rw [haborted, hbytes]
    exact h.whole
  · rw [haborted, hbytes]
    exact h.broken
  · exact h.refused

/-- **Asking at the terminal is asking the service.** Both send the provider the same request, and
whatever the provider answers to it, the terminal shows what the service answers. Every service
that is launched with the terminal's configuration has its client. -/
theorem ask_agrees {persona : Persona} {asking : Http.Request}
    (hposted : Service.PostedTo persona asking) {env : Environment} {args : List String}
    {message : String} (hargs : Request.ofArguments env args = .run (.ask persona.slug message))
    (hentries : Relay.parse asking.body = .ok [⟨some "user", message⟩])
    (hlimit : asking.body.length ≤ Service.bodyLimit) {client : Provider.Client}
    (hclient : (Provider.Config.ofEnvironment env >>= Provider.Config.client) = .ok client)
    (provider : Http.Request → Http.Answer) (input : List UInt8) (site : Option Service.Site) :
    let sent := client.sends (asked persona message)
    let outcome := run args env (fun _ => provider sent) input
    let service : Service := { model := client.asModel provider, site }
    let answer := service.handle asking
    outcome.requests = [sent] ∧ answer.calls.map client.sends = [sent] ∧
      Shows answer.result outcome ∧
      ∀ args' env' launch,
        Provider.Config.ofEnvironment env' = Provider.Config.ofEnvironment env →
        Service.Launch.prepare args' env' = .ok launch → launch.client = client := by
  intro sent outcome service answer
  have houtcome : outcome =
      shown [sent] (Relay.settle (Provider.Client.receive (provider sent))) :=
    run_ask hposted.known hargs hclient _ input
  have hbody := Relay.ofBody_single hentries
  obtain ⟨hcalls, hsame⟩ := service.handle_post hposted.known hposted.method hposted.path
  refine ⟨?_, ?_, ?_, ?_⟩
  · rw [houtcome]
    cases Relay.settle (Provider.Client.receive (provider sent)) <;> rfl
  · show (service.handle asking).calls.map client.sends = [sent]
    rw [hcalls, (Service.chat_of_ofBody hlimit hbody).1]
    rfl
  · refine Shows.of_sameBody ?_ hsame
    rw [houtcome, (Service.chat_of_ofBody hlimit hbody).2]
    exact shows_shown [sent] _
  · intro args' env' launch hconfig hlaunch
    have hlaunched := client_of_prepare hlaunch
    rw [hconfig, hclient] at hlaunched
    exact (Except.ok.inj hlaunched).symm

/-- The provider gives a text, then an error, and then another text. What came before the error
is shown. -/
theorem ask_agrees_up_to_error :
    let env : Environment := { entries := [("GOOGLE_API_KEY", Utf8.encode "key")] }
    let args := ["ask", "--flow=limit-detector", "a b"]
    let body := Utf8.encode (ChatRequest.body ⟨[.user "a b"]⟩)
    let asking := Http.post "/api/limit-detector" [] body
    let told (text : String) : Json := .record [("candidates", .array [.record [("content",
      .record [("parts", .array [.record [("text", .text text)]])])]])]
    let busy : Json := .record [("error", .record [("message", .text "busy")])]
    let documents := [told "ア", busy, told "イ"]
    let events := (documents.map Json.compact).map EventStream.framed
    let response : Http.Response := { status := 200, frames := [Utf8.encode (String.join events)] }
    let provider (_ : Http.Request) : Http.Answer := .response response
    ∃ client sent,
      let service : Service := { model := Provider.Client.asModel client provider }
      let answer := service.handle asking
      let outcome := run args env (fun _ => provider sent) []
      (Provider.Config.ofEnvironment env >>= Provider.Config.client) = .ok client ∧
        outcome.requests = [sent] ∧ answer.calls.map client.sends = [sent] ∧
        answer.result.status = 200 ∧ answer.result.aborted = true ∧
        outcome.output = "ア" ∧ outcome.exit = 1 := by
  intro env args body asking told busy documents events response provider
  let client : Provider.Client := ⟨"key", "gemini-3-flash-preview",
    "https://generativelanguage.googleapis.com/v1beta"⟩
  let service : Service := { model := client.asModel provider }
  have hclient : (Provider.Config.ofEnvironment env >>= Provider.Config.client) = .ok client := by
    have hkey : env.text? "GOOGLE_API_KEY" = some "key" := Utf8.decode?_encode _
    have hconfig : Provider.Config.ofEnvironment env = .ok { apiKey := "key" } := by
      rw [Provider.Config.ofEnvironment, hkey]
      rfl
    rw [hconfig]
    refine Eq.trans (b := Provider.Config.client { apiKey := "key" }) rfl ?_
    rw [Provider.Config.client, if_pos (by decide +kernel)]
    rfl
  have hargs : Request.ofArguments env args = .run (.ask Persona.limitDetector.slug "a b") := by
    decide +kernel
  have hposted : Service.PostedTo .limitDetector asking :=
    ⟨List.mem_cons_of_mem _ List.mem_cons_self, rfl, by decide +kernel⟩
  have hparse : Relay.parse body = .ok ([Message.user "a b"].map Message.toIncoming) :=
    Relay.parse_body (by simp)
  have hentries : Relay.parse asking.body = .ok [⟨some "user", "a b"⟩] := hparse
  have hlimit : asking.body.length ≤ Service.bodyLimit := by decide +kernel
  obtain ⟨hrequests, hsent, hshows, -⟩ :=
    ask_agrees hposted hargs hentries hlimit hclient provider [] none
  have htold (text : String) : Provider.eventText (told text).compact = .ok text := by
    simp only [Provider.eventText, Json.read?_compact, Option.bind_some]
    exact congrArg Except.ok (String.empty_append)
  have hbusy : Provider.eventText busy.compact = .error (.api 500 "busy") := by
    simp only [Provider.eventText, Json.read?_compact, Option.bind_some]
    rfl
  have hlines : ∀ line ∈ documents.map Json.compact, EventStream.IsLine line.toList :=
    List.forall_mem_map.mpr fun document _ => (Provider.spells_compact document).isLine
  have hbytes : response.bytes = Utf8.encode (String.join events) := List.append_nil _
  have hreply : Provider.Client.reply response = .broken ["ア"] (.api 500 "busy") [.ok "イ"] := by
    rw [Provider.reply_lines hlines rfl hbytes]
    simp only [documents, List.map_cons, List.map_nil, htold, hbusy]
    rfl
  have hbody : Relay.Chat.ofBody asking.body = .ok ⟨[], "a b"⟩ := Relay.ofBody_single hentries
  have hscript : service.model ⟨Persona.limitDetector.instruction, ⟨[], "a b"⟩⟩ =
      .ok (.broken ["ア"] (.api 500 "busy") [.ok "イ"]) := congrArg Except.ok hreply
  have hanswer : (Service.chat service.model .limitDetector asking.body).result =
      Service.replyResponse (.broken ["ア"] (.api 500 "busy") [.ok "イ"]) := by
    rw [(Service.chat_of_ofBody hlimit hbody).2, hscript]
    rfl
  obtain ⟨-, hstatus, hframes, haborted⟩ :=
    service.handle_post hposted.known hposted.method hposted.path
  rw [hanswer] at hstatus hframes haborted
  obtain ⟨houtput, hexit⟩ := hshows.broken hstatus haborted
  rw [Http.Response.bytes, hframes] at houtput
  have htext := congrArg Utf8.decode? (houtput.trans (Service.bytes_replyResponse _))
  rw [Utf8.decode?_encode, Utf8.decode?_encode] at htext
  exact ⟨client, _, hclient, hrequests, hsent, hstatus, haborted, Option.some.inj htext, hexit⟩

end GuidedChat.Terminal
