import GuidedChat.Proofs.Conversation.Relayed
import GuidedChat.Proofs.Text.Lines
import GuidedChat.Proofs.Utf8.WellFormed
import GuidedChat.Terminal.Program

/-! # What a chat in the terminal sends

A session asks for the greeting, and then once for each line that is not blank. What it sends
is told by the lines and the answers alone: each request carries the greeting's reply, all that
was said before with the replies to it, and the new line (`Chatted`). A turn that fails leaves
its fallback where a reply would stand and is not repeated. A line that is no text ends the
session, and nothing before it is lost (`run_chats`).

The invariant is `Stands`: after some lines the session has sent what they come to, is idle, and
its conversation holds all exchanges. The opening brings it about, and each line keeps it. -/

namespace GuidedChat.Terminal

def finalReply (kind : TurnKind) : Http.Answer → String
  | .response received =>
    if 200 ≤ received.status ∧ received.status < 300 ∧ received.aborted = false then
      Utf8.lossy received.bytes
    else ({} : Fallbacks).text kind (if received.status = 429 then .rateLimited else .other)
  | .unreachable _ => ({} : Fallbacks).text kind .other

/-- What lines say: those that are not blank, trimmed. -/
def said (lines : List String) : List String := (lines.map Text.trim).filter (· ≠ "")

/-- The messages of a conversation in which this was said, where the network answered each
request as it does. -/
def exchanged (network : Http.Network) (past : List String) : List Message :=
  .assistant (finalReply .greeting (network 0)) ::
    past.zipIdx.flatMap fun (text, i) =>
      [.user text, .assistant (finalReply .reply (network (i + 1)))]

/-- The requests of a session in which this was said: one for the greeting and one for each
thing said, in order. -/
structure Chatted (client : RelayClient) (network : Http.Network) (greeting : String)
    (past : List String) (requests : List Http.Request) : Prop where
  count : requests.length = 1 + past.length
  greeting : requests[0]? = some (client.request [.user greeting])
  turn : ∀ k text, past[k]? = some text →
    requests[k + 1]? = some (client.request (exchanged network (past.take k) ++ [.user text]))

theorem said_cons (line : String) (lines : List String) :
    said (line :: lines) = (if Text.trim line = "" then [] else [Text.trim line]) ++ said lines := by
  by_cases h : Text.trim line = ""
  · simp [said, h]
  · simp [said, h]

theorem exchanged_concat (network : Http.Network) (past : List String) (text : String) :
    exchanged network (past ++ [text]) = exchanged network past ++
      [.user text, .assistant (finalReply .reply (network (past.length + 1)))] := by
  simp [exchanged, List.zipIdx_append]

/-! ## A turn -/

section Turn

variable {c : Conversation} {kind : TurnKind}

theorem printEvent_fst (turn : Nat) (state : Conversation × Printer) (event : TurnEvent) :
    (printEvent turn state event).1 = (state.1.apply turn event).1 := by
  unfold printEvent
  obtain ⟨c, changed⟩ := state.1.apply turn event
  dsimp only
  split <;> rfl

theorem printTurn_fst (c : Conversation) (turn : Nat) (events : List TurnEvent) :
    (printTurn c turn events).1 = c.applyAll turn events := by
  rw [printTurn, Conversation.applyAll]
  show (events.foldl (printEvent turn) (c, {})).1 = _
  generalize ({} : Printer) = printer
  induction events generalizing c printer with
  | nil => rfl
  | cons event events ih =>
    rw [List.foldl_cons, List.foldl_cons, ← printEvent_fst turn (c, printer) event]
    exact ih _ _

/-- Whatever comes back, a turn that waits for its reply ends with the final one. -/
theorem applyAll_receive (hpending : c.pending = some ⟨kind, ""⟩) (hfallbacks : c.fallbacks = {})
    (answer : Http.Answer) :
    ∃ failure, c.applyAll c.turn (TurnEvent.ofSent (RelayClient.receive answer)) =
      c.settle (finalReply kind answer) failure := by
  -- what had arrived before a failure is replaced
  have hfailed := c.applyAll_failed hpending
  rw [hfallbacks] at hfailed
  cases answer with
  | unreachable reason => exact ⟨_, hfailed [] .other⟩
  | response received =>
    by_cases hsuccess : received.isSuccess = true
    · have hstatus := received.isSuccess_iff.mp hsuccess
      cases haborted : received.aborted with
      | false =>
        obtain ⟨texts, hevents, hjoin⟩ := TurnEvent.ofSent_whole hsuccess haborted
        refine ⟨none, ?_⟩
        rw [hevents, Conversation.applyAll_finished hpending, hjoin, String.empty_append,
          finalReply, if_pos ⟨hstatus.1, hstatus.2, haborted⟩]
      | true =>
        obtain ⟨texts, hevents, -⟩ := TurnEvent.ofSent_broken hsuccess haborted
        refine ⟨some .other, ?_⟩
        rw [hevents, hfailed, finalReply, if_neg (by simp [haborted]), if_neg (by omega)]
    · rw [Bool.not_eq_true] at hsuccess
      have hkind : (TransportError.ofStatus received.status).kind =
          if received.status = 429 then .rateLimited else .other := by
        simp [TransportError.kind, TransportError.isRateLimited_ofStatus]
      have hstatus : ¬(200 ≤ received.status ∧ received.status < 300 ∧
          received.aborted = false) := by
        rintro ⟨hlow, hhigh, -⟩
        rw [received.isSuccess_iff.mpr ⟨hlow, hhigh⟩] at hsuccess
        cases hsuccess
      refine ⟨some (TransportError.ofStatus received.status).kind, ?_⟩
      rw [TurnEvent.ofSent_refused hsuccess, finalReply, if_neg hstatus, ← hkind]
      exact hfailed [] _

/-- A turn is one request, and its final reply follows the settled messages. -/
theorem Session.turn_granted (client : RelayClient) (network : Http.Network) (s : Session)
    (hpending : c.pending = some ⟨kind, ""⟩) (hfallbacks : c.fallbacks = {})
    (messages : List Message) :
    let after := s.turn client network (c, some ⟨c.turn, messages⟩)
    after.requests = s.requests ++ [client.request messages] ∧
      ∃ failure, after.conversation =
        c.settle (finalReply kind (network s.requests.length)) failure := by
  refine ⟨rfl, ?_⟩
  obtain ⟨failure, hsettled⟩ :=
    applyAll_receive hpending hfallbacks (network s.requests.length)
  refine ⟨failure, ?_⟩
  rw [← hsettled]
  exact printTurn_fst _ _ _

end Turn

/-! ## The session -/

section Sessions

variable {client : RelayClient} {network : Http.Network} {greeting : String}
  {past : List String} {s : Session}

structure Stands (client : RelayClient) (network : Http.Network) (greeting : String)
    (past : List String) (s : Session) : Prop where
  sent : Chatted client network greeting past s.requests
  idle : s.conversation.pending = none
  settled : s.conversation.settled = exchanged network past
  fallbacks : s.conversation.fallbacks = {}

theorem Chatted.concat {requests : List Http.Request}
    (h : Chatted client network greeting past requests) (text : String) :
    Chatted client network greeting (past ++ [text])
      (requests ++ [client.request (exchanged network past ++ [.user text])]) := by
  have hcount := h.count
  constructor
  · rw [List.length_append, List.length_append, hcount]
    rfl
  · rw [List.getElem?_append_left (by omega)]
    exact h.greeting
  · intro k other hother
    -- requests made before stay in place, the last one is the new one, and there is no other
    rcases Nat.lt_trichotomy k past.length with hk | rfl | hk
    · rw [List.getElem?_append_left hk] at hother
      rw [List.getElem?_append_left (by omega), List.take_append_of_le_length (by omega)]
      exact h.turn k other hother
    · rw [List.getElem?_concat_length, Option.some.injEq] at hother
      rw [List.take_left, ← hother, List.getElem?_append_right (by omega), hcount]
      simp [Nat.add_comm]
    · rw [List.getElem?_eq_none (by simp; omega)] at hother
      cases hother

theorem stands_opened (client : RelayClient) (network : Http.Network) (greeting output : String) :
    let opened : Session := { conversation := { greetingPrompt := greeting }, output }
    Stands client network greeting []
      (opened.turn client network opened.conversation.bootstrap) := by
  intro opened
  obtain ⟨asked, hasked, hpending, hempty, hfallbacks⟩ :
      ∃ asked, opened.conversation.bootstrap = (asked, some ⟨asked.turn, [.user greeting]⟩) ∧
        asked.pending = some ⟨.greeting, ""⟩ ∧ asked.settled = [] ∧ asked.fallbacks = {} :=
    ⟨_, rfl, rfl, rfl, rfl⟩
  obtain ⟨hrequests, failure, hconversation⟩ :=
    opened.turn_granted client network hpending hfallbacks [.user greeting]
  rw [hasked]
  constructor
  · rw [hrequests]
    exact ⟨rfl, rfl, fun _ _ hnone => nomatch hnone⟩
  · rw [hconversation]
    rfl
  · rw [hconversation, Conversation.settle, hempty]
    rfl
  · rw [hconversation]
    exact hfallbacks

/-- A line is one thing more said, unless it is blank. -/
theorem Stands.line (h : Stands client network greeting past s) (line : String) :
    Stands client network greeting (past ++ if Text.trim line = "" then [] else [Text.trim line])
      ((s.print "> ").turn client network ((s.print "> ").conversation.setInput line).submit) := by
  -- the prompt is printed and the line is put in; neither touches what the invariant speaks of
  generalize hc : (s.print "> ").conversation.setInput line = c
  have hidle : c.pending = none := by rw [← hc]; exact h.idle
  have hinput : c.input = line := by rw [← hc]; rfl
  have hsettled : c.settled = exchanged network past := by rw [← hc]; exact h.settled
  have hfallbacks : c.fallbacks = {} := by rw [← hc]; exact h.fallbacks
  by_cases hblank : Text.trim line = ""
  · have hrefused : c.submit = (c, none) := by
      rcases c.submit_cases with ⟨-, hrefused⟩ | ⟨-, htext, -⟩
      · exact hrefused
      · rw [hinput] at htext
        exact absurd hblank htext
    rw [hrefused, if_pos hblank, List.append_nil]
    exact ⟨h.sent, hidle, hsettled, hfallbacks⟩
  · obtain ⟨asked, hsubmit, hpending, hasked, hkept⟩ :=
      Conversation.submit_granted hidle (by rw [hinput]; exact hblank)
    rw [hinput, hsettled] at hsubmit hasked
    obtain ⟨hrequests, failure, hconversation⟩ :=
      (s.print "> ").turn_granted client network hpending (hkept.trans hfallbacks)
        (exchanged network past ++ [.user (Text.trim line)])
    rw [hsubmit, if_neg hblank]
    constructor
    · rw [hrequests]
      exact h.sent.concat _
    · rw [hconversation]
      rfl
    · have hcount : (s.print "> ").requests.length = past.length + 1 := by
        rw [Nat.add_comm]
        exact h.sent.count
      rw [hconversation, Conversation.settle, hasked, hcount, exchanged_concat, List.append_assoc]
      rfl
    · rw [hconversation]
      exact hkept.trans hfallbacks

/-- Lines that are texts are taken one after the other. -/
theorem Stands.prompt (h : Stands client network greeting past s) (lines : List String) :
    ∃ after, Stands client network greeting (past ++ said lines) after ∧
      ∀ rest, s.prompt client network (lines.map Utf8.encode ++ rest) =
        after.prompt client network rest := by
  induction lines generalizing past s with
  | nil => exact ⟨s, by simpa [said] using h, fun _ => rfl⟩
  | cons line lines ih =>
    obtain ⟨after, hafter, hprompt⟩ := ih (h.line line)
    refine ⟨after, ?_, ?_⟩
    · rw [said_cons, ← List.append_assoc]
      exact hafter
    · intro rest
      rw [List.map_cons, List.cons_append, Session.prompt, Utf8.decode?_encode]
      exact hprompt rest

end Sessions

/-- **A chat in the terminal.** Where the input is lines of text, a chat with a flow ends well,
and it has sent what the lines come to, whatever the answers were. Where a line is no text it
ends with a failure, and it has sent what the lines before that one come to. -/
theorem run_chats {persona : Persona} (hpersona : persona ∈ Persona.all) {env : Environment}
    {args : List String} {server : String}
    (hargs : Request.ofArguments env args = .run (.chat persona.slug server))
    (network : Http.Network) (input : List UInt8) (texts : List String) :
    let client := RelayClient.ofServer server persona.flow.endpoint
    let outcome := run args env network input
    (Text.Lined input (texts.map Utf8.encode) →
      outcome.exit = 0 ∧
        Chatted client network persona.flow.greeting (said texts) outcome.requests) ∧
    (∀ line rest, Text.Lined input (texts.map Utf8.encode ++ line :: rest) →
      (∀ text, line ≠ Utf8.encode text) →
      outcome.exit = 1 ∧
        Chatted client network persona.flow.greeting (said texts) outcome.requests) := by
  intro client outcome
  have houtcome : outcome = chat persona server network input := by
    show run args env network input = _
    rw [run, hargs]
    dsimp only [Command.run]
    rw [Persona.bySlug?_slug hpersona]
  obtain ⟨after, hafter, hprompt⟩ :=
    (stands_opened client network persona.flow.greeting
      ("== " ++ persona.flow.name ++ " ==\n")).prompt texts
  rw [List.nil_append] at hafter
  constructor
  · intro hlined
    have hend := hprompt []
    rw [List.append_nil, ← Text.lines_eq_iff.mpr hlined, Session.prompt] at hend
    rw [houtcome, chat, hend]
    exact ⟨rfl, hafter.sent⟩
  · intro line rest hlined hline
    have hend := hprompt (line :: rest)
    rw [← Text.lines_eq_iff.mpr hlined, Session.prompt, Utf8.decode?_eq_none_iff.mpr hline] at hend
    rw [houtcome, chat, hend]
    exact ⟨rfl, hafter.sent⟩

/-- The greeting is refused for its rate, a reply ends within a character, and one line is blank.
A byte that is no text then ends the same session with a failure. -/
theorem run_chats_after_refusal :
    let network : Http.Network := fun place =>
      .response (if place = 0 then { status := 429 }
        else { status := 200, frames := [[0x6F, 0xE3], [0x81]] })
    let client := RelayClient.ofServer "http://localhost:3000" "/api/vision-navi"
    let input : List UInt8 := [0x61, 0x0D, 0x0A, 0x20, 0x0A, 0x20, 0x62, 0x0A]
    let carried := client.request
      [.assistant ({} : Fallbacks).greetingRateLimited, .user "a", .assistant "o\uFFFD", .user "b"]
    let whole := run ["chat"] {} network input
    let cut := run ["chat"] {} network (input ++ [0xFF])
    (whole.exit = 0 ∧ whole.requests.length = 3 ∧ whole.requests[2]? = some carried) ∧
      (cut.exit = 1 ∧ cut.requests.length = 3 ∧ cut.requests[2]? = some carried) := by
  intro network client input carried whole cut
  have hargs : Request.ofArguments {} ["chat"] =
      .run (.chat Persona.visionNavi.slug "http://localhost:3000") := by decide +kernel
  have hsaid : said ["a", " ", " b"] = ["a", "b"] := by decide +kernel
  have hexchanged : exchanged network (["a", "b"].take 1) ++ [.user "b"] =
      [.assistant ({} : Fallbacks).greetingRateLimited, .user "a", .assistant "o\uFFFD",
        .user "b"] := by decide +kernel
  have hnone : ∀ text, [0xFF] ≠ Utf8.encode text :=
    Utf8.decode?_eq_none_iff.mp (by decide +kernel)
  constructor
  · obtain ⟨hexit, hsent⟩ := (run_chats List.mem_cons_self hargs network input
      ["a", " ", " b"]).1 (Text.lines_eq_iff.mp (by decide +kernel))
    rw [hsaid] at hsent
    have hlast := hsent.turn 1 "b" rfl
    rw [hexchanged] at hlast
    exact ⟨hexit, hsent.count, hlast⟩
  · obtain ⟨hexit, hsent⟩ := (run_chats List.mem_cons_self hargs network (input ++ [0xFF])
      ["a", " ", " b"]).2 [0xFF] [] (Text.lines_eq_iff.mp (by decide +kernel)) hnone
    rw [hsaid] at hsent
    have hlast := hsent.turn 1 "b" rfl
    rw [hexchanged] at hlast
    exact ⟨hexit, hsent.count, hlast⟩

end GuidedChat.Terminal
