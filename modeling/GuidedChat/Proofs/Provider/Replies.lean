import GuidedChat.Proofs.Provider.Events
import GuidedChat.Proofs.Provider.Framing
import GuidedChat.Proofs.Relay.Scripts
import GuidedChat.Provider.Client

/-! # The text of a reply is what was sent

A document that was written is one line, whatever its texts hold, so documents can be sent as the
data of a stream (`spells_compact`). Each that has answers and tells of no error adds the text of
its first answer (`eventText_of_isReply`), and a reply of such events is these texts, one for each
event and in order (`reply_framed`). -/

namespace GuidedChat.Provider

/-! ## The events that are sent -/

structure Spells (line : String) (document : Json) : Prop where
  read : Json.read? line = some document
  isLine : EventStream.IsLine line.toList

theorem spells_compact (document : Json) : Spells document.compact document where
  read := Json.read?_compact document
  isLine := by
    intro c hc
    have hplain := document.compact_plain c hc
    constructor <;> rintro rfl <;> exact absurd hplain (by decide)

/-- The document is a piece of a reply, with these answers. It may have any other members, but
none that is named for an error. -/
inductive IsReply : Json → List Candidate → Prop
  | object {members : List (Option String × Json)} {answers : List Candidate} :
      Json.Lacks "error" members → Carries (.object members) answers →
        IsReply (.object members) answers

/-- The line sends a piece of a reply with these answers. -/
def Sends (line : String) (answers : List Candidate) : Prop :=
  ∃ document, Spells line document ∧ IsReply document answers

def firstText : List Candidate → String
  | [] => ""
  | candidate :: _ => String.join (candidate.parts.map (·.text))

/-! ## What becomes of them -/

theorem IsReply.not_reports {document : Json} {answers : List Candidate}
    (h : IsReply document answers) (detail : ErrorDetail) : ¬ Reports document detail := by
  cases h with
  | object hlacks _ =>
    rintro ⟨hholds, -⟩
    cases hholds with
    | object _ hheld =>
      obtain ⟨hfound, -⟩ := List.forall₂_cons.mp hheld
      obtain ⟨before, after, rfl, -, -⟩ := hfound
      exact hlacks _ (List.mem_append_right _ List.mem_cons_self) rfl

theorem eventText_of_isReply {line : String} {document : Json} {answers : List Candidate}
    (hspells : Spells line document) (h : IsReply document answers) :
    eventText line = .ok (firstText answers) := by
  have hnone : ∀ detail, ¬ Envelope line detail := by
    rintro detail ⟨told, hread, hreports⟩
    rw [hspells.read] at hread
    cases hread
    exact h.not_reports detail hreports
  have hcarries : Carries document answers := by
    cases h
    assumption
  rw [(eventText_of_not_envelope hnone).1]
  cases answers with
  | nil => exact .nothing hspells.read hcarries
  | cons candidate others => exact .first hspells.read hcarries

section Lines

variable {lines : List String} {answers : List (List Candidate)}

theorem isLine_of_sends (h : List.Forall₂ Sends lines answers) :
    ∀ line ∈ lines, EventStream.IsLine line.toList := by
  induction h with
  | nil => exact List.forall_mem_nil _
  | cons hsends _ ih =>
    obtain ⟨document, hspells, -⟩ := hsends
    exact List.forall_mem_cons.mpr ⟨hspells.isLine, ih⟩

theorem map_eventText (h : List.Forall₂ Sends lines answers) :
    lines.map eventText = TextStream.whole (answers.map firstText) := by
  induction h with
  | nil => rfl
  | cons hsends _ ih =>
    obtain ⟨document, hspells, hreply⟩ := hsends
    rw [List.map_cons, eventText_of_isReply hspells hreply, ih]
    rfl

/-- Each line of a whole body is read as an event. -/
theorem reply_lines (h : ∀ line ∈ lines, EventStream.IsLine line.toList)
    {response : Http.Response} (haborted : response.aborted = false)
    (hbytes : response.bytes = Utf8.encode (String.join (lines.map EventStream.framed))) :
    Client.reply response = lines.map eventText := by
  rw [Client.reply, hbytes, EventStream.ofBytes_framed h, haborted]
  exact (List.append_nil _).trans (List.append_nil _)

theorem reply_framed (h : List.Forall₂ Sends lines answers) {response : Http.Response}
    (haborted : response.aborted = false)
    (hbytes : response.bytes = Utf8.encode (String.join (lines.map EventStream.framed))) :
    Client.reply response = .whole (answers.map firstText) := by
  rw [reply_lines (isLine_of_sends h) haborted hbytes, map_eventText h]

/-- **The text of a reply is what was sent.** Any document can be sent as a line. Where the
provider answers with lines that are pieces of a reply, the client makes of each the text of its
first answer, and the relay passes on those of these texts that are not empty, so nothing of the
reply is lost. -/
theorem asModel_framed (h : List.Forall₂ Sends lines answers) {response : Http.Response}
    (hstatus : response.status = 200) (haborted : response.aborted = false)
    (hbytes : response.bytes = Utf8.encode (String.join (lines.map EventStream.framed)))
    {client : Client} {persona : Persona} {chat : Relay.Chat}
    {network : Http.Request → Http.Answer}
    (hnetwork :
      network (client.request (chat.toRequest persona.instruction)) = .response response) :
    let texts := answers.map firstText
    let kept := texts.filter (· ≠ "")
    (∀ document : Json, Spells document.compact document) ∧
      client.asModel network ⟨persona.instruction, chat⟩ = .ok (texts.map .ok) ∧
      (Relay.openReply (client.asModel network) persona chat).result = .ok (kept.map .ok) ∧
      String.join kept = String.join texts := by
  intro texts kept
  have hmodel : client.asModel network ⟨persona.instruction, chat⟩ = .ok (.whole texts) := by
    have hsuccess : response.isSuccess = true := response.isSuccess_iff.mpr (by omega)
    rw [Client.asModel, hnetwork, Client.receive, if_pos hsuccess,
      reply_framed h haborted hbytes]
  refine ⟨spells_compact, hmodel, ?_, Text.join_kept texts⟩
  rw [Relay.openReply, hmodel]
  exact Relay.settle_whole texts

end Lines

/-- A piece without answers, one with two answers, the first in three parts of which one has no
text and another looks like the end of an event, and one whose answer has no content. -/
theorem asModel_framed_inner_lines :
    let part (text : String) : Json := .record [("text", .text text)]
    let content (parts : List Json) : Json := .record [("role", .text "model"),
      ("parts", .array parts)]
    let usage : Json := .record [("usage", .record [("tokens", .null)])]
    let first : Json := .record [("index", .null),
      ("content", content [part "a\n\ndata: b", .record [("thought", .bool true)], part "c"])]
    let second : Json := .record [("content", content [part "d"])]
    let last : Json := .record [("finish", .text "stop")]
    let documents : List Json := [usage, .record [("candidates", .array [first, second])],
      .record [("candidates", .array [last])]]
    let body := String.join (documents.map fun document => EventStream.framed document.compact)
    let response : Http.Response := { status := 200, frames := [Utf8.encode body] }
    let client : Client := ⟨"k", "m", "http://localhost"⟩
    let network (_ : Http.Request) : Http.Answer := .response response
    client.asModel network ⟨Persona.visionNavi.instruction, ⟨[], "q"⟩⟩ =
        .ok [.ok "", .ok "a\n\ndata: bc", .ok ""] ∧
      (Relay.openReply (client.asModel network) .visionNavi ⟨[], "q"⟩).result =
        .ok [.ok "a\n\ndata: bc"] := by
  intro part content usage first second last documents body response client network
  have husage : IsReply usage [] :=
    .object (by simp [Json.Lacks]) ((candidates?_eq_some_iff _ _).mp rfl)
  have hfirst : IsReply (.record [("candidates", .array [first, second])])
      [⟨[⟨"a\n\ndata: b"⟩, ⟨""⟩, ⟨"c"⟩]⟩, ⟨[⟨"d"⟩]⟩] :=
    .object (by simp [Json.Lacks]) ((candidates?_eq_some_iff _ _).mp rfl)
  have hlast : IsReply (.record [("candidates", .array [last])]) [⟨[]⟩] :=
    .object (by simp [Json.Lacks]) ((candidates?_eq_some_iff _ _).mp rfl)
  have hsends : List.Forall₂ Sends (documents.map Json.compact) [[],
      [⟨[⟨"a\n\ndata: b"⟩, ⟨""⟩, ⟨"c"⟩]⟩, ⟨[⟨"d"⟩]⟩], [⟨[]⟩]] :=
    .cons ⟨_, spells_compact _, husage⟩ (.cons ⟨_, spells_compact _, hfirst⟩
      (.cons ⟨_, spells_compact _, hlast⟩ .nil))
  have hstatus : response.status = 200 := rfl
  have haborted : response.aborted = false := rfl
  have hbytes : response.bytes =
      Utf8.encode (String.join ((documents.map Json.compact).map EventStream.framed)) := by
    rw [Http.Response.bytes, List.flatten_singleton, List.map_map]
    rfl
  have hnetwork : network (client.request
      (Relay.Chat.toRequest ⟨[], "q"⟩ Persona.visionNavi.instruction)) = .response response := rfl
  obtain ⟨-, hmodel, hreply, -⟩ := asModel_framed hsends hstatus haborted hbytes hnetwork
  exact ⟨hmodel, hreply⟩

end GuidedChat.Provider
