import GuidedChat.Message
import GuidedChat.Proofs.Json.RoundTrip
import GuidedChat.Relay.Chat

/-! # What a client posts, the relay takes in

The body of a chat request is a JSON value, and the relay finds in it the messages that went
into it, in order, each with its role and its content (`parse_body`). With at least one message
there is always a chat to answer: the last message is the one to answer, and the history is
what stands before it, from the first message of the user on (`ofBody_body`). Whatever is
posted, there is a chat to answer exactly if the body has entries (`exists_ofBody_eq_ok`). -/

namespace GuidedChat

namespace Message

/-- A message as the relay reads it. -/
def toIncoming (message : Message) : Relay.Incoming := ⟨some message.role.name, message.content⟩

/-- A message in the provider's form. -/
def toContent (message : Message) : Provider.Content :=
  .ofText (match message.role with | .user => .user | .assistant => .model) message.content

theorem toContent_toIncoming (message : Message) :
    message.toIncoming.toContent = message.toContent := by
  obtain ⟨role, content⟩ := message
  cases role <;> rfl

theorem ofJson_toJson (message : Message) :
    Relay.Incoming.ofJson message.toJson = .ok message.toIncoming := by
  rfl

end Message

theorem ChatRequest.isValue_toJson (request : ChatRequest) :
    Json.isValue Json.nestingLimit request.toJson = true := by
  simp [toJson, Json.nestingLimit, Json.record, Json.isValue, Message.toJson, Role.toJson,
    Json.text]

namespace Relay

theorem mapM_ofJson_toJson (messages : List Message) :
    (messages.map Message.toJson).mapM
        (fun entry => (Incoming.ofJson entry).mapError Rejection.badMessage) =
      .ok (messages.map Message.toIncoming) := by
  induction messages with
  | nil => rfl
  | cons message messages ih =>
    rw [List.map_cons, List.mapM_cons, ih, message.ofJson_toJson]
    rfl

/-- The entries of a request are its messages. -/
theorem parse_body {messages : List Message} (h : messages ≠ []) :
    parse (Utf8.encode (ChatRequest.body ⟨messages⟩)) =
      .ok (messages.map Message.toIncoming) := by
  have hvalue := Json.ofBytes?_compact (ChatRequest.isValue_toJson ⟨messages⟩)
  obtain ⟨message, rest, rfl⟩ := List.exists_cons_of_ne_nil h
  rw [parse, ChatRequest.body, hvalue]
  exact mapM_ofJson_toJson (message :: rest)

theorem mapM_eq_ok_iff {α β ε : Type} {f : α → Except ε β} {values : List α}
    {results : List β} :
    values.mapM f = .ok results ↔ values.map f = results.map .ok := by
  induction values generalizing results with
  | nil => cases results <;> simp [pure, Except.pure]
  | cons value values ih =>
    rw [List.mapM_cons, List.map_cons]
    cases results with
    | nil => cases f value <;> cases values.mapM f <;> simp [bind, Except.bind, pure, Except.pure]
    | cons result results =>
      rw [List.map_cons, List.cons.injEq, ← ih]
      cases f value <;> cases values.mapM f <;> simp [bind, Except.bind, pure, Except.pure]

/-- A request that is taken in has an entry. -/
theorem parse_ne_nil {body : List UInt8} {entries : List Incoming}
    (h : parse body = .ok entries) : entries ≠ [] := by
  unfold parse at h
  split at h
  · cases h
  · split at h
    · cases h
    · rename_i values hvalues _
      rintro rfl
      exact hvalues (List.map_eq_nil_iff.mp (mapM_eq_ok_iff.mp h))
    · cases h

theorem exists_ofBody_eq_ok {body : List UInt8} {entries : List Incoming}
    (h : parse body = .ok entries) : ∃ chat, Chat.ofBody body = .ok chat := by
  obtain ⟨last, hlast⟩ := Option.ne_none_iff_exists'.mp
    (mt List.getLast?_eq_none_iff.mp (parse_ne_nil h))
  rw [Chat.ofBody, h]
  show ∃ chat, Chat.ofEntries entries = .ok chat
  rw [Chat.ofEntries, hlast]
  exact ⟨_, rfl⟩

theorem ofBody_eq_error {body : List UInt8} {rejection : Rejection}
    (h : parse body = .error rejection) : Chat.ofBody body = .error rejection := by
  rw [Chat.ofBody, h]
  rfl

theorem ofBody_single {body : List UInt8} {message : String}
    (h : parse body = .ok [⟨some "user", message⟩]) : Chat.ofBody body = .ok ⟨[], message⟩ := by
  rw [Chat.ofBody, h]
  rfl

/-- The chat of a body that ends with a message is about that message. -/
theorem ofBody_body (earlier : List Message) (last : Message) :
    Chat.ofBody (Utf8.encode (ChatRequest.body ⟨earlier ++ [last]⟩)) =
      .ok {
        history := (earlier.map Message.toContent).dropWhile (·.role = .model)
        message := last.content } := by
  rw [Chat.ofBody, parse_body (by simp)]
  show Chat.ofEntries ((earlier ++ [last]).map Message.toIncoming) = _
  rw [Chat.ofEntries, List.getLast?_map, List.getLast?_concat, Option.map_some,
    ← List.map_dropLast, List.dropLast_concat, List.map_map]
  simp only [Function.comp_def, Message.toContent_toIncoming]
  rfl

end Relay

end GuidedChat
