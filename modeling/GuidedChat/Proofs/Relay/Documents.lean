import GuidedChat.Json.Bytes
import GuidedChat.Proofs.Relay.Posted
import GuidedChat.Provider.Content

/-! # Documents are read back

Each kind of document that a client, its relay and the provider exchange is a record with fixed
fields, and reading it undoes writing it: for the tree of a value field by field
(`ofJson?_toJson`), and for its bytes as written text needs no marks (`readBytes?_compact`).
The relay reads the messages of a client as entries of its own; it finds one for each message,
with the same content and the name of the role (`documents_read_back`). -/

namespace GuidedChat

namespace Json

/-- The bytes of a tree are read as the tree. -/
theorem readBytes?_compact (value : Json) :
    readBytes? (Utf8.encode value.compact) = some value := by
  rw [readBytes?, Utf8.marked_encode, read?_compact]

theorem all?_array {α : Type} {read : Json → Option α} {write : α → Json}
    (h : ∀ value, read (write value) = some value) (values : List α) :
    all? read (array (values.map write)) = some values := by
  show (values.map write).mapM read = some values
  induction values with
  | nil => rfl
  | cons value values ih =>
    rw [List.map_cons, List.mapM_cons, h, ih]
    rfl

end Json

/-! ## Fields -/

theorem Role.ofJson?_toJson (role : Role) : ofJson? role.toJson = some role := by
  cases role <;> rfl

theorem Message.ofJson?_toJson (message : Message) : ofJson? message.toJson = some message := by
  -- a record that was written has its fields, so only what they hold remains to be read
  show (Role.ofJson? message.role.toJson).bind (fun role => some ⟨role, message.content⟩) =
    some message
  rw [Role.ofJson?_toJson]
  rfl

theorem ChatRequest.ofJson?_toJson (request : ChatRequest) :
    ofJson? request.toJson = some request := by
  show (Json.all? Message.ofJson? (.array (request.messages.map Message.toJson))).bind
    (fun messages => some ⟨messages⟩) = some request
  rw [Json.all?_array Message.ofJson?_toJson]
  rfl

theorem ErrorBody.ofJson?_toJson (body : ErrorBody) : ofJson? body.toJson = some body := rfl

namespace Provider

theorem Speaker.ofJson?_toJson (speaker : Speaker) : ofJson? speaker.toJson = some speaker := by
  cases speaker <;> rfl

theorem Part.ofJson?_toJson (part : Part) : ofJson? part.toJson = some part := rfl

theorem Content.ofJson?_toJson (content : Content) : ofJson? content.toJson = some content := by
  show (Speaker.ofJson? content.role.toJson).bind (fun role =>
    (Json.all? Part.ofJson? (.array (content.parts.map Part.toJson))).bind
      fun parts => some ⟨role, parts⟩) = some content
  rw [Speaker.ofJson?_toJson, Json.all?_array Part.ofJson?_toJson]
  rfl

end Provider

/-! ## Documents -/

/-- What is read from the bytes of a written value is the value. -/
def ReadsBack {α : Type} (write : α → Json) (read : Json → Option α) : Prop :=
  ∀ value, (Json.readBytes? (Utf8.encode (write value).compact)).bind read = some value

theorem readsBack_of_tree {α : Type} {write : α → Json} {read : Json → Option α}
    (h : ∀ value, read (write value) = some value) : ReadsBack write read := by
  intro value
  rw [Json.readBytes?_compact]
  exact h value

/-- What the relay finds in an entry that is a message. -/
theorem Message.toIncoming_eq (message : Message) :
    message.toIncoming = {
      role := some (if message.role = .user then "user" else "assistant")
      content := message.content } := by
  obtain ⟨role, content⟩ := message
  cases role <;> rfl

/-- **Documents are read back.** The relay finds in the body of a request the messages that went
into it, in order, and every document gives back the value that was written. -/
theorem documents_read_back {messages : List Message} (h : messages ≠ []) :
    Relay.parse (Utf8.encode (ChatRequest.body ⟨messages⟩)) =
        .ok (messages.map fun message => {
          role := some (if message.role = .user then "user" else "assistant")
          content := message.content }) ∧
      ReadsBack Role.toJson Role.ofJson? ∧
      ReadsBack Message.toJson Message.ofJson? ∧
      ReadsBack ChatRequest.toJson ChatRequest.ofJson? ∧
      ReadsBack ErrorBody.toJson ErrorBody.ofJson? ∧
      ReadsBack Provider.Content.toJson Provider.Content.ofJson? := by
  refine ⟨?_, readsBack_of_tree Role.ofJson?_toJson, readsBack_of_tree Message.ofJson?_toJson,
    readsBack_of_tree ChatRequest.ofJson?_toJson, readsBack_of_tree ErrorBody.ofJson?_toJson,
    readsBack_of_tree Provider.Content.ofJson?_toJson⟩
  rw [Relay.parse_body h, List.map_congr_left fun message _ => message.toIncoming_eq]

/-- Quotes, backslashes, controls, a character beyond the basic plane and an empty content. -/
theorem documents_read_back_escapes :
    let messages : List Message := [.user "\"\\\n\x01", .assistant "😀", .user ""]
    messages ≠ [] ∧
      Relay.parse (Utf8.encode (ChatRequest.body ⟨messages⟩)) =
        .ok [⟨some "user", "\"\\\n\x01"⟩, ⟨some "assistant", "😀"⟩, ⟨some "user", ""⟩] := by
  intro messages
  have h : messages ≠ [] := List.cons_ne_nil _ _
  exact ⟨h, (documents_read_back h).1⟩

end GuidedChat
