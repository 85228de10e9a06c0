import GuidedChat.Proofs.Conversation.Turns
import GuidedChat.Proofs.Relay.Posted
import Mathlib.Data.List.Basic

/-! # What the provider is asked

A client sends its whole conversation, and the relay leaves out what the model said before the
user first spoke. Where the greeting is never asked for after the first message, that is just
the greeting: the provider is given each earlier message of the user with the reply as it
ended, and then the message to answer (`asks_run`). The greetings among the turns of such a run
come before all others (`greetings_first`). -/

namespace GuidedChat

open Provider (Content)

namespace Turn

def contents (fallbacks : Fallbacks) (turn : Turn) : List Content :=
  [.ofText .user turn.asked, .ofText .model (turn.reply fallbacks)]

theorem map_toContent_messages {turn : Turn} (h : turn.kind = .reply) (fallbacks : Fallbacks) :
    (turn.messages fallbacks).map Message.toContent = turn.contents fallbacks := by
  simp [messages, question, h, contents, Message.toContent, Message.user, Message.assistant]

theorem dropWhile_contents (fallbacks : Fallbacks) {greetings replies : List Turn}
    (hgreetings : ∀ turn ∈ greetings, turn.kind = .greeting)
    (hreplies : ∀ turn ∈ replies, turn.kind = .reply) :
    (((greetings ++ replies).flatMap (messages fallbacks)).map Message.toContent).dropWhile
        (·.role = .model) =
      replies.flatMap (contents fallbacks) := by
  rw [List.flatMap_append, List.map_append, List.dropWhile_append_of_pos]
  · have hshown : (replies.flatMap (messages fallbacks)).map Message.toContent =
        replies.flatMap (contents fallbacks) := by
      rw [List.map_flatMap]
      exact List.flatMap_congr fun turn hmem => map_toContent_messages (hreplies turn hmem) _
    rw [hshown]
    cases replies with
    | nil => rfl
    | cons turn replies => rfl
  · intro content hmem
    obtain ⟨message, hmessage, rfl⟩ := List.mem_map.mp hmem
    obtain ⟨turn, hturn, hmessage⟩ := List.mem_flatMap.mp hmessage
    simp only [messages, question, hgreetings turn hturn, List.nil_append,
      List.mem_singleton] at hmessage
    rw [hmessage]
    rfl

end Turn

namespace Conversation

/-! ## Runs in which the greeting comes first -/

/-- Whether the greeting is never asked for after the first message that was accepted. -/
def greetsFirst (c : Conversation) : List Action → Bool
  | [] => true
  | action :: rest =>
    if action = .submit ∧ c.submit.2.isSome then !rest.contains .bootstrap
    else (c.perform action).1.greetsFirst rest

/-- The messages of the user that were accepted along a run. -/
def submitted (c : Conversation) : List Action → List String
  | [] => []
  | action :: rest =>
    (if action = .submit ∧ c.submit.2.isSome then [Text.trim c.input] else []) ++
      (c.perform action).1.submitted rest

theorem filter_openings (c : Conversation) (actions : List Action) :
    ((c.openings actions).filter (·.1 = .reply)).map Prod.snd = c.submitted actions := by
  induction actions generalizing c with
  | nil => rfl
  | cons action rest ih =>
    rw [openings, List.filter_append, List.map_append, ih, submitted]
    congr 1
    cases action with
    | setInput text | appendInput text | apply number event => simp [opens]
    | bootstrap => by_cases h : c.bootstrap.2.isSome <;> simp [opens, h]
    | submit => by_cases h : c.submit.2.isSome <;> simp [opens, h]

theorem of_mem_opens {c : Conversation} {action : Action} {opening : TurnKind × String}
    (h : opening ∈ c.opens action) :
    (action = .bootstrap ∧ opening.1 = .greeting) ∨
      (action = .submit ∧ c.submit.2.isSome ∧ opening.1 = .reply) := by
  cases action with
  | setInput text | appendInput text | apply number event => cases h
  | bootstrap =>
    rw [opens] at h
    split at h
    · exact .inl ⟨rfl, by rw [List.mem_singleton.mp h]⟩
    · cases h
  | submit =>
    rw [opens] at h
    split at h
    · rename_i hgranted
      exact .inr ⟨rfl, hgranted, by rw [List.mem_singleton.mp h]⟩
    · cases h

theorem openings_replies (c : Conversation) {actions : List Action}
    (h : .bootstrap ∉ actions) : ∀ opening ∈ c.openings actions, opening.1 = .reply := by
  induction actions generalizing c with
  | nil => simp [openings]
  | cons action rest ih =>
    rw [List.mem_cons, not_or] at h
    obtain ⟨hne, hrest⟩ := h
    intro opening hmem
    rcases List.mem_append.mp hmem with hmem | hmem
    · rcases of_mem_opens hmem with ⟨hbootstrap, -⟩ | ⟨-, -, hkind⟩
      · exact absurd hbootstrap.symm hne
      · exact hkind
    · exact ih _ hrest opening hmem

/-- Up to the first message only greetings are asked for, and only replies from then on. -/
theorem openings_split (c : Conversation) {actions : List Action}
    (h : c.greetsFirst actions = true) :
    ∃ greetings replies, c.openings actions = greetings ++ replies ∧
      (∀ opening ∈ greetings, opening.1 = .greeting) ∧
        ∀ opening ∈ replies, opening.1 = .reply := by
  induction actions generalizing c with
  | nil => exact ⟨[], [], rfl, by simp, by simp⟩
  | cons action rest ih =>
    rw [greetsFirst] at h
    split at h
    · rename_i hfirst
      obtain ⟨rfl, -⟩ := hfirst
      have hlater : .bootstrap ∉ Action.submit :: rest := by simpa using h
      exact ⟨[], _, rfl, by simp, c.openings_replies hlater⟩
    · rename_i hother
      obtain ⟨greetings, replies, hrest, hgreetings, hreplies⟩ := ih _ h
      refine ⟨c.opens action ++ greetings, replies, ?_, ?_, hreplies⟩
      · rw [openings, hrest, List.append_assoc]
      · intro opening hmem
        rcases List.mem_append.mp hmem with hmem | hmem
        · rcases of_mem_opens hmem with ⟨-, hkind⟩ | ⟨hsubmit, hgranted, -⟩
          · exact hkind
          · exact absurd ⟨hsubmit, hgranted⟩ hother
        · exact hgreetings opening hmem

theorem greetings_first {greetingPrompt : String} {fallbacks : Fallbacks}
    {actions : List Action}
    (h : (fresh greetingPrompt fallbacks).greetsFirst actions = true) :
    ∃ greetings replies, turns greetingPrompt fallbacks actions = greetings ++ replies ∧
      (∀ turn ∈ greetings, turn.kind = .greeting) ∧ ∀ turn ∈ replies, turn.kind = .reply := by
  obtain ⟨_, _, hopenings, hgreetings, hreplies⟩ := openings_split _ h
  rw [← map_opening_turns] at hopenings
  obtain ⟨greetings, replies, hturns, rfl, rfl⟩ := List.map_eq_append_iff.mp hopenings
  exact ⟨greetings, replies, hturns,
    fun turn hmem => hgreetings _ (List.mem_map_of_mem hmem),
    fun turn hmem => hreplies _ (List.mem_map_of_mem hmem)⟩

/-! ## The requests of a run -/

/-- These contents ask for an answer to `text` after the given turns: each of them is shown
with its message and its reply, the user and the model take turns, and the user has the first
word and the last. -/
structure Asks (contents : List Content) (fallbacks : Fallbacks) (replies : List Turn)
    (text : String) : Prop where
  contents_eq : contents = replies.flatMap (Turn.contents fallbacks) ++ [.ofText .user text]
  length_eq : contents.length = 2 * (replies.length + 1) - 1
  alternate : ∀ i content, contents[i]? = some content →
    content.role = if i % 2 = 0 then .user else .model
  single : ∀ content ∈ contents, content.parts.length = 1

theorem asks_of_replies (fallbacks : Fallbacks) (replies : List Turn) (text : String) :
    Asks (replies.flatMap (Turn.contents fallbacks) ++ [.ofText .user text]) fallbacks replies
      text := by
  induction replies with
  | nil =>
    refine ⟨rfl, rfl, ?_, by simp [Content.ofText]⟩
    intro i content h
    match i with
    | 0 => cases h; rfl
    | i + 1 => cases h
  | cons turn replies ih =>
    refine ⟨rfl, ?_, ?_, ?_⟩
    · have hlength := ih.length_eq
      simp only [List.flatMap_cons, Turn.contents, List.append_assoc, List.length_append,
        List.length_cons, List.length_nil] at hlength ⊢
      omega
    · intro i content h
      rw [List.flatMap_cons, List.append_assoc] at h
      match i with
      | 0 => cases h; rfl
      | 1 => cases h; rfl
      | i + 2 =>
        have hrole := ih.alternate i content h
        rwa [Nat.add_mod_right]
    · intro content h
      rw [List.flatMap_cons, List.append_assoc] at h
      rcases List.mem_append.mp h with h | h
      · rcases List.mem_cons.mp h with rfl | h
        · rfl
        · rw [List.mem_singleton.mp h]
          rfl
      · exact ih.single content h

theorem filter_replies {greetings replies : List Turn}
    (hgreetings : ∀ turn ∈ greetings, turn.kind = .greeting)
    (hreplies : ∀ turn ∈ replies, turn.kind = .reply) :
    (greetings ++ replies).filter (·.kind = .reply) = replies := by
  have hnone : greetings.filter (·.kind = .reply) = [] := by
    rw [List.filter_eq_nil_iff]
    intro turn hmem
    simp [hgreetings turn hmem]
  have hall : replies.filter (·.kind = .reply) = replies := by
    rw [List.filter_eq_self]
    intro turn hmem
    simp [hreplies turn hmem]
  rw [List.filter_append, hnone, hall, List.nil_append]

/-- An accepted message goes out after the turns with replies, whatever greetings there were. -/
theorem asks_submit {c : Conversation} {greetings replies : List Turn}
    (hmatches : c.Matches (greetings ++ replies))
    (hgreetings : ∀ turn ∈ greetings, turn.kind = .greeting)
    (hreplies : ∀ turn ∈ replies, turn.kind = .reply) {request : TurnRequest}
    (hrequest : c.submit.2 = some request) (instruction : String) :
    ∃ chat, Relay.Chat.ofBody (Utf8.encode (ChatRequest.body ⟨request.messages⟩)) = .ok chat ∧
      Asks (chat.toRequest instruction).contents c.fallbacks replies (Text.trim c.input) := by
  rcases c.submit_cases with ⟨-, hsubmit⟩ | ⟨hidle, -, hsubmit⟩
  · rw [hsubmit] at hrequest
    cases hrequest
  · rw [hsubmit] at hrequest
    cases hrequest
    obtain ⟨-, hsettled, -⟩ := hmatches.idle hidle
    refine ⟨_, Relay.ofBody_body _ _, ?_⟩
    rw [hsettled, Turn.dropWhile_contents c.fallbacks hgreetings hreplies]
    exact asks_of_replies c.fallbacks replies _

theorem contents_bootstrap {c : Conversation} {request : TurnRequest}
    (hrequest : c.bootstrap.2 = some request) (instruction : String) :
    ∃ chat, Relay.Chat.ofBody (Utf8.encode (ChatRequest.body ⟨request.messages⟩)) = .ok chat ∧
      (chat.toRequest instruction).contents = [.ofText .user c.greetingPrompt] := by
  rcases c.bootstrap_cases with ⟨-, hbootstrap⟩ | ⟨-, -, hbootstrap⟩
  · rw [hbootstrap] at hrequest
    cases hrequest
  · rw [hbootstrap] at hrequest
    cases hrequest
    exact ⟨_, Relay.ofBody_body [] _, rfl⟩

/-- **What the provider is asked.** After a run in which the greeting came first, a message
that is accepted goes to the provider after the earlier messages and their replies, and the
greeting, where it is asked for, as the prompt alone. -/
theorem asks_run (greetingPrompt : String) (fallbacks : Fallbacks) (actions : List Action)
    (h : (fresh greetingPrompt fallbacks).greetsFirst actions = true) (instruction : String) :
    let c := ((fresh greetingPrompt fallbacks).run actions).1
    let replies := (turns greetingPrompt fallbacks actions).filter (·.kind = .reply)
    replies.map Turn.asked = (fresh greetingPrompt fallbacks).submitted actions ∧
      (∀ request, c.submit.2 = some request →
        ∃ chat, Relay.Chat.ofBody (Utf8.encode (ChatRequest.body ⟨request.messages⟩)) = .ok chat ∧
          Asks (chat.toRequest instruction).contents fallbacks replies (Text.trim c.input)) ∧
      ∀ request, c.bootstrap.2 = some request →
        ∃ chat, Relay.Chat.ofBody (Utf8.encode (ChatRequest.body ⟨request.messages⟩)) = .ok chat ∧
          (chat.toRequest instruction).contents = [.ofText .user greetingPrompt] := by
  intro c replies
  have hmatches : c.Matches (turns greetingPrompt fallbacks actions) :=
    matches_turns greetingPrompt fallbacks actions
  obtain ⟨hprompt, hfallbacks⟩ := run_setup (fresh greetingPrompt fallbacks) actions
  refine ⟨?_, ?_, ?_⟩
  · rw [← filter_openings, ← map_opening_turns, List.filter_map, List.map_map]
    rfl
  · intro request hrequest
    obtain ⟨greetings, answered, hturns, hgreetings, hanswered⟩ := greetings_first h
    have hreplies : replies = answered := by
      show (turns greetingPrompt fallbacks actions).filter (·.kind = .reply) = answered
      rw [hturns, filter_replies hgreetings hanswered]
    rw [hturns] at hmatches
    have hasks := asks_submit hmatches hgreetings hanswered hrequest instruction
    rwa [hfallbacks, ← hreplies] at hasks
  · intro request hrequest
    have hcontents := contents_bootstrap hrequest instruction
    rwa [hprompt] at hcontents

/-- After a greeting that failed and an answered message, the next message goes out after that
message and its answer alone. -/
theorem asks_run_after_failed_greeting :
    let actions : List Action := [.bootstrap, .apply 1 (.failed .other), .setInput " a ",
      .submit, .apply 2 (.chunk "b"), .apply 2 .finished, .setInput "c"]
    (fresh "p" {}).greetsFirst actions = true ∧
      ∃ request chat, ((fresh "p" {}).run actions).1.submit.2 = some request ∧
        Relay.Chat.ofBody (Utf8.encode (ChatRequest.body ⟨request.messages⟩)) = .ok chat ∧
          (chat.toRequest "i").contents =
            [.ofText .user "a", .ofText .model "b", .ofText .user "c"] := by
  intro actions
  have hgreets : (fresh "p" {}).greetsFirst actions = true := by decide +kernel
  obtain ⟨-, hsubmit, -⟩ := asks_run "p" {} actions hgreets "i"
  have hgranted : ((fresh "p" {}).run actions).1.submit.2.isSome = true := by decide +kernel
  obtain ⟨request, hrequest⟩ := Option.isSome_iff_exists.mp hgranted
  obtain ⟨chat, hchat, hasks⟩ := hsubmit request hrequest
  refine ⟨hgreets, request, chat, hrequest, hchat, ?_⟩
  rw [hasks.contents_eq]
  decide +kernel

end Conversation

end GuidedChat
