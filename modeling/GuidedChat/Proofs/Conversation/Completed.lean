import GuidedChat.Proofs.Conversation.Steps
import GuidedChat.Proofs.Transport.Delivered

/-! # Every turn is completed

Whatever a transport gives for a request, it comes to some texts and perhaps to an error after
them (`gives_cases`). The turn tells the texts that are not empty and then its end, and nothing
more (`ofSent_of_gives`). The conversation that made the request takes in every one of these
events: the texts gather in the pending reply (`report_chunks`), and the end settles it
(`report_ending`). -/

namespace GuidedChat

/-! ## What a transport gives -/

/-- A transport gives these texts, and then comes to the error, if there is one. What it would
give after an error does not matter. -/
inductive Gives :
    Except TransportError ChunkStream → List String → Option TransportError → Prop
  | refused (error : TransportError) : Gives (.error error) [] (some error)
  | whole (texts : List String) : Gives (.ok (texts.map .ok)) texts none
  | broken (texts : List String) (error : TransportError) (rest : ChunkStream) :
    Gives (.ok (texts.map .ok ++ .error error :: rest)) texts (some error)

theorem gives_cases (sent : Except TransportError ChunkStream) :
    ∃ texts error, Gives sent texts error := by
  cases sent with
  | error error => exact ⟨_, _, .refused error⟩
  | ok chunks =>
    rcases results_shape chunks with ⟨texts, rfl⟩ | ⟨texts, error, rest, rfl⟩
    · exact ⟨_, _, .whole texts⟩
    · exact ⟨_, _, .broken texts error rest⟩

theorem TransportError.kind_eq_rateLimited_iff (error : TransportError) :
    error.kind = .rateLimited ↔ error = .rateLimited := by
  cases error <;> simp [kind, isRateLimited]

namespace TurnEvent

def ending : Option FailureKind → TurnEvent
  | none => finished
  | some kind => failed kind

theorem ofSent_of_gives {sent : Except TransportError ChunkStream} {texts : List String}
    {error : Option TransportError} (h : Gives sent texts error) :
    ofSent sent = (Text.kept texts).map chunk ++ [ending (error.map TransportError.kind)] := by
  cases h with
  | refused error => rfl
  | whole =>
    have happend := ofChunks_append texts []
    rwa [List.append_nil] at happend
  | broken _ error rest => exact ofChunks_append texts (.error error :: rest)

end TurnEvent

namespace Conversation

/-! ## How a conversation takes in a turn -/

def report (c : Conversation) (number : Nat) (events : List TurnEvent) :
    Conversation × List Outcome :=
  c.run (events.map (.apply number))

theorem applyAll_eq_report (c : Conversation) (number : Nat) (events : List TurnEvent) :
    c.applyAll number events = (c.report number events).1 := by
  induction events generalizing c with
  | nil => rfl
  | cons event rest ih => exact ih _

theorem report_append (c : Conversation) (number : Nat) (before after : List TurnEvent) :
    c.report number (before ++ after) =
      (((c.report number before).1.report number after).1,
        (c.report number before).2 ++ ((c.report number before).1.report number after).2) := by
  rw [report, List.map_append, run_append]
  rfl

variable {c : Conversation} {pending : Pending}

/-- Texts gather in the pending reply; only an empty one changes nothing. -/
theorem report_chunks (h : c.pending = some pending) (texts : List String) :
    c.report c.turn (texts.map .chunk) =
      ({ c with pending := some { pending with text := pending.text ++ String.join texts } },
        texts.map fun text => .applied (text ≠ "")) := by
  induction texts generalizing c pending with
  | nil =>
    have hsame : ({ c with pending := some pending } : Conversation) = c := by rw [← h]
    simp [report, run, hsame]
  | cons text texts ih =>
    have happly : c.apply c.turn (.chunk text) =
        ({ c with pending := some { pending with text := pending.text ++ text } },
          decide (text ≠ "")) := by
      by_cases htext : text = ""
      · subst htext
        have hsame : ({ c with pending := some pending } : Conversation) = c := by rw [← h]
        simp [apply, h, hsame]
      · simp [apply, h, htext]
    have hgathered := ih (c := { c with
      pending := some { pending with text := pending.text ++ text } }) rfl
    rw [report] at hgathered
    rw [report, List.map_cons, List.map_cons, run_cons, perform_apply, happly, hgathered,
      String.join_cons, ← String.append_assoc]
    rfl

/-- What a reply reads that has ended: the text that arrived, or the fallback for a turn of this
kind that failed so. -/
def replied (c : Conversation) (kind : TurnKind) (text : String) : Option FailureKind → String
  | none => text
  | some failure => c.fallbacks.text kind failure

theorem report_ending (h : c.pending = some pending) (failure : Option FailureKind) :
    c.report c.turn [.ending failure] =
      (c.settle (c.replied pending.kind pending.text failure) failure, [.applied true]) := by
  cases failure with
  | none => simp [report, run, perform_apply, apply, h, TurnEvent.ending, replied]
  | some kind => simp [report, run, perform_apply, apply, h, TurnEvent.ending, replied]

theorem report_turn (h : c.pending = some pending) (texts : List String)
    (failure : Option FailureKind) :
    c.report c.turn (texts.map .chunk ++ [.ending failure]) =
      (c.settle (c.replied pending.kind (pending.text ++ String.join texts) failure) failure,
        texts.map (fun text => .applied (text ≠ "")) ++ [.applied true]) := by
  have hending := report_ending (c := { c with
    pending := some { pending with text := pending.text ++ String.join texts } }) rfl failure
  rw [report_append, report_chunks h, hending]
  rfl

theorem applyAll_finished (h : c.pending = some pending) (texts : List String) :
    c.applyAll c.turn (texts.map .chunk ++ [.finished]) =
      c.settle (pending.text ++ String.join texts) none := by
  rw [applyAll_eq_report]
  exact congrArg Prod.fst (report_turn h texts none)

theorem applyAll_failed (h : c.pending = some pending) (texts : List String)
    (kind : FailureKind) :
    c.applyAll c.turn (texts.map .chunk ++ [.failed kind]) =
      c.settle (c.fallbacks.text pending.kind kind) (some kind) := by
  rw [applyAll_eq_report]
  exact congrArg Prod.fst (report_turn h texts (some kind))

/-! ## The main statement -/

/-- The conversation `c` has just made `request`, for a turn of this kind, and stands as `asked`
since. -/
inductive Issues (c asked : Conversation) (request : TurnRequest) : TurnKind → Prop
  | greeting : c.bootstrap = (asked, some request) → Issues c asked request .greeting
  | reply : c.submit = (asked, some request) → Issues c asked request .reply

theorem Issues.awaits {c asked : Conversation} {request : TurnRequest} {kind : TurnKind}
    (h : Issues c asked request kind) :
    asked.pending = some ⟨kind, ""⟩ ∧ request.turn = asked.turn := by
  cases h with
  | greeting h =>
    rcases c.bootstrap_cases with ⟨-, hrefused⟩ | ⟨-, -, hgranted⟩
    · rw [hrefused] at h
      cases h
    · rw [hgranted] at h
      cases h
      exact ⟨rfl, rfl⟩
  | reply h =>
    rcases c.submit_cases with ⟨-, hrefused⟩ | ⟨-, -, hgranted⟩
    · rw [hrefused] at h
      cases h
    · rw [hgranted] at h
      cases h
      exact ⟨rfl, rfl⟩

/-- What becomes of a conversation that waits for a turn of `kind` with this number, when
`texts` and then the end of the turn are reported to it. -/
structure Completes (asked : Conversation) (number : Nat) (kind : TurnKind)
    (texts : List String) (failure : Option FailureKind) : Prop where
  applied : (asked.report number (texts.map .chunk ++ [.ending failure])).2 =
    List.replicate (texts.length + 1) (.applied true)
  shown : ∀ before after, texts = before ++ after →
    (asked.report number (before.map .chunk)).1.messages =
      asked.messages.dropLast ++ [.assistant (String.join before)]
  ended : ∀ last, (asked.report number (texts.map .chunk ++ [.ending failure])).1 = last →
    last.phase = .idle ∧ last.pendingIndex = none ∧ last.lastFailure = failure ∧
      last.messages = asked.messages.dropLast ++
        [.assistant (asked.replied kind (String.join texts) failure)]

theorem completes_of_pending {asked : Conversation} {kind : TurnKind}
    (h : asked.pending = some ⟨kind, ""⟩) {texts : List String} (htexts : "" ∉ texts)
    (failure : Option FailureKind) : asked.Completes asked.turn kind texts failure := by
  have hearlier : asked.messages.dropLast = asked.settled := by
    rw [messages, h]
    exact List.dropLast_concat
  constructor
  · rw [report_turn h, List.eq_replicate_iff]
    refine ⟨by simp, ?_⟩
    intro outcome hmem
    rcases List.mem_append.mp hmem with hmem | hmem
    · obtain ⟨text, htext, rfl⟩ := List.mem_map.mp hmem
      have hne : text ≠ "" := fun hblank => htexts (hblank ▸ htext)
      rw [decide_eq_true hne]
    · exact List.mem_singleton.mp hmem
  · intro before after _
    rw [report_chunks h, hearlier, messages, String.empty_append]
    rfl
  · rintro last rfl
    rw [report_turn h, hearlier, String.empty_append]
    exact ⟨rfl, rfl, rfl, List.append_nil _⟩

/-- **Every turn is completed.** Its request is sent once. Whatever the transport gives, the turn
tells the texts with characters that come before any error, and then one end; and the
conversation that made the request takes in each of these events, shows the reply as it grows,
and is idle after the last. -/
theorem takeTurn_completes {c asked : Conversation} {request : TurnRequest} {kind : TurnKind}
    (h : Issues c asked request kind) (transport : Transport) :
    (takeTurn transport request).calls = [request.messages] ∧
      (∃ texts error, Gives (transport request.messages) texts error) ∧
      (∀ error : TransportError, error.kind = .rateLimited ↔ error = .rateLimited) ∧
      ∀ texts error, Gives (transport request.messages) texts error →
        let told := texts.filter (· ≠ "")
        let failure := error.map TransportError.kind
        (takeTurn transport request).result = told.map .chunk ++ [.ending failure] ∧
          asked.Completes request.turn kind told failure := by
  obtain ⟨hpending, hturn⟩ := h.awaits
  refine ⟨rfl, gives_cases _, TransportError.kind_eq_rateLimited_iff, ?_⟩
  intro texts error hgives told failure
  refine ⟨TurnEvent.ofSent_of_gives hgives, ?_⟩
  rw [hturn]
  exact completes_of_pending hpending (by simp [told]) failure

/-- A greeting breaks off after some texts, one of them empty, and more would have followed. -/
theorem takeTurn_completes_broken_greeting :
    let c : Conversation := { greetingPrompt := "p" }
    let request : TurnRequest := ⟨1, [.user "p"]⟩
    let given : ChunkStream := ["a", "", "b"].map .ok ++ .error .noBody :: [.ok "c"]
    c.bootstrap.2 = some request ∧
      (takeTurn (fun _ => .ok given) request).result =
        [.chunk "a", .chunk "b", .failed .other] ∧
      (c.bootstrap.1.report 1 [.chunk "a", .chunk "b"]).1.messages = [.assistant "ab"] ∧
      (c.bootstrap.1.report 1 [.chunk "a", .chunk "b", .failed .other]).1.messages =
        [.assistant c.fallbacks.greeting] := by
  intro c request given
  have hissued : Issues c c.bootstrap.1 request .greeting := .greeting rfl
  obtain ⟨-, -, -, hturn⟩ := takeTurn_completes hissued fun _ => .ok given
  obtain ⟨hresult, hcompletes⟩ := hturn _ _ (.broken ["a", "", "b"] .noBody [.ok "c"])
  exact ⟨rfl, hresult, hcompletes.shown ["a", "b"] [] (by decide),
    (hcompletes.ended _ rfl).2.2.2⟩

end Conversation

end GuidedChat
