import GuidedChat.Proofs.Conversation.Completed
import GuidedChat.Terminal.Printer

/-! # What a turn prints

While a reply grows, each text is printed as it comes, once and in order (`foldl_printEvent`):
what the printer has written is always the reply as it was last shown. The end of a turn that
finished prints nothing more. A turn that failed shows its fallback in place of the reply, and
this is printed from where it goes on from the texts, or else on a line of its own. Either way
the final reply and a line end are the last that a turn prints (`printTurn_writes`). -/

namespace GuidedChat.Terminal

/-- What a turn writes whose texts come to `streamed`, and which shows `fallback` in their place
if it fails. -/
structure Writes (streamed : String) (fallback : Option String) (output : String) : Prop where
  finished : fallback = none → output = streamed ++ "\n"
  extended : ∀ text, fallback = some text → (∃ rest, text = streamed ++ rest) →
    output = text ++ "\n"
  replaced : ∀ text, fallback = some text → (¬ ∃ rest, text = streamed ++ rest) →
    output = streamed ++ "\n" ++ text ++ "\n"

/-! ## The printer -/

/-- Of a reply that has grown only what is new is printed. -/
theorem Printer.display_append (shown output rest : String) :
    (⟨shown, output⟩ : Printer).display (shown ++ rest) = ⟨shown ++ rest, output ++ rest⟩ := by
  have hrest : after? shown.toList (shown ++ rest).toList = some rest.toList :=
    after?_eq_some_iff.mpr String.toList_append
  simp only [display, hrest, String.ofList_toList]

theorem Printer.display_replaced (output : String) {shown reply : String}
    (h : ¬ ∃ rest, reply = shown ++ rest) :
    (⟨shown, output⟩ : Printer).display reply = ⟨reply, output ++ ("\n" ++ reply)⟩ := by
  have hnone : after? shown.toList reply.toList = none := by
    rw [Option.eq_none_iff_forall_ne_some]
    intro rest hrest
    refine h ⟨String.ofList rest, String.toList_inj.mp ?_⟩
    rw [after?_eq_some_iff.mp hrest, String.toList_append, String.toList_ofList]
  simp only [display, hnone]

/-! ## Events -/

section Events

variable {c : Conversation} {pending : Pending}

theorem lastContent?_pending (h : c.pending = some pending) :
    lastContent? c = some pending.text := by
  simp [lastContent?, Conversation.messages, h, Message.assistant]

theorem lastContent?_settle (c : Conversation) (text : String) (failure : Option FailureKind) :
    lastContent? (c.settle text failure) = some text := by
  simp [lastContent?, Conversation.messages, Conversation.settle, Message.assistant]

theorem printEvent_chunk (h : c.pending = some pending) (output text : String) :
    printEvent c.turn (c, ⟨pending.text, output⟩) (.chunk text) =
      ({ c with pending := some { pending with text := pending.text ++ text } },
        ⟨pending.text ++ text, output ++ text⟩) := by
  by_cases htext : text = ""
  · subst htext
    have hsame : ({ c with pending := some pending } : Conversation) = c := by rw [← h]
    simp [printEvent, Conversation.apply, h, hsame]
  · simp [printEvent, Conversation.apply, h, htext, lastContent?_pending,
      Printer.display_append]

theorem foldl_printEvent (h : c.pending = some pending) (output : String) (texts : List String) :
    (texts.map TurnEvent.chunk).foldl (printEvent c.turn) (c, ⟨pending.text, output⟩) =
      ({ c with pending := some { pending with text := pending.text ++ String.join texts } },
        ⟨pending.text ++ String.join texts, output ++ String.join texts⟩) := by
  induction texts generalizing c pending output with
  | nil =>
    have hsame : ({ c with pending := some pending } : Conversation) = c := by rw [← h]
    simp [hsame]
  | cons text texts ih =>
    have hrest := ih (c := { c with
      pending := some { pending with text := pending.text ++ text } }) rfl (output ++ text)
    rw [List.map_cons, List.foldl_cons, printEvent_chunk h, hrest, String.join_cons,
      String.append_assoc, String.append_assoc]

theorem printEvent_ending (h : c.pending = some pending) (printer : Printer)
    (failure : Option FailureKind) :
    printEvent c.turn (c, printer) (.ending failure) =
      (c.settle (c.replied pending.kind pending.text failure) failure,
        printer.display (c.replied pending.kind pending.text failure)) := by
  cases failure <;>
    simp [printEvent, Conversation.apply, h, TurnEvent.ending, Conversation.replied,
      lastContent?_settle]

/-- A turn shows its texts as they come, and last the reply that its end leaves. -/
theorem printTurn_eq {kind : TurnKind} (h : c.pending = some ⟨kind, ""⟩) (texts : List String)
    (failure : Option FailureKind) :
    let reply := c.replied kind (String.join texts) failure
    printTurn c c.turn (texts.map .chunk ++ [.ending failure]) =
      (c.settle reply failure,
        ((⟨String.join texts, String.join texts⟩ : Printer).display reply).output ++ "\n") := by
  intro reply
  have hshown := foldl_printEvent h "" texts
  rw [String.empty_append] at hshown
  have hlast := printEvent_ending (c := { c with pending := some ⟨kind, String.join texts⟩ }) rfl
    ⟨String.join texts, String.join texts⟩ failure
  simp only [printTurn, List.foldl_append, hshown, List.foldl_cons, List.foldl_nil]
  rw [hlast]
  rfl

end Events

/-- Where `reply` is shown after what was streamed, it is printed from where it goes on, or else
on a line of its own. -/
theorem output_display (streamed reply : String) :
    let output := ((⟨streamed, streamed⟩ : Printer).display reply).output ++ "\n"
    ((∃ rest, reply = streamed ++ rest) → output = reply ++ "\n") ∧
      ((¬ ∃ rest, reply = streamed ++ rest) → output = streamed ++ "\n" ++ reply ++ "\n") := by
  constructor
  · rintro ⟨rest, rfl⟩
    rw [Printer.display_append]
  · intro hreplaced
    rw [Printer.display_replaced streamed hreplaced, ← String.append_assoc]

theorem output_display_ends (streamed reply : String) :
    ∃ start, ((⟨streamed, streamed⟩ : Printer).display reply).output ++ "\n" =
      start ++ reply ++ "\n" := by
  obtain ⟨hextended, hreplaced⟩ := output_display streamed reply
  by_cases h : ∃ rest, reply = streamed ++ rest
  · exact ⟨"", by rw [hextended h, String.empty_append]⟩
  · exact ⟨streamed ++ "\n", hreplaced h⟩

theorem writes_replied (c : Conversation) (kind : TurnKind) (streamed : String)
    (failure : Option FailureKind) :
    Writes streamed (failure.map (c.fallbacks.text kind))
      (((⟨streamed, streamed⟩ : Printer).display (c.replied kind streamed failure)).output ++
        "\n") := by
  obtain ⟨hextended, hreplaced⟩ := output_display streamed (c.replied kind streamed failure)
  cases failure with
  | none =>
    exact {
      finished := fun _ => hextended ⟨"", String.append_empty.symm⟩
      extended := by simp
      replaced := by simp }
  | some failure =>
    exact {
      finished := by simp
      extended := by
        rintro text ⟨⟩
        exact hextended
      replaced := by
        rintro text ⟨⟩
        exact hreplaced }

/-- **What a turn prints** is what its texts and its end come to, whatever the transport gives:
each text as it comes, and in the end the final reply and a line end. -/
theorem printTurn_writes {c asked : Conversation} {request : TurnRequest} {kind : TurnKind}
    (h : Conversation.Issues c asked request kind) (transport : Transport) :
    (∃ texts error, Gives (transport request.messages) texts error) ∧
    ∀ texts error, Gives (transport request.messages) texts error →
      let told := Text.kept texts
      let failure := error.map TransportError.kind
      let printed := printTurn asked request.turn (takeTurn transport request).result
      Writes (String.join told) (failure.map (asked.fallbacks.text kind)) printed.2 ∧
      (∀ before after, told = before ++ after →
        ((before.map TurnEvent.chunk).foldl (printEvent request.turn) (asked, {})).2.output =
          String.join before) ∧
      ∃ start reply, lastContent? printed.1 = some reply ∧ printed.2 = start ++ reply ++ "\n" := by
  obtain ⟨hpending, hturn⟩ := h.awaits
  refine ⟨gives_cases _, ?_⟩
  intro texts error hgives told failure printed
  have hprinted : printed = printTurn asked asked.turn (told.map .chunk ++ [.ending failure]) := by
    rw [← hturn, ← TurnEvent.ofSent_of_gives hgives]
    rfl
  rw [hprinted, printTurn_eq hpending]
  refine ⟨writes_replied asked kind _ failure, ?_, ?_⟩
  · intro before after _
    rw [hturn, foldl_printEvent hpending]
    exact String.empty_append
  · obtain ⟨start, hstart⟩ := output_display_ends (String.join told)
      (asked.replied kind (String.join told) failure)
    exact ⟨start, _, lastContent?_settle _ _ _, hstart⟩

/-- The greeting gives three texts, one of them empty, and breaks off, so its fallback follows on
a line of its own. Where the texts begin the fallback, it is printed once. -/
theorem printTurn_writes_broken_greeting :
    let c : Conversation := { greetingPrompt := "p", fallbacks := { greeting := "ab" } }
    let request : TurnRequest := ⟨1, [.user "p"]⟩
    let broken (texts : List String) : Transport :=
      fun _ => .ok (texts.map .ok ++ .error .noBody :: [.ok "d"])
    c.bootstrap.2 = some request ∧
      (printTurn c.bootstrap.1 1 (takeTurn (broken ["a", "", "c"]) request).result).2 =
        "ac\nab\n" ∧
      (printTurn c.bootstrap.1 1 (takeTurn (broken ["a", ""]) request).result).2 = "ab\n" := by
  intro c request broken
  have hissued : Conversation.Issues c c.bootstrap.1 request .greeting := .greeting rfl
  obtain ⟨-, hreplaced⟩ := printTurn_writes hissued (broken ["a", "", "c"])
  obtain ⟨-, hextended⟩ := printTurn_writes hissued (broken ["a", ""])
  have hnone : ¬ ∃ rest, "ab" = "ac" ++ rest := by
    rintro ⟨rest, hrest⟩
    have hlist := congrArg String.toList hrest
    simp at hlist
  refine ⟨rfl, ?_, ?_⟩
  · exact (hreplaced _ _ (.broken _ _ _)).1.replaced _ rfl hnone
  · exact (hextended _ _ (.broken _ _ _)).1.extended _ rfl ⟨"b", rfl⟩

end GuidedChat.Terminal
