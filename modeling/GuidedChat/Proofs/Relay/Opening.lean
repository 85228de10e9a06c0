import GuidedChat.Proofs.Relay.Scripts

/-! # What is passed on of a script

A call is put to the model once, and its script comes to one of two things. If it refuses, or an
error comes before any text, the failure conveys that error (`Conveys`). If not, the reply keeps
what the script gives: each item that is not an empty text, once and in order, errors and what
comes after them included (`TextStream.Keeps`). -/

namespace GuidedChat

/-- Of a script all is kept but the empty texts, each item once and in order. -/
inductive TextStream.Keeps : TextStream → TextStream → Prop
  | nil : Keeps [] []
  | blank {items kept : TextStream} : Keeps items kept → Keeps (.ok "" :: items) kept
  | item {item : Except ProviderError String} {items kept : TextStream} :
      item ≠ .ok "" → Keeps items kept → Keeps (item :: items) (item :: kept)

theorem TextStream.Keeps.eq_nil {items kept : TextStream} (h : items.Keeps kept)
    (hblank : ∀ item ∈ items, item = .ok "") : kept = [] := by
  induction h with
  | nil => rfl
  | blank _ ih => exact ih fun item hmem => hblank item (List.mem_cons_of_mem _ hmem)
  | item hne _ _ => exact absurd (hblank _ List.mem_cons_self) hne

namespace Relay

/-- The failure tells of this error, as a limit if it is one. -/
inductive Conveys : ProviderError → Failure → Prop
  | limit (message : String) : Conveys (.rateLimited message) (.rateLimited (.rateLimited message))
  | other {error : ProviderError} :
      (∀ message, error ≠ .rateLimited message) → Conveys error (.provider error)

theorem conveys_ofProvider (error : ProviderError) : Conveys error (.ofProvider error) := by
  cases error with
  | rateLimited message => exact .limit message
  | api | transport | decode | stream => exact .other (by simp)

theorem carries_iff (item : Except ProviderError String) : carries item = true ↔ item ≠ .ok "" := by
  cases item <;> simp [carries]

theorem keeps_filter (items : TextStream) : items.Keeps (items.filter carries) := by
  induction items with
  | nil => exact .nil
  | cons item items ih =>
    by_cases hblank : item = .ok ""
    · rw [hblank, List.filter_cons_of_neg (by simp [carries])]
      exact .blank ih
    · rw [List.filter_cons_of_pos ((carries_iff item).mpr hblank)]
      exact .item hblank ih

theorem not_failsEarly_blank {items : TextStream} (h : ∀ item ∈ items, item = .ok "")
    (error : ProviderError) : ¬ FailsEarly (.ok items) error := by
  rintro (hrefused | ⟨blanks, rest, hscript, -⟩)
  · cases hrefused
  · have herror : .error error ∈ items := by
      rw [Except.ok.inj hscript, TextStream.broken]
      exact List.mem_append_right _ List.mem_cons_self
    cases h _ herror

/-- **A call and its reply.** The model is asked once, with the persona's instruction and the chat
as it is; an error that comes before any text is conveyed, and any other script is a reply that
keeps all but the empty texts. -/
theorem openReply_keeps (model : Model) (persona : Persona) (chat : Chat) :
    let script := model ⟨persona.instruction, chat⟩
    let reply := openReply model persona chat
    reply.calls = [⟨persona.instruction, chat⟩] ∧
    (∀ error, FailsEarly script error →
      ∃ failure, reply.result = .error failure ∧ Conveys error failure) ∧
    ((∀ error, ¬ FailsEarly script error) →
      ∃ items kept, script = .ok items ∧ reply.result = .ok kept ∧ items.Keeps kept) ∧
    ∀ items, script = .ok items → (∀ item ∈ items, item = .ok "") → reply.result = .ok [] := by
  intro script reply
  have hresult : reply.result = settle script := rfl
  have hreply : (∀ error, ¬ FailsEarly script error) →
      ∃ items kept, script = .ok items ∧ reply.result = .ok kept ∧ items.Keeps kept := by
    intro hlate
    cases hscript : script with
    | error error => exact absurd (.inl hscript) (hlate error)
    | ok items =>
      rw [hscript] at hlate
      refine ⟨items, _, rfl, ?_, keeps_filter items⟩
      rw [hresult, hscript, settle_of_not_failsEarly hlate]
  refine ⟨rfl, ?_, hreply, ?_⟩
  · intro error hearly
    refine ⟨_, ?_, conveys_ofProvider error⟩
    rw [hresult, settle_of_failsEarly hearly]
  · intro items hscript hblank
    obtain ⟨items', kept, hscript', hkept, hkeeps⟩ :=
      hreply fun error => hscript ▸ not_failsEarly_blank hblank error
    rw [hscript] at hscript'
    cases hscript'
    rw [hkept, hkeeps.eq_nil hblank]

/-- An error after some text, one before any, and no text at all. -/
theorem openReply_keeps_around_errors :
    let late : TextStream := [.ok "", .ok "ア", .ok "", .error (.stream "reset"), .ok "イ"]
    let early : TextStream := [.ok "", .error (.rateLimited "quota"), .ok "ア"]
    let silent : TextStream := [.ok "", .ok ""]
    let asking (script : TextStream) := openReply (fun _ => .ok script) .limitDetector ⟨[], "a"⟩
    (∃ kept, (asking late).result = .ok kept ∧ late.Keeps kept) ∧
      (∃ failure, (asking early).result = .error failure ∧
        Conveys (.rateLimited "quota") failure) ∧
      (asking silent).result = .ok [] := by
  intro late early silent asking
  have hlate : ∀ error, ¬ FailsEarly (.ok late) error := by
    intro error h
    have hreply : settle (.ok late) =
        .ok [.ok "ア", .error (.stream "reset"), .ok "イ"] := rfl
    rw [settle_of_failsEarly h] at hreply
    cases hreply
  have hearly : FailsEarly (.ok early) (.rateLimited "quota") :=
    .inr ⟨[""], [.ok "ア"], rfl, by simp⟩
  refine ⟨?_, (openReply_keeps _ _ _).2.1 _ hearly,
    (openReply_keeps _ _ _).2.2.2 silent rfl (by simp [silent])⟩
  obtain ⟨items, kept, hitems, hkept, hkeeps⟩ :=
    (openReply_keeps (fun _ => .ok late) .limitDetector ⟨[], "a"⟩).2.2.1 hlate
  cases hitems
  exact ⟨kept, hkept, hkeeps⟩

end Relay

end GuidedChat
