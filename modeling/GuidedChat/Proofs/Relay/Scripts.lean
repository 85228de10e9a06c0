import GuidedChat.Relay.Reply

/-! # What the relay makes of a script

What the provider gives to a call is a script: it refuses, or it gives texts, all of them or up
to an error (`TextStream.shape`). The relay hides texts that are empty. A script that comes to
an error before any other text is a failure (`settle_blank`), and every other script that is
not refused is a reply (`settle_whole`, `settle_broken`). -/

namespace GuidedChat

def TextStream.whole (texts : List String) : TextStream := texts.map .ok

/-- A script of some texts and an error, whatever comes after it. -/
def TextStream.broken (texts : List String) (error : ProviderError) (rest : TextStream) :
    TextStream :=
  texts.map .ok ++ .error error :: rest

theorem TextStream.error_not_mem_whole (texts : List String) (error : ProviderError) :
    .error error ∉ whole texts := by
  simp [whole]

/-- Results are values, all of them or up to the first error. -/
theorem results_shape {ε α : Type} (items : List (Except ε α)) :
    (∃ values : List α, items = values.map .ok) ∨
      ∃ (values : List α) (error : ε) (rest : List (Except ε α)),
        items = values.map .ok ++ .error error :: rest := by
  induction items with
  | nil => exact .inl ⟨[], rfl⟩
  | cons item items ih =>
    cases item with
    | error error => exact .inr ⟨[], error, items, rfl⟩
    | ok value =>
      rcases ih with ⟨values, rfl⟩ | ⟨values, error, rest, rfl⟩
      · exact .inl ⟨value :: values, rfl⟩
      · exact .inr ⟨value :: values, error, rest, rfl⟩

theorem TextStream.shape (items : TextStream) :
    (∃ texts, items = whole texts) ∨ ∃ texts error rest, items = broken texts error rest :=
  results_shape items

namespace Text

def kept (texts : List String) : List String := texts.filter (· ≠ "")

theorem join_kept (texts : List String) : String.join (kept texts) = String.join texts := by
  induction texts with
  | nil => rfl
  | cons text texts ih =>
    rw [String.join_cons, ← ih]
    by_cases h : text = ""
    · simp [kept, h]
    · simp [kept, h]

theorem kept_eq_nil_iff (texts : List String) : kept texts = [] ↔ ∀ text ∈ texts, text = "" := by
  simp [kept]

end Text

namespace Relay

open Text (kept kept_eq_nil_iff)

theorem filter_carries (texts : List String) :
    (texts.map Except.ok).filter carries = TextStream.whole (kept texts) := by
  induction texts with
  | nil => rfl
  | cons text texts ih =>
    rw [List.map_cons, List.filter_cons, ih]
    by_cases h : text = ""
    · simp [carries, kept, h]
    · simp [carries, kept, h, TextStream.whole]

theorem filter_broken (texts : List String) (error : ProviderError) (rest : TextStream) :
    (TextStream.broken texts error rest).filter carries =
      TextStream.broken (kept texts) error (rest.filter carries) := by
  rw [TextStream.broken, List.filter_append, filter_carries]
  rfl

theorem settle_whole (texts : List String) :
    settle (.ok (.whole texts)) = .ok (.whole (kept texts)) := by
  simp only [settle, TextStream.whole, filter_carries]
  cases kept texts <;> rfl

theorem settle_blank {texts : List String} (h : ∀ text ∈ texts, text = "")
    (error : ProviderError) (rest : TextStream) :
    settle (.ok (.broken texts error rest)) = .error (.ofProvider error) := by
  have hkept := (kept_eq_nil_iff texts).mpr h
  rw [settle, filter_broken, hkept]
  rfl

/-- An error after some text is part of the reply. -/
theorem settle_broken {texts : List String} (h : ∃ text ∈ texts, text ≠ "")
    (error : ProviderError) (rest : TextStream) :
    settle (.ok (.broken texts error rest)) =
      .ok (.broken (kept texts) error (rest.filter carries)) := by
  have hkept : kept texts ≠ [] := by
    rw [ne_eq, kept_eq_nil_iff]
    intro hblank
    obtain ⟨text, hmem, hne⟩ := h
    exact hne (hblank text hmem)
  obtain ⟨first, more, hkept⟩ := List.exists_cons_of_ne_nil hkept
  rw [settle, filter_broken, hkept]
  rfl

/-- The script comes to this error before any text: it refuses, or what it gives until then is
empty. -/
def FailsEarly (script : Except ProviderError TextStream) (error : ProviderError) : Prop :=
  script = .error error ∨
    ∃ blanks rest, script = .ok (.broken blanks error rest) ∧ ∀ text ∈ blanks, text = ""

theorem settle_of_failsEarly {script : Except ProviderError TextStream} {error : ProviderError}
    (h : FailsEarly script error) : settle script = .error (.ofProvider error) := by
  rcases h with rfl | ⟨blanks, rest, rfl, hblank⟩
  · rfl
  · exact settle_blank hblank error rest

/-- A reply has all that the script gives but the empty texts. -/
theorem settle_of_not_failsEarly {items : TextStream}
    (h : ∀ error, ¬ FailsEarly (.ok items) error) :
    settle (.ok items) = .ok (items.filter carries) := by
  rcases items.shape with ⟨texts, rfl⟩ | ⟨texts, error, rest, rfl⟩
  · rw [settle_whole]
    exact congrArg Except.ok (filter_carries texts).symm
  · have hsome : ∃ text ∈ texts, text ≠ "" := by
      refine Classical.byContradiction fun hnone => h error (.inr ⟨texts, rest, rfl, ?_⟩)
      simpa using hnone
    rw [settle_broken hsome, filter_broken]

theorem exists_of_settle_eq_error {script : Except ProviderError TextStream} {failure : Failure}
    (h : settle script = .error failure) : ∃ error, failure = .ofProvider error := by
  unfold settle at h
  split at h
  · cases h
    exact ⟨_, rfl⟩
  · split at h
    · cases h
      exact ⟨_, rfl⟩
    · cases h

theorem not_failsEarly_whole (texts : List String) (error : ProviderError) :
    ¬ FailsEarly (.ok (.whole texts)) error := by
  rintro (h | ⟨blanks, rest, h, -⟩)
  · cases h
  · apply TextStream.error_not_mem_whole texts error
    rw [Except.ok.inj h]
    exact List.mem_append_right _ List.mem_cons_self

end Relay

end GuidedChat
