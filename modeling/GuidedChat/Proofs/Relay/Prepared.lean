import GuidedChat.Relay.Chat

/-! # What a chat leaves out of a conversation

The last entry of a conversation is the one to answer, whoever said it, and of the entries before
it only those are left out that the model said at their front (`Chat.Leaves`). What is put to the
provider therefore begins and ends with the user, and it has in their order all texts of the user
and all that the model said once the user had spoken (`ofEntries_leaves`). -/

namespace GuidedChat

open Provider (Content)

/-- An entry as the provider is to see it: one text, said by the model if an assistant said it and
by the user in all other cases. -/
def Relay.rendered (entry : Relay.Incoming) : Content where
  role := if entry.role = some "assistant" then .model else .user
  parts := [⟨entry.content⟩]

def Provider.userTexts (contents : List Content) : List String :=
  (contents.filter (·.role = .user)).flatMap fun content => content.parts.map (·.text)

namespace Relay

open Provider (userTexts)

/-- The chat is about `last`, and of the `earlier` entries it leaves out those that the model said
before the user first spoke. -/
structure Chat.Leaves (chat : Chat) (earlier : List Incoming) (last : Incoming) : Prop where
  message : chat.message = last.content
  left_out : ∃ models, earlier.map rendered = models ++ chat.history ∧
    ∀ content ∈ models, content.role = .model
  opening : ∀ first, chat.history.head? = some first → first.role = .user

/-- The contents begin and end with the user, and all is in them that the user said, and what the
model said after that. -/
structure Keeps (contents : List Content) (earlier : List Incoming) (last : Incoming) : Prop where
  first_user : ∃ first, contents.head? = some first ∧ first.role = .user
  last_user : contents.getLast? = some (.ofText .user last.content)
  user_texts : userTexts contents =
    (earlier.filter (·.role ≠ some "assistant")).map (·.content) ++ [last.content]
  from_user : ∀ before first after, earlier = before ++ first :: after →
    (∀ entry ∈ before, entry.role = some "assistant") → first.role ≠ some "assistant" →
      contents = (first :: after).map rendered ++ [.ofText .user last.content]

/-! ## Entries and contents -/

theorem toContent_eq_rendered (entry : Incoming) : entry.toContent = rendered entry := rfl

theorem role_rendered_iff (entry : Incoming) :
    (rendered entry).role = .model ↔ entry.role = some "assistant" := by
  by_cases h : entry.role = some "assistant" <;> simp [rendered, h]

theorem userTexts_append (contents contents' : List Content) :
    userTexts (contents ++ contents') = userTexts contents ++ userTexts contents' := by
  simp [userTexts]

theorem userTexts_map_rendered (entries : List Incoming) :
    userTexts (entries.map rendered) =
      (entries.filter (·.role ≠ some "assistant")).map (·.content) := by
  induction entries with
  | nil => rfl
  | cons entry entries ih =>
    rw [List.map_cons, ← List.singleton_append, userTexts_append, ih]
    by_cases h : entry.role = some "assistant" <;> simp [userTexts, rendered, h]

theorem ofEntries_concat (earlier : List Incoming) (last : Incoming) :
    Chat.ofEntries (earlier ++ [last]) = .ok {
      history := (earlier.dropWhile (·.role = some "assistant")).map rendered
      message := last.content } := by
  rw [Chat.ofEntries, List.getLast?_concat, List.dropLast_concat, List.dropWhile_map]
  simp only [Function.comp_def, toContent_eq_rendered, role_rendered_iff]
  rfl

/-! ## The chat of a conversation -/

section Concat

variable (earlier : List Incoming) (last : Incoming)

theorem head?_dropWhile {first : Incoming}
    (h : (earlier.dropWhile (·.role = some "assistant")).head? = some first) :
    first.role ≠ some "assistant" := by
  have hnot := List.head?_dropWhile_not (·.role = some "assistant") earlier
  rw [h] at hnot
  simpa using hnot

theorem leaves_dropWhile :
    Chat.Leaves ⟨(earlier.dropWhile (·.role = some "assistant")).map rendered, last.content⟩
      earlier last where
  message := rfl
  left_out := by
    refine ⟨(earlier.takeWhile (·.role = some "assistant")).map rendered, ?_, ?_⟩
    · rw [← List.map_append, List.takeWhile_append_dropWhile]
    · intro content hmem
      obtain ⟨entry, hentry, rfl⟩ := List.mem_map.mp hmem
      have hassistant := List.all_eq_true.mp List.all_takeWhile entry hentry
      exact (role_rendered_iff entry).mpr (by simpa using hassistant)
  opening := by
    intro first hfirst
    rw [List.head?_map] at hfirst
    obtain ⟨entry, hentry, rfl⟩ := Option.map_eq_some_iff.mp hfirst
    exact if_neg (head?_dropWhile earlier hentry)

theorem keeps_dropWhile :
    Keeps ((earlier.dropWhile (·.role = some "assistant")).map rendered ++
      [.ofText .user last.content]) earlier last where
  first_user := by
    cases hhistory : earlier.dropWhile (·.role = some "assistant") with
    | nil => exact ⟨_, rfl, rfl⟩
    | cons first rest =>
      have hfirst : first.role ≠ some "assistant" := by
        apply head?_dropWhile earlier
        rw [hhistory]
        rfl
      exact ⟨rendered first, rfl, if_neg hfirst⟩
  last_user := by rw [List.getLast?_concat]
  user_texts := by
    -- the entries that are left out are all an assistant's, so no text of the user is lost
    have hskipped : (earlier.takeWhile (·.role = some "assistant")).filter
        (·.role ≠ some "assistant") = [] := by
      rw [List.filter_eq_nil_iff]
      intro entry hentry
      simpa using List.all_eq_true.mp List.all_takeWhile entry hentry
    have hfilter : (earlier.dropWhile (·.role = some "assistant")).filter
        (·.role ≠ some "assistant") = earlier.filter (·.role ≠ some "assistant") := by
      conv => rhs; rw [← List.takeWhile_append_dropWhile (p := (·.role = some "assistant"))
        (l := earlier), List.filter_append, hskipped, List.nil_append]
    rw [userTexts_append, userTexts_map_rendered, hfilter]
    rfl
  from_user := by
    rintro before first after rfl hbefore hfirst
    rw [List.dropWhile_append_of_pos (by simpa using hbefore),
      List.dropWhile_cons_of_neg (by simpa using hfirst)]

end Concat

/-- **What a chat leaves out.** There is a chat for every conversation but the empty one. It is
about the last entry, and it leaves out what the model said before the user first spoke and
nothing else. -/
theorem ofEntries_leaves (entries : List Incoming) :
    ((∃ rejection, Chat.ofEntries entries = .error rejection) ↔ entries = []) ∧
    ∀ earlier last, entries = earlier ++ [last] →
      ∃ chat, Chat.ofEntries entries = .ok chat ∧ chat.Leaves earlier last ∧
        ∀ instruction, Keeps (chat.toRequest instruction).contents earlier last := by
  constructor
  · constructor
    · rintro ⟨rejection, hrejected⟩
      rcases List.eq_nil_or_concat entries with rfl | ⟨earlier, last, rfl⟩
      · rfl
      · rw [List.concat_eq_append, ofEntries_concat] at hrejected
        cases hrejected
    · rintro rfl
      exact ⟨_, rfl⟩
  · rintro earlier last rfl
    exact ⟨_, ofEntries_concat earlier last, leaves_dropWhile earlier last,
      fun _ => keeps_dropWhile earlier last⟩

/-- Assistants at the front, between others and at the end, an unknown role and a missing one. -/
theorem ofEntries_leaves_assistants :
    let earlier : List Incoming := [⟨some "assistant", "a"⟩, ⟨some "assistant", "b"⟩,
      ⟨some "system", "c"⟩, ⟨some "assistant", "d"⟩, ⟨none, "e"⟩]
    ∃ chat, Chat.ofEntries (earlier ++ [⟨some "assistant", "f"⟩]) = .ok chat ∧
      (chat.toRequest "i").contents =
        [.ofText .user "c", .ofText .model "d", .ofText .user "e", .ofText .user "f"] ∧
      userTexts (chat.toRequest "i").contents = ["c", "e", "f"] := by
  intro earlier
  obtain ⟨chat, hchat, -, hkeeps⟩ := (ofEntries_leaves _).2 earlier ⟨some "assistant", "f"⟩ rfl
  refine ⟨chat, hchat, ?_, ?_⟩
  · exact (hkeeps "i").from_user [⟨some "assistant", "a"⟩, ⟨some "assistant", "b"⟩]
      ⟨some "system", "c"⟩ _ rfl (by simp) (by simp)
  · rw [(hkeeps "i").user_texts]
    decide

end Relay

end GuidedChat
