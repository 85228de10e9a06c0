/-! Answers by key, in the order of their keys by code point. Giving an answer again
under a key replaces the first. -/

namespace GuidedChat

structure Answers where
  entries : List (String × String) := []
  deriving DecidableEq, Repr

namespace Answers

def get? (answers : Answers) (key : String) : Option String := answers.entries.lookup key

private def place (key value : String) : List (String × String) → List (String × String)
  | [] => [(key, value)]
  | (k, v) :: rest =>
    if key = k then (key, value) :: rest
    else if key < k then (key, value) :: (k, v) :: rest
    else (k, v) :: place key value rest

def insert (answers : Answers) (key value : String) : Answers := ⟨place key value answers.entries⟩

@[simp] theorem get?_empty (key : String) : ({} : Answers).get? key = none := rfl

private theorem lookup_entry (other key value : String) (rest : List (String × String)) :
    ((key, value) :: rest).lookup other =
      if other = key then some value else rest.lookup other := by
  by_cases h : other = key
  · simp [h]
  · simp [List.lookup_cons, h, beq_false_of_ne h]

private theorem lookup_place (key value other : String) (entries : List (String × String)) :
    (place key value entries).lookup other =
      if other = key then some value else entries.lookup other := by
  induction entries with
  | nil => simp [place]
  | cons entry rest ih =>
    obtain ⟨k, v⟩ := entry
    simp only [place]
    split
    · grind [lookup_entry]
    · split <;> grind [lookup_entry]

private theorem mem_place {key value : String} {entry : String × String}
    {entries : List (String × String)} (h : entry ∈ place key value entries) :
    entry = (key, value) ∨ entry ∈ entries := by
  induction entries with
  | nil => exact .inl (List.mem_singleton.mp h)
  | cons first rest ih =>
    obtain ⟨k, v⟩ := first
    simp only [place] at h
    split at h
    · exact (List.mem_cons.mp h).imp_right (List.mem_cons_of_mem _)
    · split at h
      · exact List.mem_cons.mp h
      · rcases List.mem_cons.mp h with rfl | h
        · exact .inr List.mem_cons_self
        · exact (ih h).imp_right (List.mem_cons_of_mem _)

/-- What is inserted is the only new entry. -/
theorem mem_entries_insert {answers : Answers} {key value : String} {entry : String × String}
    (h : entry ∈ (answers.insert key value).entries) :
    entry = (key, value) ∨ entry ∈ answers.entries :=
  mem_place h

theorem get?_insert (answers : Answers) (key value other : String) :
    (answers.insert key value).get? other =
      if other = key then some value else answers.get? other :=
  lookup_place key value other answers.entries

/-- The keys are in order, so none is there twice. -/
def Sorted (answers : Answers) : Prop := answers.entries.Pairwise fun a b => a.1 < b.1

theorem sorted_empty : ({} : Answers).Sorted := .nil

private theorem pairwise_place {entries : List (String × String)}
    (h : entries.Pairwise fun a b => a.1 < b.1) (key value : String) :
    (place key value entries).Pairwise fun a b => a.1 < b.1 := by
  induction entries with
  | nil => exact List.pairwise_singleton ..
  | cons first rest ih =>
    obtain ⟨k, v⟩ := first
    obtain ⟨hfirst, hrest⟩ := List.pairwise_cons.mp h
    simp only [place]
    split
    · rename_i hsame
      subst hsame
      exact List.pairwise_cons.mpr ⟨hfirst, hrest⟩
    · rename_i hne
      split
      · rename_i hlt
        refine List.pairwise_cons.mpr ⟨?_, h⟩
        intro entry hentry
        rcases List.mem_cons.mp hentry with rfl | hentry
        · exact hlt
        · exact String.lt_trans hlt (hfirst entry hentry)
      · rename_i hge
        refine List.pairwise_cons.mpr ⟨?_, ih hrest⟩
        intro entry hentry
        rcases mem_place hentry with rfl | hentry
        · show k < key
          grind
        · exact hfirst entry hentry

theorem Sorted.insert {answers : Answers} (h : answers.Sorted) (key value : String) :
    (answers.insert key value).Sorted :=
  pairwise_place h key value

/-- What is found under a key is what is kept there. -/
theorem Sorted.mem_iff {answers : Answers} (h : answers.Sorted) (key value : String) :
    (key, value) ∈ answers.entries ↔ answers.get? key = some value := by
  obtain ⟨entries⟩ := answers
  rw [get?]
  induction entries with
  | nil => simp
  | cons first rest ih =>
    obtain ⟨k, v⟩ := first
    obtain ⟨hfirst, hrest⟩ := List.pairwise_cons.mp h
    have hlater : (key, value) ∈ rest ↔ rest.lookup key = some value := ih hrest
    rw [List.mem_cons, hlater, lookup_entry]
    by_cases hkey : key = k
    · subst hkey
      have hnone : (key, value) ∉ rest := fun hmem => String.lt_irrefl key (hfirst _ hmem)
      rw [← hlater, if_pos rfl]
      simp [hnone, eq_comm]
    · simp [hkey]

end Answers

end GuidedChat
