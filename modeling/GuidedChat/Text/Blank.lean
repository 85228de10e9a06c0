/-! The characters with the Unicode property White_Space, and text without them
at its ends. The table is closed: twenty-five characters in ten ranges. -/

namespace GuidedChat.Text

/-- The ranges of White_Space, in code point order. -/
def blankRanges : List (Nat × Nat) :=
  [(0x9, 0xD), (0x20, 0x20), (0x85, 0x85), (0xA0, 0xA0), (0x1680, 0x1680),
    (0x2000, 0x200A), (0x2028, 0x2029), (0x202F, 0x202F), (0x205F, 0x205F), (0x3000, 0x3000)]

def isBlank (c : Char) : Bool :=
  blankRanges.any fun (low, high) => low ≤ c.toNat && c.toNat ≤ high

theorem isBlank_of_isWhitespace {c : Char} (h : c.isWhitespace = true) : isBlank c = true := by
  simp only [Char.isWhitespace, Bool.or_eq_true, decide_eq_true_eq] at h
  rcases h with ((h | h) | h) | h <;> subst h <;> decide

def trim (text : String) : String :=
  String.ofList ((text.toList.dropWhile isBlank).reverse.dropWhile isBlank).reverse

/-- Nothing but blanks, or nothing at all. -/
def isBlankText (text : String) : Bool :=
  text.toList.all isBlank

private theorem dropWhile_eq_nil {p : Char → Bool} :
    ∀ {cs : List Char}, cs.dropWhile p = [] ↔ ∀ c ∈ cs, p c = true
  | [] => by simp
  | c :: cs => by
    by_cases h : p c <;> simp [h, dropWhile_eq_nil]

theorem trim_eq_empty_iff (text : String) : trim text = "" ↔ isBlankText text = true := by
  have key : ((text.toList.dropWhile isBlank).reverse.dropWhile isBlank).reverse = [] ↔
      isBlankText text = true := by
    rw [List.reverse_eq_nil_iff, dropWhile_eq_nil, isBlankText, List.all_eq_true]
    constructor
    · intro h
      have hnil : text.toList.dropWhile isBlank = [] := by
        cases hd : text.toList.dropWhile isBlank with
        | nil => rfl
        | cons c cs =>
          have hc : isBlank c = true := h c (by simp [hd])
          have := List.head_dropWhile_not isBlank (l := text.toList) (by simp [hd])
          simp [hd, hc] at this
      exact dropWhile_eq_nil.1 hnil
    · intro h c hc
      have : text.toList.dropWhile isBlank = [] := dropWhile_eq_nil.2 h
      simp [this] at hc
  rw [← key, trim]
  constructor
  · intro h
    simpa using congrArg String.toList h
  · intro h
    rw [h]

private theorem dropWhile_eq_self {p : Char → Bool} {cs : List Char}
    (h : ∀ c, cs.head? = some c → p c = false) : cs.dropWhile p = cs := by
  cases cs with
  | nil => rfl
  | cons c cs => simp [h c rfl]

private theorem head?_dropWhile {p : Char → Bool} {cs : List Char} {c : Char}
    (h : (cs.dropWhile p).head? = some c) : p c = false := by
  have hnot := List.head?_dropWhile_not p cs
  rw [h] at hnot
  simpa using hnot

/-- What is trimmed stays as it is when it is trimmed again. -/
theorem trim_trim (text : String) : trim (trim text) = trim text := by
  unfold trim
  rw [String.toList_ofList]
  generalize hd : text.toList.dropWhile isBlank = inner
  -- the text without the blanks at its end begins like `inner`, whose head is no blank
  have hfront : ∀ c, (inner.reverse.dropWhile isBlank).reverse.head? = some c →
      isBlank c = false := by
    intro c hc
    obtain ⟨tail, htail⟩ := List.dropWhile_suffix isBlank (l := inner.reverse)
    have hinner : inner = (inner.reverse.dropWhile isBlank).reverse ++ tail.reverse := by
      have := congrArg List.reverse htail
      simpa using this.symm
    have hhead : inner.head? = some c := by
      rw [hinner, List.head?_append, hc]
      rfl
    rw [← hd] at hhead
    exact head?_dropWhile hhead
  rw [dropWhile_eq_self hfront, List.reverse_reverse,
    dropWhile_eq_self fun c hc => head?_dropWhile hc]

/-- Trimming takes only blanks from a text. -/
theorem exists_eq_append_trim (text : String) :
    ∃ before after, isBlankText before = true ∧ isBlankText after = true ∧
      text = before ++ trim text ++ after := by
  let inner := text.toList.dropWhile isBlank
  refine ⟨String.ofList (text.toList.takeWhile isBlank),
    String.ofList (inner.reverse.takeWhile isBlank).reverse, ?_, ?_, ?_⟩
  · rw [isBlankText, String.toList_ofList, List.all_takeWhile]
  · rw [isBlankText, String.toList_ofList, List.all_reverse, List.all_takeWhile]
  · have hinner : (inner.reverse.dropWhile isBlank).reverse ++
        (inner.reverse.takeWhile isBlank).reverse = inner := by
      rw [← List.reverse_append, List.takeWhile_append_dropWhile, List.reverse_reverse]
    rw [← String.toList_inj]
    simp only [trim, String.toList_append, String.toList_ofList]
    rw [List.append_assoc, hinner, List.takeWhile_append_dropWhile]

end GuidedChat.Text
