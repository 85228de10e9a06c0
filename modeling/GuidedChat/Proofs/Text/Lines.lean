import GuidedChat.Text.Lines

/-! # Lines and their ends

Bytes are lines one after the other, each with a line feed at its end or a carriage return and a
line feed, and perhaps one more line without an end (`Lined`). There is one way to take them so,
and `lines` finds it (`lines_eq_iff`). -/

namespace GuidedChat.Text

/-- The bytes are these lines with their ends. What ends with a carriage return before the line
feed is a line without it. -/
inductive Lined : List UInt8 → List (List UInt8) → Prop
  | nil : Lined [] []
  | last {line : List UInt8} : line ≠ [] → 0x0A ∉ line → Lined line [line]
  | lineFeed {line rest : List UInt8} {more : List (List UInt8)} : 0x0A ∉ line →
      line.getLast? ≠ some 0x0D → Lined rest more → Lined (line ++ 0x0A :: rest) (line :: more)
  | carriageReturn {line rest : List UInt8} {more : List (List UInt8)} : 0x0A ∉ line →
      Lined rest more → Lined (line ++ 0x0D :: 0x0A :: rest) (line :: more)

theorem linesFrom_cons (done : List (List UInt8)) (line : List UInt8) {b : UInt8}
    (h : b ≠ 0x0A) (rest : List UInt8) :
    linesFrom done line (b :: rest) = linesFrom done (b :: line) rest := by
  rw [linesFrom]
  exact h

/-- Bytes before the next line feed belong to the line that has begun. -/
theorem linesFrom_append (done : List (List UInt8)) (line : List UInt8) {front : List UInt8}
    (h : 0x0A ∉ front) (rest : List UInt8) :
    linesFrom done line (front ++ rest) = linesFrom done (front.reverse ++ line) rest := by
  induction front generalizing line with
  | nil => rfl
  | cons b front ih =>
    rw [List.mem_cons, not_or] at h
    rw [List.cons_append, linesFrom_cons done line (Ne.symm h.1), ih _ h.2]
    simp

theorem endedLine_reverse {line : List UInt8} (h : line.getLast? ≠ some 0x0D) :
    endedLine line.reverse = line := by
  rw [← List.head?_reverse] at h
  unfold endedLine
  split
  · rename_i heq
    rw [heq] at h
    exact absurd rfl h
  · exact List.reverse_reverse line

theorem Lined.linesFrom_eq {bytes : List UInt8} {found : List (List UInt8)}
    (h : Lined bytes found) (done : List (List UInt8)) :
    linesFrom done [] bytes = done.reverse ++ found := by
  induction h generalizing done with
  | nil => simp [linesFrom]
  | @last line hne hline =>
    have hend := linesFrom_append done [] hline []
    rw [List.append_nil, List.append_nil] at hend
    rw [hend, linesFrom]
    simp [hne]
  | lineFeed hline hlast _ ih =>
    rw [linesFrom_append done [] hline, List.append_nil, linesFrom, endedLine_reverse hlast, ih]
    simp
  | carriageReturn hline _ ih =>
    rw [linesFrom_append done [] hline, List.append_nil, linesFrom_cons _ _ (by decide), linesFrom,
      endedLine, List.reverse_reverse, ih]
    simp

/-- Whatever has begun, the bytes after it make up lines with it. -/
theorem exists_lined (done : List (List UInt8)) (line : List UInt8) (h : 0x0A ∉ line)
    (bytes : List UInt8) :
    ∃ found, linesFrom done line bytes = done.reverse ++ found ∧
      Lined (line.reverse ++ bytes) found := by
  induction bytes generalizing done line with
  | nil =>
    cases line with
    | nil => exact ⟨[], by simp [linesFrom], .nil⟩
    | cons b line =>
      refine ⟨[(b :: line).reverse], by simp [linesFrom], ?_⟩
      rw [List.append_nil]
      exact .last (by simp) (by rwa [List.mem_reverse])
  | cons b bytes ih =>
    by_cases hb : b = 0x0A
    · subst hb
      obtain ⟨found, hfound, hlined⟩ := ih (endedLine line :: done) [] List.not_mem_nil
      refine ⟨endedLine line :: found, by rw [linesFrom, hfound]; simp, ?_⟩
      cases line with
      | nil => exact .lineFeed List.not_mem_nil (by simp) hlined
      | cons c line =>
        rw [List.mem_cons, not_or] at h
        by_cases hc : c = 0x0D
        · subst hc
          rw [List.reverse_cons, List.append_assoc]
          exact .carriageReturn (by rw [List.mem_reverse]; exact h.2) hlined
        · have hended : endedLine (c :: line) = (c :: line).reverse := by
            rw [endedLine]
            simpa using hc
          rw [hended]
          refine .lineFeed ?_ ?_ hlined
          · rw [List.mem_reverse, List.mem_cons, not_or]
            exact h
          · simpa using hc
    · obtain ⟨found, hfound, hlined⟩ := ih done (b :: line) (by
        rw [List.mem_cons, not_or]
        exact ⟨Ne.symm hb, h⟩)
      refine ⟨found, by rw [linesFrom_cons done line hb, hfound], ?_⟩
      rw [List.reverse_cons, List.append_assoc] at hlined
      exact hlined

theorem lines_eq_iff {bytes : List UInt8} {found : List (List UInt8)} :
    lines bytes = found ↔ Lined bytes found := by
  constructor
  · rintro rfl
    obtain ⟨found, hfound, hlined⟩ := exists_lined [] [] List.not_mem_nil bytes
    rw [lines, hfound]
    exact hlined
  · intro h
    exact h.linesFrom_eq []

end GuidedChat.Text
