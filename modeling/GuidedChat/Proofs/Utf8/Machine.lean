import GuidedChat.Text.Utf8

/-! # The machine on whole lists of bytes

`lossy` steps the machine of `State.step` through its bytes and collects text on the way.
Here the machine runs on lists, so that a run over two parts is a run over the first and
then over the second (`State.run_append`), and what `Front.of` finds at the front of some
bytes is compared with what the machine makes of them (`Front.of_agrees`). Both readings
therefore give one text, and the bytes that write a text are read back as that text. -/

namespace GuidedChat.Utf8

/-! ## Runs -/

/-- The state after some bytes, and the characters that they complete. -/
def State.run (state : State) : List UInt8 → State × List Char
  | [] => (state, [])
  | b :: bytes =>
    let next := state.step b
    let last := next.1.run bytes
    (last.1, next.2 ++ last.2)

@[simp] theorem State.run_nil (state : State) : state.run [] = (state, []) := rfl

theorem State.run_cons (state : State) (b : UInt8) (bytes : List UInt8) :
    state.run (b :: bytes) =
      (((state.step b).1.run bytes).1, (state.step b).2 ++ ((state.step b).1.run bytes).2) := rfl

theorem State.run_append (state : State) (first second : List UInt8) :
    state.run (first ++ second) =
      (((state.run first).1.run second).1,
        (state.run first).2 ++ ((state.run first).1.run second).2) := by
  induction first generalizing state with
  | nil => simp
  | cons b first ih => simp [State.run_cons, ih]

theorem foldl_push (text : String) (chars : List Char) :
    chars.foldl String.push text = text ++ String.ofList chars := by
  induction chars generalizing text with
  | nil => simp
  | cons c chars ih =>
    rw [List.foldl_cons, ih]
    apply String.toList_inj.mp
    simp

/-- The loop of `lossy` is a run of the machine. -/
theorem foldl_step (state : State) (text : String) (bytes : List UInt8) :
    bytes.foldl
        (fun (acc : State × String) b =>
          ((State.step acc.1 b).1, (State.step acc.1 b).2.foldl String.push acc.2))
        (state, text) =
      ((state.run bytes).1, text ++ String.ofList (state.run bytes).2) := by
  induction bytes generalizing state text with
  | nil => simp
  | cons b bytes ih =>
    rw [List.foldl_cons, ih, State.run_cons, foldl_push]
    simp [String.ofList_append, String.append_assoc]

theorem toList_lossy (bytes : List UInt8) :
    (lossy bytes).toList = (State.ground.run bytes).2 ++ (State.ground.run bytes).1.rest := by
  have h : lossy bytes = (State.ground.run bytes).1.rest.foldl String.push
      ("" ++ String.ofList (State.ground.run bytes).2) := by
    have hf := foldl_step .ground "" bytes
    unfold lossy
    rw [hf]
  rw [h, foldl_push]
  simp

/-! ## Fronts -/

/-- What the machine makes of bytes, from between characters, is what was found at their
front, followed by what it makes of the others. -/
def Front.Agrees (front : Front) (made : State × List Char) : Prop :=
  match front with
  | .char c rest => made = ((State.ground.run rest).1, c :: (State.ground.run rest).2)
  | .broken rest => made = ((State.ground.run rest).1, replacement :: (State.ground.run rest).2)
  | .unfinished => made.2 = []

theorem Front.collect_agrees (owed : Nat) (low high : UInt8) (bits : Nat)
    (bytes : List UInt8) :
    (Front.collect bits low high (owed + 1) bytes).Agrees
      ((State.inside owed low high bits).run bytes) := by
  induction owed generalizing low high bits bytes with
  | zero =>
    cases bytes with
    | nil => rfl
    | cons b rest =>
      simp only [Front.collect]
      split <;> rename_i h <;> simp [Front.Agrees, State.run_cons, State.step, h]
  | succ owed ih =>
    cases bytes with
    | nil => rfl
    | cons b rest =>
      rw [Front.collect]
      split
      · rename_i h
        have hrun : (State.inside (owed + 1) low high bits).run (b :: rest) =
            (State.inside owed 0x80 0xBF (bits * 64 + b.toNat % 64)).run rest := by
          simp [State.run_cons, State.step, h]
        rw [hrun]
        exact ih ..
      · rename_i h
        simp [Front.Agrees, State.run_cons, State.step, h]

theorem Front.of_agrees (b : UInt8) (rest : List UInt8) :
    (Front.of b rest).Agrees (State.ground.run (b :: rest)) := by
  simp only [Front.of, State.run_cons, State.step, State.begin]
  split
  · rename_i h
    simp [Front.Agrees, h]
  · rename_i lead h
    obtain ⟨owed, low, high, bits⟩ := lead
    rw [h]
    cases owed with
    | zero => simp [Front.collect, Front.Agrees]
    | succ owed => simpa using Front.collect_agrees owed low high bits rest

/-! ## Written text

The four ways to write a character differ in their first byte only. Its row of the table
says how many bytes it owes, and it bounds the second byte so tightly that only the bytes
of a character pass. -/

theorem Lead.of?_one : ∀ n < 0x80, Lead.of? (UInt8.ofNat n) = some ⟨0, 0x80, 0xBF, n⟩ := by
  decide +kernel

theorem Lead.of?_two : ∀ n < 0xE0, 0xC2 ≤ n →
    Lead.of? (UInt8.ofNat n) = some ⟨1, 0x80, 0xBF, n - 0xC0⟩ := by
  decide +kernel

theorem Lead.of?_three : ∀ n < 0xF0, 0xE0 ≤ n → Lead.of? (UInt8.ofNat n) =
    some ⟨2, if n = 0xE0 then 0xA0 else 0x80, if n = 0xED then 0x9F else 0xBF, n - 0xE0⟩ := by
  decide +kernel

theorem Lead.of?_four : ∀ n < 0xF5, 0xF0 ≤ n → Lead.of? (UInt8.ofNat n) =
    some ⟨3, if n = 0xF0 then 0x90 else 0x80, if n = 0xF4 then 0x8F else 0xBF, n - 0xF0⟩ := by
  decide +kernel

theorem Front.collect_ofNat {bits owed n : Nat} {low high : UInt8} (rest : List UInt8)
    (hn : n < 256) (hlow : low.toNat ≤ n) (hhigh : n ≤ high.toNat) :
    Front.collect bits low high (owed + 1) (UInt8.ofNat n :: rest) =
      Front.collect (bits * 64 + n % 64) 0x80 0xBF owed rest := by
  have hto : (UInt8.ofNat n).toNat = n := by simp [Nat.mod_eq_of_lt hn]
  have hin : low ≤ UInt8.ofNat n ∧ UInt8.ofNat n ≤ high := by
    rw [UInt8.le_iff_toNat_le, UInt8.le_iff_toNat_le, hto]
    exact ⟨hlow, hhigh⟩
  rw [Front.collect, if_pos hin, hto]

theorem Front.of_encodeChar (c : Char) (rest : List UInt8) :
    ∃ b bytes, String.utf8EncodeChar c = b :: bytes ∧
      Front.of b (bytes ++ rest) = .char c rest := by
  have hvalid : c.toNat < 0xD800 ∨ 0xDFFF < c.toNat ∧ c.toNat < 0x110000 := c.valid
  have hback : Char.ofNat c.toNat = c := Char.ofNat_toNat c
  generalize hv : c.toNat = v at hvalid hback
  have hval : c.val.toNat = v := hv
  unfold String.utf8EncodeChar
  simp only [hval]
  -- one case for each number of bytes: the lead keeps the top bits, each further byte six more
  split
  · refine ⟨_, _, rfl, ?_⟩
    simp [Front.of, Lead.of?_one v (by omega), Front.collect, hback]
  split
  · refine ⟨_, _, rfl, ?_⟩
    simp only [Front.of, Lead.of?_two (v / 64 % 32 + 0xC0) (by omega) (by omega),
      List.cons_append, List.nil_append]
    rw [Front.collect_ofNat rest (by omega) (by simp) (by simp; omega), Front.collect]
    rw [show (v / 64 % 32 + 0xC0 - 0xC0) * 64 + (v % 64 + 0x80) % 64 = v by omega, hback]
  split
  · refine ⟨_, _, rfl, ?_⟩
    have hlow : (if v / 4096 % 16 + 0xE0 = 0xE0 then 0xA0 else 0x80 : UInt8).toNat ≤ v / 64 % 64 + 0x80 := by
      split
      · simp
        omega
      · simp
    have hhigh : v / 64 % 64 + 0x80 ≤ (if v / 4096 % 16 + 0xE0 = 0xED then 0x9F else 0xBF : UInt8).toNat := by
      split
      · simp
        omega
      · simp
        omega
    simp only [Front.of, Lead.of?_three (v / 4096 % 16 + 0xE0) (by omega) (by omega),
      List.cons_append, List.nil_append]
    rw [Front.collect_ofNat _ (by omega) hlow hhigh,
      Front.collect_ofNat rest (by omega) (by simp) (by simp; omega), Front.collect]
    rw [show ((v / 4096 % 16 + 0xE0 - 0xE0) * 64 + (v / 64 % 64 + 0x80) % 64) * 64 +
      (v % 64 + 0x80) % 64 = v by omega, hback]
  · refine ⟨_, _, rfl, ?_⟩
    have hlow : (if v / 262144 % 8 + 0xF0 = 0xF0 then 0x90 else 0x80 : UInt8).toNat ≤ v / 4096 % 64 + 0x80 := by
      split
      · simp
        omega
      · simp
    have hhigh : v / 4096 % 64 + 0x80 ≤ (if v / 262144 % 8 + 0xF0 = 0xF4 then 0x8F else 0xBF : UInt8).toNat := by
      split
      · simp
        omega
      · simp
        omega
    simp only [Front.of, Lead.of?_four (v / 262144 % 8 + 0xF0) (by omega) (by omega),
      List.cons_append, List.nil_append]
    rw [Front.collect_ofNat _ (by omega) hlow hhigh,
      Front.collect_ofNat _ (by omega) (by simp) (by simp; omega),
      Front.collect_ofNat rest (by omega) (by simp) (by simp; omega), Front.collect]
    rw [show (((v / 262144 % 8 + 0xF0 - 0xF0) * 64 + (v / 4096 % 64 + 0x80) % 64) * 64 +
      (v / 64 % 64 + 0x80) % 64) * 64 + (v % 64 + 0x80) % 64 = v by omega, hback]

theorem State.run_encodeChar (c : Char) (rest : List UInt8) :
    State.ground.run (String.utf8EncodeChar c ++ rest) =
      ((State.ground.run rest).1, c :: (State.ground.run rest).2) := by
  obtain ⟨b, bytes, henc, hfront⟩ := Front.of_encodeChar c rest
  have h := Front.of_agrees b (bytes ++ rest)
  rw [hfront] at h
  rw [henc]
  exact h

theorem State.run_encode (text : String) :
    State.ground.run (encode text) = (.ground, text.toList) := by
  unfold encode
  induction text.toList with
  | nil => rfl
  | cons c chars ih => rw [List.flatMap_cons, State.run_encodeChar, ih]

theorem encode_join (texts : List String) :
    encode (String.join texts) = (texts.map encode).flatten := by
  induction texts with
  | nil => rfl
  | cons text texts ih => rw [String.join_cons, encode_append, ih, List.map_cons, List.flatten_cons]

/-- Written text is read back as it was, with no mark in it. -/
theorem lossy_encode (text : String) : lossy (encode text) = text := by
  apply String.toList_inj.mp
  rw [toList_lossy, State.run_encode]
  simp [State.rest]

theorem leading_go_encode (text : String) (chars : List Char) :
    leading.go text (chars.flatMap String.utf8EncodeChar) =
      (text ++ String.ofList chars, true) := by
  induction chars generalizing text with
  | nil => simp [leading.go]
  | cons c chars ih =>
    obtain ⟨b, bytes, henc, hfront⟩ :=
      Front.of_encodeChar c (chars.flatMap String.utf8EncodeChar)
    rw [List.flatMap_cons, henc, List.cons_append, leading.go]
    split
    · rename_i c' after h
      rw [hfront] at h
      cases h
      rw [ih]
      simp [String.toList_inj.symm]
    · rename_i h
      rw [hfront] at h
      cases h
    · rename_i h
      rw [hfront] at h
      cases h

theorem leading_encode (text : String) : leading (encode text) = (text, true) := by
  rw [leading, encode, leading_go_encode, String.ofList_toList, String.empty_append]

theorem decode?_encode (text : String) : decode? (encode text) = some text := by
  simp [decode?, leading_encode]

theorem marked_go_char (mark text : String) {b : UInt8} {c : Char} {rest after : List UInt8}
    (h : Front.of b rest = .char c after) :
    marked.go mark text (b :: rest) = marked.go mark (text.push c) after := by
  rw [marked.go]
  split
  · rename_i hfront
    rw [h] at hfront
    cases hfront
    rfl
  · rename_i hfront
    rw [h] at hfront
    cases hfront
  · rename_i hfront
    rw [h] at hfront
    cases hfront

/-- In what was written nothing has to be marked. -/
theorem marked_encode (mark text : String) : marked mark (encode text) = text := by
  have hgo : ∀ (chars : List Char) (before : String),
      marked.go mark before (chars.flatMap String.utf8EncodeChar) =
        before ++ String.ofList chars := by
    intro chars
    induction chars with
    | nil => simp [marked.go]
    | cons c chars ih =>
      intro before
      obtain ⟨b, bytes, henc, hfront⟩ :=
        Front.of_encodeChar c (chars.flatMap String.utf8EncodeChar)
      rw [List.flatMap_cons, henc, List.cons_append, marked_go_char mark before hfront, ih]
      simp [String.toList_inj.symm]
  rw [marked, encode, hgo]
  simp

end GuidedChat.Utf8
