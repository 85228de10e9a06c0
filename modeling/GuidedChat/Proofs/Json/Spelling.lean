import GuidedChat.Json.Token

/-! # Spelled tokens are scanned back

What `Token.spelling` writes, `Token.scanOne` reads, and it leaves what comes after
(`scanOne_spelling`). A string is read one character at a time, each from its escape
(`scanString_escape`). A number is read as a maximal run of number marks, so it has to be
followed by something that is none (`Stops`). -/

namespace GuidedChat.Json

/-! ## Numbers -/

namespace Number

theorem isMark_of_isDigit {c : Char} (h : c.isDigit = true) : isMark c = true := by
  simp [isMark, h]

theorem all_isMark_of_isDigits {cs : List Char} (h : isDigits cs = true) :
    ∀ c ∈ cs, isMark c = true := by
  intro c hc
  have hall := (Bool.and_eq_true_iff.mp h).2
  exact isMark_of_isDigit (List.all_eq_true.mp hall c hc)

theorem all_isMark_of_endsWell {cs : List Char} (h : endsWell cs = true) :
    ∀ c ∈ cs, isMark c = true := by
  cases cs with
  | nil => simp
  | cons e cs =>
    obtain ⟨he, hdigits⟩ := Bool.and_eq_true_iff.mp h
    have hmark : isMark e = true := by
      rcases Bool.or_eq_true_iff.mp he with he | he <;> simp [isMark, he]
    have htail : ∀ c ∈ cs, isMark c = true := by
      unfold unsigned at hdigits
      split at hdigits
      · intro c hc
        rcases List.mem_cons.mp hc with rfl | hc
        · rfl
        · exact all_isMark_of_isDigits hdigits c hc
      · intro c hc
        rcases List.mem_cons.mp hc with rfl | hc
        · rfl
        · exact all_isMark_of_isDigits hdigits c hc
      · exact all_isMark_of_isDigits hdigits
    intro c hc
    rcases List.mem_cons.mp hc with rfl | hc
    · exact hmark
    · exact htail c hc

/-- Marks before a point where the digits end, and marks after it. -/
theorem all_isMark_of_digits_then {cs : List Char}
    (h : ∀ c ∈ cs.dropWhile Char.isDigit, isMark c = true) : ∀ c ∈ cs, isMark c = true := by
  intro c hc
  rw [← List.takeWhile_append_dropWhile (p := Char.isDigit) (l := cs)] at hc
  rcases List.mem_append.mp hc with hc | hc
  · exact isMark_of_isDigit (List.all_eq_true.mp List.all_takeWhile c hc)
  · exact h c hc

theorem all_isMark_of_fractionWell {cs : List Char} (h : fractionWell cs = true) :
    ∀ c ∈ cs, isMark c = true := by
  unfold fractionWell at h
  split at h
  · have hends := (Bool.and_eq_true_iff.mp h).2
    intro c hc
    rcases List.mem_cons.mp hc with rfl | hc
    · rfl
    · exact all_isMark_of_digits_then (all_isMark_of_endsWell hends) c hc
  · exact all_isMark_of_endsWell h

theorem all_isMark_of_wholeWell {cs : List Char} (h : wholeWell cs = true) :
    ∀ c ∈ cs, isMark c = true := by
  unfold wholeWell at h
  split at h
  · cases h
  · intro c hc
    rcases List.mem_cons.mp hc with rfl | hc
    · rfl
    · exact all_isMark_of_fractionWell h c hc
  · obtain ⟨hdigit, hrest⟩ := Bool.and_eq_true_iff.mp h
    intro c hc
    rcases List.mem_cons.mp hc with rfl | hc
    · exact isMark_of_isDigit hdigit
    · exact all_isMark_of_digits_then (all_isMark_of_fractionWell hrest) c hc

theorem wholeWell_head {cs : List Char} (h : wholeWell cs = true) :
    ∃ c rest, cs = c :: rest ∧ c.isDigit = true := by
  unfold wholeWell at h
  split at h
  · cases h
  · exact ⟨_, _, rfl, rfl⟩
  · exact ⟨_, _, rfl, (Bool.and_eq_true_iff.mp h).1⟩

/-- A literal begins with a sign or a digit, and nothing but marks stands in it. -/
theorem literal_eq_cons (n : Number) :
    (∃ c rest, n.literal = c :: rest ∧ (c = '-' ∨ c.isDigit = true)) ∧
      ∀ c ∈ n.literal, isMark c = true := by
  have hspelled := n.spelled
  unfold isSpelled at hspelled
  split at hspelled
  · rename_i cs hliteral
    rw [hliteral]
    refine ⟨⟨_, _, rfl, .inl rfl⟩, ?_⟩
    intro c hc
    rcases List.mem_cons.mp hc with rfl | hc
    · rfl
    · exact all_isMark_of_wholeWell hspelled c hc
  · obtain ⟨c, rest, hliteral, hdigit⟩ := wholeWell_head hspelled
    exact ⟨⟨c, rest, hliteral, .inr hdigit⟩, all_isMark_of_wholeWell hspelled⟩

end Number

/-- A number that stands before these characters ends where they begin. -/
def Stops (rest : List Char) : Prop := ∀ c, rest.head? = some c → Number.isMark c = false

theorem takeWhile_append_stops {cs rest : List Char} (h : ∀ c ∈ cs, Number.isMark c = true)
    (hrest : Stops rest) :
    (cs ++ rest).takeWhile Number.isMark = cs ∧
      (cs ++ rest).dropWhile Number.isMark = rest := by
  rw [List.takeWhile_append_of_pos h, List.dropWhile_append_of_pos h]
  cases rest with
  | nil => simp
  | cons c rest => simp [hrest c rfl]

namespace Token

/-! ## Strings -/

theorem hexValue?_digitChar : ∀ n < 16, hexValue? (Nat.digitChar n) = some n := by
  decide

/-- A character is escaped by a letter, by its number, or not at all. -/
theorem escape_cases (c : Char) :
    (∃ e, escape c = ['\\', e] ∧ e ≠ 'u' ∧ unescape? e = some c) ∨
    (c.toNat < 0x20 ∧ escape c = ['\\', 'u', '0', '0', Nat.digitChar (c.toNat / 16 % 16),
      Nat.digitChar (c.toNat % 16)]) ∨
    (c ≠ '"' ∧ c ≠ '\\' ∧ 0x20 ≤ c.toNat ∧ escape c = [c]) := by
  by_cases h : c ∈ ['"', '\\', '\n', '\r', '\t', '\x08', '\x0c']
  · left
    simp only [List.mem_cons, List.not_mem_nil, or_false] at h
    rcases h with rfl | rfl | rfl | rfl | rfl | rfl | rfl <;> exact ⟨_, rfl, by decide, rfl⟩
  · right
    simp only [List.mem_cons, List.not_mem_nil, or_false, not_or] at h
    obtain ⟨hquote, hslash, hn, hr, ht, hb, hf⟩ := h
    rw [escape, if_neg hquote, if_neg hslash, if_neg hn, if_neg hr, if_neg ht, if_neg hb,
      if_neg hf]
    by_cases hcontrol : c.toNat < 0x20
    · exact .inl ⟨hcontrol, if_pos hcontrol⟩
    · exact .inr ⟨hquote, hslash, by omega, if_neg hcontrol⟩

theorem unit?_digitChar {n : Nat} (h : n < 0x20) :
    unit? '0' '0' (Nat.digitChar (n / 16 % 16)) (Nat.digitChar (n % 16)) = some n := by
  rw [unit?, hexValue?_digitChar _ (by omega), hexValue?_digitChar _ (by omega),
    show hexValue? '0' = some 0 from rfl]
  simp
  omega

/-- A number that is half of no pair names its character. -/
theorem unit_toNat (text : String) {c : Char} (h : c.toNat < 0x20) :
    Draft.unit { text := some text } c.toNat = { text := some (text.push c) } := by
  have hhigh : ¬(0xD800 ≤ c.toNat ∧ c.toNat ≤ 0xDBFF) := by omega
  have hlow : ¬(0xDC00 ≤ c.toNat ∧ c.toNat ≤ 0xDFFF) := by omega
  simp only [Draft.unit, if_neg hhigh, if_neg hlow, Char.ofNat_toNat]
  rfl

theorem scanString_unescape (draft : Draft) {e c : Char} (hu : e ≠ 'u')
    (he : unescape? e = some c) (rest : List Char) :
    scanString draft ('\\' :: e :: rest) = scanString (draft.char c) rest := by
  rw [scanString]
  · simp only [he]
  · intro a b c d rest h
    exact absurd h hu

theorem scanString_plain (draft : Draft) {c : Char} (hquote : c ≠ '"') (hslash : c ≠ '\\')
    (hplain : 0x20 ≤ c.toNat) (rest : List Char) :
    scanString draft (c :: rest) = scanString (draft.char c) rest := by
  rw [scanString]
  · have hbad : (decide (c.toNat < 32) || c == '\\') = false := by
      simp only [Bool.or_eq_false_iff, decide_eq_false_iff_not, beq_eq_false_iff_ne]
      exact ⟨by omega, hslash⟩
    rw [hbad]
    rfl
  · exact hquote
  · intro a b c d rest h
    exact absurd h hslash
  · intro e rest h
    exact absurd h hslash

/-- A character is read from its escape, unless half of a pair waits for the other. -/
theorem scanString_escape (text : String) (c : Char) (rest : List Char) :
    scanString { text := some text } (escape c ++ rest) =
      scanString { text := some (text.push c) } rest := by
  rcases escape_cases c with ⟨e, hescape, hu, he⟩ | ⟨hcontrol, hescape⟩ |
    ⟨hquote, hslash, hplain, hescape⟩
  · rw [hescape]
    exact scanString_unescape _ hu he rest
  · rw [hescape]
    simp only [List.cons_append, List.nil_append, scanString, unit?_digitChar hcontrol,
      unit_toNat text hcontrol]
  · rw [hescape]
    exact scanString_plain _ hquote hslash hplain rest

theorem scanString_flatMap_escape (text : String) (cs rest : List Char) :
    scanString { text := some text } (cs.flatMap escape ++ '"' :: rest) =
      some (some (text ++ String.ofList cs), rest) := by
  induction cs generalizing text with
  | nil => simp [scanString, Draft.close]
  | cons c cs ih =>
    rw [List.flatMap_cons, List.append_assoc, scanString_escape, ih]
    simp [← String.toList_inj]

theorem scanString_stringBody (text : Option String) (rest : List Char) :
    scanString {} (stringBody text ++ '"' :: rest) = some (text, rest) := by
  cases text with
  | none => rfl
  | some text =>
    have h := scanString_flatMap_escape "" text.toList rest
    simpa [stringBody] using h

/-! ## Tokens -/

/-- After a sign or a digit comes a number. -/
theorem scanOne_number {c : Char} (h : c = '-' ∨ c.isDigit = true) (cs : List Char) :
    scanOne (c :: cs) =
      (Number.of? ((c :: cs).takeWhile Number.isMark)).map fun n =>
        (number n, (c :: cs).dropWhile Number.isMark) := by
  unfold scanOne
  split
  case h_11 => rfl
  all_goals
    rename_i heq
    obtain ⟨rfl, -⟩ := List.cons.inj heq
    exact absurd h (by decide)

theorem scanOne_spelling (token : Token) (rest : List Char)
    (h : ∀ n, token = .number n → Stops rest) :
    scanOne (token.spelling ++ rest) = some (token, rest) := by
  cases token with
  | number n =>
    obtain ⟨⟨c, cs, hliteral, hc⟩, hmarks⟩ := n.literal_eq_cons
    obtain ⟨htake, hdrop⟩ := takeWhile_append_stops hmarks (h n rfl)
    rw [hliteral, List.cons_append] at htake hdrop
    rw [spelling, hliteral, List.cons_append, scanOne_number hc, htake, hdrop, ← hliteral,
      Number.of?_literal]
    rfl
  | string text =>
    have hscan := scanString_stringBody text rest
    simp [spelling, scanOne, hscan]
  | bool b => cases b <;> rfl
  | openArray => rfl
  | closeArray => rfl
  | openObject => rfl
  | closeObject => rfl
  | comma => rfl
  | colon => rfl
  | null => rfl

/-- No token is spelled with a space in front, and none is spelled with nothing. -/
theorem spelling_eq_cons (token : Token) :
    ∃ c cs, token.spelling = c :: cs ∧ isSpace c = false := by
  cases token with
  | number n =>
    obtain ⟨⟨c, cs, hliteral, hc⟩, -⟩ := n.literal_eq_cons
    refine ⟨c, cs, hliteral, ?_⟩
    rcases hc with rfl | hc
    · rfl
    · simp only [isSpace, Bool.or_eq_false_iff, beq_eq_false_iff_ne, ne_eq]
      refine ⟨⟨⟨?_, ?_⟩, ?_⟩, ?_⟩ <;> rintro rfl <;> revert hc <;> decide
  | bool b => cases b <;> exact ⟨_, _, rfl, rfl⟩
  | openArray | closeArray | openObject | closeObject | comma | colon | null | string text =>
    exact ⟨_, _, rfl, rfl⟩

theorem scanFrom_spelling (done : List Token) (token : Token) (rest : List Char)
    (h : ∀ n, token = .number n → Stops rest) :
    scanFrom done (token.spelling ++ rest) = scanFrom (token :: done) rest := by
  have hscan := scanOne_spelling token rest h
  obtain ⟨c, cs, hspelling, hspace⟩ := token.spelling_eq_cons
  rw [hspelling, List.cons_append] at hscan ⊢
  rw [scanFrom, hspace, if_neg (by decide)]
  split
  · rename_i token' rest' hscan'
    rw [hscan] at hscan'
    cases hscan'
    rfl
  · rename_i hscan'
    rw [hscan] at hscan'
    cases hscan'

/-! ## What tokens are spelled with -/

theorem plain_of_isMark {c : Char} (h : Number.isMark c = true) : 0x20 ≤ c.toNat := by
  simp only [Number.isMark, Bool.or_eq_true, beq_iff_eq] at h
  rcases h with ((((hdigit | rfl) | rfl) | rfl) | rfl) | rfl
  · obtain ⟨hlow, -⟩ := Bool.and_eq_true_iff.mp hdigit
    have hzero : (48 : UInt32) ≤ c.val := by simpa using hlow
    exact Nat.le_trans (by decide) (UInt32.le_iff_toNat_le.mp hzero)
  all_goals decide

theorem plain_of_unescape? {e c : Char} (h : unescape? e = some c) : 0x20 ≤ e.toNat := by
  unfold unescape? at h
  split at h
  all_goals first | decide | cases h

theorem plain_digitChar : ∀ n < 16, 0x20 ≤ (Nat.digitChar n).toNat := by
  decide

/-- Every control is escaped. -/
theorem escape_plain (c : Char) : ∀ d ∈ escape c, 0x20 ≤ d.toNat := by
  rcases escape_cases c with ⟨e, hescape, -, he⟩ | ⟨-, hescape⟩ | ⟨-, -, hplain, hescape⟩
  · rw [hescape, List.forall_mem_cons, List.forall_mem_singleton]
    exact ⟨by decide, plain_of_unescape? he⟩
  · rw [hescape]
    simp only [List.forall_mem_cons]
    exact ⟨by decide, by decide, by decide, by decide, plain_digitChar _ (Nat.mod_lt _ (by decide)),
      plain_digitChar _ (Nat.mod_lt _ (by decide)), by simp⟩
  · rw [hescape, List.forall_mem_singleton]
    exact hplain

/-- No control stands in the spelling of a token. -/
theorem spelling_plain (token : Token) : ∀ c ∈ token.spelling, 0x20 ≤ c.toNat := by
  cases token with
  | number n => exact fun c hc => plain_of_isMark (n.literal_eq_cons.2 c hc)
  | string text =>
    have hbody : ∀ c ∈ stringBody text, 0x20 ≤ c.toNat := by
      cases text with
      | none => simp [stringBody]
      | some text =>
        intro c hc
        obtain ⟨d, -, hc⟩ := List.mem_flatMap.mp hc
        exact escape_plain d c hc
    rw [spelling, List.cons_append, List.forall_mem_cons, List.forall_mem_append,
      List.forall_mem_singleton]
    exact ⟨by decide, hbody, by decide⟩
  | bool b => cases b <;> simp [spelling]
  | openArray | closeArray | openObject | closeObject | comma | colon | null => simp [spelling]

end Token

end GuidedChat.Json
