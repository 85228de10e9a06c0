import GuidedChat.Proofs.Utf8.Machine

/-! # Bytes that are text

A character at the front of some bytes stands there as it is written (`Front.of_eq_char`), so
bytes are text exactly if a text is written so (`decode?_eq_some_iff`). -/

namespace GuidedChat.Utf8

theorem Lead.of?_none : ∀ n < 256, (0x80 ≤ n ∧ n < 0xC2) ∨ 0xF5 ≤ n →
    Lead.of? (UInt8.ofNat n) = none := by
  decide +kernel

/-- What is known of a byte that was taken in on the way to a character. -/
theorem Front.collect_eq_char {bits owed : Nat} {low high : UInt8} {bytes after : List UInt8}
    {c : Char} (h : Front.collect bits low high (owed + 1) bytes = .char c after) :
    ∃ n rest, bytes = UInt8.ofNat n :: rest ∧ n < 256 ∧ low.toNat ≤ n ∧ n ≤ high.toNat ∧
      Front.collect (bits * 64 + n % 64) 0x80 0xBF owed rest = .char c after := by
  cases bytes with
  | nil => cases h
  | cons b rest =>
    rw [Front.collect] at h
    split at h
    · rename_i hin
      exact ⟨b.toNat, rest, by simp, UInt8.toNat_lt b, UInt8.le_iff_toNat_le.mp hin.1,
        UInt8.le_iff_toNat_le.mp hin.2, h⟩
    · cases h

theorem Front.collect_zero_eq_char {bits : Nat} {low high : UInt8} {bytes after : List UInt8}
    {c : Char} (h : Front.collect bits low high 0 bytes = .char c after) :
    Char.ofNat bits = c ∧ bytes = after := by
  rw [Front.collect] at h
  cases h
  exact ⟨rfl, rfl⟩

theorem toNat_ofNat {v : Nat} (h : v < 0xD800 ∨ 0xDFFF < v ∧ v < 0x110000) :
    (Char.ofNat v).val.toNat = v := by
  have hvalid : v.isValidChar := h
  rw [Char.ofNat, dif_pos hvalid]
  rfl

/-- A character at the front stands there as it is written. -/
theorem Front.of_eq_char {b : UInt8} {rest after : List UInt8} {c : Char}
    (h : Front.of b rest = .char c after) : b :: rest = String.utf8EncodeChar c ++ after := by
  obtain ⟨n, hn, rfl⟩ : ∃ n < 256, b = UInt8.ofNat n := ⟨b.toNat, UInt8.toNat_lt b, by simp⟩
  rw [Front.of] at h
  have hranges : n < 0x80 ∨ (0xC2 ≤ n ∧ n < 0xE0) ∨ (0xE0 ≤ n ∧ n < 0xF0) ∨
      (0xF0 ≤ n ∧ n < 0xF5) ∨ ((0x80 ≤ n ∧ n < 0xC2) ∨ 0xF5 ≤ n) := by omega
  rcases hranges with hone | ⟨hlow, htwo⟩ | ⟨hlow, hthree⟩ | ⟨hlow, hfour⟩ | hnone
  · rw [Lead.of?_one n hone] at h
    obtain ⟨rfl, rfl⟩ := Front.collect_zero_eq_char h
    simp only [String.utf8EncodeChar, toNat_ofNat (.inl (by omega : n < 0xD800))]
    rw [if_pos (by omega)]
    rfl
  · rw [Lead.of?_two n htwo hlow] at h
    obtain ⟨m, rest, rfl, -, hm, hm', h⟩ := Front.collect_eq_char h
    obtain ⟨rfl, rfl⟩ := Front.collect_zero_eq_char h
    simp at hm hm'
    simp only [String.utf8EncodeChar,
      toNat_ofNat (.inl (by omega : (n - 0xC0) * 64 + m % 64 < 0xD800))]
    rw [if_neg (by omega), if_pos (by omega),
      show ((n - 0xC0) * 64 + m % 64) / 64 % 32 + 0xC0 = n by omega,
      show ((n - 0xC0) * 64 + m % 64) % 64 + 0x80 = m by omega]
    rfl
  · rw [Lead.of?_three n hthree hlow] at h
    obtain ⟨m, rest, rfl, -, hm, hm', h⟩ := Front.collect_eq_char h
    obtain ⟨k, rest, rfl, -, hk, hk', h⟩ := Front.collect_eq_char h
    obtain ⟨rfl, rfl⟩ := Front.collect_zero_eq_char h
    dsimp only at hm hm'
    -- the second byte keeps the number out of the shorter forms and of the surrogates
    have hm : 0x80 ≤ m ∧ (n = 0xE0 → 0xA0 ≤ m) := by split at hm <;> simp at hm <;> omega
    have hm' : m ≤ 0xBF ∧ (n = 0xED → m ≤ 0x9F) := by split at hm' <;> simp at hm' <;> omega
    simp at hk hk'
    generalize hv : ((n - 0xE0) * 64 + m % 64) * 64 + k % 64 = v
    have hvalid : v < 0xD800 ∨ 0xDFFF < v ∧ v < 0x110000 := by omega
    simp only [String.utf8EncodeChar, toNat_ofNat hvalid]
    rw [if_neg (by omega), if_neg (by omega), if_pos (by omega),
      show v / 4096 % 16 + 0xE0 = n by omega, show v / 64 % 64 + 0x80 = m by omega,
      show v % 64 + 0x80 = k by omega]
    rfl
  · rw [Lead.of?_four n hfour hlow] at h
    obtain ⟨m, rest, rfl, -, hm, hm', h⟩ := Front.collect_eq_char h
    obtain ⟨k, rest, rfl, -, hk, hk', h⟩ := Front.collect_eq_char h
    obtain ⟨j, rest, rfl, -, hj, hj', h⟩ := Front.collect_eq_char h
    obtain ⟨rfl, rfl⟩ := Front.collect_zero_eq_char h
    dsimp only at hm hm'
    -- here it keeps the number out of the shorter forms and below the last character
    have hm : 0x80 ≤ m ∧ (n = 0xF0 → 0x90 ≤ m) := by split at hm <;> simp at hm <;> omega
    have hm' : m ≤ 0xBF ∧ (n = 0xF4 → m ≤ 0x8F) := by split at hm' <;> simp at hm' <;> omega
    simp at hk hk' hj hj'
    generalize hv : (((n - 0xF0) * 64 + m % 64) * 64 + k % 64) * 64 + j % 64 = v
    have hvalid : v < 0xD800 ∨ 0xDFFF < v ∧ v < 0x110000 := by omega
    simp only [String.utf8EncodeChar, toNat_ofNat hvalid]
    rw [if_neg (by omega), if_neg (by omega), if_neg (by omega),
      show v / 262144 % 8 + 0xF0 = n by omega, show v / 4096 % 64 + 0x80 = m by omega,
      show v / 64 % 64 + 0x80 = k by omega, show v % 64 + 0x80 = j by omega]
    rfl
  · rw [Lead.of?_none n hn hnone] at h
    cases h

theorem leading_go_char (text : String) {b : UInt8} {c : Char} {rest after : List UInt8}
    (h : Front.of b rest = .char c after) :
    leading.go text (b :: rest) = leading.go (text.push c) after := by
  rw [leading.go]
  split <;> simp_all

theorem leading_go_other (text : String) {b : UInt8} {rest : List UInt8}
    (h : ∀ c after, Front.of b rest ≠ .char c after) :
    leading.go text (b :: rest) = (text, false) := by
  rw [leading.go]
  split <;> simp_all

/-- A text that is all of the bytes writes them, after what was read before. -/
theorem leading_go_eq_true {text read : String} {bytes : List UInt8}
    (h : leading.go text bytes = (read, true)) : encode read = encode text ++ bytes := by
  induction text, bytes using leading.go.induct with
  | case1 text =>
    simp [leading.go] at h
    simp [h]
  | case2 text b rest c after hfront _ ih =>
    rw [leading_go_char text hfront] at h
    rw [ih h, Front.of_eq_char hfront, ← List.append_assoc]
    simp [encode]
  | case3 text b rest after hfront =>
    rw [leading_go_other text (by simp [hfront])] at h
    cases h
  | case4 text b rest hfront =>
    rw [leading_go_other text (by simp [hfront])] at h
    cases h

/-- Bytes are text exactly if a text is written so. -/
theorem decode?_eq_some_iff {bytes : List UInt8} {text : String} :
    decode? bytes = some text ↔ bytes = encode text := by
  constructor
  · intro h
    rw [decode?, leading] at h
    cases hread : leading.go "" bytes with
    | mk read whole =>
      rw [hread] at h
      cases whole with
      | false => cases h
      | true =>
        cases h
        have hencode := leading_go_eq_true hread
        rw [encode_empty, List.nil_append] at hencode
        exact hencode.symm
  · rintro rfl
    exact decode?_encode text

theorem decode?_eq_none_iff {bytes : List UInt8} :
    decode? bytes = none ↔ ∀ text, bytes ≠ encode text := by
  rw [Option.eq_none_iff_forall_ne_some]
  exact forall_congr' fun _ => not_congr decode?_eq_some_iff

end GuidedChat.Utf8
