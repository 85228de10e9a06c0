/-! UTF-8 as a byte-at-a-time reading. A first byte owes a fixed number of
further bytes, and the first of these is bounded more tightly after E0, ED, F0
and F4, so no overlong form, surrogate or number past 10FFFF is ever completed.
A byte that cannot continue what was begun closes it with one U+FFFD and is
then read afresh: each maximal ill-formed stretch becomes one mark. -/

namespace GuidedChat.Utf8

/-- The mark that stands for bytes that are no character. -/
def replacement : Char := '\uFFFD'

def encode (text : String) : List UInt8 :=
  text.toList.flatMap String.utf8EncodeChar

theorem encode_append (s t : String) : encode (s ++ t) = encode s ++ encode t := by
  simp [encode]

theorem encode_empty : encode "" = [] := rfl

/-- What a first byte promises: how many bytes are owed, the bounds of the
first of them, and the bits it carries itself. -/
structure Lead where
  owed : Nat
  low : UInt8
  high : UInt8
  bits : Nat
  deriving DecidableEq, Repr

/-- Bytes below 80 stand for themselves; 80 to C1 and F5 to FF begin nothing. -/
def Lead.of? (b : UInt8) : Option Lead :=
  let bits := b.toNat
  if b < 0x80 then some ⟨0, 0x80, 0xBF, bits⟩
  else if b < 0xC2 then none
  else if b < 0xE0 then some ⟨1, 0x80, 0xBF, bits - 0xC0⟩
  else if b = 0xE0 then some ⟨2, 0xA0, 0xBF, 0⟩
  else if b = 0xED then some ⟨2, 0x80, 0x9F, 0xD⟩
  else if b < 0xF0 then some ⟨2, 0x80, 0xBF, bits - 0xE0⟩
  else if b = 0xF0 then some ⟨3, 0x90, 0xBF, 0⟩
  else if b < 0xF4 then some ⟨3, 0x80, 0xBF, bits - 0xF0⟩
  else if b = 0xF4 then some ⟨3, 0x80, 0x8F, 4⟩
  else none

/-- Between two bytes: between characters, or inside one that owes `owed + 1`
more bytes, the next of them between `low` and `high`. -/
inductive State
  | ground
  | inside (owed : Nat) (low high : UInt8) (bits : Nat)
  deriving DecidableEq, Repr

def State.begin (b : UInt8) : State × List Char :=
  match Lead.of? b with
  | none => (.ground, [replacement])
  | some ⟨0, _, _, bits⟩ => (.ground, [Char.ofNat bits])
  | some ⟨owed + 1, low, high, bits⟩ => (.inside owed low high bits, [])

/-- Reads one byte: the state after it and the characters it completes. -/
def State.step : State → UInt8 → State × List Char
  | .ground, b => State.begin b
  | .inside owed low high bits, b =>
    if low ≤ b ∧ b ≤ high then
      let bits := bits * 64 + b.toNat % 64
      match owed with
      | 0 => (.ground, [Char.ofNat bits])
      | owed + 1 => (.inside owed 0x80 0xBF bits, [])
    else
      let (state, chars) := State.begin b
      (state, replacement :: chars)

/-- What the end of the bytes leaves: a mark for a character cut short. -/
def State.rest : State → List Char
  | .ground => []
  | .inside .. => [replacement]

/-- The text of any bytes, read one at a time. -/
def lossy (bytes : List UInt8) : String :=
  let (state, text) := bytes.foldl
    (fun (state, text) b =>
      let (state, chars) := State.step state b
      (state, chars.foldl String.push text))
    (State.ground, "")
  state.rest.foldl String.push text

inductive Front
  | char (c : Char) (rest : List UInt8)
  | broken (rest : List UInt8)
  | unfinished
  deriving DecidableEq, Repr

def Front.collect (bits : Nat) (low high : UInt8) : Nat → List UInt8 → Front
  | 0, rest => .char (Char.ofNat bits) rest
  | _ + 1, [] => .unfinished
  | owed + 1, b :: rest =>
    if low ≤ b ∧ b ≤ high then collect (bits * 64 + b.toNat % 64) 0x80 0xBF owed rest
    else .broken (b :: rest)

def Front.of (b : UInt8) (rest : List UInt8) : Front :=
  match Lead.of? b with
  | none => .broken rest
  | some lead => Front.collect lead.bits lead.low lead.high lead.owed rest

def Front.remaining : Front → List UInt8
  | .char _ rest | .broken rest => rest
  | .unfinished => []

theorem Front.remaining_collect_le (bits : Nat) (low high : UInt8) (owed : Nat)
    (bytes : List UInt8) :
    (Front.collect bits low high owed bytes).remaining.length ≤ bytes.length := by
  induction owed generalizing bits low high bytes with
  | zero => simp [Front.collect, Front.remaining]
  | succ owed ih =>
    cases bytes with
    | nil => simp [Front.collect, Front.remaining]
    | cons b rest =>
      simp only [Front.collect]
      split
      · exact Nat.le_succ_of_le (ih ..)
      · simp [Front.remaining]

theorem Front.remaining_of_le (b : UInt8) (rest : List UInt8) :
    (Front.of b rest).remaining.length ≤ rest.length := by
  unfold Front.of
  split
  · simp [Front.remaining]
  · exact Front.remaining_collect_le ..

theorem Front.length_le {b : UInt8} {rest after : List UInt8}
    (h : (Front.of b rest).remaining = after) : after.length ≤ rest.length :=
  h ▸ Front.remaining_of_le b rest

/-- Appends to `text` whatever is complete at the front of the bytes, and leaves
the beginning of a character that the bytes do not finish. -/
def scan (text : String) : List UInt8 → String × List UInt8
  | [] => (text, [])
  | b :: rest =>
    match h : Front.of b rest with
    | .char c after =>
      have := Front.length_le (h ▸ rfl : (Front.of b rest).remaining = after)
      scan (text.push c) after
    | .broken after =>
      have := Front.length_le (h ▸ rfl : (Front.of b rest).remaining = after)
      scan (text.push replacement) after
    | .unfinished => (text, b :: rest)
termination_by bytes => bytes.length
decreasing_by all_goals simp_wf; omega

/-- The text of any bytes, with `mark` for each maximal ill-formed stretch. -/
def marked (mark : String) (bytes : List UInt8) : String :=
  go "" bytes
where
  go (text : String) : List UInt8 → String
    | [] => text
    | b :: rest =>
      match h : Front.of b rest with
      | .char c after =>
        have := Front.length_le (h ▸ rfl : (Front.of b rest).remaining = after)
        go (text.push c) after
      | .broken after =>
        have := Front.length_le (h ▸ rfl : (Front.of b rest).remaining = after)
        go (text ++ mark) after
      | .unfinished => text ++ mark
  termination_by bytes => bytes.length
  decreasing_by all_goals simp_wf; omega

/-- The longest text at the front of the bytes, and whether it is all of them. -/
def leading (bytes : List UInt8) : String × Bool :=
  go "" bytes
where
  go (text : String) : List UInt8 → String × Bool
    | [] => (text, true)
    | b :: rest =>
      match h : Front.of b rest with
      | .char c after =>
        have := Front.length_le (h ▸ rfl : (Front.of b rest).remaining = after)
        go (text.push c) after
      | .broken _ | .unfinished => (text, false)
  termination_by bytes => bytes.length
  decreasing_by simp_wf; omega

/-- The text that the bytes write, if they write one. -/
def decode? (bytes : List UInt8) : Option String :=
  let (text, whole) := leading bytes
  if whole then some text else none

/-- Reads bytes as they arrive. `held` begins a character whose last byte has not
arrived. -/
structure Decoder where
  held : List UInt8 := []
  deriving DecidableEq, Repr

namespace Decoder

/-- The text that `bytes` complete, and the decoder after them. -/
def push (decoder : Decoder) (bytes : List UInt8) : String × Decoder :=
  let (text, held) := scan "" (decoder.held ++ bytes)
  (text, ⟨held⟩)

def finish (decoder : Decoder) : String × Decoder :=
  (lossy decoder.held, {})

end Decoder

end GuidedChat.Utf8
