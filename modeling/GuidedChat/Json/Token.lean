import GuidedChat.Json.Number

/-! The words of JSON. A string that names half of a surrogate pair on its own is
still a string, but it has no text; whoever asks for its text finds none. Writing
a token and scanning it back gives the token again. -/

namespace GuidedChat.Json

inductive Token
  | openArray
  | closeArray
  | openObject
  | closeObject
  | comma
  | colon
  | null
  | bool (b : Bool)
  | number (n : Number)
  | string (text : Option String)
  deriving DecidableEq, Repr

namespace Token

/-! ## Writing -/

private def hexDigit (n : Nat) : Char := Nat.digitChar (n % 16)

/-- The escape of one character: only quotes, backslashes and controls have one. -/
def escape (c : Char) : List Char :=
  if c = '"' then ['\\', '"']
  else if c = '\\' then ['\\', '\\']
  else if c = '\n' then ['\\', 'n']
  else if c = '\r' then ['\\', 'r']
  else if c = '\t' then ['\\', 't']
  else if c = '\x08' then ['\\', 'b']
  else if c = '\x0c' then ['\\', 'f']
  else if c.toNat < 0x20 then
    ['\\', 'u', '0', '0', hexDigit (c.toNat / 16), hexDigit c.toNat]
  else [c]

/-- The characters between the quotes; a string without text is half of a pair. -/
def stringBody : Option String → List Char
  | some text => text.toList.flatMap escape
  | none => ['\\', 'u', 'd', '8', '0', '0']

def spelling : Token → List Char
  | openArray => ['[']
  | closeArray => [']']
  | openObject => ['\x7b']
  | closeObject => ['\x7d']
  | comma => [',']
  | colon => [':']
  | null => ['n', 'u', 'l', 'l']
  | bool true => ['t', 'r', 'u', 'e']
  | bool false => ['f', 'a', 'l', 's', 'e']
  | number n => n.literal
  | string text => '"' :: stringBody text ++ ['"']

/-! ## Scanning -/

def hexValue? (c : Char) : Option Nat :=
  if c.isDigit then some (c.toNat - '0'.toNat)
  else if 'a' ≤ c ∧ c ≤ 'f' then some (c.toNat - 'a'.toNat + 10)
  else if 'A' ≤ c ∧ c ≤ 'F' then some (c.toNat - 'A'.toNat + 10)
  else none

/-- The sixteen-bit unit that four hexadecimal digits name. -/
def unit? (a b c d : Char) : Option Nat := do
  return (((← hexValue? a) * 16 + (← hexValue? b)) * 16 + (← hexValue? c)) * 16 + (← hexValue? d)

/-- The character of an escape letter other than u. -/
def unescape? : Char → Option Char
  | '"' => some '"'
  | '\\' => some '\\'
  | '/' => some '/'
  | 'b' => some '\x08'
  | 'f' => some '\x0c'
  | 'n' => some '\n'
  | 'r' => some '\r'
  | 't' => some '\t'
  | _ => none

/-- A string being read: its text so far, none once half a pair stood alone, and the
first half of a pair whose second half may follow. -/
structure Draft where
  text : Option String := some ""
  high : Option Nat := none

namespace Draft

def char (d : Draft) (c : Char) : Draft :=
  { text := if d.high.isSome then none else d.text.map (·.push c) }

def unit (d : Draft) (u : Nat) : Draft :=
  match d.high with
  | some h =>
    if 0xDC00 ≤ u ∧ u ≤ 0xDFFF then
      { text := d.text.map (·.push (Char.ofNat (0x10000 + (h - 0xD800) * 0x400 + (u - 0xDC00)))) }
    else { text := none }
  | none =>
    if 0xD800 ≤ u ∧ u ≤ 0xDBFF then { d with high := some u }
    else if 0xDC00 ≤ u ∧ u ≤ 0xDFFF then { text := none }
    else d.char (Char.ofNat u)

def close (d : Draft) : Option String :=
  if d.high.isSome then none else d.text

end Draft

/-- Reads a string after its opening quote, and leaves what follows the closing one. -/
def scanString (draft : Draft) : List Char → Option (Option String × List Char)
  | [] => none
  | '"' :: rest => some (draft.close, rest)
  | '\\' :: 'u' :: a :: b :: c :: d :: rest =>
    match unit? a b c d with
    | some u => scanString (draft.unit u) rest
    | none => none
  | '\\' :: e :: rest =>
    match unescape? e with
    | some c => scanString (draft.char c) rest
    | none => none
  | c :: rest => if c.toNat < 0x20 || c == '\\' then none else scanString (draft.char c) rest

theorem scanString_length {draft : Draft} {cs rest : List Char} {text : Option String}
    (h : scanString draft cs = some (text, rest)) : rest.length < cs.length := by
  fun_induction scanString draft cs with
  | case1 => contradiction
  | case2 => simp_all
  | case3 draft a b c d rest' u hu ih => have := ih h; simp; omega
  | case4 => contradiction
  | case5 draft e rest' _ c hc ih => have := ih h; simp; omega
  | case6 => contradiction
  | case7 => contradiction
  | case8 draft c rest' _ _ _ hc ih => have := ih h; simp; omega

def isSpace (c : Char) : Bool := c == ' ' || c == '\n' || c == '\t' || c == '\r'

/-- Reads one token at the front of a text that starts with neither a space nor
nothing, and leaves the rest. -/
def scanOne : List Char → Option (Token × List Char)
  | '[' :: rest => some (openArray, rest)
  | ']' :: rest => some (closeArray, rest)
  | '\x7b' :: rest => some (openObject, rest)
  | '\x7d' :: rest => some (closeObject, rest)
  | ',' :: rest => some (comma, rest)
  | ':' :: rest => some (colon, rest)
  | '"' :: rest => (scanString {} rest).map fun (text, rest) => (string text, rest)
  | 'n' :: 'u' :: 'l' :: 'l' :: rest => some (null, rest)
  | 't' :: 'r' :: 'u' :: 'e' :: rest => some (bool true, rest)
  | 'f' :: 'a' :: 'l' :: 's' :: 'e' :: rest => some (bool false, rest)
  | cs =>
    (Number.of? (cs.takeWhile Number.isMark)).map fun n =>
      (number n, cs.dropWhile Number.isMark)

private theorem dropWhile_length {p : Char → Bool} (cs : List Char) :
    (cs.dropWhile p).length ≤ cs.length :=
  (List.dropWhile_sublist p).length_le

theorem scanOne_length {cs rest : List Char} {token : Token}
    (h : scanOne cs = some (token, rest)) : rest.length < cs.length := by
  unfold scanOne at h
  split at h
  case h_7 after =>
    obtain ⟨⟨text, rest'⟩, hs, he⟩ := Option.map_eq_some_iff.1 h
    obtain ⟨-, rfl⟩ := Prod.mk.inj he
    have := scanString_length hs
    simp
    omega
  case h_11 =>
    obtain ⟨n, hn, he⟩ := Option.map_eq_some_iff.1 h
    obtain ⟨-, rfl⟩ := Prod.mk.inj he
    cases cs with
    | nil => simp [Number.of?, Number.isSpelled, Number.wholeWell] at hn
    | cons c cs =>
      by_cases hc : Number.isMark c
      · have := dropWhile_length (p := Number.isMark) cs
        simp [hc]
        omega
      · simp [hc, Number.of?, Number.isSpelled, Number.wholeWell] at hn
  all_goals
    obtain ⟨-, rfl⟩ := Prod.mk.inj (Option.some.inj h)
    simp
  all_goals omega

/-- All tokens of a text, with spaces anywhere between them, after those already
`done`, latest first. -/
def scanFrom (done : List Token) : List Char → Option (List Token)
  | [] => some done.reverse
  | c :: cs =>
    if isSpace c then scanFrom done cs
    else
      match h : scanOne (c :: cs) with
      | some (token, rest) =>
        have := scanOne_length h
        scanFrom (token :: done) rest
      | none => none
termination_by cs => cs.length
decreasing_by all_goals simp_all

def scan (text : List Char) : Option (List Token) := scanFrom [] text

end Token

end GuidedChat.Json
