import GuidedChat.Json.Strict
import GuidedChat.Proofs.Json.Spelling
import GuidedChat.Proofs.Utf8.Machine

/-! # A written document is read back

The text of a tree is scanned into the tokens of the tree (`scan_compact`), and the tokens are
read as the tree (`ofTokens?_tokens`), so `read?` undoes `compact` (`read?_compact`), and what
bytes carry of a value is the value (`ofBytes?_compact`). Both halves go by induction on the
tree, with one statement for a value, for the items after the first, for a member and for the
members after the first. -/

namespace GuidedChat.Json

/-! ## Scanning -/

theorem scanFrom_cons (done : List Token) {token : Token} (h : ∀ n, token ≠ .number n)
    (tokens : List Token) (rest : List Char) :
    Token.scanFrom done ((token :: tokens).flatMap Token.spelling ++ rest) =
      Token.scanFrom (token :: done) (tokens.flatMap Token.spelling ++ rest) := by
  rw [List.flatMap_cons, List.append_assoc]
  exact Token.scanFrom_spelling done token _ fun n hn => absurd hn (h n)

/-- After an item comes a comma or a bracket. -/
theorem stops_itemTokens (items : List Json) (rest : List Char) :
    Stops ((itemTokens items).flatMap Token.spelling ++ rest) := by
  intro c hc
  cases items with
  | nil => cases hc; rfl
  | cons item items => cases hc; rfl

/-- After a member comes a comma or a brace. -/
theorem stops_membersTokens (members : List (Option String × Json)) (rest : List Char) :
    Stops ((membersTokens members).flatMap Token.spelling ++ rest) := by
  intro c hc
  cases members with
  | nil => cases hc; rfl
  | cons member members => cases hc; rfl

mutual

theorem scanFrom_tokens (done : List Token) (rest : List Char) (hrest : Stops rest) :
    ∀ value : Json, Token.scanFrom done (value.tokens.flatMap Token.spelling ++ rest) =
      Token.scanFrom (value.tokens.reverse ++ done) rest
  | null => scanFrom_cons done (by simp) [] rest
  | bool b => scanFrom_cons done (by simp) [] rest
  | number n => by
    rw [tokens, List.flatMap_singleton]
    exact Token.scanFrom_spelling done (.number n) rest fun _ _ => hrest
  | string text => scanFrom_cons done (by simp) [] rest
  | array [] => by
    rw [tokens, scanFrom_cons done (by simp), scanFrom_cons _ (by simp)]
    rfl
  | array (item :: items) => by
    rw [tokens, List.cons_append, scanFrom_cons done (by simp), List.flatMap_append,
      List.append_assoc, scanFrom_tokens _ _ (stops_itemTokens items rest) item,
      scanFrom_itemTokens _ rest items]
    simp
  | object [] => by
    rw [tokens, scanFrom_cons done (by simp), scanFrom_cons _ (by simp)]
    rfl
  | object (member :: members) => by
    rw [tokens, List.cons_append, scanFrom_cons done (by simp), List.flatMap_append,
      List.append_assoc, scanFrom_memberTokens _ _ (stops_membersTokens members rest) member,
      scanFrom_membersTokens _ rest members]
    simp

theorem scanFrom_itemTokens (done : List Token) (rest : List Char) :
    ∀ items : List Json,
      Token.scanFrom done ((itemTokens items).flatMap Token.spelling ++ rest) =
        Token.scanFrom ((itemTokens items).reverse ++ done) rest
  | [] => scanFrom_cons done (by simp) [] rest
  | item :: items => by
    rw [itemTokens, List.cons_append, scanFrom_cons done (by simp), List.flatMap_append,
      List.append_assoc, scanFrom_tokens _ _ (stops_itemTokens items rest) item,
      scanFrom_itemTokens _ rest items]
    simp

theorem scanFrom_memberTokens (done : List Token) (rest : List Char) (hrest : Stops rest) :
    ∀ member : Option String × Json,
      Token.scanFrom done ((memberTokens member).flatMap Token.spelling ++ rest) =
        Token.scanFrom ((memberTokens member).reverse ++ done) rest
  | (key, value) => by
    rw [memberTokens, scanFrom_cons done (by simp), scanFrom_cons _ (by simp),
      scanFrom_tokens _ rest hrest value]
    simp

theorem scanFrom_membersTokens (done : List Token) (rest : List Char) :
    ∀ members : List (Option String × Json),
      Token.scanFrom done ((membersTokens members).flatMap Token.spelling ++ rest) =
        Token.scanFrom ((membersTokens members).reverse ++ done) rest
  | [] => scanFrom_cons done (by simp) [] rest
  | member :: members => by
    rw [membersTokens, List.cons_append, scanFrom_cons done (by simp), List.flatMap_append,
      List.append_assoc, scanFrom_memberTokens _ _ (stops_membersTokens members rest) member,
      scanFrom_membersTokens _ rest members]
    simp

end

theorem scan_compact (value : Json) : Token.scan value.compact.toList = some value.tokens := by
  have hend : Stops [] := by simp [Stops]
  have hscan := scanFrom_tokens [] [] hend value
  rw [List.append_nil, List.append_nil] at hscan
  rw [compact, String.toList_ofList, Token.scan, hscan, Token.scanFrom, List.reverse_reverse]

/-! ## Reading -/

namespace Reading

/-- No value begins with the end of an array, so at its start one more end may be allowed. -/
theorem foldlM_valueOrEnd (value : Json) (stack : List Open) :
    value.tokens.foldlM step (.inside .valueOrEnd stack) =
      value.tokens.foldlM step (.inside .value stack) := by
  rcases value with _ | b | n | text | (_ | ⟨item, items⟩) | (_ | ⟨member, members⟩) <;> rfl

theorem foldlM_keyOrEnd (member : Option String × Json) (stack : List Open) :
    (memberTokens member).foldlM step (.inside .keyOrEnd stack) =
      (memberTokens member).foldlM step (.inside .key stack) := by
  obtain ⟨key, value⟩ := member
  rfl

mutual

/-- The tokens of a value put the value where it belongs. -/
theorem foldlM_tokens (stack : List Open) :
    ∀ value : Json, value.tokens.foldlM step (.inside .value stack) = put value stack
  | null => by simp [tokens, step, start]
  | bool b => by simp [tokens, step, start]
  | number n => by simp [tokens, step, start]
  | string text => by simp [tokens, step, start]
  | array [] => by simp [tokens, step, start, finish]
  | array (item :: items) => by
    rw [tokens, List.cons_append, List.foldlM_cons]
    show ((tokens item ++ itemTokens items).foldlM step
      (.inside .valueOrEnd (.array [] :: stack))) = _
    rw [List.foldlM_append, foldlM_valueOrEnd, foldlM_tokens _ item]
    exact foldlM_itemTokens [item] stack items
  | object [] => by simp [tokens, step, start, finish]
  | object (member :: members) => by
    rw [tokens, List.cons_append, List.foldlM_cons]
    show ((memberTokens member ++ membersTokens members).foldlM step
      (.inside .keyOrEnd (.object [] :: stack))) = _
    rw [List.foldlM_append, foldlM_keyOrEnd, foldlM_memberTokens [] stack member]
    exact foldlM_membersTokens [member] stack members

theorem foldlM_itemTokens (done : List Json) (stack : List Open) :
    ∀ items : List Json,
      (itemTokens items).foldlM step (.inside .commaOrEnd (.array done :: stack)) =
        put (.array (done.reverse ++ items)) stack
  | [] => by simp [itemTokens, step, finish]
  | item :: items => by
    rw [itemTokens, List.cons_append, List.foldlM_cons]
    show ((tokens item ++ itemTokens items).foldlM step
      (.inside .value (.array done :: stack))) = _
    rw [List.foldlM_append, foldlM_tokens _ item]
    have hrest := foldlM_itemTokens (item :: done) stack items
    rw [List.reverse_cons, List.append_assoc] at hrest
    exact hrest

theorem foldlM_memberTokens (done : List (Option String × Json)) (stack : List Open) :
    ∀ member : Option String × Json,
      (memberTokens member).foldlM step (.inside .key (.object done :: stack)) =
        some (.inside .commaOrEnd (.object (member :: done) :: stack))
  | (key, value) => by
    rw [memberTokens, List.foldlM_cons]
    exact foldlM_tokens (.member key :: .object done :: stack) value

theorem foldlM_membersTokens (done : List (Option String × Json)) (stack : List Open) :
    ∀ members : List (Option String × Json),
      (membersTokens members).foldlM step (.inside .commaOrEnd (.object done :: stack)) =
        put (.object (done.reverse ++ members)) stack
  | [] => by simp [membersTokens, step, finish]
  | member :: members => by
    rw [membersTokens, List.cons_append, List.foldlM_cons]
    show ((memberTokens member ++ membersTokens members).foldlM step
      (.inside .key (.object done :: stack))) = _
    rw [List.foldlM_append, foldlM_memberTokens done stack member]
    have hrest := foldlM_membersTokens (member :: done) stack members
    rw [List.reverse_cons, List.append_assoc] at hrest
    exact hrest

end

end Reading

theorem ofTokens?_tokens (value : Json) : ofTokens? value.tokens = some value := by
  rw [ofTokens?, Reading.foldlM_tokens [] value]
  rfl

/-! ## Documents -/

/-- **A document that was written is read back as it was.** -/
theorem read?_compact (value : Json) : read? value.compact = some value := by
  rw [read?, scan_compact]
  exact ofTokens?_tokens value

/-- No control stands in a written document, so it is one line. -/
theorem compact_plain (value : Json) : ∀ c ∈ value.compact.toList, 0x20 ≤ c.toNat := by
  rw [compact, String.toList_ofList]
  intro c hc
  obtain ⟨token, -, hc⟩ := List.mem_flatMap.mp hc
  exact token.spelling_plain c hc

/-- The bytes of a value carry the value. -/
theorem ofBytes?_compact {value : Json} (h : isValue nestingLimit value = true) :
    ofBytes? (Utf8.encode value.compact) = some value := by
  simp [ofBytes?, Utf8.decode?_encode, read?_compact, h]

end GuidedChat.Json
