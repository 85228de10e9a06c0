import GuidedChat.Proofs.Utf8.Held

/-! # Text is given back as soon as it is known

A decoder that gave back nothing before the end of its bytes would decode well enough, but a
reader would wait for the whole of a reply. This decoder keeps back the last bytes only, and
only while they begin a character (`Follows.push`), so at any time it has given back the text
of all the bytes before these (`eager_run`). Of a text that is still arriving, these are the
characters whose last byte has arrived (`completed_iff`). -/

namespace GuidedChat.Utf8

/-! ## A text that is still arriving -/

theorem encode_prefix {first text : String} (h : first.toList <+: text.toList) :
    encode first <+: encode text := by
  obtain ⟨rest, hrest⟩ := h
  exact ⟨rest.flatMap String.utf8EncodeChar, by rw [encode, encode, ← hrest, List.flatMap_append]⟩

theorem completed_prefix {bytes : List UInt8} {text : String} (h : bytes <+: encode text) :
    (State.ground.run bytes).2 <+: text.toList := by
  obtain ⟨rest, hrest⟩ := h
  have hrun := State.run_encode text
  rw [← hrest, State.run_append] at hrun
  exact ⟨_, congrArg Prod.snd hrun⟩

/-- Those characters are completed that the bytes reach to the end. -/
theorem completed_iff {bytes : List UInt8} {text first : String} (h : bytes <+: encode text)
    (hfirst : first.toList <+: text.toList) :
    first.toList <+: (State.ground.run bytes).2 ↔ (encode first).length ≤ bytes.length := by
  have hencode := encode_prefix hfirst
  constructor
  · intro hread
    refine Nat.le_of_not_lt fun hshort => ?_
    obtain ⟨more, hmore⟩ := List.prefix_of_prefix_length_le h hencode (Nat.le_of_lt hshort)
    have hne : more ≠ [] := by
      intro hnone
      rw [← hmore, hnone, List.append_nil] at hshort
      exact Nat.lt_irrefl _ hshort
    -- the other bytes would complete nothing, and yet be the last of a character
    have hrun := State.run_encode first
    rw [← hmore, State.run_append] at hrun
    obtain ⟨hstate, hchars⟩ := Prod.mk.inj hrun
    have hlength := hread.length_le
    rw [← hchars, List.length_append] at hlength
    exact State.run_ne_nil _ hne hstate (List.length_eq_zero_iff.mp (by omega))
  · intro hlength
    obtain ⟨more, hmore⟩ := List.prefix_of_prefix_length_le hencode h hlength
    rw [← hmore, State.run_append, State.run_encode]
    exact List.prefix_append ..

theorem getElem?_completed_iff {bytes : List UInt8} {text : String} (h : bytes <+: encode text)
    (i : Nat) (c : Char) :
    (State.ground.run bytes).2[i]? = some c ↔
      text.toList[i]? = some c ∧
        (encode (String.ofList (text.toList.take (i + 1)))).length ≤ bytes.length := by
  have hfirst : (String.ofList (text.toList.take (i + 1))).toList <+: text.toList := by
    rw [String.toList_ofList]
    exact List.take_prefix ..
  rw [← completed_iff h hfirst, String.toList_ofList]
  obtain ⟨rest, hrest⟩ := completed_prefix h
  constructor
  · intro hread
    have hlt := (List.getElem?_eq_some_iff.mp hread).1
    rw [← hrest, List.getElem?_append_left hlt, List.take_append_of_le_length hlt]
    exact ⟨hread, List.take_prefix ..⟩
  · intro hreached
    obtain ⟨hchar, more, hmore⟩ := hreached
    have hlt := (List.getElem?_eq_some_iff.mp hchar).1
    rw [← hmore, List.getElem?_append_left (by rw [List.length_take]; omega),
      List.getElem?_take_of_lt (Nat.lt_succ_self i)]
    exact hchar

/-! ## What a decoder keeps back -/

theorem length_le_of_begins {bytes : List UInt8} (h : Begins bytes) : bytes.length ≤ 3 := by
  obtain ⟨c, more, hmore, hwritten⟩ := h
  have hlength := congrArg List.length hwritten
  rw [String.length_utf8EncodeChar, List.length_append] at hlength
  have hsize := c.utf8Size_le_four
  have hpos := List.length_pos_iff.mpr hmore
  omega

namespace Decoder

/-- A decoder stands where these bytes lead, and keeps back the last of them. -/
structure Follows (decoder : Decoder) (bytes : List UInt8) : Prop where
  suffix : decoder.held <:+ bytes
  begins : Begins decoder.held
  run : State.ground.run decoder.held = ((State.ground.run bytes).1, [])

theorem follows_fresh : Follows {} [] := ⟨List.suffix_rfl, begins_nil, rfl⟩

theorem Follows.push {decoder : Decoder} {bytes : List UInt8} (h : decoder.Follows bytes)
    (chunk : List UInt8) : (decoder.push chunk).2.Follows (bytes ++ chunk) := by
  obtain ⟨-, hsilent, hstate⟩ := push_run (congrArg Prod.snd h.run) chunk
  obtain ⟨hsuffix, hbegins⟩ := scan_stops "" (decoder.held ++ chunk)
  have hbefore : decoder.held ++ chunk <:+ bytes ++ chunk := by
    obtain ⟨read, hread⟩ := h.suffix
    exact ⟨read, by rw [← hread, List.append_assoc]⟩
  refine ⟨hsuffix.trans hbefore, hbegins, Prod.ext ?_ hsilent⟩
  rw [State.run_append, ← congrArg Prod.fst h.run]
  exact hstate

theorem Follows.pushes {decoder : Decoder} {bytes : List UInt8} (h : decoder.Follows bytes)
    (chunks : List (List UInt8)) :
    (decoder.run (chunks.map .push)).1.Follows (bytes ++ chunks.flatten) := by
  induction chunks generalizing decoder bytes with
  | nil =>
    rw [List.flatten_nil, List.append_nil]
    exact h
  | cons chunk chunks ih =>
    rw [List.flatten_cons, ← List.append_assoc]
    exact ih (h.push chunk)

/-- A decoder has given back this text of the bytes that it was given, and keeps back no more of
them than it must. -/
structure Eager (decoder : Decoder) (bytes : List UInt8) (text : String) : Prop where
  begins : Begins decoder.held
  at_most_three : decoder.held.length ≤ 3
  settled : ∃ read, bytes = read ++ decoder.held ∧ text = lossy read
  unmarked : ∀ whole, bytes <+: encode whole → text.toList <+: whole.toList
  reached : ∀ whole, bytes <+: encode whole → ∀ i c, text.toList[i]? = some c ↔
    whole.toList[i]? = some c ∧
      (encode (String.ofList (whole.toList.take (i + 1)))).length ≤ bytes.length
  complete : ∀ whole, bytes = encode whole → text = whole ∧ decoder.finish.1 = ""

theorem Follows.eager {decoder : Decoder} {bytes : List UInt8} {text : String}
    (h : decoder.Follows bytes) (htext : text.toList = (State.ground.run bytes).2) :
    decoder.Eager bytes text where
  begins := h.begins
  at_most_three := length_le_of_begins h.begins
  settled := by
    obtain ⟨read, hread⟩ := h.suffix
    have hlossy := toList_lossy_before hread h.begins h.run
    exact ⟨read, hread.symm, String.toList_inj.mp (htext.trans hlossy.symm)⟩
  unmarked whole hbytes := by
    rw [htext]
    exact completed_prefix hbytes
  reached whole hbytes i c := by
    rw [htext]
    exact getElem?_completed_iff hbytes i c
  complete whole hbytes := by
    have hrun := State.run_encode whole
    rw [← hbytes] at hrun
    have hstate : decoder.state = .ground := by rw [state, h.run, hrun]
    constructor
    · rw [← String.toList_inj, htext, hrun]
    · rw [← String.toList_inj, toList_finish (congrArg Prod.snd h.run), hstate]
      rfl

theorem length_texts (decoder : Decoder) (actions : List Action) :
    (decoder.run actions).2.length = actions.length := by
  induction actions generalizing decoder with
  | nil => rfl
  | cons action rest ih => rw [run_cons, List.length_cons, List.length_cons, ih]

theorem run_finish (decoder : Decoder) (actions : List Action) :
    (decoder.run (actions ++ [.finish])).1 = {} := by
  rw [run_append]
  rfl

/-- **Text is given back as soon as it is known**, whatever was decoded before the bytes began:
all but at most three last bytes that begin a character. -/
theorem eager_run (before : List Action)
    (h : before = [] ∨ ∃ earlier, before = earlier ++ [.finish]) (chunks : List (List UInt8)) :
    (({} : Decoder).run (before ++ chunks.map .push)).1.Eager chunks.flatten
      (String.join ((({} : Decoder).run (before ++ chunks.map .push)).2.drop before.length)) := by
  have hfresh : (({} : Decoder).run before).1 = {} := by
    rcases h with rfl | ⟨earlier, rfl⟩
    · rfl
    · exact run_finish {} earlier
  rw [run_append, hfresh, ← length_texts {} before, List.drop_left]
  exact (follows_fresh.pushes chunks).eager (run_pushes silent_fresh chunks).1

/-- The bytes of a text have arrived up to the first of its second character, after others that
never became one. -/
theorem eager_run_inside_character :
    let before : List Action := [.push [0xE3], .finish]
    let chunks : List (List UInt8) := [[0xE3, 0x81], [], [0x93, 0xE3]]
    let after := ({} : Decoder).run (before ++ chunks.map .push)
    (before = [] ∨ ∃ earlier, before = earlier ++ [.finish]) ∧
      chunks.flatten <+: encode "こん" ∧
      (String.join (after.2.drop before.length)).toList[0]? = some 'こ' ∧
      (String.join (after.2.drop before.length)).toList[1]? ≠ some 'ん' := by
  intro before chunks after
  have hbefore : before = [] ∨ ∃ earlier, before = earlier ++ [.finish] := .inr ⟨[.push [0xE3]], rfl⟩
  have heager := eager_run before hbefore chunks
  have hbytes : chunks.flatten <+: encode "こん" := by decide
  refine ⟨hbefore, hbytes, ?_, ?_⟩
  · exact (heager.reached "こん" hbytes 0 'こ').mpr (by decide)
  · rw [ne_eq, heager.reached "こん" hbytes 1 'ん']
    decide

end Decoder

end GuidedChat.Utf8
