import GuidedChat.Proofs.Utf8.Decoder
import GuidedChat.Proofs.Utf8.WellFormed

/-! # What a reading leaves

A scan stops for want of bytes only where a character has begun (`scan_stops`). What comes before
is then read for good, whatever bytes follow, and by itself it reads as the text of the scan
(`scan_cutOff`). The reason for the latter is that the first byte of a character in several bytes
continues no other, so wherever the machine stands it closes what was begun before
(`State.run_lead`). For the same reason bytes can be cut off in one place only
(`CutOff.unique`). -/

namespace GuidedChat.Utf8

/-! ## The beginning of a character -/

/-- A character is written with these bytes and then more. -/
def Begins (bytes : List UInt8) : Prop :=
  ∃ (c : Char) (more : List UInt8), more ≠ [] ∧ String.utf8EncodeChar c = bytes ++ more

theorem begins_nil : Begins [] := ⟨'a', [0x61], by decide, by decide⟩

theorem Lead.of?_bounds : ∀ n < 256, ∀ lead ∈ Lead.of? (UInt8.ofNat n),
    lead.low ≤ lead.high ∧ lead.high ≤ 0xBF ∧ (lead.owed ≠ 0 → 0xC2 ≤ UInt8.ofNat n) := by
  decide +kernel

theorem Lead.bounds {b : UInt8} {lead : Lead} (h : Lead.of? b = some lead) :
    lead.low ≤ lead.high ∧ lead.high ≤ 0xBF ∧ (lead.owed ≠ 0 → 0xC2 ≤ b) := by
  have hbyte : UInt8.ofNat b.toNat = b := by simp
  have hbounds := Lead.of?_bounds b.toNat (UInt8.toNat_lt b) lead
  rw [hbyte] at hbounds
  exact hbounds h

/-- What is owed can always be paid, with the least bytes. -/
theorem Front.collect_completes (bits owed : Nat) {low high : UInt8} (h : low ≤ high) :
    ∃ c, Front.collect bits low high (owed + 1) (low :: List.replicate owed 0x80) =
      .char c [] := by
  induction owed generalizing bits low high with
  | zero => exact ⟨_, by rw [Front.collect, if_pos ⟨UInt8.le_refl low, h⟩]; rfl⟩
  | succ owed ih =>
    rw [Front.collect, if_pos ⟨UInt8.le_refl low, h⟩, List.replicate_succ]
    exact ih _ (by decide)

theorem Front.completes_of_unfinished {bits owed : Nat} {low high : UInt8}
    {bytes : List UInt8} (hbounds : low ≤ high)
    (h : Front.collect bits low high owed bytes = .unfinished) :
    ∃ c more, more ≠ [] ∧ Front.collect bits low high owed (bytes ++ more) = .char c [] := by
  induction owed generalizing bits low high bytes with
  | zero => cases h
  | succ owed ih =>
    cases bytes with
    | nil =>
      obtain ⟨c, hc⟩ := Front.collect_completes bits owed hbounds
      exact ⟨c, _, List.cons_ne_nil _ _, hc⟩
    | cons b rest =>
      rw [Front.collect] at h
      split at h
      · rename_i hin
        obtain ⟨c, more, hne, hc⟩ := ih (by decide) h
        refine ⟨c, more, hne, ?_⟩
        rw [List.cons_append, Front.collect, if_pos hin, hc]
      · cases h

theorem begins_of_unfinished {b : UInt8} {rest : List UInt8}
    (h : Front.of b rest = .unfinished) : Begins (b :: rest) := by
  rw [Front.of] at h
  split at h
  · cases h
  · rename_i lead hlead
    obtain ⟨c, more, hne, hc⟩ := Front.completes_of_unfinished (Lead.bounds hlead).1 h
    have hfront : Front.of b (rest ++ more) = .char c [] := by
      rw [Front.of, hlead]
      exact hc
    have hwritten := Front.of_eq_char hfront
    rw [List.append_nil] at hwritten
    exact ⟨c, more, hne, hwritten.symm⟩

theorem lead_of_begins {b : UInt8} {rest : List UInt8} (h : Begins (b :: rest)) : 0xC2 ≤ b := by
  obtain ⟨c, more, hne, hwritten⟩ := h
  obtain ⟨first, others, hothers, hfront⟩ := Front.of_encodeChar c []
  rw [hwritten] at hothers
  cases hothers
  rw [List.append_nil, Front.of] at hfront
  split at hfront
  · cases hfront
  · rename_i lead hlead
    refine (Lead.bounds hlead).2.2 ?_
    intro howed
    rw [howed, Front.collect] at hfront
    obtain ⟨-, hnone⟩ := Front.char.inj hfront
    exact hne (List.append_eq_nil_iff.mp hnone).2

/-! ## Where a scan stops -/

theorem Front.collect_suffix (bits owed : Nat) (low high : UInt8) (bytes : List UInt8) :
    (Front.collect bits low high owed bytes).remaining <:+ bytes := by
  induction owed generalizing bits low high bytes with
  | zero => exact List.suffix_rfl
  | succ owed ih =>
    cases bytes with
    | nil => exact List.suffix_rfl
    | cons b rest =>
      rw [Front.collect]
      split
      · exact (ih _ _ _ rest).trans (List.suffix_cons b rest)
      · exact List.suffix_rfl

theorem Front.of_suffix (b : UInt8) (rest : List UInt8) :
    (Front.of b rest).remaining <:+ b :: rest := by
  refine List.IsSuffix.trans ?_ (List.suffix_cons b rest)
  rw [Front.of]
  split
  · exact List.suffix_rfl
  · exact Front.collect_suffix ..

/-- What a scan leaves are the last bytes, and they begin a character. -/
theorem scan_stops (text : String) (bytes : List UInt8) :
    (scan text bytes).2 <:+ bytes ∧ Begins (scan text bytes).2 := by
  induction text, bytes using scan.induct with
  | case1 text =>
    rw [scan]
    exact ⟨List.suffix_rfl, begins_nil⟩
  | case2 text b rest c after h _ ih =>
    have hsuffix := Front.of_suffix b rest
    rw [h] at hsuffix
    rw [scan_char text h]
    exact ⟨ih.1.trans hsuffix, ih.2⟩
  | case3 text b rest after h _ ih =>
    have hsuffix := Front.of_suffix b rest
    rw [h] at hsuffix
    rw [scan_broken text h]
    exact ⟨ih.1.trans hsuffix, ih.2⟩
  | case4 text b rest h =>
    rw [scan_unfinished text h]
    exact ⟨List.suffix_rfl, begins_of_unfinished h⟩

/-! ## The machine at a first byte -/

/-- No byte that begins a character continues one in this state. -/
def State.Bounded : State → Prop
  | .ground => True
  | .inside _ _ high _ => high ≤ 0xBF

theorem State.bounded_begin (b : UInt8) : (State.begin b).1.Bounded := by
  rw [State.begin]
  split
  · trivial
  · trivial
  · rename_i hlead
    exact (Lead.bounds hlead).2.1

theorem State.Bounded.step {state : State} (h : state.Bounded) (b : UInt8) :
    (state.step b).1.Bounded := by
  cases state with
  | ground => exact State.bounded_begin b
  | inside owed low high bits =>
    rw [State.step]
    split
    · cases owed with
      | zero => trivial
      | succ owed => exact UInt8.le_refl _
    · exact State.bounded_begin b

theorem State.bounded_ground : State.ground.Bounded := trivial

theorem State.Bounded.run {state : State} (h : state.Bounded) (bytes : List UInt8) :
    (state.run bytes).1.Bounded := by
  induction bytes generalizing state with
  | nil => exact h
  | cons b bytes ih => exact ih (h.step b)

theorem State.run_lead {state : State} (h : state.Bounded) {b : UInt8} (hb : 0xC2 ≤ b)
    (rest : List UInt8) :
    state.run (b :: rest) = ((State.ground.run (b :: rest)).1,
      state.rest ++ (State.ground.run (b :: rest)).2) := by
  have hstep : state.step b = ((State.begin b).1, state.rest ++ (State.begin b).2) := by
    cases state with
    | ground => rfl
    | inside owed low high bits =>
      have hout : ¬ (low ≤ b ∧ b ≤ high) := by
        rintro ⟨-, hle⟩
        exact absurd (UInt8.le_trans hb (UInt8.le_trans hle h)) (by decide)
      rw [State.step, if_neg hout]
      rfl
  rw [State.run_cons, State.run_cons, hstep, List.append_assoc]
  rfl

/-- Bytes that complete nothing leave the machine inside a character. -/
theorem State.rest_run_silent (state : State) {bytes : List UInt8} (hne : bytes ≠ [])
    (h : (state.run bytes).2 = []) : (state.run bytes).1.rest = [replacement] := by
  induction bytes generalizing state with
  | nil => exact absurd rfl hne
  | cons b bytes ih =>
    rw [State.run_cons] at h ⊢
    obtain ⟨hfirst, hrest⟩ := List.append_eq_nil_iff.mp h
    cases bytes with
    | cons next bytes => exact ih _ (List.cons_ne_nil _ _) hrest
    | nil =>
      have hbegin : (State.begin b).2 = [] → (State.begin b).1.rest = [replacement] := by
        rw [State.begin]
        split <;> simp [State.rest]
      cases state with
      | ground => exact hbegin hfirst
      | inside owed low high bits =>
        rw [State.run_nil]
        rw [State.step] at hfirst ⊢
        split at hfirst
        · cases owed with
          | zero => cases hfirst
          | succ owed =>
            rename_i hin
            rw [if_pos hin]
            rfl
        · cases hfirst

theorem State.run_ne_nil (state : State) {bytes : List UInt8} (hne : bytes ≠ [])
    (h : (state.run bytes).1 = .ground) : (state.run bytes).2 ≠ [] := by
  intro hsilent
  have hrest := state.rest_run_silent hne hsilent
  rw [h] at hrest
  cases hrest

theorem lossy_ne_nil {bytes : List UInt8} (h : bytes ≠ []) : (lossy bytes).toList ≠ [] := by
  rw [toList_lossy]
  intro hnone
  obtain ⟨hsilent, hrest⟩ := List.append_eq_nil_iff.mp hnone
  rw [State.rest_run_silent _ h hsilent] at hrest
  cases hrest

theorem lossy_of_begins {bytes : List UInt8} (h : Begins bytes) :
    lossy bytes = if bytes = [] then "" else "\uFFFD" := by
  by_cases hne : bytes = []
  · rw [if_pos hne, hne]
    rfl
  obtain ⟨c, more, hmore, hwritten⟩ := h
  have hrun := State.run_encodeChar c []
  rw [List.append_nil, hwritten, State.run_append] at hrun
  obtain ⟨hstate, hchars⟩ := Prod.mk.inj hrun
  have hsilent : (State.ground.run bytes).2 = [] := by
    rcases List.append_eq_singleton_iff.mp hchars with ⟨hnone, -⟩ | ⟨-, hnone⟩
    · exact hnone
    · exact absurd hnone (State.run_ne_nil _ hmore hstate)
  rw [if_neg hne]
  apply String.toList_inj.mp
  rw [toList_lossy, hsilent, State.rest_run_silent _ hne hsilent]
  rfl

/-- No character begins inside another. -/
theorem eq_nil_of_begins_append {first second : List UInt8} (h : Begins (first ++ second))
    (hfirst : first ≠ []) (hsecond : Begins second) : second = [] := by
  cases second with
  | nil => rfl
  | cons b rest =>
    exfalso
    obtain ⟨c, more, -, hwritten⟩ := h
    have hlead := State.run_lead (State.bounded_ground.run first)
      (lead_of_begins hsecond) (rest ++ more)
    have hrun := State.run_encodeChar c []
    rw [List.append_nil, hwritten, List.append_assoc, List.cons_append, State.run_append,
      hlead, ← List.append_assoc] at hrun
    obtain ⟨hstate, hchars⟩ := Prod.mk.inj hrun
    have hlater := State.run_ne_nil .ground (List.cons_ne_nil b (rest ++ more)) hstate
    rcases List.append_eq_singleton_iff.mp hchars with ⟨hnone, -⟩ | ⟨-, hnone⟩
    · obtain ⟨hsilent, hrest⟩ := List.append_eq_nil_iff.mp hnone
      rw [State.rest_run_silent _ hfirst hsilent] at hrest
      cases hrest
    · exact hlater hnone

/-! ## What was read and what is left -/

/-- Some bytes, of which those of `read` are read for good, whatever follows, and the others
begin a character. -/
structure CutOff (bytes read tail : List UInt8) : Prop where
  bytes_eq : bytes = read ++ tail
  begins : Begins tail
  settled : ∀ more, lossy (bytes ++ more) = lossy read ++ lossy (tail ++ more)

/-- Bytes before the beginning of a character read as all that is completed. -/
theorem toList_lossy_before {bytes read tail : List UInt8} (hread : read ++ tail = bytes)
    (hbegins : Begins tail)
    (hheld : State.ground.run tail = ((State.ground.run bytes).1, [])) :
    (lossy read).toList = (State.ground.run bytes).2 := by
  rw [toList_lossy]
  cases tail with
  | nil =>
    rw [List.append_nil] at hread
    have hground : State.ground = (State.ground.run bytes).1 := congrArg Prod.fst hheld
    rw [hread, ← hground]
    exact List.append_nil _
  | cons b rest =>
    have hrun := State.run_lead (State.bounded_ground.run read)
      (lead_of_begins hbegins) rest
    rw [← hread, State.run_append, hrun] at hheld ⊢
    rw [show (State.ground.run (b :: rest)).2 = [] from congrArg Prod.snd hheld]
    simp

/-- A scan cuts off what it leaves, and its text is that of the bytes before. -/
theorem scan_cutOff (bytes : List UInt8) :
    ∃ read, CutOff bytes read (scan "" bytes).2 ∧ lossy read = (scan "" bytes).1 := by
  obtain ⟨⟨read, hread⟩, hbegins⟩ := scan_stops "" bytes
  obtain ⟨htext, hheld⟩ := scan_run "" bytes
  have hlossy := toList_lossy_before hread hbegins hheld
  refine ⟨read, ⟨hread.symm, hbegins, ?_⟩, ?_⟩
  · intro more
    apply String.toList_inj.mp
    rw [toList_lossy, String.toList_append, hlossy, toList_lossy, State.run_append,
      State.run_append, hheld]
    simp
  · apply String.toList_inj.mp
    rw [hlossy, htext]
    rfl

namespace CutOff

variable {bytes read tail : List UInt8}

theorem lossy_eq (h : CutOff bytes read tail) :
    lossy bytes = lossy read ++ if tail = [] then "" else "\uFFFD" := by
  have hsettled := h.settled []
  rw [List.append_nil, List.append_nil] at hsettled
  rw [hsettled, lossy_of_begins h.begins]

theorem eq_nil_of_append {read' first : List UInt8} (h : CutOff bytes read tail)
    (h' : CutOff bytes read' (first ++ tail)) : first = [] := by
  refine Classical.byContradiction fun hfirst => ?_
  obtain rfl : tail = [] := eq_nil_of_begins_append h'.begins hfirst h.begins
  -- more bytes would complete a character, where the first reading is over already
  obtain ⟨c, more, hmore, hwritten⟩ := h'.begins
  have hchar : lossy (String.utf8EncodeChar c) = String.singleton c := by
    have hencode := lossy_encode (String.singleton c)
    simpa [encode] using hencode
  have hread := congrArg String.length h.lossy_eq
  have hread' := congrArg String.length h'.lossy_eq
  have hmore_read := congrArg String.length (h.settled more)
  have hmore_read' := congrArg String.length (h'.settled more)
  rw [← hwritten, hchar] at hmore_read'
  have hlength : (lossy more).length ≠ 0 := by
    rw [← String.length_toList]
    exact fun hnone => lossy_ne_nil hmore (List.length_eq_zero_iff.mp hnone)
  have hmark : "\uFFFD".length = 1 := by decide
  simp only [List.append_nil, List.nil_append, if_true, if_neg hfirst, String.length_append,
    String.length_empty, String.length_singleton, hmark] at hread hread' hmore_read hmore_read'
  omega

/-- Bytes can be cut off in one place only. -/
theorem unique {read' tail' : List UInt8} (h : CutOff bytes read tail)
    (h' : CutOff bytes read' tail') : read = read' ∧ tail = tail' := by
  have hbytes := h.bytes_eq.symm.trans h'.bytes_eq
  rcases List.append_eq_append_iff.mp hbytes with ⟨first, hread, htail⟩ | ⟨first, hread, htail⟩
  · subst htail
    obtain rfl := h'.eq_nil_of_append h
    rw [List.append_nil] at hread
    exact ⟨hread.symm, rfl⟩
  · subst htail
    obtain rfl := h.eq_nil_of_append h'
    rw [List.append_nil] at hread
    exact ⟨hread, rfl⟩

end CutOff

end GuidedChat.Utf8
