import GuidedChat.Proofs.Utf8.Machine
import GuidedChat.Text.Utf8.History

/-! # Text that arrives in chunks

A decoder that has taken in some bytes stands for a state of the machine: the one that its
held bytes lead to. These bytes begin a character and complete none (`Decoder.Silent`), so
taking them up again before the next chunk yields nothing twice. Pushing a chunk is then a
run of the machine over it (`Decoder.push_run`), the end of the bytes is the end of that
run, and where the chunks were cut is forgotten. -/

namespace GuidedChat.Utf8

theorem scan_char (text : String) {b : UInt8} {c : Char} {rest after : List UInt8}
    (h : Front.of b rest = .char c after) :
    scan text (b :: rest) = scan (text.push c) after := by
  rw [scan]
  split <;> simp_all

theorem scan_broken (text : String) {b : UInt8} {rest after : List UInt8}
    (h : Front.of b rest = .broken after) :
    scan text (b :: rest) = scan (text.push replacement) after := by
  rw [scan]
  split <;> simp_all

theorem scan_unfinished (text : String) {b : UInt8} {rest : List UInt8}
    (h : Front.of b rest = .unfinished) : scan text (b :: rest) = (text, b :: rest) := by
  rw [scan]
  split <;> simp_all

/-- A scan appends what the machine makes of the bytes, and leaves bytes that lead to the
same state but complete nothing. -/
theorem scan_run (text : String) (bytes : List UInt8) :
    (scan text bytes).1.toList = text.toList ++ (State.ground.run bytes).2 ∧
      State.ground.run (scan text bytes).2 = ((State.ground.run bytes).1, []) := by
  induction text, bytes using scan.induct with
  | case1 text => simp [scan]
  | case2 text b rest c after h _ ih =>
    have hagree := Front.of_agrees b rest
    rw [h] at hagree
    rw [scan_char text h, show State.ground.run (b :: rest) = _ from hagree]
    exact ⟨by simp [ih.1], ih.2⟩
  | case3 text b rest after h _ ih =>
    have hagree := Front.of_agrees b rest
    rw [h] at hagree
    rw [scan_broken text h, show State.ground.run (b :: rest) = _ from hagree]
    exact ⟨by simp [ih.1], ih.2⟩
  | case4 text b rest h =>
    have hagree : (State.ground.run (b :: rest)).2 = [] := by
      have := Front.of_agrees b rest
      rwa [h] at this
    rw [scan_unfinished text h]
    exact ⟨by simp [hagree], Prod.ext rfl hagree⟩

namespace Decoder

def state (decoder : Decoder) : State := (State.ground.run decoder.held).1

/-- The held bytes complete no character. -/
def Silent (decoder : Decoder) : Prop := (State.ground.run decoder.held).2 = []

theorem silent_fresh : Silent {} := rfl

/-- What one push preserves and yields: the decoder follows the machine. -/
theorem push_run {decoder : Decoder} (h : decoder.Silent) (bytes : List UInt8) :
    (decoder.push bytes).1.toList = (decoder.state.run bytes).2 ∧
      (decoder.push bytes).2.Silent ∧
      (decoder.push bytes).2.state = (decoder.state.run bytes).1 := by
  have hrun : State.ground.run (decoder.held ++ bytes) = decoder.state.run bytes := by
    rw [State.run_append, show (State.ground.run decoder.held).2 = [] from h]
    rfl
  obtain ⟨htext, hheld⟩ := scan_run "" (decoder.held ++ bytes)
  rw [hrun] at htext hheld
  have hsilent := congrArg Prod.snd hheld
  have hstate := congrArg Prod.fst hheld
  exact ⟨by simpa [push] using htext, hsilent, hstate⟩

theorem toList_finish {decoder : Decoder} (h : decoder.Silent) :
    decoder.finish.1.toList = decoder.state.rest := by
  rw [finish, toList_lossy, show (State.ground.run decoder.held).2 = [] from h]
  rfl

theorem run_pushes {decoder : Decoder} (h : decoder.Silent) (chunks : List (List UInt8)) :
    (String.join (decoder.run (chunks.map .push)).2).toList =
        (decoder.state.run chunks.flatten).2 ∧
      (decoder.run (chunks.map .push)).1.Silent ∧
      (decoder.run (chunks.map .push)).1.state = (decoder.state.run chunks.flatten).1 := by
  induction chunks generalizing decoder with
  | nil => exact ⟨rfl, h, rfl⟩
  | cons chunk chunks ih =>
    obtain ⟨htext, hsilent, hstate⟩ := push_run h chunk
    obtain ⟨htexts, hsilent', hstate'⟩ := ih hsilent
    rw [hstate] at htexts hstate'
    rw [List.flatten_cons, State.run_append]
    refine ⟨?_, hsilent', hstate'⟩
    have hrest : (decoder.run ((chunk :: chunks).map .push)).2 =
        (decoder.push chunk).1 :: ((decoder.push chunk).2.run (chunks.map .push)).2 := rfl
    rw [hrest, String.join_cons, String.toList_append, htext, htexts]

theorem join_run_pushes (chunks : List (List UInt8)) :
    String.join (({} : Decoder).run (chunks.map .push)).2 = (scan "" chunks.flatten).1 := by
  apply String.toList_inj.mp
  rw [(run_pushes silent_fresh chunks).1, (scan_run "" chunks.flatten).1]
  rfl

/-- A whole stretch from any decoder that has completed nothing of what it holds. -/
theorem join_run_stretch {decoder : Decoder} (h : decoder.Silent) (chunks : List (List UInt8)) :
    (String.join (decoder.run (stretch chunks)).2).toList =
      (decoder.state.run chunks.flatten).2 ++ (decoder.state.run chunks.flatten).1.rest := by
  obtain ⟨htexts, hsilent, hstate⟩ := run_pushes h chunks
  have hend : (decoder.run (stretch chunks)).2 = (decoder.run (chunks.map .push)).2 ++
      [(decoder.run (chunks.map .push)).1.finish.1] := by
    rw [stretch, run_append]
    rfl
  rw [hend, String.join_append, String.toList_append, htexts, ← hstate,
    ← toList_finish hsilent]
  simp

theorem join_run_fresh (chunks : List (List UInt8)) :
    String.join (({} : Decoder).run (stretch chunks)).2 = lossy chunks.flatten := by
  apply String.toList_inj.mp
  rw [join_run_stretch silent_fresh, toList_lossy]
  rfl

/-- **Decoding chunk by chunk is decoding all at once.** The texts of a stretch join to the
lossy reading of its bytes, which is the same wherever they were cut, and a stretch gives
the same texts whatever happened before its bytes began. -/
theorem join_run_eq_lossy :
    (∀ chunks : List (List UInt8),
      String.join (({} : Decoder).run (stretch chunks)).2 = lossy chunks.flatten) ∧
    (∀ chunks chunks' : List (List UInt8), chunks.flatten = chunks'.flatten →
      String.join (({} : Decoder).run (stretch chunks)).2 =
        String.join (({} : Decoder).run (stretch chunks')).2) ∧
    (∀ (before after : List Action) (chunks : List (List UInt8)),
      (({} : Decoder).run (before ++ [.finish] ++ stretch chunks ++ after)).2 =
        (({} : Decoder).run (before ++ [.finish])).2 ++
          (({} : Decoder).run (stretch chunks)).2 ++ (({} : Decoder).run after).2) := by
  have reset : ∀ (decoder : Decoder) (acts : List Action),
      (decoder.run (acts ++ [.finish])).1 = {} := by
    intro decoder acts
    rw [run_append]
    rfl
  refine ⟨join_run_fresh, ?_, ?_⟩
  · intro chunks chunks' h
    rw [join_run_fresh, join_run_fresh, h]
  · intro before after chunks
    rw [run_append, run_append, reset]
    simp only [stretch, reset]

/-- A character, and after it the beginning of another that never ends, cut in two ways. -/
theorem join_run_eq_lossy_two_cuts :
    [[0xE3], [0x81, 0x93, 0xF4]].flatten = [[0xE3, 0x81], [], [0x93, 0xF4]].flatten ∧
      String.join (({} : Decoder).run (stretch [[0xE3], [0x81, 0x93, 0xF4]])).2 =
        String.join (({} : Decoder).run (stretch [[0xE3, 0x81], [], [0x93, 0xF4]])).2 :=
  ⟨by decide, join_run_eq_lossy.2.1 _ _ (by decide)⟩

end Decoder

end GuidedChat.Utf8
