import GuidedChat.Proofs.Utf8.Machine
import GuidedChat.Provider.EventStream

/-! # Data in a stream of events

Data that are one line each can be sent one after the other, each as a data line with an empty
line after it (`framed`). Whatever else stands in them, the events of the stream are these data
(`ofBytes_framed`). -/

namespace GuidedChat.EventStream

/-- Neither of the characters that end a line stands in the text. -/
def IsLine (text : List Char) : Prop := ∀ c ∈ text, c ≠ '\r' ∧ c ≠ '\n'

/-- A data line with these data, and the end of its event. -/
def framed (data : String) : String := "data: " ++ data ++ "\n\n"

theorem splitLines_cons (line : List Char) (done : List (List Char)) {c : Char}
    (hreturn : c ≠ '\r') (hfeed : c ≠ '\n') (rest : List Char) :
    splitLines line done (c :: rest) = splitLines (c :: line) done rest := by
  conv => lhs; unfold splitLines
  split <;> rename_i h <;> cases h
  · exact absurd rfl hreturn
  · exact absurd rfl hreturn
  · exact absurd rfl hreturn
  · exact absurd rfl hfeed
  · rfl

/-- A line ends with its line feed and not before. -/
theorem splitLines_line (line : List Char) (done : List (List Char)) {text : List Char}
    (h : IsLine text) (rest : List Char) :
    splitLines line done (text ++ '\n' :: rest) =
      splitLines [] ((line.reverse ++ text) :: done) rest := by
  induction text generalizing line with
  | nil =>
    rw [List.append_nil]
    rfl
  | cons c text ih =>
    obtain ⟨⟨hreturn, hfeed⟩, htext⟩ := List.forall_mem_cons.mp h
    rw [List.cons_append, splitLines_cons line done hreturn hfeed, ih _ htext]
    simp

def dataLine (data : List Char) : List Char := ['d', 'a', 't', 'a', ':', ' '] ++ data

theorem isLine_dataLine {data : List Char} (h : IsLine data) : IsLine (dataLine data) := by
  have hname : IsLine ['d', 'a', 't', 'a', ':', ' '] := by simp [IsLine]
  exact List.forall_mem_append.mpr ⟨hname, h⟩

theorem toList_framed (data : String) :
    (framed data).toList = dataLine data.toList ++ '\n' :: ['\n'] := by
  simp [framed, dataLine]

theorem splitLines_framed (done : List (List Char)) {datas : List String}
    (h : ∀ data ∈ datas, IsLine data.toList) :
    splitLines [] done (String.join (datas.map framed)).toList =
      done.reverse ++ datas.flatMap fun data => [dataLine data.toList, []] := by
  induction datas generalizing done with
  | nil => exact (List.append_nil _).symm
  | cons data datas ih =>
    obtain ⟨hdata, hdatas⟩ := List.forall_mem_cons.mp h
    rw [List.map_cons, String.join_cons, String.toList_append, toList_framed, List.append_assoc,
      List.cons_append, splitLines_line [] done (isLine_dataLine hdata), List.cons_append,
      List.nil_append]
    have hempty := splitLines_line [] (dataLine data.toList :: done)
      (show IsLine [] from List.forall_mem_nil _) (String.join (datas.map framed)).toList
    rw [List.nil_append] at hempty
    rw [List.reverse_nil, List.nil_append, hempty, ih _ hdatas]
    simp

theorem gather_framed (datas : List String) :
    gather none (datas.flatMap fun data => [dataLine data.toList, []]) = datas := by
  induction datas with
  | nil => rfl
  | cons data datas ih =>
    have hfirst : gather none (dataLine data.toList :: [] ::
        datas.flatMap fun data => [dataLine data.toList, []]) =
          String.ofList data.toList ::
            gather none (datas.flatMap fun data => [dataLine data.toList, []]) := rfl
    rw [List.flatMap_cons]
    exact hfirst.trans (by rw [ih, String.ofList_toList])

/-- **Data that are sent line by line are the events of the stream.** -/
theorem ofBytes_framed {datas : List String} (h : ∀ data ∈ datas, IsLine data.toList) :
    ofBytes (Utf8.encode (String.join (datas.map framed))) = (datas, true) := by
  rw [ofBytes, Utf8.leading_encode]
  show (events _, true) = _
  rw [events, lines, splitLines_framed [] h, List.reverse_nil, List.nil_append, gather_framed]

end GuidedChat.EventStream
