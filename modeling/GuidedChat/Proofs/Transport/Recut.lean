import GuidedChat.Proofs.Transport.Delivered
import GuidedChat.Proofs.Utf8.Held

/-! # Where a body was cut does not matter

A client gets the body of an answer in frames, which may end inside a character. The texts that
it makes of a success join to all the bytes read as UTF-8; if the body breaks off, to what was
read for good of the bytes that arrived (`RelayClient.reads_of_cutOff`). Nothing of this depends
on the frames, so neither does the turn that a conversation is told of (`takeTurn_recut`). -/

namespace GuidedChat

/-- The response `again` is the response `received`, with its body cut anew. -/
structure Recut (received again : Http.Response) : Prop where
  status : again.status = received.status
  bytes : again.bytes = received.bytes
  aborted : again.aborted = received.aborted

/-- What a client makes of a success whose bytes are those of `read` and then those of `tail`,
which begin a character. -/
structure RelayClient.Reads (received : Http.Response) (read tail : List UInt8) : Prop where
  whole : received.aborted = false → ∃ texts : List String,
    receive (.response received) = .ok (texts.map .ok) ∧
      String.join texts = Utf8.lossy received.bytes ∧
      String.join texts = Utf8.lossy read ++ if tail = [] then "" else "\uFFFD"
  broken : received.aborted = true → ∃ (texts : List String) (reason : String),
    receive (.response received) = .ok (texts.map .ok ++ [.error (.network reason)]) ∧
      String.join texts = Utf8.lossy read

theorem RelayClient.reads_of_cutOff {received : Http.Response}
    (hsuccess : received.isSuccess = true) {read tail : List UInt8}
    (h : Utf8.CutOff received.bytes read tail) : Reads received read tail := by
  constructor
  · intro hwhole
    obtain ⟨texts, hreceive, hjoin⟩ := receive_whole hsuccess hwhole
    exact ⟨texts, hreceive, hjoin, hjoin.trans h.lossy_eq⟩
  · intro hbroken
    obtain ⟨texts, reason, hreceive, hjoin⟩ := receive_broken hsuccess hbroken
    obtain ⟨read', hscan, htext⟩ := Utf8.scan_cutOff received.bytes
    obtain ⟨rfl, -⟩ := h.unique hscan
    exact ⟨texts, reason, hreceive, hjoin.trans htext.symm⟩

theorem TurnEvent.ofSent_success {received : Http.Response}
    (hsuccess : received.isSuccess = true) :
    ∃ pieces : List String,
      ofSent (RelayClient.receive (.response received)) =
          pieces.map chunk ++ [if received.aborted then failed .other else finished] ∧
        String.join pieces = if received.aborted then (Utf8.scan "" received.bytes).1
          else Utf8.lossy received.bytes := by
  cases haborted : received.aborted with
  | false => exact ofSent_whole hsuccess haborted
  | true => exact ofSent_broken hsuccess haborted

/-- **Where a body was cut does not matter.** Of a success a client makes texts alone, which join
to all of its bytes read as UTF-8; of one that breaks off it makes texts without the character
that was cut, and then one error. If it is cut anew, the turn tells texts that join to the same
and comes to the same end. -/
theorem takeTurn_recut {received : Http.Response} (hlow : 200 ≤ received.status)
    (hhigh : received.status < 300) :
    (∃ read tail, Utf8.CutOff received.bytes read tail) ∧
      (∀ read tail, Utf8.CutOff received.bytes read tail →
        RelayClient.Reads received read tail) ∧
      ∀ again, Recut received again →
        ∀ (client : RelayClient) (network network' : Http.Request → Http.Answer)
          (request : TurnRequest),
        network (client.request request.messages) = .response received →
        network' (client.request request.messages) = .response again →
          ∃ (pieces pieces' : List String) (last : TurnEvent),
            last = (if received.aborted then .failed .other else .finished) ∧
            (takeTurn (client.transport network) request).result =
              pieces.map .chunk ++ [last] ∧
            (takeTurn (client.transport network') request).result =
              pieces'.map .chunk ++ [last] ∧
            String.join pieces = String.join pieces' := by
  have hsuccess := received.isSuccess_iff.mpr ⟨hlow, hhigh⟩
  refine ⟨?_, fun read tail => RelayClient.reads_of_cutOff hsuccess, ?_⟩
  · obtain ⟨read, hcut, -⟩ := Utf8.scan_cutOff received.bytes
    exact ⟨read, _, hcut⟩
  · intro again hrecut client network network' request hnetwork hnetwork'
    have hsuccess' : again.isSuccess = true := by
      rw [again.isSuccess_iff, hrecut.status]
      exact ⟨hlow, hhigh⟩
    obtain ⟨pieces, hevents, hjoin⟩ := TurnEvent.ofSent_success hsuccess
    obtain ⟨pieces', hevents', hjoin'⟩ := TurnEvent.ofSent_success hsuccess'
    rw [hrecut.aborted] at hevents' hjoin'
    rw [hrecut.bytes] at hjoin'
    refine ⟨pieces, pieces', _, rfl, ?_, ?_, hjoin.trans hjoin'.symm⟩
    · rw [takeTurn, RelayClient.transport, hnetwork, hevents]
    · rw [takeTurn, RelayClient.transport, hnetwork', hevents']

/-- A body that breaks off inside its second character, cut within the first one and after it. -/
theorem takeTurn_recut_inside_character :
    let received : Http.Response :=
      { status := 200, frames := [[0xE3], [0x81, 0x93, 0xF0]], aborted := true }
    let again : Http.Response :=
      { status := 200, frames := [[0xE3, 0x81, 0x93], [], [0xF0]], aborted := true }
    let client : RelayClient := ⟨"http://localhost/api/vision-navi"⟩
    let request : TurnRequest := ⟨1, [.user "a"]⟩
    Recut received again ∧ ∃ (pieces pieces' : List String),
      (takeTurn (client.transport fun _ => .response received) request).result =
        pieces.map .chunk ++ [.failed .other] ∧
      (takeTurn (client.transport fun _ => .response again) request).result =
        pieces'.map .chunk ++ [.failed .other] ∧
      String.join pieces = String.join pieces' := by
  intro received again client request
  have hrecut : Recut received again := ⟨rfl, rfl, rfl⟩
  have hlow : 200 ≤ received.status := by decide
  have hhigh : received.status < 300 := by decide
  obtain ⟨-, -, hturns⟩ := takeTurn_recut hlow hhigh
  obtain ⟨pieces, pieces', last, hlast, hturn, hturn', hjoin⟩ := hturns again hrecut client
    (fun _ => .response received) (fun _ => .response again) request rfl rfl
  obtain rfl : last = .failed .other := hlast
  exact ⟨hrecut, pieces, pieces', hturn, hturn', hjoin⟩

end GuidedChat
