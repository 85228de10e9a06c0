import GuidedChat.Conversation.Turn
import GuidedChat.Proofs.Relay.Scripts
import GuidedChat.Proofs.Utf8.Decoder
import GuidedChat.Transport.Http

/-! # What a client makes of an answer

On its way to the client an answer keeps its status and its bytes, but its frames may be cut
anew, and of a body that breaks off it is only certain that it breaks off (`Delivers`). The
events of the turn depend on nothing else. A success that arrives in full becomes texts that
join to its bytes read as UTF-8, and an end (`ofSent_whole`). A success that breaks off becomes
what could be read until then, and is a failure like any other (`ofSent_broken`); and of all
refusals one status stands out (`ofSent_refused`). -/

namespace GuidedChat

/-- The answer `received` is what a client may see of the answer `sent`. -/
structure Delivers (sent received : Http.Response) : Prop where
  status : received.status = sent.status
  aborted : received.aborted = sent.aborted
  bytes : sent.aborted = false → received.bytes = sent.bytes

/-- A relay behind a network, as conversations use it. -/
def RelayClient.transport (client : RelayClient) (network : Http.Request → Http.Answer) :
    Transport :=
  fun messages => receive (network (client.request messages))

namespace RelayClient

theorem chunks_whole (decoder : Utf8.Decoder) (frames : List (List UInt8)) :
    chunks false decoder frames =
      (decoder.run (Utf8.Decoder.stretch frames)).2.map .ok := by
  induction frames generalizing decoder with
  | nil => rfl
  | cons frame frames ih => exact congrArg (.ok (decoder.push frame).1 :: ·) (ih _)

theorem chunks_broken (decoder : Utf8.Decoder) (frames : List (List UInt8)) :
    ∃ reason, chunks true decoder frames =
      (decoder.run (frames.map .push)).2.map .ok ++ [.error (.network reason)] := by
  induction frames generalizing decoder with
  | nil => exact ⟨_, rfl⟩
  | cons frame frames ih =>
    obtain ⟨reason, h⟩ := ih (decoder.push frame).2
    refine ⟨reason, ?_⟩
    exact congrArg (.ok (decoder.push frame).1 :: ·) h

variable {received : Http.Response}

theorem receive_whole (hsuccess : received.isSuccess = true)
    (hwhole : received.aborted = false) :
    ∃ texts : List String, receive (.response received) = .ok (texts.map .ok) ∧
      String.join texts = Utf8.lossy received.bytes := by
  refine ⟨_, ?_, Utf8.Decoder.join_run_fresh received.frames⟩
  rw [receive, if_pos hsuccess, hwhole, chunks_whole]

theorem receive_broken (hsuccess : received.isSuccess = true)
    (hbroken : received.aborted = true) :
    ∃ (texts : List String) (reason : String),
      receive (.response received) = .ok (texts.map .ok ++ [.error (.network reason)]) ∧
        String.join texts = (Utf8.scan "" received.bytes).1 := by
  obtain ⟨reason, hchunks⟩ := chunks_broken {} received.frames
  refine ⟨_, reason, ?_, Utf8.Decoder.join_run_pushes received.frames⟩
  rw [receive, if_pos hsuccess, hbroken, hchunks]

end RelayClient

namespace TurnEvent

/-- Texts become chunks, and empty ones nothing. -/
theorem ofChunks_append (texts : List String) (rest : ChunkStream) :
    ofChunks (texts.map .ok ++ rest) = (Text.kept texts).map chunk ++ ofChunks rest := by
  induction texts with
  | nil => rfl
  | cons text texts ih =>
    rw [List.map_cons, List.cons_append, ofChunks, ih]
    by_cases h : text = ""
    · simp [Text.kept, h]
    · simp [Text.kept, h]

variable {received : Http.Response}

theorem ofSent_whole (hsuccess : received.isSuccess = true) (hwhole : received.aborted = false) :
    ∃ texts : List String, ofSent (RelayClient.receive (.response received)) =
        texts.map chunk ++ [finished] ∧ String.join texts = Utf8.lossy received.bytes := by
  obtain ⟨texts, hreceive, hjoin⟩ := RelayClient.receive_whole hsuccess hwhole
  refine ⟨Text.kept texts, ?_, (Text.join_kept texts).trans hjoin⟩
  have happend := ofChunks_append texts []
  rw [List.append_nil] at happend
  rw [hreceive]
  exact happend

theorem ofSent_broken (hsuccess : received.isSuccess = true) (hbroken : received.aborted = true) :
    ∃ texts : List String, ofSent (RelayClient.receive (.response received)) =
        texts.map chunk ++ [failed .other] ∧
      String.join texts = (Utf8.scan "" received.bytes).1 := by
  obtain ⟨texts, reason, hreceive, hjoin⟩ := RelayClient.receive_broken hsuccess hbroken
  refine ⟨Text.kept texts, ?_, (Text.join_kept texts).trans hjoin⟩
  rw [hreceive]
  exact ofChunks_append texts [.error (.network reason)]

theorem ofSent_refused (hrefused : received.isSuccess = false) :
    ofSent (RelayClient.receive (.response received)) =
      [failed (TransportError.ofStatus received.status).kind] := by
  rw [RelayClient.receive, if_neg (by rw [hrefused]; decide)]
  rfl

end TurnEvent

end GuidedChat
