import GuidedChat.Http.Exchange
import GuidedChat.Text.Utf8
import GuidedChat.Transport

/-! The relay reached over HTTP. The text of a reply is decoded as its frames arrive; a
character cut by the end of the body becomes a mark, and one cut by a body that breaks
off is lost with it. -/

namespace GuidedChat

structure RelayClient where
  url : String
  deriving DecidableEq, Repr

namespace RelayClient

/-- The address of a flow at a server; slashes at the end of the server's do not count. -/
def ofServer (server endpoint : String) : RelayClient :=
  ⟨String.ofList (server.toList.reverse.dropWhile (· = '/')).reverse ++ endpoint⟩

def request (client : RelayClient) (messages : List Message) : Http.Request :=
  Http.post client.url [] (Utf8.encode (ChatRequest.body ⟨messages⟩))

def chunks (aborted : Bool) (decoder : Utf8.Decoder) : List (List UInt8) → ChunkStream
  | [] =>
    if aborted then [.error (.network "the body broke off")]
    else [.ok decoder.finish.1]
  | frame :: rest =>
    let (text, decoder) := decoder.push frame
    .ok text :: chunks aborted decoder rest

/-- What an answer means to a conversation. Its status is that after all redirects, and its frames
are those of the decompressed body. -/
def receive : Http.Answer → Except TransportError ChunkStream
  | .unreachable reason => .error (.network reason)
  | .response response =>
    if response.isSuccess then .ok (chunks response.aborted {} response.frames)
    else .error (.ofStatus response.status)

end RelayClient

end GuidedChat
