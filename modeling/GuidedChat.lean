import GuidedChat.Text.Utf8
import GuidedChat.Text.Blank
import GuidedChat.Decimal.Shortest
import GuidedChat.Json.Number
import GuidedChat.Json.Token
import GuidedChat.Json.Tree
import GuidedChat.Json.Bytes
import GuidedChat.Json.Record
import GuidedChat.Json.Strict
import GuidedChat.Message
import GuidedChat.Relay.Reply
import GuidedChat.Conversation.Turn
import GuidedChat.Conversation.History
import GuidedChat.Dialogue
import GuidedChat.Guided.Works
import GuidedChat.Guided.History
import GuidedChat.Capture.History
import GuidedChat.Transport.Http
import GuidedChat.Provider.Client
import GuidedChat.Service.Router
import GuidedChat.Service.Launch
import GuidedChat.Main
import GuidedChat.Text.Utf8.History
import GuidedChat.Proofs.Utf8.Decoder
import GuidedChat.Proofs.Conversation.Turns
import GuidedChat.Proofs.Conversation.Counts
import GuidedChat.Proofs.Dialogue.Holds
import GuidedChat.Proofs.Dialogue.Sound
import GuidedChat.Proofs.Conversation.Stale
import GuidedChat.Proofs.Conversation.Undisturbed
import GuidedChat.Proofs.Conversation.AppendOnly
import GuidedChat.Proofs.Json.Spelling
import GuidedChat.Proofs.Json.RoundTrip
import GuidedChat.Proofs.Relay.Posted
import GuidedChat.Proofs.Relay.Documents
import GuidedChat.Proofs.Conversation.Contents
import GuidedChat.Proofs.Relay.Scripts
import GuidedChat.Proofs.Service.Chat
import GuidedChat.Proofs.Service.Endings
import GuidedChat.Proofs.Transport.Delivered
import GuidedChat.Proofs.Conversation.Relayed
import GuidedChat.Proofs.Guided.Orderly
import GuidedChat.Proofs.Guided.Gathered
import GuidedChat.Proofs.Capture.Lifecycle
import GuidedChat.Proofs.Json.Members
import GuidedChat.Proofs.Json.Numbers
import GuidedChat.Proofs.Json.Records
import GuidedChat.Proofs.Relay.Grammar
import GuidedChat.Proofs.Provider.Instruction
import GuidedChat.Proofs.Service.Discretion
import GuidedChat.Proofs.Text.Lines
import GuidedChat.Proofs.Utf8.WellFormed
import GuidedChat.Proofs.Terminal.Session
import GuidedChat.Proofs.Provider.Errors
import GuidedChat.Proofs.Provider.Events
import GuidedChat.Proofs.Service.Limits
import GuidedChat.Proofs.Relay.Opening
import GuidedChat.Proofs.Relay.Prepared
import GuidedChat.Proofs.Conversation.Completed
import GuidedChat.Proofs.Utf8.Held
import GuidedChat.Proofs.Utf8.Eager
import GuidedChat.Proofs.Transport.Recut
import GuidedChat.Proofs.Provider.Framing
import GuidedChat.Proofs.Provider.Replies
import GuidedChat.Proofs.Capture.Dictated
import GuidedChat.Proofs.Guided.Transcript
import GuidedChat.Proofs.Guided.LettingGo
import GuidedChat.Proofs.Capture.Starting
import GuidedChat.Proofs.Capture.StatusLine
import GuidedChat.Proofs.Terminal.Printed
import GuidedChat.Proofs.Terminal.Asked
import GuidedChat.Proofs.Guided.Restarted
import GuidedChat.Proofs.Conversation.Drafted
