import GuidedChat.Text.Blank
import GuidedChat.Transport

/-! One chat session on the client's side. At most one reply is being received at any
time, and it lies after all settled messages, so a conversation is busy exactly when it
has a pending reply. Each request carries the number of its turn; events of any other
turn, and events after the end of a turn, change nothing. -/

namespace GuidedChat

/-- Texts that take the place of a reply that could not be received. -/
structure Fallbacks where
  greeting : String :=
    "こんにちは。対話を始めましょう。今、あなたが一番気になっていることは何ですか？"
  greetingRateLimited : String :=
    "現在APIの利用制限に達しています。しばらくお待ちいただくか、APIキーの設定をご確認ください。"
  reply : String := "申し訳ございません。エラーが発生しました。もう一度お試しください。"
  replyRateLimited : String :=
    "APIの利用制限に達しています。しばらくお待ちいただいてから再度お試しください。"
  deriving DecidableEq, Repr

/-- What a turn asks for: the opening of the session, or the answer to a message. -/
inductive TurnKind
  | greeting
  | reply
  deriving DecidableEq, Repr

def Fallbacks.text (fallbacks : Fallbacks) : TurnKind → FailureKind → String
  | .greeting, .rateLimited => fallbacks.greetingRateLimited
  | .greeting, .other => fallbacks.greeting
  | .reply, .rateLimited => fallbacks.replyRateLimited
  | .reply, .other => fallbacks.reply

inductive TurnEvent
  | chunk (text : String)
  | finished
  | failed (kind : FailureKind)
  deriving DecidableEq, Repr

def TurnEvent.isTerminal : TurnEvent → Bool
  | chunk _ => false
  | finished | failed _ => true

structure TurnRequest where
  turn : Nat
  messages : List Message
  deriving DecidableEq, Repr

/-- A reply of which `text` has arrived. -/
structure Pending where
  kind : TurnKind
  text : String
  deriving DecidableEq, Repr

inductive Phase
  | idle
  | awaitingFirstReply
  | awaitingReply
  deriving DecidableEq, Repr

structure Conversation where
  settled : List Message := []
  pending : Option Pending := none
  input : String := ""
  /-- Said to the model to open the session; never among the messages. -/
  greetingPrompt : String
  bootstrapped : Bool := false
  /-- The number of requests made so far, and the number of the last one. -/
  turn : Nat := 0
  lastFailure : Option FailureKind := none
  fallbacks : Fallbacks := {}
  deriving DecidableEq, Repr

namespace Conversation

/-! ## Views -/

/-- All messages, with what has arrived of a pending reply at the end. -/
def messages (c : Conversation) : List Message :=
  c.settled ++ (c.pending.map fun p => Message.assistant p.text).toList

def phase (c : Conversation) : Phase :=
  match c.pending with
  | none => .idle
  | some ⟨.greeting, _⟩ => .awaitingFirstReply
  | some ⟨.reply, _⟩ => .awaitingReply

def isBusy (c : Conversation) : Bool := c.pending.isSome

/-- Where the pending reply stands among the messages. An empty message anywhere else
is a reply that ended empty. -/
def pendingIndex (c : Conversation) : Option Nat := c.pending.map fun _ => c.settled.length

def pendingRole (c : Conversation) : Option Role :=
  c.pendingIndex.bind fun index => c.messages[index]?.map (·.role)

def canSubmit (c : Conversation) : Bool := !c.isBusy && Text.trim c.input ≠ ""

theorem pendingRole_eq (c : Conversation) :
    c.pendingRole = c.pending.map fun _ => Role.assistant := by
  cases h : c.pending <;> simp [pendingRole, pendingIndex, messages, h, Message.assistant]

theorem phase_eq_idle_iff (c : Conversation) : c.phase = .idle ↔ c.isBusy = false := by
  unfold phase isBusy
  split <;> simp_all

/-! ## Operations -/

def setInput (c : Conversation) (text : String) : Conversation := { c with input := text }

def appendInput (c : Conversation) (text : String) : Conversation :=
  { c with input := c.input ++ text }

def begin (c : Conversation) (kind : TurnKind) : Conversation :=
  { c with turn := c.turn + 1, lastFailure := none, pending := some ⟨kind, ""⟩ }

def bootstrap (c : Conversation) : Conversation × Option TurnRequest :=
  if c.bootstrapped || c.isBusy then (c, none)
  else
    ({ c with bootstrapped := true }.begin .greeting,
      some ⟨c.turn + 1, [.user c.greetingPrompt]⟩)

def submit (c : Conversation) : Conversation × Option TurnRequest :=
  if c.canSubmit then
    let asked := c.settled ++ [.user (Text.trim c.input)]
    ({ c with input := "", settled := asked }.begin .reply, some ⟨c.turn + 1, asked⟩)
  else (c, none)

/-- The pending reply is over and reads `text`. -/
def settle (c : Conversation) (text : String) (failure : Option FailureKind) : Conversation :=
  { c with
    settled := c.settled ++ [.assistant text]
    pending := none
    lastFailure := failure }

/-- Takes in one event of a turn, and tells whether anything changed. -/
def apply (c : Conversation) (turn : Nat) (event : TurnEvent) : Conversation × Bool :=
  if turn ≠ c.turn then (c, false)
  else
    match c.pending with
    | none => (c, false)
    | some pending =>
      match event with
      | .chunk text =>
        if text = "" then (c, false)
        else ({ c with pending := some { pending with text := pending.text ++ text } }, true)
      | .finished => (c.settle pending.text none, true)
      | .failed kind => (c.settle (c.fallbacks.text pending.kind kind) (some kind), true)

def applyAll (c : Conversation) (turn : Nat) (events : List TurnEvent) : Conversation :=
  events.foldl (fun c event => (c.apply turn event).1) c

end Conversation

end GuidedChat
