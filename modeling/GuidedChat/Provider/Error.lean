/-! What can go wrong between the relay and the provider. Being rate limited is a
cause of its own; every other cause counts as a failure. -/

namespace GuidedChat

inductive ProviderError
  | rateLimited (message : String)
  | api (status : Nat) (message : String)
  /-- No answer came, for the reason the network gives. -/
  | transport (reason : String)
  /-- An event of the reply is none that the provider sends. -/
  | decode (reason : String)
  /-- The reply broke off. -/
  | stream (reason : String)
  deriving DecidableEq, Repr

namespace ProviderError

def isRateLimited : ProviderError → Bool
  | rateLimited _ => true
  | _ => false

def message : ProviderError → String
  | rateLimited message => "upstream is rate limited: " ++ message
  | api status message => "upstream returned " ++ toString status ++ ": " ++ message
  | transport reason => reason
  | decode reason => "could not decode upstream event: " ++ reason
  | stream reason => "upstream stream broke: " ++ reason

end ProviderError

/-- A reply as it arrives: pieces of text, and what went wrong between them. -/
abbrev TextStream := List (Except ProviderError String)

end GuidedChat
