/-! The chat flows on offer. A flow's slug names it everywhere: on the command line,
in the path it is served under, and as the key to its persona. -/

namespace GuidedChat

structure ChatFlow where
  slug : String
  name : String
  /-- What is said to the model first, so that the model opens the session. -/
  greeting : String
  deriving DecidableEq, Repr

namespace ChatFlow

def endpoint (flow : ChatFlow) : String := "/api/" ++ flow.slug

def visionNavi : ChatFlow where
  slug := "vision-navi"
  name := "無限ビジョンナビ"
  greeting := "こんにちは。初めまして。ビジョンナビゲーションを始めましょう。"

def limitDetector : ChatFlow where
  slug := "limit-detector"
  name := "リミットディテクター"
  greeting := "こんにちは。リミットディテクターのセッションを始めましょう。"

def all : List ChatFlow := [visionNavi, limitDetector]

def bySlug? (slug : String) : Option ChatFlow := all.find? (·.slug = slug)

theorem bySlug?_slug {flow : ChatFlow} (h : flow ∈ all) : bySlug? flow.slug = some flow := by
  simp only [all, List.mem_cons, List.not_mem_nil, or_false] at h
  rcases h with rfl | rfl <;> decide

end ChatFlow

end GuidedChat
