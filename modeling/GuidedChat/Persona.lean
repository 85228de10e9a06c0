import GuidedChat.Flow
import GuidedChat.Persona.VisionNavi
import GuidedChat.Persona.LimitDetector

/-! Personas: each flow with the instruction the model works under. Instructions are
fixed here and never come from a caller. -/

namespace GuidedChat

structure Persona where
  flow : ChatFlow
  instruction : String
  deriving DecidableEq, Repr

namespace Persona

/-- Lines as a text in which every line is ended. -/
private def written (lines : List String) : String :=
  String.join (lines.map (· ++ "\n"))

def visionNavi : Persona := ⟨.visionNavi, written visionNaviInstruction⟩

def limitDetector : Persona := ⟨.limitDetector, written limitDetectorInstruction⟩

def all : List Persona := [visionNavi, limitDetector]

def slug (persona : Persona) : String := persona.flow.slug

def bySlug? (slug : String) : Option Persona := all.find? (·.slug = slug)

theorem map_flow_all : all.map flow = ChatFlow.all := rfl

theorem bySlug?_slug {persona : Persona} (h : persona ∈ all) :
    bySlug? persona.slug = some persona := by
  simp only [all, List.mem_cons, List.not_mem_nil, or_false] at h
  rcases h with rfl | rfl <;> rfl

end Persona

end GuidedChat
