import GuidedChat.Guided.Answers
import GuidedChat.Text.Quoted

/-! The steps of a guided flow: a text to be shown, what the user may do with it, and
the key under which the answer is kept. A text may depend on earlier answers. -/

namespace GuidedChat

/-- A piece of a template: fixed words, or an answer with the words that stand in for
it while there is none. -/
inductive TextPart
  | words (text : String)
  | answer (key : String) (absent : String)
  deriving DecidableEq, Repr

inductive StepText
  | fixed (text : String)
  | template (render : Answers → String)

namespace StepText

def render : StepText → Answers → String
  | fixed text, _ => text
  | template f, answers => f answers

def ofParts (parts : List TextPart) : StepText :=
  template fun answers => String.join (parts.map fun
    | .words text => text
    | .answer key absent => (answers.get? key).getD absent)

/-- The text as it is shown for inspection; a template cannot be looked into. -/
def inspected : StepText → String
  | fixed text => "Static(" ++ Text.quoted text ++ ")"
  | template _ => "Template(..)"

end StepText

inductive StepInput
  | tap
  | select (options : List String)
  | text (placeholder : Option String)
  deriving DecidableEq, Repr

structure Step where
  id : String
  text : StepText
  input : StepInput
  /-- Where the answer is kept; what has no key is not kept. -/
  key : Option String := none

namespace Step

def tap (id : String) (text : StepText) : Step := { id, text, input := .tap }

def select (id key : String) (text : StepText) (options : List String) : Step :=
  { id, text, input := .select options, key }

def ask (id key : String) (text : StepText) : Step :=
  { id, text, input := .text none, key }

/-- Words shown in a text field before anything is typed; other steps have none. -/
def withPlaceholder (step : Step) (words : String) : Step :=
  match step.input with
  | .text _ => { step with input := .text (some words) }
  | _ => step

end Step

end GuidedChat
