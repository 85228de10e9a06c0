/-! Results together with the calls made to reach them, in order. What is on the other
side of a call is given as a function, so the calls are the only trace it leaves. -/

namespace GuidedChat

structure Called (Call : Type) (α : Type) where
  calls : List Call
  result : α

end GuidedChat
