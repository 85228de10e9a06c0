import GuidedChat.Service.MediaType.Table

/-! Media types of files. What a file is taken for hangs on the ending of its name, without
regard to case; a character that differs only in case from several letters counts as those. -/

namespace GuidedChat.Service

/-- What stands after the last point of a name, if anything stands before it. -/
def ending? (name : String) : Option String :=
  let reversed := name.toList.reverse
  match reversed.dropWhile (· ≠ '.') with
  | _ :: _ :: _ => some (String.ofList (reversed.takeWhile (· ≠ '.')).reverse)
  | _ => none

/-- The characters outside ASCII that differ only in case from ASCII letters. -/
def lowerForms : List (Char × String) := [
  ('\u00df', "ss"), ('\u017f', "s"), ('\u1e9e', "ss"), ('\u212a', "k"), ('\ufb00', "ff"),
  ('\ufb01', "fi"), ('\ufb02', "fl"), ('\ufb03', "ffi"), ('\ufb04', "ffl"), ('\ufb05', "st"),
  ('\ufb06', "st")]

/-- The letters of an ending in lower case. -/
def lowered (ending : String) : String :=
  String.ofList (ending.toList.flatMap fun c =>
    ((lowerForms.lookup c).map String.toList).getD [c.toLower])

def bytesMediaType : String := "application/octet-stream"

def mediaType (name : String) : String :=
  let found? := (ending? name).bind fun ending =>
    mediaTypeEndings.find? fun (_, endings) => endings.contains (lowered ending)
  (found?.map Prod.fst).getD bytesMediaType

example : ending? "a.tar.gz" = some "gz" := by decide
example : ending? ".gz" = none := by decide
example : lowered "TI\ufb00" = "tiff" := by decide

end GuidedChat.Service
