import GuidedChat.Http.Date
import GuidedChat.Http.Exchange
import GuidedChat.Service.MediaType
import GuidedChat.Service.Path
import GuidedChat.Service.Range

/-! A directory of files served as they are. A path without a file of its own gets the
index page of the site, so that pages can have paths that only they know. -/

namespace GuidedChat.Service

structure Site where
  /-- The name of the directory, from the root of the file system. -/
  directory : String
  /-- The files by their names from the directory, with slashes. -/
  files : List (String × List UInt8)
  /-- When the files were written, in seconds since the start of 1970. -/
  written : Nat

inductive Found
  | file (bytes : List UInt8)
  | directory
  | nothing
  /-- No file system takes such a name. -/
  | unreadable
  deriving DecidableEq, Repr

namespace Site

def places (site : Site) : List (List String × List UInt8) :=
  site.files.map fun (name, bytes) => (splitSlashes [] name.toList, bytes)

def isDirectory (site : Site) (names : List String) : Bool :=
  names.isEmpty || site.places.any fun (place, _) =>
    names.length < place.length && place.take names.length = names

/-- Follows names from a directory; a name longer than a directory can hold is noticed
once it is reached. -/
def follow (site : Site) (seen : List String) : List String → Found
  | [] =>
    if site.isDirectory seen then .directory
    else
      match site.places.lookup seen with
      | some bytes => .file bytes
      | none => .nothing
  | name :: rest =>
    if !site.isDirectory seen then .nothing
    else if name.utf8ByteSize > 255 then .unreadable
    else follow site (seen ++ [name]) rest

def longestName : Nat := 4095

def nameLength (site : Site) (names : List String) : Nat :=
  names.foldl (fun length name => length + 1 + name.utf8ByteSize) site.directory.utf8ByteSize

def find (site : Site) (names : List String) : Found :=
  if names.any (·.contains '\x00') || longestName < site.nameLength names then .unreadable
  else site.follow [] names

def frameSize : Nat := 65536

def frames (bytes : List UInt8) : List (List UInt8) :=
  go (bytes.length / frameSize + 1) bytes
where
  go : Nat → List UInt8 → List (List UInt8)
    | 0, _ | _, [] => []
    | fuel + 1, bytes => bytes.take frameSize :: go fuel (bytes.drop frameSize)

/-- Why a file need not be sent: it has been written since a moment up to which it was to
be as it was, or it has not been written since a moment at which it is known. -/
def unsent? (site : Site) (request : Http.Request) : Option Http.Response :=
  let moment? (header : String) :=
    ((request.header? header).bind Http.Date.parse?).map Http.Date.seconds
  if (moment? "if-unmodified-since").any (· < site.written) then some { status := 412 }
  else if (moment? "if-modified-since").any (site.written ≤ ·) then some { status := 304 }
  else none

def directorySize : Nat := 4096

/-- A place, or the part of it that is asked for, where no `bytes` stand for a directory: it
can be opened like a file, but not be read. -/
def content (request : Http.Request) (mediaType : String) (bytes : Option (List UInt8)) :
    Http.Response :=
  let size := (bytes.map List.length).getD directorySize
  let headers := [("content-type", mediaType), ("accept-ranges", "bytes")]
  let sent (status : Nat) (extra : List (String × String)) (first length : Nat) :
      Http.Response :=
    let response : Http.Response :=
      { status
        headers := headers ++ extra ++ [("content-length", toString length)] }
    if request.method = "HEAD" then response
    else
      match bytes with
      | some bytes => { response with frames := frames ((bytes.drop first).take length) }
      | none => { response with aborted := true }
  let refusal (frames : List (List UInt8)) : Http.Response :=
    { status := 416
      headers := headers ++ [("content-range", "bytes */" ++ toString size)]
      frames }
  let isHeader (value : String) := value.toList.all fun c => c = '\t' || (' ' ≤ c && c < '\x7f')
  match (request.header? "range").filter isHeader |>.map (RangeDemand.ofHeader size) with
  | none => sent 200 [] 0 size
  | some (.single range) =>
    let place := toString range.first ++ "-" ++ toString range.last ++ "/" ++ toString size
    sent 206 [("content-range", "bytes " ++ place)] range.first (range.last + 1 - range.first)
  | some .several => refusal [Utf8.encode "Cannot serve multipart range requests"]
  | some .unsatisfiable => refusal []

/-- What an open place is answered with, by its name. -/
def opened (site : Site) (request : Http.Request) (name : String)
    (bytes : Option (List UInt8)) : Http.Response :=
  (site.unsent? request).getD (content request (mediaType name) bytes)

def index (site : Site) (request : Http.Request) : Http.Response :=
  match site.find ["index.html"] with
  | .file bytes => site.opened request "index.html" (some bytes)
  | .directory => site.opened request "index.html" none
  | _ => { status := 404 }

def atPlace (site : Site) (request : Http.Request) (names : List String) : Http.Response :=
  match site.find names with
  | .file bytes => site.opened request (names.getLastD "") (some bytes)
  | .directory => site.opened request (names.getLastD "") none
  | .nothing => site.index request
  | .unreadable => { status := 500 }

/-- A path to a directory leads to its index page once it ends in a slash. -/
def serve (site : Site) (request : Http.Request) : Http.Response :=
  if request.method ≠ "GET" ∧ request.method ≠ "HEAD" then
    { status := 405, headers := [("allow", "GET,HEAD")] }
  else
    match place? request.path with
    | none => site.index request
    | some names =>
      if site.find names ≠ .directory then site.atPlace request names
      else if request.path.toList.getLast? = some '/' then
        site.atPlace request (names ++ ["index.html"])
      else
        { status := 307
          headers := [("location", (Http.Target.ofString request.target).withSlash)] }

end Site

end GuidedChat.Service
