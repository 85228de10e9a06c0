/-! Where a request goes: a path with a query. The server may be named before the path,
and then an empty path stands for the first one; a fragment is no part of it. -/

namespace GuidedChat.Http

structure Target where
  /-- The server with its scheme, where it is named. -/
  server : String := ""
  path : String
  /-- With its question mark; empty where nothing is asked. -/
  query : String := ""
  deriving DecidableEq, Repr

namespace Target

/-- The name of a scheme may hold a tilde too. -/
def isSchemeChar (c : Char) : Bool := c.isAlphanum || ['+', '-', '.', '~'].contains c

/-- The two common schemes are written in lower case, any other as it came. -/
def schemeName (scheme : List Char) : List Char :=
  let lower := scheme.map Char.toLower
  if lower = "http".toList || lower = "https".toList then lower else scheme

def ofPath (server : List Char) (cs : List Char) : Target :=
  { server := String.ofList server
    path := String.ofList (cs.takeWhile (· ≠ '?'))
    query := String.ofList (cs.dropWhile (· ≠ '?')) }

def ofString (text : String) : Target :=
  let cs := text.toList.takeWhile (· ≠ '#')
  if cs.head? = some '/' || cs = ['*'] then ofPath [] cs
  else
    match cs.dropWhile isSchemeChar with
    | ':' :: '/' :: '/' :: rest =>
      let isName (c : Char) := c ≠ '/' && c ≠ '?'
      let server :=
        schemeName (cs.takeWhile isSchemeChar) ++ "://".toList ++ rest.takeWhile isName
      let target := ofPath server (rest.dropWhile isName)
      if target.path.isEmpty then { target with path := "/" } else target
    | _ => { server := String.ofList cs, path := "" }

/-- The target with a slash after its path, written out. -/
def withSlash (target : Target) : String :=
  target.server ++ target.path ++ "/" ++ target.query

example : ofString "/a?b#c" = { path := "/a", query := "?b" } := by decide
example : ofString "HTTP://h:1?b" = { server := "http://h:1", path := "/", query := "?b" } := by
  decide
example : (ofString "http://h/a?b").withSlash = "http://h/a/?b" := by decide

end Target

end GuidedChat.Http
