import ContentBinding.Url.Escaped

/-! What a request names: a method, and a target that is a path, mostly with a query behind it. -/

namespace ContentBinding.Server

inductive Method
  | get | head | other
  deriving Repr, DecidableEq

namespace Method

/-- Methods that are known and not served. -/
def otherNames : List String :=
  ["DELETE", "POST", "PUT", "CONNECT", "OPTIONS", "TRACE", "COPY", "LOCK", "MKCOL", "MOVE",
    "PROPFIND", "PROPPATCH", "SEARCH", "UNLOCK", "BIND", "REBIND", "UNBIND", "ACL", "REPORT",
    "MKACTIVITY", "CHECKOUT", "MERGE", "M-SEARCH", "NOTIFY", "SUBSCRIBE", "UNSUBSCRIBE", "PATCH",
    "PURGE", "MKCALENDAR", "LINK", "UNLINK", "SOURCE", "QUERY"]

def ofString? (s : String) : Option Method :=
  if s = "GET" then some .get
  else if s = "HEAD" then some .head
  else if otherNames.contains s then some .other
  else none

end Method

/-- The path of a request, in the two forms that are needed. -/
structure Target where
  /-- Decoded but for escaped slashes and percent signs. -/
  path : List Char
  /-- Decoded altogether. -/
  location : String
  deriving Repr, DecidableEq

namespace Target

/-- Neither blanks nor controls may stand in a target. -/
def isAllowed (c : Char) : Bool :=
  0x20 < c.toNat && c.toNat != 0x7F

def endsPath (c : Char) : Bool :=
  c = '?' || c = '#'

def endsAuthority (c : Char) : Bool :=
  c = '/' || endsPath c

def ofPath (cs : List Char) : Target :=
  let path := cs.takeWhile fun c => !endsPath c
  ⟨Url.unescapePath path, String.ofList (Url.unescape path)⟩

/-- The path of a whole address; an empty one is the root. -/
def pathOfAddress? (cs : List Char) : Option (List Char) :=
  match cs.dropWhile Char.isAlpha with
  | ':' :: '/' :: '/' :: rest =>
    let path := rest.dropWhile fun c => !endsAuthority c
    some (if path.head? = some '/' then path else '/' :: path)
  | _ => none

/-- Reads a target: a path, a whole address, or the mark for no path at all. -/
def ofString? (s : String) : Option Target :=
  let cs := s.toList
  if !cs.all isAllowed then none
  else
    match cs with
    | [] => none
    | c :: _ =>
      if c = '/' || c = '*' then some (ofPath cs)
      else if c.isAlpha then (pathOfAddress? cs).map ofPath
      else none

end Target
end ContentBinding.Server
