import ContentBinding.Report
import ContentBinding.Source.Unavailable
import ContentBinding.Url.Join

/-! Content documents on the web. Every request carries the time and asks caches to stand aside, so
that the latest document comes back. -/

namespace ContentBinding

/-- What a request came to. -/
inductive Reply
  | response (status : Nat) (body : Text.Bytes)
  | failed (f : Fault)
  deriving Repr, DecidableEq

structure Request where
  address : Url
  /-- Milliseconds. -/
  time : Int
  deriving Repr, DecidableEq

namespace Request

def method : String := "GET"

def headers : List (String × String) :=
  [("Cache-Control", "no-cache"), ("Pragma", "no-cache")]

end Request

/-- Everything that a load depends on and does not change. -/
structure Surroundings where
  files : Files.World
  network : Url → Reply
  /-- Seconds. -/
  clock : Number.Double

/-- What a fetch, or a load after it, ends in when it comes to nothing. -/
inductive FetchError
  | unavailable (u : Unavailable)
  | address (e : UrlError)
  | fault (f : Fault)
  | path (e : Files.PathError)
  | clock (time : Number.Double)
  deriving Repr, DecidableEq

namespace FetchError

/-- A document that could not be read for want of room is not taken for a missing one. -/
def ofUnavailable (u : Unavailable) : FetchError :=
  if u.cause.isDepth then .fault ⟨"RecursionError", u.reason⟩ else .unavailable u

def ofOverlong (e : Text.Overlong) : FetchError :=
  .fault ⟨"ValueError", e.message⟩

def clockMessage : Number.Double → String
  | .nan => "cannot convert float NaN to integer"
  | _ => "cannot convert float infinity to integer"

def message : FetchError → String
  | unavailable u => u.message
  | address e => e.message
  | fault f => f.text
  | path e => e.message
  | clock t => clockMessage t

end FetchError

/-- Who opened the connection: it is closed by the same side. -/
inductive Client
  | given
  | own (isOpen : Bool)
  deriving Repr, DecidableEq

/-- What is done with clients. -/
inductive ClientEvent
  | opened
  | asked (client : Client) (request : Request)
  | closed (client : Client)
  deriving Repr, DecidableEq

def ClientEvent.request? : ClientEvent → Option Request
  | asked _ request => some request
  | _ => none

structure Remote where
  base : Url
  contentPath : String := "content"
  client : Client := .own false
  deriving Repr, DecidableEq

namespace Remote

def trimSlashes (s : String) : String :=
  let left := s.toList.dropWhile (· = '/')
  String.ofList (left.reverse.dropWhile (· = '/')).reverse

/-- Where the document of a page is. -/
def documentUrl (r : Remote) (page : String) : Except UrlError Url :=
  r.base.join (trimSlashes r.contentPath ++ "/" ++ page ++ ".json")

/-- The address that is asked: one without a host stands below an empty base, and the fragment and
the query give way to the time. -/
def requestUrl (u : Url) : Url :=
  if u.isAbsolute then { u with query := none, fragment := none }
  else { path := "/" ++ String.ofList (u.path.toList.dropWhile (· = '/')) }

/-- A number cut toward zero, when it is one. -/
def truncated : Number.Double → Except FetchError Int
  | .finite v => .ok v.truncate
  | t => .error (.clock t)

/-- Milliseconds, cut toward zero. -/
def timestamp (clock : Number.Double) : Except FetchError Int :=
  match clock with
  -- the product may be infinite although the time is not
  | .finite v => truncated (v.scale 1000)
  | t => .error (.clock t)

def origin : String := "pagebind.core.sources"

def isSuccess (status : Nat) : Bool :=
  200 ≤ status && status < 300

/-- What a reply makes of the document. -/
def read (room : Nat) (page : String) : Reply → Except FetchError Json.Value
  | .failed f =>
    if f.isTransport then .error (.unavailable ⟨page, .transport f⟩) else .error (.fault f)
  | .response status body =>
    if isSuccess status then
      (Unavailable.ofBytes page body room).mapError .ofUnavailable
    else .error (.unavailable ⟨page, .status status⟩)

/-- The client for a request; where there is none, one is opened. -/
def takeClient : Client → Client × List ClientEvent
  | .given => (.given, [])
  | .own true => (.own true, [])
  | .own false => (.own true, [.opened])

@[simp] theorem filterMap_takeClient (c : Client) :
    (takeClient c).2.filterMap ClientEvent.request? = [] := by
  unfold takeClient
  split <;> rfl

/-- A client that was opened here is closed. -/
def release (r : Remote) : Remote × List ClientEvent :=
  match r.client with
  | .own true => ({ r with client := .own false }, [.closed r.client])
  | _ => (r, [])

end Remote
end ContentBinding
