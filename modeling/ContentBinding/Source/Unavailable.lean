import ContentBinding.Files.World
import ContentBinding.Json.Bytes

/-! Why the content document of a page could not be had. -/

namespace ContentBinding

/-- An error of another party, by its kind and its text. -/
structure Fault where
  kind : String
  text : String
  deriving Repr, DecidableEq

namespace Fault

/-- Faults of use, which are no matter of transport. -/
def outsideTransport : List String :=
  ["InvalidURL", "CookieConflict", "StreamError", "StreamConsumed", "StreamClosed",
    "ResponseNotRead", "RequestNotRead"]

def isTransport (f : Fault) : Bool :=
  !outsideTransport.contains f.kind

/-- The text of a fault; one without text has the name of its kind. -/
def reason (f : Fault) : String :=
  if f.text.isEmpty then f.kind else f.text

end Fault

namespace Unavailable

inductive Cause
  | system (e : Files.SystemError)
  | transport (f : Fault)
  | status (code : Nat)
  | malformed (e : Json.ByteError)
  deriving Repr, DecidableEq

def Cause.reason : Cause → String
  | system e => e.message
  | transport f => f.reason
  | status code => "HTTP " ++ toString code
  | malformed e => e.message

/-- Whether the document could not be read for want of room. -/
def Cause.isDepth : Cause → Bool
  | malformed e => e.isDepth
  | _ => false

/-- Whether there was a document at all. -/
def Cause.isMalformed : Cause → Bool
  | malformed _ => true
  | _ => false

end Unavailable

/-- The document of a page is missing, could not be fetched, or is not JSON. -/
structure Unavailable where
  page : String
  cause : Unavailable.Cause
  deriving Repr, DecidableEq

namespace Unavailable

def reason (u : Unavailable) : String :=
  u.cause.reason

def message (u : Unavailable) : String :=
  "Could not load content for " ++ Text.quoted u.page ++ ": " ++ u.reason

/-- Reads the text of a document. -/
def ofText (page text : String) (room : Nat := Json.standardRoom) : Except Unavailable Json.Value :=
  match Json.parse text room with
  | .ok v => .ok v
  | .error e => .error ⟨page, .malformed (.syntactic e)⟩

/-- Reads the bytes of a document. -/
def ofBytes (page : String) (body : Text.Bytes) (room : Nat := Json.standardRoom) :
    Except Unavailable Json.Value :=
  match Json.parseBytes body room with
  | .ok v => .ok v
  | .error e => .error ⟨page, .malformed e⟩

end Unavailable
end ContentBinding
