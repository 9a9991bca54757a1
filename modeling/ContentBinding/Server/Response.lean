import ContentBinding.Files.Path
import ContentBinding.Text.Bytes

/-! Responses. -/

namespace ContentBinding.Server

structure Response where
  status : Nat
  body : Text.Bytes := []
  /-- How long what is sent may be kept. -/
  cacheControl : Option String := none
  /-- The methods that may be used instead. -/
  allow : Option String := none
  /-- Set for pages. -/
  contentType : Option String := none
  deriving Repr, DecidableEq

namespace Response

/-- Caches ask each time whether what they have is the latest. -/
def revalidated : String := "no-cache"

/-- Caches keep nothing. -/
def neverStored : String := "no-cache, no-store, must-revalidate"

def pageType : String := "text/html"

def plain (status : Nat) (text : String) : Response :=
  { status := status, body := Text.encodeUtf8 text }

def badRequest : Response := { status := 400 }

def forbidden : Response := plain 403 "403: Forbidden"

def notFound : Response := plain 404 "404: Not Found"

def notAllowed : Response :=
  { plain 405 "405: Method Not Allowed" with allow := some "GET,HEAD" }

def failed : Response := { status := 500 }

/-- Names whose suffix, in letters of either case, is one of pages. Points in front do not count. -/
def isPageName (name : String) : Bool :=
  let suffix := Files.Path.suffixOf (String.ofList (name.toList.dropWhile (· = '.')))
  [".html", ".htm"].contains (String.ofList (suffix.toList.map Char.toLower))

/-- The content of a file, as it is. -/
def file (name : String) (content : Text.Bytes) : Response :=
  { status := 200, body := content
    contentType := if isPageName name then some pageType else none }

def page (html : String) : Response :=
  { status := 200
    body := Text.encodeUtf8 html
    cacheControl := some revalidated
    contentType := some (pageType ++ "; charset=utf-8") }

/-- The same without its body. -/
def withoutBody (r : Response) : Response :=
  { r with body := [] }

end Response
end ContentBinding.Server
