import ContentBinding.Text.Bytes
import ContentBinding.Text.Digits
import ContentBinding.Text.Quoted
import ContentBinding.Url.Address
import ContentBinding.Url.Punycode

/-! Addresses on the web: their parts, how they are read, and how they are written. Characters that
a part may not hold are written as percent signs with two hexadecimal digits. -/

namespace ContentBinding

structure Url where
  scheme : String := ""
  userinfo : String := ""
  host : String := ""
  port : Option Int := none
  path : String := ""
  query : Option String := none
  fragment : Option String := none
  deriving Repr, DecidableEq

/-- Why a text is no address. -/
inductive UrlError
  | tooLong
  | control (c : Char) (position : Nat)
  | dottedHost (host : String)
  | colonHost (host : String)
  | hostName (host : String)
  | port (text : String)
  | rootlessPath
  | doubleSlashPath
  | colonPath
  deriving Repr, DecidableEq

def UrlError.message : UrlError → String
  | tooLong => "URL too long"
  | control c n =>
    "Invalid non-printable ASCII character in URL, " ++ Text.quoted c.toString ++
      " at position " ++ toString n ++ "."
  | dottedHost h => "Invalid IPv4 address: " ++ Text.quoted h
  | colonHost h => "Invalid IPv6 address: " ++ Text.quoted h
  | hostName h => "Invalid IDNA hostname: " ++ Text.quoted h
  | port t => "Invalid port: " ++ Text.quoted t
  | rootlessPath => "For absolute URLs, path must be empty or begin with '/'"
  | doubleSlashPath => "Relative URLs cannot have a path starting with '//'"
  | colonPath => "Relative URLs cannot have a path starting with ':'"

namespace Url

/-! Escapes -/

def percent (b : UInt8) : List Char :=
  '%' :: (Text.hexByte b).toList.map Char.toUpper

def escapeChar (isSafe : Char → Bool) (c : Char) : List Char :=
  if isSafe c then [c] else (Text.encodeChar c).flatMap percent

def escape (isSafe : Char → Bool) (cs : List Char) : String :=
  String.ofList (cs.flatMap (escapeChar isSafe))

def isGraphic (c : Char) : Bool :=
  0x20 < c.toNat && c.toNat < 0x7F

def fragmentSafe (c : Char) : Bool :=
  isGraphic c && !(['"', '<', '>', '\x60'].contains c)

def querySafe (c : Char) : Bool :=
  isGraphic c && !(['"', '#', '<', '>'].contains c)

def pathSafe (c : Char) : Bool :=
  querySafe c && !(['?', '\x60', '\x7b', '\x7d'].contains c)

def userinfoSafe (c : Char) : Bool :=
  pathSafe c && !(['/', ';', '=', '@', '[', '\\', ']', '^', '|'].contains c)

def hostSafe (c : Char) : Bool :=
  c.isAlphanum || "-._~!$&'()*+,;=\"\x60\x7b\x7d%|\\".toList.contains c

/-! Parts -/

/-- What stands before the first character of a kind, and the rest from there on. -/
def spanUntil (isEnd : Char → Bool) (cs : List Char) : List Char × List Char :=
  (cs.takeWhile fun c => !isEnd c, cs.dropWhile fun c => !isEnd c)

def isSchemeChar (c : Char) : Bool :=
  c.isAlphanum || c = '+' || c = '.' || c = '-'

/-- The scheme before a colon, if any. A colon at the front ends an empty one. -/
def takeScheme (cs : List Char) : List Char × List Char :=
  let (s, rest) := spanUntil (fun c => !isSchemeChar c) cs
  match s, rest with
  | [], ':' :: rest => ([], rest)
  | a :: _, ':' :: rest => if a.isAlpha then (s, rest) else ([], cs)
  | _, _ => ([], cs)

def takeAuthority (cs : List Char) : List Char × List Char :=
  match cs with
  | '/' :: '/' :: rest => spanUntil (fun c => c = '/' || c = '?' || c = '#') rest
  | _ => ([], cs)

/-- A part that a mark introduces, up to the next mark. -/
def takeMarked (mark : Char) (isEnd : Char → Bool) (cs : List Char) :
    Option (List Char) × List Char :=
  match cs with
  | c :: rest =>
    if c = mark then
      let (part, rest) := spanUntil isEnd rest
      (some part, rest)
    else (none, cs)
  | [] => (none, cs)

/-- Everything before the last at sign, and what follows it. -/
def takeUserinfo (cs : List Char) : List Char × List Char :=
  if cs.contains '@' then
    let back := cs.reverse
    let rest := (back.takeWhile (· != '@')).reverse
    (cs.take (cs.length - rest.length - 1), rest)
  else ([], cs)

/-- A host in brackets up to the last closing one, or up to a colon. -/
def takeHost (cs : List Char) : List Char × List Char :=
  match cs with
  | '[' :: _ =>
    if cs.contains ']' then
      let rest := (cs.reverse.takeWhile (· != ']')).reverse
      (cs.take (cs.length - rest.length), rest)
    else spanUntil (· = ':') cs
  | _ => spanUntil (· = ':') cs

/-- The small form of a letter in the alphabets that host names are mostly written in. -/
def lowerChar (c : Char) : Char :=
  let n := c.toNat
  if n < 128 then c.toLower
  else if (0xC0 ≤ n && n ≤ 0xDE && n != 0xD7) || (0x391 ≤ n && n ≤ 0x3A9) ||
      (0x410 ≤ n && n ≤ 0x42F) then Char.ofNat (n + 32)
  else if 0x400 ≤ n && n ≤ 0x40F then Char.ofNat (n + 80)
  else c

/-- Symbols, punctuation and pictures beyond ASCII, which no host name may hold. -/
def isSymbol (c : Char) : Bool :=
  let n := c.toNat
  (0x80 ≤ n && n < 0xDF && n != 0xB7) || n = 0xF7 || (0x2000 ≤ n && n < 0x2C00) ||
    (0xE000 ≤ n && n < 0xF900) || 0x1F000 ≤ n && n < 0x20000

def encodeLabel (cs : List Char) : List Char :=
  if cs.all Punycode.isPlain then cs else "xn--".toList ++ Punycode.encode cs

def encodeHost (host : List Char) : Except UrlError String :=
  let text := String.ofList host
  if host.isEmpty then .ok ""
  else if looksDotted host then
    if isDottedAddress host then .ok text else .error (.dottedHost text)
  else if host.head? = some '[' && host.getLast? = some ']' then
    let inner := (host.drop 1).dropLast
    if isColonAddress inner then .ok (String.ofList inner) else .error (.colonHost text)
  else if host.all Punycode.isPlain then .ok (escape hostSafe (host.map Char.toLower))
  else
    let labels := Text.splitOn (fun c => c = '.' || c = '\u3002') (host.map lowerChar)
    if labels.dropLast.any List.isEmpty || (host.map lowerChar).any isSymbol then
      .error (.hostName text)
    else .ok (".".intercalate (labels.map fun l => String.ofList (encodeLabel l)))

/-- Digits in which single underscores may stand between two of them. -/
def groupedDigits : List Char → Option (List Char)
  | [] => none
  | [c] => if c.isDigit then some [c] else none
  | c :: '_' :: rest => if c.isDigit then (groupedDigits rest).map (c :: ·) else none
  | c :: rest => if c.isDigit then (groupedDigits rest).map (c :: ·) else none

/-- An integer with an optional sign, blanks around it and grouped digits. -/
def integer? (cs : List Char) : Option Int :=
  match Text.trimRight (Text.trimLeft cs) with
  | '-' :: ds => (groupedDigits ds).map fun ds => -(Text.natOf ds : Int)
  | '+' :: ds => (groupedDigits ds).map fun ds => (Text.natOf ds : Int)
  | ds => (groupedDigits ds).map fun ds => (Text.natOf ds : Int)

def defaultPorts : List (String × Int) :=
  [("ftp", 21), ("http", 80), ("https", 443), ("ws", 80), ("wss", 443)]

/-- The port after a host; the one that a scheme implies is left out. -/
def takePort (scheme : String) (cs : List Char) : Except UrlError (Option Int) :=
  let cs := match cs with | ':' :: rest => rest | _ => cs
  if cs.isEmpty then .ok none
  else
    match integer? cs with
    | none => .error (.port (String.ofList cs))
    | some n => .ok (if defaultPorts.lookup scheme = some n then none else some n)

/-- One piece of a path after those in `out`: a point stands for no piece, and two points take the
last one away. -/
def pushPiece (out : List (List Char)) (piece : List Char) : List (List Char) :=
  if piece = ['.'] then out
  else if piece = ['.', '.'] then
    if out = [[]] then out else out.dropLast
  else out ++ [piece]

def joinPieces : List (List Char) → List Char
  | [] => []
  | [p] => p
  | p :: rest => p ++ '/' :: joinPieces rest

/-- A path without pieces of points. -/
def removeDots (path : List Char) : List Char :=
  joinPieces ((Text.splitOn (· = '/') path).foldl pushPiece [])

/-- What a path may be beside the other parts. -/
def checkPath (path : List Char) (hasScheme hasAuthority : Bool) : Except UrlError Unit :=
  if hasAuthority && !path.isEmpty && path.head? != some '/' then .error .rootlessPath
  else if hasScheme || hasAuthority then .ok ()
  else if "//".toList.isPrefixOf path then .error .doubleSlashPath
  else if path.head? = some ':' then .error .colonPath
  else .ok ()

def maxLength : Nat := 65536

def isControl (c : Char) : Bool :=
  c.toNat < 0x20 || c.toNat = 0x7F

def ofParts (scheme authority path : List Char) (query fragment : Option (List Char)) :
    Except UrlError Url := do
  let (userinfo, rest) := takeUserinfo authority
  let (host, rest) := takeHost rest
  let host ← encodeHost host
  let port ← takePort (String.ofList scheme) rest
  let hasScheme := !scheme.isEmpty
  let hasAuthority := !userinfo.isEmpty || !host.isEmpty || port.isSome
  checkPath path hasScheme hasAuthority
  return {
    scheme := String.ofList (scheme.map Char.toLower)
    userinfo := escape userinfoSafe userinfo
    host := host
    port := port
    path := escape pathSafe (if hasScheme || hasAuthority then removeDots path else path)
    query := query.map (escape querySafe)
    fragment := fragment.map (escape fragmentSafe) }

/-- Reads an address. -/
def parse (text : String) : Except UrlError Url :=
  let cs := text.toList
  if maxLength < cs.length then .error .tooLong
  else
    match cs.find? isControl with
    | some c => .error (.control c (cs.takeWhile fun d => !isControl d).length)
    | none =>
      let (scheme, rest) := takeScheme cs
      let (authority, rest) := takeAuthority rest
      let (path, rest) := spanUntil (fun c => c = '?' || c = '#') rest
      let (query, rest) := takeMarked '?' (· = '#') rest
      let (fragment, _) := takeMarked '#' (fun _ => false) rest
      ofParts scheme authority path query fragment

def authority (u : Url) : String :=
  (if u.userinfo.isEmpty then "" else u.userinfo ++ "@") ++
    (if u.host.toList.contains ':' then "[" ++ u.host ++ "]" else u.host) ++
    (match u.port with | some n => ":" ++ toString n | none => "")

def marked (mark : String) : Option String → String
  | some s => mark ++ s
  | none => ""

protected def toString (u : Url) : String :=
  (if u.scheme.isEmpty then "" else u.scheme ++ ":") ++
    (if u.authority.isEmpty then "" else "//" ++ u.authority) ++
    u.path ++ marked "?" u.query ++ marked "#" u.fragment

/-- An address that names a host. -/
def isAbsolute (u : Url) : Bool :=
  !u.scheme.isEmpty && !u.host.isEmpty

end Url
end ContentBinding
