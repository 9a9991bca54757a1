import ContentBinding.Url.Basic

/-! Following a reference from an address: what the reference leaves out is taken from there. -/

namespace ContentBinding.Url

/-- The parts of a written address; parameters are what follows a semicolon in the last piece. -/
structure Parts where
  scheme : List Char
  authority : List Char
  path : List Char
  params : List Char
  query : List Char
  fragment : List Char

def relativeSchemes : List String :=
  ["", "ftp", "http", "gopher", "nntp", "imap", "wais", "file", "https", "shttp", "mms", "prospero",
    "rtsp", "rtsps", "rtspu", "sftp", "svn", "svn+ssh", "ws", "wss"]

def authoritySchemes : List String :=
  ["", "ftp", "http", "gopher", "nntp", "telnet", "imap", "wais", "file", "mms", "https", "shttp",
    "snews", "prospero", "rtsp", "rtsps", "rtspu", "rsync", "svn", "svn+ssh", "sftp", "nfs", "git",
    "git+ssh", "ws", "wss"]

def paramSchemes : List String :=
  ["", "ftp", "hdl", "prospero", "http", "imap", "https", "shttp", "rtsp", "rtsps", "rtspu", "sip",
    "sips", "mms", "sftp", "tel"]

/-- The scheme before a colon; here an empty one is none. -/
def writtenScheme (cs : List Char) : List Char × List Char :=
  match cs with
  | ':' :: _ => ([], cs)
  | _ => takeScheme cs

/-- Cuts the last piece of a path at its first semicolon. -/
def takeParams (path : List Char) : List Char × List Char :=
  let last := (path.reverse.takeWhile (· != '/')).reverse
  let (before, rest) := spanUntil (· = ';') last
  match rest with
  | [] => (path, [])
  | _ :: params => (path.take (path.length - last.length) ++ before, params)

/-- Takes a written address apart; without a scheme it has the default one. -/
def Parts.ofText (text : String) (default : List Char) : Parts :=
  let (scheme, rest) := writtenScheme text.toList
  let scheme := if scheme.isEmpty then default else scheme.map Char.toLower
  let (authority, rest) := takeAuthority rest
  let (rest, fragment) := spanUntil (· = '#') rest
  let (path, query) := spanUntil (· = '?') rest
  let (path, params) :=
    if paramSchemes.contains (String.ofList scheme) then takeParams path else (path, [])
  ⟨scheme, authority, path, params, query.drop 1, fragment.drop 1⟩

def after (mark : Char) (cs : List Char) : List Char :=
  if cs.isEmpty then [] else mark :: cs

/-- Puts the parts together again; empty parts are left out with their marks. -/
def Parts.text (p : Parts) : String :=
  let path := p.path ++ after ';' p.params
  let hasAuthority := !p.authority.isEmpty ||
    (!p.scheme.isEmpty && authoritySchemes.contains (String.ofList p.scheme) &&
      !"//".toList.isPrefixOf path)
  let path :=
    if hasAuthority then
      '/' :: '/' :: p.authority ++
        (if !path.isEmpty && path.head? != some '/' then '/' :: path else path)
    else path
  String.ofList ((if p.scheme.isEmpty then [] else p.scheme ++ [':']) ++ path ++
    after '?' p.query ++ after '#' p.fragment)

/-- Drops the empty pieces between the first and the last one. -/
def dropEmptyInside : List (List Char) → List (List Char)
  | [] => []
  | first :: rest => first :: rest.dropLast.filter (!·.isEmpty) ++ rest.getLast?.toList

/-- The pieces of a reference's path, after those of the base when it does not start at the root. -/
def joinedPieces (base path : List Char) : List (List Char) :=
  let pieces := Text.splitOn (· = '/') path
  if path.head? = some '/' then pieces
  else
    let basePieces := Text.splitOn (· = '/') base
    -- the last piece of the base gives way to the reference
    let basePieces := if basePieces.getLast? = some [] then basePieces else basePieces.dropLast
    dropEmptyInside (basePieces ++ pieces)

def isDots (piece : List Char) : Bool :=
  piece = ['.'] || piece = ['.', '.']

def settlePiece (out : List (List Char)) (piece : List Char) : List (List Char) :=
  if piece = ['.', '.'] then out.dropLast
  else if piece = ['.'] then out
  else out ++ [piece]

/-- The path that a reference's path leads to; one that ends in points ends in a slash. -/
def joinedPath (base path : List Char) : List Char :=
  let pieces := joinedPieces base path
  let settled := pieces.foldl settlePiece []
  let settled := if (pieces.getLast?.getD []) |> isDots then settled ++ [[]] else settled
  let joined := joinPieces settled
  if joined.isEmpty then ['/'] else joined

/-- Follows a written reference from a written address. -/
def joinText (base reference : String) : String :=
  if base.isEmpty then reference
  else if reference.isEmpty then base
  else
    let b := Parts.ofText base []
    let r := Parts.ofText reference b.scheme
    if r.scheme != b.scheme || !relativeSchemes.contains (String.ofList r.scheme) then reference
    else if authoritySchemes.contains (String.ofList r.scheme) && !r.authority.isEmpty then r.text
    else
      let authority :=
        if authoritySchemes.contains (String.ofList r.scheme) then b.authority else r.authority
      if r.path.isEmpty && r.params.isEmpty then
        Parts.text { r with
          authority := authority, path := b.path, params := b.params
          query := if r.query.isEmpty then b.query else r.query }
      else Parts.text { r with authority := authority, path := joinedPath b.path r.path }

/-- The address that a reference leads to. -/
def join (base : Url) (reference : String) : Except UrlError Url := do
  let r ← parse reference
  parse (joinText base.toString r.toString)

end ContentBinding.Url
