import ContentBinding.Files.World

/-! Files of a site: a request path leads to a file below the root of the site, or to nothing. A
directory stands for its index. -/

namespace ContentBinding.Site

open Files (Path PathError World)

def indexFile : String := "index.html"

def pageSuffix : String := ".html"

/-- Reads a request path as one below the root, whatever slashes it begins with. -/
def relativePath (path : String) : Path :=
  Path.ofString (String.ofList (path.toList.dropWhile (· = '/')))

/-- The file at a place, if there is one. -/
def fileAt (w : World) (p : Path) : Except PathError (Option Path) :=
  match w.isDirectory p with
  | .error e => .error e
  | .ok isDir =>
    let file := if isDir then p.child indexFile else p
    (w.isFile file).map fun isFile => if isFile then some file else none

/-- The file that a request path leads to, after links are followed. -/
def find (w : World) (root : Path) (path : String) : Except PathError (Option Path) :=
  match w.resolve root with
  | .error e => .error e
  | .ok base =>
    match w.resolve (base.join (relativePath path)) with
    | .error e => .error e
    | .ok place => if place.isBelow base then fileAt w place else .ok none

end ContentBinding.Site
