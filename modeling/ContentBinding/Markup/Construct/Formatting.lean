import ContentBinding.Markup.Construct.Builder

/-! Active formatting elements: they are opened again where another element cut them off, and a
misplaced end tag splits them around the blocks that they contain. -/

namespace ContentBinding.Markup.Build

def pushMarker : Build Unit :=
  modify fun b => { b with formatting := b.formatting ++ [none] }

/-- Drops the formatting elements from the last marker on. -/
def clearToMarker : Build Unit :=
  modify fun b => { b with
    formatting := ((b.formatting.reverse.dropWhile Option.isSome).drop 1).reverse }

def dropFormatting (n : NodeId) : Build Unit :=
  modify fun b => { b with formatting := b.formatting.erase (some n) }

/-- The last formatting element of that name behind the last marker. -/
def activeNamed? (name : String) : Build (Option NodeId) := do
  let b ← get
  let active := (b.formatting.reverse.takeWhile Option.isSome).filterMap id
  return active.find? fun n => b.page.nameOf n = name

/-- A new node like an element, without its children. -/
def cloneNode (n : NodeId) : Build NodeId := do
  let p := (← get).page
  let (p, c) := p.create ((p.content? n).getD .document)
  setPage p
  return c

/-- The entries before the ones that have to be opened again, and those. -/
def splitReopen (stack : List NodeId) (formatting : List (Option NodeId)) :
    List (Option NodeId) × List NodeId :=
  let closed := formatting.reverse.takeWhile fun e =>
    match e with
    | some n => !stack.contains n
    | none => false
  (formatting.take (formatting.length - closed.length), closed.reverse.filterMap id)

def reopenEach : List NodeId → Build (List NodeId)
  | [] => return []
  | n :: rest => do
    let e := ((← get).page.element? n).getD { name := "" }
    let c ← insertNode e
    return c :: (← reopenEach rest)

/-- Opens the formatting elements again that were cut off. -/
def reopenFormatting : Build Unit := do
  let b ← get
  let (kept, closed) := splitReopen b.stack b.formatting
  unless closed.isEmpty do
    let opened ← reopenEach closed
    modify fun b => { b with formatting := kept ++ opened.map some }

def addFormatting (t : Tag) : Build Unit := do
  let n ← insertNode ⟨t.name, .html, Attribute.normalize t.name t.attrs⟩
  modify fun b => { b with formatting := b.formatting ++ [some n] }

/-- The end tag of an element without rules of its own: it closes the innermost open element of
that name, unless a special element stands before it. -/
def closeOther (name : String) : Build Unit := do
  let b ← get
  let barrier := fun n => b.page.nameOf n = name || nodeIsSpecial b.page n
  match b.stack.find? barrier with
  | some n =>
    if b.page.nameOf n = name then
      closeImplied name
      popNode n
  | none => return

/-- The formatting elements between the formatting element and the furthest block, while they are
replaced by copies. Lists have the outermost or oldest entry first. -/
structure Adoption where
  opened : List NodeId
  formatting : List (Option NodeId)
  /-- The node that goes into the next copy. -/
  last : NodeId
  bookmark : Nat

def replaceFirst {α : Type} [DecidableEq α] (old new : α) : List α → List α
  | [] => []
  | a :: rest => if a = old then new :: rest else a :: replaceFirst old new rest

/-- Walks outwards from the furthest block, at most three steps. -/
def adoptInner (formatEl block : NodeId) : Nat → Nat → Adoption → Build Adoption
  | 0, _, a => return a
  | steps + 1, index, a => do
    let index := index - 1
    match a.opened[index]? with
    | none => return a
    | some node =>
      if !a.formatting.contains (some node) then
        adoptInner formatEl block steps index { a with opened := a.opened.erase node }
      else if node = formatEl then return a
      else
        -- the copy of the element goes behind the first one that is copied here
        let bookmark := if a.last = block then a.formatting.idxOf (some node) + 1 else a.bookmark
        let c ← cloneNode node
        setPage ((← get).page.append c a.last)
        adoptInner formatEl block steps index
          { opened := replaceFirst node c a.opened
            formatting := replaceFirst (some node) (some c) a.formatting
            last := c
            bookmark := bookmark }

/-- Splits a formatting element around a block inside it. -/
def adopt (formatEl block : NodeId) : Build Unit := do
  let b ← get
  let opened := b.stack.reverse
  let ancestor := opened.getD (opened.idxOf formatEl - 1) Page.root
  let a ← adoptInner formatEl block 3 (opened.idxOf block)
    ⟨opened, b.formatting, block, b.formatting.idxOf (some formatEl)⟩
  setStack a.opened.reverse
  let b ← get
  let (parent, before) :=
    if tableParts.contains (b.page.nameOf ancestor) then fosterPlace b else (ancestor, none)
  setPage (placeNode (b.page.detach a.last) parent before a.last)
  let c ← cloneNode formatEl
  let p := (← get).page.moveChildren block c
  setPage (p.append block c)
  let kept := a.formatting.erase (some formatEl)
  let opened := a.opened.erase formatEl
  let after := opened.idxOf block + 1
  modify fun b => { b with
    formatting := kept.take a.bookmark ++ some c :: kept.drop a.bookmark
    stack := (opened.take after ++ c :: opened.drop after).reverse }

/-- The end tag of a formatting element; a block inside it is handled at most eight times. -/
def closeFormatting (name : String) : Nat → Build Unit
  | 0 => return
  | rounds + 1 => do
    match ← activeNamed? name with
    | none => closeOther name
    | some formatEl =>
      let b ← get
      -- listed but not open any more: nothing to close
      if !b.stack.contains formatEl then dropFormatting formatEl
      else if !(← inScope name) then closeOther name
      else
        let inside := (b.stack.takeWhile (· != formatEl)).reverse
        match inside.find? (nodeIsSpecial b.page) with
        | none =>
          popNode formatEl
          dropFormatting formatEl
        | some block =>
          adopt formatEl block
          closeFormatting name rounds

end ContentBinding.Markup.Build
