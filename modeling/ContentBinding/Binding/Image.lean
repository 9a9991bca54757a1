/-! Image references: every address derived from the base name of an image. Each image exists once
per codec and width under a fixed naming scheme. -/

namespace ContentBinding.Binding

inductive Codec
  | avif | webp
  deriving Repr, DecidableEq

namespace Codec

def name : Codec → String
  | avif => "avif"
  | webp => "webp"

def ofName? (s : String) : Option Codec :=
  if s = "avif" then some avif else if s = "webp" then some webp else none

end Codec

structure ImageReference where
  baseName : String
  avif : List (Nat × String)
  webp : List (Nat × String)
  /-- The address for readers that know no source set. -/
  fallback : String
  deriving Repr, DecidableEq

namespace ImageReference

/-- Widest first. -/
def widths : List Nat := [1600, 1200, 800, 400]

def fallbackWidth : Nat := 800

def address (base : String) (codec : Codec) (width : Nat) : String :=
  "assets/optimized/images/" ++ base ++ "-" ++ toString width ++ "." ++ codec.name

def entries (base : String) (codec : Codec) : List (Nat × String) :=
  widths.map fun w => (w, address base codec w)

/-- The reference of a base name; an empty name has none. -/
def ofBase? (base : String) : Option ImageReference :=
  if base.isEmpty then none
  else some
    { baseName := base
      avif := entries base .avif
      webp := entries base .webp
      fallback := address base .webp fallbackWidth }

def candidates (r : ImageReference) : Codec → List (Nat × String)
  | .avif => r.avif
  | .webp => r.webp

def candidateText (entry : Nat × String) : String :=
  entry.2 ++ " " ++ toString entry.1 ++ "w"

/-- The value of a source set attribute. -/
def srcset (r : ImageReference) (codec : Codec) : String :=
  ", ".intercalate ((r.candidates codec).map candidateText)

def urls (r : ImageReference) : List String :=
  r.avif.map (·.2) ++ r.webp.map (·.2)

end ImageReference

/-- A codec that no image is written in. -/
structure UnsupportedCodec where
  name : String
  deriving Repr, DecidableEq

def UnsupportedCodec.message (e : UnsupportedCodec) : String :=
  "Unsupported image codec: " ++ e.name

/-- The source set for a codec given by name. -/
def ImageReference.srcsetNamed (r : ImageReference) (codec : String) :
    Except UnsupportedCodec String :=
  match Codec.ofName? codec with
  | some c => .ok (r.srcset c)
  | none => .error ⟨codec⟩

end ContentBinding.Binding
