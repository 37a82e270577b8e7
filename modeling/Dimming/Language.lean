import Dimming.Text.CodePoint

/-!
Paths of files and the language that the ending of a name suggests. A path is a root and
the components behind it; empty components and single points are dropped, double points
are kept.
-/

set_option autoImplicit false

namespace Dimming

/-- The root is empty for a relative path. -/
structure FilePath where
  root : Text
  components : List Text
deriving DecidableEq

namespace FilePath

/-- Exactly two slashes in front are a root of their own. -/
def rootOf (slashes : Nat) : Text :=
  if slashes = 0 then [] else if slashes = 2 then "//" else "/"

def ofText (text : Text) : FilePath :=
  let slashes := (text.takeWhile (CodePoint.is '/')).length
  let components := (Text.split '/' text).filter fun component =>
    !component.isEmpty && component != Text.ofString "."
  ⟨rootOf slashes, components⟩

def toText (path : FilePath) : Text :=
  let text := path.root ++ Text.join "/" path.components
  if text.isEmpty then "." else text

def name (path : FilePath) : Text := path.components.getLastD []

/-- The end of a name from its last point on, unless that is the first or the last of its
code points. -/
def ending (path : FilePath) : Text :=
  let name := path.name
  let behind := name.reverse.takeWhile (!CodePoint.is '.' ·)
  let start := name.length - behind.length - 1
  if behind.length < name.length ∧ 0 < start ∧ start < name.length - 1 then name.drop start
  else []

def stem (path : FilePath) : Text := path.name.take (path.name.length - path.ending.length)

end FilePath

namespace Language

def plaintext : Text := "plaintext"

def byEnding : List (Text × Text) :=
  [(".ts", "typescript"), (".tsx", "typescriptreact"), (".js", "javascript"),
    (".mjs", "javascript"), (".cjs", "javascript"), (".jsx", "javascriptreact"), (".go", "go"),
    (".cpp", "cpp"), (".cc", "cpp"), (".cxx", "cpp"), (".hpp", "cpp"), (".hh", "cpp"),
    (".h", "cpp")]

/-- The language of a file; the letter case of its ending does not matter. -/
def ofPath (path : FilePath) : Text :=
  let ending := path.ending.toAsciiLower
  match byEnding.find? (·.1 = ending) with
  | some entry => entry.2
  | none => plaintext

end Language

end Dimming
