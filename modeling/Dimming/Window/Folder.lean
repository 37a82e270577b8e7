import Dimming.Fault
import Dimming.Language
import Dimming.Mapping
import Dimming.Text.Lines
import Dimming.Text.Quoted
import Dimming.Text.Utf8

/-!
Files to open. Paths are followed from the working folder or the root, component by
component. Names of more than 255 bytes and paths of more than 4095 are refused. A file is
read leniently, with every line break as a line feed.
-/

set_option autoImplicit false

namespace Dimming

inductive FolderEntry where
  | file (bytes : List UInt8)
  | folder

/-- Files and folders by their paths, which are relative to the working folder or begin at
the root. The working folder and the root are there without being named. -/
abbrev Folder := Mapping FilePath FolderEntry

inductive ReadFault where
  | missing
  | notFolder
  | isFolder
  | nameTooLong
deriving DecidableEq

namespace ReadFault

def message (fault : ReadFault) (path : FilePath) : Text :=
  let reason : Text := match fault with
    | .missing => "[Errno 2] No such file or directory: "
    | .notFolder => "[Errno 20] Not a directory: "
    | .isFolder => "[Errno 21] Is a directory: "
    | .nameTooLong => "[Errno 36] File name too long: "
  reason ++ path.toText.quoted

end ReadFault

namespace FilePath

/-- Whether a surrogate stands for a byte from 0x80 on, which is no text of its own. -/
def isByteMark (point : CodePoint) : Bool :=
  decide (0xDC80 ≤ point.value ∧ point.value ≤ 0xDCFF)

/-- Why a path is none at all: surrogates in it stand for nothing, or it holds a null byte. -/
def fault? (path : FilePath) : Option Fault :=
  let text := path.toText
  match text.findIdx? fun point => point.isSurrogate && !isByteMark point with
  | some offset =>
      some (.notEncodable "utf-8" ((text.drop offset).takeWhile CodePoint.isSurrogate) offset)
  | none => if text.contains (CodePoint.ofChar '\x00') then some .nullInPath else none

end FilePath

namespace Folder

inductive Place where
  | folder (path : FilePath)
  | file (bytes : List UInt8)

def size (name : Text) : Nat := (Utf8.encode name).length

/-- The beginning of a path: the root, which any number of slashes names, or the working
folder. -/
def beginning (path : FilePath) : FilePath := ⟨if path.root.isEmpty then [] else "/", []⟩

def upwards : Text := ".."

/-- The folder around a folder. The root lies in itself; the working folder lies in what two
points name, and so on. -/
def around (path : FilePath) : FilePath :=
  if path.root.isEmpty && path.components.all (· = upwards) then
    ⟨path.root, path.components ++ [upwards]⟩
  else ⟨path.root, path.components.dropLast⟩

def below (path : FilePath) (component : Text) : FilePath :=
  ⟨path.root, path.components ++ [component]⟩

def follow (folder : Folder) (place : Place) (component : Text) : Except ReadFault Place :=
  match place with
  | .file _ => .error .notFolder
  | .folder path =>
      if component = upwards then .ok (.folder (around path))
      else if 255 < size component then .error .nameTooLong
      else
        match folder.get? (below path component) with
        | none => .error .missing
        | some .folder => .ok (.folder (below path component))
        | some (.file bytes) => .ok (.file bytes)

/-- The entries that are looked up on the way from a folder. -/
def wayFrom (path : FilePath) : List Text → List FilePath
  | [] => []
  | component :: components =>
      if component = upwards then wayFrom (around path) components
      else below path component :: wayFrom (below path component) components

def wayTo (path : FilePath) : List FilePath := wayFrom (beginning path) path.components

def bytesAt (folder : Folder) (path : FilePath) : Except ReadFault (List UInt8) := do
  if 4095 < size path.toText then .error .nameTooLong
  else
    match ← path.components.foldlM (follow folder) (.folder (beginning path)) with
    | .file bytes => return bytes
    | _ => .error .isFolder

def readText (folder : Folder) (path : FilePath) : Except ReadFault Text :=
  (bytesAt folder path).map fun bytes => (Utf8.decodeLenient bytes).unifyBreaks

end Folder

end Dimming
