/-!
The place on disk where settings are kept: one file in one folder, in a home that is there. They
are written in steps. The folder is made unless it is there, the file is opened, which empties it,
and then it is filled. Each of the first two steps may fail, and what was done before it stands. A
file that has been opened can be filled, and what is there can be read: neither a full disk nor a
file that is locked against reading is accounted for.
-/

set_option autoImplicit false

namespace Dimming

inductive SettingsFile where
  | missing
  | bytes (content : List UInt8)
  | folder
deriving DecidableEq

/-- What stands in place of the settings folder; `blocked` is a file. -/
inductive SettingsPlace where
  | absent
  | blocked
  | present (file : SettingsFile)
deriving DecidableEq

/-- What the surroundings permit: to make a missing folder, and to open a file in it for writing. -/
structure Access where
  makesFolder : Bool
  opensFile : Bool
deriving DecidableEq

namespace Access

def free : Access := ⟨true, true⟩

end Access

structure Disk where
  place : SettingsPlace
  access : Access
deriving DecidableEq

namespace Disk

def absent : Disk := ⟨.absent, .free⟩

def blocked : Disk := ⟨.blocked, .free⟩

def present (file : SettingsFile) : Disk := ⟨.present file, .free⟩

def file (disk : Disk) : SettingsFile :=
  match disk.place with
  | .present file => file
  | _ => .missing

def content? (disk : Disk) : Option (List UInt8) :=
  match disk.file with
  | .bytes content => some content
  | _ => none

def holding (content : List UInt8) (disk : Disk) : Disk :=
  { disk with place := .present (.bytes content) }

/-- The folder is made if it is missing. One that is there is left as it is. -/
def withFolder? (disk : Disk) : Option Disk :=
  match disk.place with
  | .absent =>
      if disk.access.makesFolder then some { disk with place := .present .missing } else none
  | .blocked => none
  | .present _ => some disk

/-- The file is opened for writing, and nothing is in it any more. -/
def opened? (disk : Disk) : Option Disk :=
  match disk.place with
  | .present .folder => none
  | .present _ => if disk.access.opensFile then some (disk.holding []) else none
  | _ => none

inductive Change where
  | remove
  | block
  | folderForFile
  | fill (content : List UInt8)
  | touch
  | permit (access : Access)

/-- Whatever blocks the settings file is taken away first. -/
def unblocked (disk : Disk) : SettingsFile :=
  match disk.file with
  | .folder => .missing
  | file => file

def apply (change : Change) (disk : Disk) : Disk :=
  match change with
  | .remove => { disk with place := .absent }
  | .block => { disk with place := .blocked }
  | .folderForFile => { disk with place := .present .folder }
  | .fill content => disk.holding content
  | .touch => { disk with place := .present disk.unblocked }
  | .permit access => { disk with access }

end Disk

end Dimming
