import PragmaAssist.Failure
import PragmaAssist.Table
import PragmaAssist.Text.Lines

/-! Files that documents are read from when they are not open in the editor. They lie in a tree
of directories; a path leads from its root to a place, name by name. -/
namespace PragmaAssist

abbrev Location := List Text

inductive DiskEntry where
  | file (bytes : List UInt8)
  | directory
  deriving DecidableEq

/-- What lies at each place but the root, which is a directory. -/
abbrev Disk := Table Location DiskEntry

namespace Disk

def parentName : Text := "..".toList

/-- The names of a path; empty ones and single dots lead nowhere. -/
def names (path : Text) : List Text :=
  (path.pieces '/').filter fun name => !name.isEmpty && name != ".".toList

def entry? (d : Disk) (l : Location) : Option DiskEntry :=
  if l.isEmpty then some .directory else d.get? l

/-- Where a name leads from a place. Only directories lead on, and nothing is above the root. -/
def step (d : Disk) (l : Location) (name : Text) : Option Location :=
  match d.entry? l with
  | some .directory =>
    if name = parentName then if l.isEmpty then none else some l.dropLast
    else some (l ++ [name])
  | _ => none

def pathLimit : Nat := 4095

/-- Where a path leads; the slash before each name counts towards its length. -/
def locate? (d : Disk) (path : Text) : Option Location :=
  let ns := names path
  if pathLimit < (Text.encode (ns.flatMap ('/' :: ·))).length then none
  else ns.foldlM d.step []

def enter (s : Disk × Location) (name : Text) : Disk × Location :=
  if name = parentName then (s.1, s.2.dropLast)
  else
    let l := s.2 ++ [name]
    (if (s.1.get? l).isSome then s.1 else s.1.insert l .directory, l)

/-- Puts an entry at the end of a path, below directories that are made on the way; with no
entry, takes away the file that is there, and no directory. -/
def place (d : Disk) (path : Text) : Option DiskEntry → Disk
  | some entry =>
    let (d, l) := (names path).foldl enter (d, [])
    d.insert l entry
  | none =>
    match d.locate? path with
    | some l =>
      match d.get? l with
      | some (.file _) => d.erase l
      | _ => d
    | none => d

/-- What a file's text is; none where no file is, a failure where the path or the bytes are no
text. -/
def read? (d : Disk) (path : Text) : Except Failure (Option Text) :=
  if '\x00' ∈ path then .error .nulInPath
  else match (d.locate? path).bind d.entry? with
    | some (.file bytes) =>
      match Text.decode bytes with
      | .ok t => .ok (some t.normaliseBreaks)
      | .error fault => .error (.undecodable fault)
    | _ => .ok none

end Disk
end PragmaAssist
