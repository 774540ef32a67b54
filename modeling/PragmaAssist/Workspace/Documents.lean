import PragmaAssist.Completion.Items
import PragmaAssist.Header.Insertion
import PragmaAssist.Workspace.Disk
import PragmaAssist.Workspace.Uri
import PragmaAssist.Text.Word

/-! Open documents. They are kept under their decoded addresses; one that is not open is read
from disk. -/
namespace PragmaAssist

abbrev Documents := Table Uri Text

namespace Documents

/-- A document is opened only under a well-formed address. -/
def opened (ds : Documents) (uri : Uri) (text : Text) : Except Failure Documents := do
  let _ ← Uri.address uri
  return ds.insert (Uri.decoded uri) text

def changed (ds : Documents) (uri : Uri) (text : Text) : Except Failure Documents :=
  match ds.get? (Uri.decoded uri) with
  | some _ => .ok (ds.insert (Uri.decoded uri) text)
  | none => .error (.notOpen (Uri.decoded uri))

/-- A document that is not open may be closed too. -/
def closed (ds : Documents) (uri : Uri) : Documents := ds.erase (Uri.decoded uri)

/-- The text of the document that is open under just this address. -/
def buffer? (ds : Documents) (uri : Uri) : Option Text := ds.get? uri

def text? (ds : Documents) (disk : Disk) (uri : Uri) (a : Address) :
    Except Failure (Option Text) :=
  match ds.get? (Uri.decoded uri) with
  | some text => .ok (some text)
  | none => disk.read? a.filePath

end Documents

def Text.isAtEnd : Text → Bool
  | [] => true
  | ['\n'] => true
  | _ => false

/-- The first run of name characters, be it empty, with which the text comes to its end. -/
def Text.lastName : Text → Text
  | [] => []
  | c :: r =>
    if isAtEnd ((c :: r).dropWhile isNameChar) then (c :: r).takeWhile isNameChar else lastName r

namespace CursorWord

def at? (contents : Text) (p : Position) : Option CursorWord :=
  contents.lines[p.line]?.map fun line => ⟨line, Text.lastName (line.take p.character)⟩

end CursorWord
end PragmaAssist
