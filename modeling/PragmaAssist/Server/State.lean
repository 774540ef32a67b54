import PragmaAssist.Compiler.Tables
import PragmaAssist.Header.Flags
import PragmaAssist.Settings
import PragmaAssist.Workspace.Documents

/-! The state of the server, and what it knows about a document. Flags are kept per address with
the contents they were read from, and used again only for the same contents. -/
namespace PragmaAssist

abbrev FlagsCache := Table Uri (Text × Option Flags)

structure Server where
  settings : Settings
  catalog : Catalog
  /-- The open documents; none before the first initialization. -/
  documents : Option Documents
  cache : FlagsCache
  disk : Disk
  /-- How often the cache's hooks were registered after the first time. -/
  hookRounds : Nat
  capable : Bool

structure Snapshot where
  flags : Option Flags
  contents : Option Text
  deriving DecidableEq

namespace Server

def fresh : Server :=
  { settings := .default, catalog := .builtin, documents := none, cache := .empty, disk := .empty
    hookRounds := 0, capable := true }

def openDocuments (s : Server) : Except Failure Documents :=
  match s.documents with
  | some ds => .ok ds
  | none => .error .noWorkspace

def updateDocuments (f : Documents → Except Failure Documents) (s : Server) :
    Except Failure Server := do
  let ds ← f (← s.openDocuments)
  return { s with documents := some ds }

/-- The current text of a file's document; none if it is no file or cannot be found. -/
def contents? (s : Server) (uri : Uri) : Except Failure (Option Text) := do
  let a ← Uri.address uri
  if a.isFile then (← s.openDocuments).text? s.disk uri a else return none

def cursorWord? (s : Server) (uri : Uri) (p : Position) : Except Failure (Option CursorWord) := do
  if (← Uri.address uri).isFile then
    return ((← s.openDocuments).buffer? uri).bind fun text => CursorWord.at? text p
  else return none

def parseFlags (s : Server) (contents : Text) : Option Flags :=
  Flags.parse? contents s.catalog.extensions s.settings.defaultExtensions

def invalidate (uri : Uri) (s : Server) : Server := { s with cache := s.cache.erase uri }

abbrev FlagsLookup := Uri → Text → Server → Option Flags × Server

def directLookup : FlagsLookup := fun _ contents s => (s.parseFlags contents, s)

/-- Uses the flags in the cache if they belong to the contents, else reads and keeps them. -/
def cachedLookup : FlagsLookup := fun uri contents s =>
  let read : Option Flags × Server :=
    let flags := s.parseFlags contents
    (flags, { s with cache := s.cache.insert uri (contents, flags) })
  match s.cache.get? uri with
  | some (kept, flags) => if kept = contents then (flags, s) else read
  | none => read

/-- The flags of a document, of its current contents if none are given. -/
def flags (look : FlagsLookup) (uri : Uri) (contents : Option Text) :
    Fallible Server (Option Flags) := fun s =>
  match contents.elim (s.contents? uri) (fun c => .ok (some c)) with
  | .error f => (.error f, s)
  | .ok none => (.ok none, s)
  | .ok (some c) =>
    let (flags, s') := look uri c s
    (.ok flags, s')

def snapshot (look : FlagsLookup) (uri : Uri) : Fallible Server Snapshot := do
  let contents ← (← get).contents? uri
  let flags ← flags look uri contents
  return ⟨flags, contents⟩

end Server
end PragmaAssist
