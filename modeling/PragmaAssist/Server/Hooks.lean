import PragmaAssist.Failure
import PragmaAssist.Log
import PragmaAssist.Workspace.Uri

/-! Hooks on document events. They run in the order of their registration, and one that fails is
logged by its name; without a name it cannot be, and keeps those behind it from running. -/
namespace PragmaAssist

inductive DocumentEvent where
  | opened | changed | saved | closed
  deriving DecidableEq

namespace DocumentEvent

def name : DocumentEvent → Text
  | opened => "on_open".toList
  | changed => "on_change".toList
  | saved => "on_save".toList
  | closed => "on_close".toList

/-- What is logged about an event before its hooks run; a change comes with every key typed and
is not logged. -/
def announcement (e : DocumentEvent) (uri : Uri) : List LogEntry :=
  match e with
  | opened => [⟨.info, "Document opened: ".toList ++ uri⟩]
  | changed => []
  | saved => [⟨.info, "Document saved: ".toList ++ uri⟩]
  | closed => [⟨.info, "Document closed: ".toList ++ uri⟩]

end DocumentEvent

/-- Something that a document event does to a state. A function has a name; of anything else that can
be called nothing but its type may be known. -/
structure Hook (σ : Type) where
  name : Option Text
  run : Uri → Fallible σ Unit
  typeName : Text := "function".toList

structure Hooks (σ : Type) where
  on : DocumentEvent → List (Hook σ)

/-- What is logged when an event is fired, and the failure that the firing ends with, if any. -/
structure Fired where
  log : List LogEntry
  escaped? : Option Failure

instance : Coe Fired (List LogEntry) := ⟨Fired.log⟩

namespace Hooks
variable {σ : Type}

def empty : Hooks σ := ⟨fun _ => []⟩

def add (hs : Hooks σ) (e : DocumentEvent) (h : Hook σ) : Hooks σ :=
  ⟨fun e' => if e' = e then hs.on e' ++ [h] else hs.on e'⟩

def failureEntry (e : DocumentEvent) (name : Text) (f : Failure) : LogEntry :=
  ⟨.error, "Error in ".toList ++ e.name ++ " hook ".toList ++ name ++ ": ".toList ++ f.describe⟩

/-- Runs hooks one after the other and logs those that fail, by their names. To log one without a name
fails in turn, and the hooks behind it do not run. -/
def runAll (e : DocumentEvent) (uri : Uri) : List (Hook σ) → σ → Fired × σ
  | [], s => (⟨[], none⟩, s)
  | h :: hs, s =>
    match h.run uri s with
    | (.ok _, s') => runAll e uri hs s'
    | (.error f, s') =>
      match h.name with
      | none => (⟨[], some (.nameless h.typeName)⟩, s')
      | some name =>
        let (fired, s'') := runAll e uri hs s'
        ({ fired with log := failureEntry e name f :: fired.log }, s'')

def fire (hs : Hooks σ) (e : DocumentEvent) (uri : Uri) (s : σ) : Fired × σ :=
  let (fired, s') := runAll e uri (hs.on e) s
  ({ fired with log := e.announcement uri ++ fired.log }, s')

end Hooks
end PragmaAssist
