import PragmaAssist.Completion.Items
import PragmaAssist.QuickFix
import PragmaAssist.Header.Insertion
import PragmaAssist.Log
import PragmaAssist.Table
import PragmaAssist.Workspace.Uri

/-! Capabilities: what answers completion and code action requests. Those of the requested kind
are asked in order and their answers put together; one that fails is logged and adds nothing. -/
namespace PragmaAssist

structure CompletionRequest where
  uri : Uri
  position : Position
  deriving DecidableEq

structure CodeActionRequest where
  uri : Uri
  diagnostics : List Diagnostic
  deriving DecidableEq

structure CodeAction where
  title : Text
  uri : Uri
  range : Range
  newText : Text
  deriving DecidableEq

/-- Something that may accept a request of type `ρ`, and then answers it with a `β`. -/
structure Provider (σ ρ β : Type) where
  name : Text
  accepts : ρ → Fallible σ Bool
  answer : ρ → Fallible σ β

inductive Capability (σ : Type) where
  | completion (p : Provider σ CompletionRequest CompletionList)
  | codeAction (p : Provider σ CodeActionRequest (List CodeAction))

namespace Provider
variable {σ ρ β α : Type}

def ask (items : β → List α) (p : Provider σ ρ β) (r : ρ) : Fallible σ (List α) := do
  if ← p.accepts r then return items (← p.answer r) else return []

/-- Asks the providers in order; `what` begins the log entry of one that fails. -/
def gather (what : Text) (items : β → List α) (r : ρ) :
    List (Provider σ ρ β) → σ → (List α × List LogEntry) × σ
  | [], s => (([], []), s)
  | p :: ps, s =>
    let (result, s') := p.ask items r s
    let ((found, log), s'') := gather what items r ps s'
    match result with
    | .ok own => ((own ++ found, log), s'')
    | .error f =>
      ((found, ⟨.error, what ++ " error in ".toList ++ p.name ++ ": ".toList ++ f.message⟩ :: log),
        s'')

end Provider

namespace Capability
variable {σ : Type}

def name : Capability σ → Text
  | completion p => p.name
  | codeAction p => p.name

def completion? : Capability σ → Option (Provider σ CompletionRequest CompletionList)
  | completion p => some p
  | codeAction _ => none

def codeAction? : Capability σ → Option (Provider σ CodeActionRequest (List CodeAction))
  | completion _ => none
  | codeAction p => some p

end Capability

structure Capabilities (σ : Type) where
  capabilities : Table Text (Capability σ)
  registered : Bool

namespace Capabilities
variable {σ : Type}

def ofTable (capabilities : Table Text (Capability σ)) : Capabilities σ := ⟨capabilities, false⟩

/-- The names of those that a registration registers: all the first time, then none. -/
def register (m : Capabilities σ) : List Text × Capabilities σ :=
  if m.registered then ([], m)
  else (m.capabilities.values.map Capability.name, { m with registered := true })

/-- The items of all completion capabilities that accept; the list is always complete. -/
def complete (m : Capabilities σ) (r : CompletionRequest) (s : σ) :
    (CompletionList × List LogEntry) × σ :=
  let providers := m.capabilities.values.filterMap Capability.completion?
  let ((items, log), s') := Provider.gather "Completion".toList CompletionList.items r providers s
  ((⟨false, items⟩, log), s')

def codeActions (m : Capabilities σ) (r : CodeActionRequest) (s : σ) :
    (List CodeAction × List LogEntry) × σ :=
  let providers := m.capabilities.values.filterMap Capability.codeAction?
  Provider.gather "Code action".toList id r providers s

end Capabilities
end PragmaAssist
