import PragmaAssist.Server.Capabilities
import PragmaAssist.Server.Hooks
import PragmaAssist.Server.State

/-! What the server offers: completion inside pragmas, quick fixes for diagnostics, and hooks that
forget a document's flags when it changes. -/
namespace PragmaAssist
namespace Server

def completionProvider : Provider Server CompletionRequest CompletionList where
  name := "pragmas_completion".toList
  accepts r := do
    let w ← (← get).cursorWord? r.uri r.position
    return w.any (·.line.startsWith Pragma.opener)
  answer r := do
    let s ← get
    let w ← s.cursorWord? r.uri r.position
    return ⟨false, Completion.items s.catalog w⟩

def fixAction (uri : Uri) (range : Range) (f : QuickFix) : CodeAction :=
  ⟨f.title, uri, range, f.pragma.render⟩

/-- Answers every request that has diagnostics; all fixes share one place. -/
def codeActionProvider (look : FlagsLookup) :
    Provider Server CodeActionRequest (List CodeAction) where
  name := "pragmas_code_action".toList
  accepts r := return !r.diagnostics.isEmpty
  answer r := do
    let snapshot ← snapshot look r.uri
    let s ← get
    let fixes := QuickFix.forAll s.catalog snapshot.flags s.settings.warningBlacklist r.diagnostics
    return fixes.map (fixAction r.uri (Insertion.range snapshot.contents))

def capabilities (look : FlagsLookup) : Capabilities Server :=
  .ofTable (.ofList
    [("pragmas_completion".toList, .completion completionProvider),
      ("pragmas_code_action".toList, .codeAction (codeActionProvider look))])

def forgetHook (e : DocumentEvent) : Hook Server where
  name := some ('_' :: e.name)
  run uri := modify (invalidate uri)
  typeName := "method".toList

def addHooks (hs : Hooks Server) : Hooks Server :=
  [DocumentEvent.opened, .changed, .saved, .closed].foldl (fun hs e => hs.add e (forgetHook e)) hs

def hooks (s : Server) : Hooks Server := (s.hookRounds + 1).repeat addHooks .empty

end Server
end PragmaAssist
