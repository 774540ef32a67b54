import PragmaAssist.Server.Features

/-! What goes in and out of the server: the editor's messages and the server's own, and queries of
the server's state with their answers. -/
namespace PragmaAssist

inductive Incoming where
  | initialization (id : Json) (options : Json) (env : Environment) (compiler : Compiler)
  | opened (uri : Uri) (text : Text)
  /-- Each text is the whole document after one more change. -/
  | changed (uri : Uri) (texts : List Text)
  | saved (uri : Uri)
  | closed (uri : Uri)
  | completion (id : Json) (r : CompletionRequest)
  | codeAction (id : Json) (r : CodeActionRequest)

inductive Response where
  | initialized
  | completion (l : CompletionList)
  | codeActions (l : List CodeAction)
  | nothing

inductive Outgoing where
  | log (e : LogEntry)
  | alert (e : LogEntry)
  | response (id : Json) (r : Response)
  | failed (id : Json) (code : Int) (text : Text)

/-- A look at, or a turn of, the server's state that is no message. -/
inductive Query where
  | flags (uri : Uri) (contents : Option Text)
  | snapshot (uri : Uri)
  | cursorWord (uri : Uri) (p : Position)
  | invalidate (uri : Uri)
  | cache
  | settings
  | catalog
  /-- Registers the cache's hooks again, if there is something to register them with. -/
  | registerHooks (possible : Bool)
  | dropCapabilities
  | place (path : Text) (entry : Option DiskEntry)

inductive Step where
  | message (m : Incoming)
  | query (q : Query)

inductive Answer where
  | sent (messages : List Outgoing)
  | flags (f : Option Flags)
  | snapshot (s : Snapshot)
  | cursorWord (w : Option CursorWord)
  | cache (c : FlagsCache)
  | settings (s : Settings)
  | catalog (c : Catalog)
  | done

end PragmaAssist
