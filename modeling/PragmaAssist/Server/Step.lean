import PragmaAssist.Server.Message

/-! The server step by step. A message of the editor is answered by messages, a query by what it
asks for; a run is the list of the answers. -/
namespace PragmaAssist
namespace Server

def programName : Text := "pragmals".toList

def programVersion : Text := "0.1.0".toList

def internalError : Int := -32603

def readyEntry (s : Server) : LogEntry :=
  ⟨.info, programName ++ " ready (".toList ++ Text.ofNat s.catalog.pragmaNames.length
    ++ " pragmas, ".toList ++ Text.ofNat s.settings.defaultExtensions.size
    ++ " default extensions)".toList⟩

/-- Starts with no open document, then takes over the settings, then the catalog; a failure
leaves what was done before it. -/
def startUp (options : Json) (env : Environment) (compiler : Compiler) (s : Server) :
    Except Failure (List LogEntry) × Server :=
  let s := { s with documents := some .empty }
  match Settings.resolve options env with
  | .error f => (.error f, s)
  | .ok settings =>
    let s := { s with settings := settings }
    match (Catalog.load settings.compilerPath compiler).1 with
    | .error f => (.error f, s)
    | .ok loaded =>
      let s := { s with catalog := loaded.catalog }
      (.ok (loaded.log ++ [s.readyEntry]), s)

/-- Fires an event and sends what is logged; a failure that it ends with is not sent. -/
def announce (e : DocumentEvent) (uri : Uri) (s : Server) : List Outgoing × Server :=
  let (fired, s') := s.hooks.fire e uri s
  (List.map Outgoing.log fired, s')

def refusal (f : Failure) : Outgoing := .alert ⟨.error, "Error in server: ".toList ++ f.report⟩

/-- A document event changes the open documents, then is announced; a refused one does neither. -/
def handleEvent (e : DocumentEvent) (uri : Uri) (update : Server → Except Failure Server)
    (s : Server) : List Outgoing × Server :=
  match update s with
  | .ok s' => announce e uri s'
  | .error f => ([refusal f], s)

/-- Takes the new texts of a document one after the other; none at all asks for no document. -/
def takeTexts (uri : Uri) (texts : List Text) (s : Server) : Except Failure Server :=
  texts.foldlM (fun s text => s.updateDocuments (·.changed uri text)) s

def complete (look : FlagsLookup) (r : CompletionRequest) (s : Server) :
    (CompletionList × List LogEntry) × Server :=
  if s.capable then (capabilities look).complete r s else ((⟨false, []⟩, []), s)

def codeActions (look : FlagsLookup) (r : CodeActionRequest) (s : Server) :
    (List CodeAction × List LogEntry) × Server :=
  if s.capable then (capabilities look).codeActions r s else (([], []), s)

/-- Handles one message; logs go out before the response. -/
def receive (look : FlagsLookup) (m : Incoming) (s : Server) : List Outgoing × Server :=
  match m with
  | .initialization id options env compiler =>
    match startUp options env compiler s with
    | (.ok log, s') => (log.map .log ++ [.response id .initialized], s')
    | (.error f, s') => ([.failed id internalError f.report], s')
  | .opened uri text => handleEvent .opened uri (updateDocuments (·.opened uri text)) s
  | .changed uri texts => handleEvent .changed uri (takeTexts uri texts) s
  | .saved uri => announce .saved uri s
  | .closed uri => handleEvent .closed uri (updateDocuments fun ds => .ok (ds.closed uri)) s
  | .completion id r =>
    let ((l, log), s') := complete look r s
    (log.map .log ++ [.response id (.completion l)], s')
  | .codeAction id r =>
    let ((l, log), s') := codeActions look r s
    (log.map .log ++ [.response id (.codeActions l)], s')

def query (look : FlagsLookup) (q : Query) (s : Server) : Except Failure Answer × Server :=
  match q with
  | .flags uri contents =>
    let (r, s') := flags look uri contents s
    (r.map .flags, s')
  | .snapshot uri =>
    let (r, s') := snapshot look uri s
    (r.map .snapshot, s')
  | .cursorWord uri p => ((s.cursorWord? uri p).map .cursorWord, s)
  | .invalidate uri => (.ok .done, s.invalidate uri)
  | .cache => (.ok (.cache s.cache), s)
  | .settings => (.ok (.settings s.settings), s)
  | .catalog => (.ok (.catalog s.catalog), s)
  | .registerHooks possible =>
    (.ok .done, if possible then { s with hookRounds := s.hookRounds + 1 } else s)
  | .dropCapabilities => (.ok .done, { s with capable := false })
  | .place path entry => (.ok .done, { s with disk := s.disk.place path entry })

def stepWith (look : FlagsLookup) (st : Step) (s : Server) : Except Failure Answer × Server :=
  match st with
  | .message m =>
    let (sent, s') := receive look m s
    (.ok (.sent sent), s')
  | .query q => query look q s

def runWith (look : FlagsLookup) : List Step → Server → List (Except Failure Answer) × Server
  | [], s => ([], s)
  | st :: rest, s =>
    let (a, s') := stepWith look st s
    let (as, s'') := runWith look rest s'
    (a :: as, s'')

def step : Step → Server → Except Failure Answer × Server := stepWith cachedLookup

def run : List Step → Server → List (Except Failure Answer) × Server := runWith cachedLookup

end Server
end PragmaAssist
