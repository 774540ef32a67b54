import PragmaAssist.Json.Printer
import PragmaAssist.Server.Step

/-! The protocol's JSON form of what the server sends. -/
namespace PragmaAssist

def Json.fields (l : List (String × Json)) : Json := .obj (l.map fun (k, v) => (k.toList, v))

def Json.nat (n : Nat) : Json := .int n

namespace Protocol

def keywordKind : Nat := 14

def snippetFormat : Nat := 2

def encodeItem : CompletionItem → Json
  | .keyword label => .fields [("label", .str label), ("kind", .nat keywordKind)]
  | .template label detail insertText =>
    .fields [("label", .str label), ("kind", .nat keywordKind), ("detail", .str detail),
      ("insertText", .str insertText), ("insertTextFormat", .nat snippetFormat)]

def encodeList (l : CompletionList) : Json :=
  .fields [("isIncomplete", .bool l.isIncomplete), ("items", .arr (l.items.map encodeItem))]

def encodePosition (p : Position) : Json :=
  .fields [("line", .nat p.line), ("character", .nat p.character)]

def encodeRange (r : Range) : Json :=
  .fields [("start", encodePosition r.first), ("end", encodePosition r.last)]

def quickFixKind : Json := .str "quickfix".toList

def encodeAction (a : CodeAction) : Json :=
  let edit := Json.fields [("newText", .str a.newText), ("range", encodeRange a.range)]
  .fields [("title", .str a.title), ("kind", quickFixKind), ("diagnostics", .arr []),
    ("edit", .fields [("changes", .obj [(a.uri, .arr [edit])])])]

def serverInfo : Json :=
  .fields [("name", .str Server.programName), ("version", .str Server.programVersion)]

/-- What the server can do: documents are sent whole. -/
def serverCapabilities : Json :=
  .fields [
    ("textDocumentSync",
      .fields [("openClose", .bool true), ("change", .nat 1), ("save", .bool true)]),
    ("completionProvider", .fields []),
    ("codeActionProvider", .fields [("codeActionKinds", .arr [quickFixKind])])]

def encodeResponse : Response → Json
  | .initialized => .fields [("capabilities", serverCapabilities), ("serverInfo", serverInfo)]
  | .completion l => encodeList l
  | .codeActions l => .arr (l.map encodeAction)
  | .nothing => .null

def version : String × Json := ("jsonrpc", .str "2.0".toList)

def windowMessage (method : String) (e : LogEntry) : Json :=
  .fields [version, ("method", .str method.toList),
    ("params", .fields [("type", .nat e.level.number), ("message", .str e.text)])]

def encode : Outgoing → Json
  | .log e => windowMessage "window/logMessage" e
  | .alert e => windowMessage "window/showMessage" e
  | .response id r => .fields [version, ("id", id), ("result", encodeResponse r)]
  | .failed id code text =>
    .fields [version, ("id", id),
      ("error", .fields [("code", .int code), ("message", .str text)])]

end Protocol
end PragmaAssist
