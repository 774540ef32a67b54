import PragmaAssist.Server.Step

/-! Reading the editor's messages from their JSON form. A field that is missing counts as empty. -/
namespace PragmaAssist
namespace Protocol

inductive Call where
  | incoming (m : Incoming)
  | shutdown (id : Json)
  | exit
  | command (id : Json) (name : Text)
  | unknown (id : Json) (method : Text)
  /-- What needs no answer: a notification that says nothing to the server, or an answer. -/
  | silent

def field (j : Json) : List String → Json
  | [] => j
  | key :: r => field (j.getD key.toList) r

def textAt (j : Json) (path : List String) : Text := ((field j path).text?).getD []

def natAt (j : Json) (path : List String) : Nat :=
  match field j path with
  | .int n => n.toNat
  | _ => 0

def decodePosition (j : Json) : Position := ⟨natAt j ["line"], natAt j ["character"]⟩

def decodeDiagnostic (j : Json) : Diagnostic := ⟨textAt j ["message"], (field j ["code"]).text?⟩

def decodeDiagnostics (j : Json) : List Diagnostic := j.elements.map decodeDiagnostic

/-- What has a method asks for it; with an identifier it is a request. -/
def decodeUnknown (j : Json) : Call :=
  match j.get? "id".toList, (field j ["method"]).text? with
  | some id, some method => .unknown id method
  | _, _ => .silent

def decodeCall (env : Environment) (compiler : Compiler) (j : Json) : Call :=
  let id := field j ["id"]
  let params := field j ["params"]
  let uri := textAt params ["textDocument", "uri"]
  match String.ofList (textAt j ["method"]) with
  | "initialize" =>
    .incoming (.initialization id (field params ["initializationOptions"]) env compiler)
  | "initialized" => .silent
  | "textDocument/didOpen" => .incoming (.opened uri (textAt params ["textDocument", "text"]))
  | "textDocument/didChange" =>
    .incoming (.changed uri ((field params ["contentChanges"]).elements.map (textAt · ["text"])))
  | "textDocument/didSave" => .incoming (.saved uri)
  | "textDocument/didClose" => .incoming (.closed uri)
  | "textDocument/completion" =>
    .incoming (.completion id ⟨uri, decodePosition (field params ["position"])⟩)
  | "textDocument/codeAction" =>
    .incoming (.codeAction id ⟨uri, decodeDiagnostics (field params ["context", "diagnostics"])⟩)
  | "shutdown" => .shutdown id
  | "exit" => .exit
  | "workspace/executeCommand" => .command id (textAt params ["command"])
  | _ => decodeUnknown j

end Protocol
end PragmaAssist
