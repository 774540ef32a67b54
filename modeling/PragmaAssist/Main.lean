import PragmaAssist.Json.Parser
import PragmaAssist.Protocol.Connection
import PragmaAssist.Protocol.Encode

/-! The program: a language server on standard input and output. It starts no other program, so
a compiler that the settings name counts as absent. -/
namespace PragmaAssist
namespace Main

def contentLength? (line : String) : Option Nat :=
  (Text.after? (line.toList.map Char.toLower) "content-length:".toList).bind fun r =>
    (String.ofList (Text.trim r)).toNat?

/-- Reads header lines up to the empty one; none at the end of the input. -/
partial def readHeader (input : IO.FS.Stream) (length : Nat) : IO (Option Nat) := do
  let line ← input.getLine
  if line.isEmpty then return none
  if (Text.trim line.toList).isEmpty then return some length
  readHeader input ((contentLength? line).getD length)

partial def readBytes (input : IO.FS.Stream) (n : Nat) (seen : ByteArray) : IO ByteArray := do
  if n = 0 then return seen
  let chunk ← input.read n.toUSize
  if chunk.isEmpty then return seen
  readBytes input (n - chunk.size) (seen ++ chunk)

def send (output : IO.FS.Stream) (m : Outgoing) : IO Unit := do
  let body := String.ofList (Protocol.encode m).render
  output.putStr ("Content-Length: " ++ toString body.utf8ByteSize ++ "\r\n\r\n")
  output.putStr body
  output.flush

def readEntry (path : Text) : IO (Option DiskEntry) := do
  try
    return some (.file (← IO.FS.readBinFile (String.ofList path)).toList)
  catch _ => return none

def withFile (uri : Uri) (s : Server) : IO Server := do
  match Uri.address uri with
  | .ok a => return { s with disk := s.disk.place a.filePath (← readEntry a.filePath) }
  | .error _ => return s

def environment : IO Environment := do
  match ← IO.getEnv (String.ofList Settings.compilerVariable) with
  | some value => return .ofList [(Settings.compilerVariable, value.toList)]
  | none => return .empty

partial def serve (input output : IO.FS.Stream) (env : Environment) (c : Connection) :
    IO Connection := do
  match ← readHeader input 0 with
  | none => return c
  | some n =>
    let bytes ← readBytes input n .empty
    match Json.parse? (Text.decodeLossy bytes.toList) with
    | none => serve input output env c
    | some j =>
      let call := Protocol.decodeCall env .absent j
      let c ← match call with
        | .incoming (.codeAction _ r) => pure { c with server := ← withFile r.uri c.server }
        | _ => pure c
      let (sent, c) := c.handle call
      sent.forM (send output)
      if c.phase.isEnded then return c else serve input output env c

end Main
end PragmaAssist

def main : IO UInt32 := do
  let c ← PragmaAssist.Main.serve (← IO.getStdin) (← IO.getStdout)
    (← PragmaAssist.Main.environment) .fresh
  return c.phase.exitCode
