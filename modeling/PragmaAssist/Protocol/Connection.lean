import PragmaAssist.Protocol.Decode

/-! A connection with an editor, from the first message to the last. After a shutdown only the
end of the connection is heeded. -/
namespace PragmaAssist

inductive Phase where
  | running
  | shutDown
  /-- Whether a shutdown was asked for before the end. -/
  | ended (afterShutdown : Bool)
  deriving DecidableEq

def Phase.isEnded : Phase → Bool
  | ended _ => true
  | _ => false

def Phase.exitCode : Phase → UInt32
  | ended false => 1
  | _ => 0

structure Connection where
  server : Server
  phase : Phase

namespace Connection
open Protocol

def fresh : Connection := ⟨.fresh, .running⟩

def methodNotFound : Int := -32601

def invalidParams : Int := -32602

def handle (call : Call) (c : Connection) : List Outgoing × Connection :=
  match c.phase, call with
  | .ended _, _ => ([], c)
  | phase, .exit => ([], { c with phase := .ended (phase = .shutDown) })
  | .shutDown, _ => ([], c)
  | .running, .shutdown id => ([.response id .nothing], { c with phase := .shutDown })
  | .running, .incoming m =>
    let (sent, s) := Server.receive Server.cachedLookup m c.server
    (sent, { c with server := s })
  | .running, .command id name =>
    ([.failed id invalidParams
      ("Invalid Params: Command name ".toList ++ name.quote ++ " is not defined".toList)], c)
  | .running, .unknown id method =>
    ([.failed id methodNotFound ("Method Not Found: ".toList ++ method)], c)
  | .running, .silent => ([], c)

def handleAll : List Call → Connection → List Outgoing
  | [], _ => []
  | call :: rest, c =>
    let (sent, c') := c.handle call
    sent ++ handleAll rest c'

end Connection
end PragmaAssist
