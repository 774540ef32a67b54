import PragmaAssist.Failure
import PragmaAssist.Text.Blank
import PragmaAssist.Text.Lines

/-! A compiler that is asked questions on its command line. It is seen as the outcomes of the
runs to come, question by question, and keeps a record of the runs that were made. -/
namespace PragmaAssist

inductive Question where
  | numericVersion | supportedExtensions | showOptions
  deriving DecidableEq

def Question.argument : Question → Text
  | numericVersion => "--numeric-version".toList
  | supportedExtensions => "--supported-extensions".toList
  | showOptions => "--show-options".toList

structure Reply where
  stdout : Text
  stderr : Text
  code : Int
  deriving DecidableEq

inductive Outcome where
  | finished (r : Reply)
  | failed (f : Failure)
  | timedOut
  deriving DecidableEq

structure Run where
  path : Text
  argument : Text
  seconds : Int
  deriving DecidableEq

structure Compiler where
  found : Bool
  outcomes : Question → List Outcome
  runs : List Run

namespace Compiler

/-- The last outcome of a question repeats for ever. -/
def advance : List Outcome → List Outcome
  | [] => []
  | [o] => [o]
  | _ :: r => r

def noOutcome : Outcome := .finished ⟨[], "no outcome".toList, 1⟩

def next (c : Compiler) (q : Question) : Outcome := (c.outcomes q).headD noOutcome

def after (c : Compiler) (q : Question) (run : Run) : Compiler :=
  { c with
    outcomes := fun q' => if q' = q then advance (c.outcomes q) else c.outcomes q'
    runs := c.runs ++ [run] }

def absent : Compiler := ⟨false, fun _ => [], []⟩

end Compiler

structure Client where
  path : Text
  seconds : Int
  deriving DecidableEq

namespace Client

def defaultSeconds : Int := 10

/-- An empty path means the usual name. -/
def ofPath (path : Text) (seconds : Int) : Client :=
  ⟨if path.isEmpty then "ghc".toList else path, seconds⟩

def resolve (c : Compiler) : Option Text := if c.found then some "/found/ghc".toList else none

def ask (k : Client) (q : Question) : Fallible Compiler Reply := fun c =>
  let c' := c.after q ⟨k.path, q.argument, k.seconds⟩
  match c.next q with
  | .finished r => (.ok r, c')
  | .failed f => (.error f, c')
  | .timedOut => (.error (.timedOut [k.path, q.argument] k.seconds), c')

/-- Failures of the run itself, as against a fault of the caller. -/
def isRunFailure (f : Failure) : Bool :=
  f.category = .system || f.category = .process || f.category = .timeout

/-- Whether the compiler is found and answers; a failed run counts as no. -/
def isAvailable (k : Client) : Fallible Compiler Bool := fun c =>
  if c.found then
    match k.ask .numericVersion c with
    | (.ok r, c') => (.ok (r.code == 0), c')
    | (.error f, c') => (if isRunFailure f then .ok false else .error f, c')
  else (.ok false, c)

def numericVersion (k : Client) : Fallible Compiler (Option Text) := do
  let r ← k.ask .numericVersion
  let version := r.stdout.trim
  return if r.code == 0 && !version.isEmpty then some version else none

def outputWords (t : Text) : List Text := (t.outputLines.map Text.trim).filter (!·.isEmpty)

def words (k : Client) (q : Question) : Fallible Compiler (List Text) := do
  let r ← k.ask q
  if r.code == 0 then return outputWords r.stdout
  else throw (.commandFailed k.path q.argument r.stderr.trim)

def supportedExtensions (k : Client) : Fallible Compiler (List Text) := k.words .supportedExtensions

def showOptions (k : Client) : Fallible Compiler (List Text) := k.words .showOptions

end Client
end PragmaAssist
