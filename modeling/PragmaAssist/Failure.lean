import PragmaAssist.Text.Utf8
import PragmaAssist.Workspace.Authority

/-! What can go wrong, by cause. Each failure has a category, by which some are caught, and a
message. -/
namespace PragmaAssist

inductive Category where
  | value | runtime | type | key | member | system | process | timeout | undecodable | header
  deriving DecidableEq

def Category.name : Category → Text
  | value => "ValueError".toList
  | runtime => "RuntimeError".toList
  | type => "TypeError".toList
  | key => "KeyError".toList
  | member => "AttributeError".toList
  | system => "OSError".toList
  | process => "SubprocessError".toList
  | timeout => "TimeoutExpired".toList
  | undecodable => "UnicodeDecodeError".toList
  | header => "HeaderParseError".toList

/-- The name under which a report shows a family; failed runs of the compiler have a longer one. -/
def Category.fullName : Category → Text
  | process => "subprocess.".toList ++ process.name
  | timeout => "subprocess.".toList ++ timeout.name
  | c => c.name

inductive Failure where
  /-- A failure that is known by its category and message alone. -/
  | reported (category : Category) (text : Text)
  | notIterable (typeName : Text)
  | unknownKind (name : Text)
  | unterminated (opening : Text)
  | commandFailed (path argument stderr : Text)
  | emptyCatalog (path : Text)
  | timedOut (command : List Text) (seconds : Int)
  /-- No document can be looked up before the first initialization. -/
  | noWorkspace
  | notOpen (key : Text)
  | badAuthority (fault : AuthorityFault)
  /-- A hook that has no name to be logged by. -/
  | nameless (typeName : Text)
  | nulInPath
  | undecodable (fault : Utf8Fault)
  deriving DecidableEq

namespace Failure

def category : Failure → Category
  | reported c _ => c
  | notIterable _ => .type
  | unknownKind _ => .value
  | unterminated _ => .header
  | commandFailed .. => .runtime
  | emptyCatalog _ => .runtime
  | timedOut .. => .timeout
  | noWorkspace => .runtime
  | notOpen _ => .key
  | nameless _ => .member
  | badAuthority _ => .value
  | nulInPath => .value
  | undecodable _ => .undecodable

def message : Failure → Text
  | reported _ text => text
  | notIterable typeName => ['\''] ++ typeName ++ "' object is not iterable".toList
  | unknownKind name => name.quote ++ " is not a valid PragmaKind".toList
  | unterminated opening => "unterminated ".toList ++ opening ++ " block".toList
  | commandFailed path argument stderr =>
    path ++ [' '] ++ argument ++ " failed: ".toList ++ stderr
  | emptyCatalog path => path ++ " reported an empty catalog".toList
  | timedOut command seconds =>
    "Command '".toList ++ Text.quoteAll command ++ "' timed out after ".toList
      ++ Text.ofInt seconds ++ " seconds".toList
  | noWorkspace =>
    "The workspace is not available - has the server been initialized?".toList
  | notOpen key => key.quote
  | badAuthority fault => fault.message
  | nameless typeName => ['\''] ++ typeName ++ "' object has no attribute '__name__'".toList
  | nulInPath => "embedded null byte".toList
  | undecodable fault => fault.message

def describe (f : Failure) : Text := f.category.name ++ ": ".toList ++ f.message

/-- The failure as it is told to the editor: an empty message leaves the name alone, and blanks
at the end are dropped. -/
def report (f : Failure) : Text :=
  (if f.message.isEmpty then f.category.fullName
  else f.category.fullName ++ ": ".toList ++ f.message).trim

end Failure

/-- A computation on a state that may fail; what it did to the state before stays done. -/
abbrev Fallible (σ α : Type) := ExceptT Failure (StateM σ) α

end PragmaAssist
