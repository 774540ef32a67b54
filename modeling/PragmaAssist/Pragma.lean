import PragmaAssist.Failure

/-! The header pragmas that a quick fix can add. -/
namespace PragmaAssist

inductive PragmaKind where
  | language | optionsGhc
  deriving DecidableEq

namespace PragmaKind

def name : PragmaKind → Text
  | language => "LANGUAGE".toList
  | optionsGhc => "OPTIONS_GHC".toList

def ofName (n : Text) : Except Failure PragmaKind :=
  if n = language.name then .ok language
  else if n = optionsGhc.name then .ok optionsGhc
  else .error (.unknownKind n)

end PragmaKind

/-- An extension to switch on, or a warning to switch off. -/
structure Pragma where
  kind : PragmaKind
  name : Text
  deriving DecidableEq

namespace Pragma

def opener : Text := ['{', '-', '#']

def closer : Text := ['#', '-', '}']

def body (p : Pragma) : Text :=
  match p.kind with
  | .language => "LANGUAGE ".toList ++ p.name
  | .optionsGhc => "OPTIONS_GHC -Wno-".toList ++ p.name

def directive (p : Pragma) : Text := opener ++ ' ' :: p.body ++ ' ' :: closer

def render (p : Pragma) : Text := p.directive ++ ['\n']

end Pragma
end PragmaAssist
