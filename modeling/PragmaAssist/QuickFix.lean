import PragmaAssist.Catalog.Basic
import PragmaAssist.Header.Flags

/-! Compiler diagnostics, and the quick fixes they call for: an extension that a message names
is offered, and a warning by its code can be switched off. -/
namespace PragmaAssist

structure Diagnostic where
  message : Text
  /-- The code, where it is a text. -/
  code : Option Text
  deriving DecidableEq

structure QuickFix where
  title : Text
  pragma : Pragma
  deriving DecidableEq

namespace QuickFix

def enable (name : Text) : QuickFix :=
  ⟨"Add \"".toList ++ name ++ ['"'], ⟨.language, name⟩⟩

def silence (warning : Text) : QuickFix :=
  ⟨"Disable \"".toList ++ warning ++ "\" warnings".toList, ⟨.optionsGhc, warning⟩⟩

def mentioned (c : Catalog) (text : Text) : List Text :=
  c.suggestible.filter (·.occursIn text)

/-- Without flags no extension counts as enabled. -/
def isEnabled (flags : Option Flags) (name : Text) : Bool :=
  flags.any fun f => name ∈ f.enabled

def forExtensions (c : Catalog) (flags : Option Flags) (d : Diagnostic) : List QuickFix :=
  ((mentioned c d.message).filter (!isEnabled flags ·)).map enable

def warning? (d : Diagnostic) : Option Text := d.code.bind (·.after? ['-', 'W'])

def forWarning (kept : NameSet) (d : Diagnostic) : List QuickFix :=
  match warning? d with
  | some w => if w ∈ kept then [] else [silence w]
  | none => []

def forDiagnostic (c : Catalog) (flags : Option Flags) (kept : NameSet) (d : Diagnostic) :
    List QuickFix :=
  forExtensions c flags d ++ forWarning kept d

/-- The first fix for each pragma that is not in `seen`. -/
def withoutRepeats (seen : List Pragma) : List QuickFix → List QuickFix
  | [] => []
  | f :: r =>
    if f.pragma ∈ seen then withoutRepeats seen r
    else f :: withoutRepeats (f.pragma :: seen) r

def forAll (c : Catalog) (flags : Option Flags) (kept : NameSet) (ds : List Diagnostic) :
    List QuickFix :=
  withoutRepeats [] (ds.flatMap (forDiagnostic c flags kept))

end QuickFix
end PragmaAssist
