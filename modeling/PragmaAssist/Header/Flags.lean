import PragmaAssist.Header.Scan
import PragmaAssist.NameSet
import PragmaAssist.Text.Word

/-! The extensions that a module header switches on and off. -/
namespace PragmaAssist

structure Flags where
  enabled : NameSet
  disabled : NameSet
  deriving DecidableEq

inductive Mention where
  | on (name : Text)
  | off (name : Text)
  deriving DecidableEq

namespace Mention

/-- `NoX` switches a known `X` off, unless it is known itself. -/
def ofName (known : List Text) (name : Text) : Mention :=
  let negated := (name.after? ['N', 'o']).getD []
  if name ∉ known ∧ negated ∈ known then off negated else on name

def apply (f : Flags) : Mention → Flags
  | on x => ⟨f.enabled.insert x, f.disabled.erase x⟩
  | off x => ⟨f.enabled.erase x, f.disabled.insert x⟩

end Mention

namespace Header

/-- What stands between the keyword of an extension pragma and its first closer. -/
def languageBody? (pragma : Text) : Option Text := do
  let r ← pragma.after? Pragma.opener
  let r ← r.trimStart.after? PragmaKind.language.name
  if r.atWordEnd then r.before? Pragma.closer else none

def languageNames (pragma : Text) : List Text :=
  match languageBody? pragma with
  | some body => ((body.pieces ',').map Text.trim).filter (!·.isEmpty)
  | none => []

end Header

namespace Flags

def start (defaults : NameSet) : Flags := ⟨defaults, .empty⟩

def mentions (known : List Text) (pragmas : List Text) : List Mention :=
  (pragmas.flatMap Header.languageNames).map (Mention.ofName known)

/-- The flags of a document; none if its header does not end. -/
def parse? (contents : Text) (known : List Text) (defaults : NameSet) : Option Flags :=
  match Header.pragmas contents.lines with
  | .ok pragmas => some ((mentions known pragmas).foldl Mention.apply (start defaults))
  | .error _ => none

end Flags
end PragmaAssist
