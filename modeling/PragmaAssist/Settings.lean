import PragmaAssist.Json.Basic
import PragmaAssist.Failure
import PragmaAssist.NameSet
import PragmaAssist.Table

/-! Settings. What the client sends at initialization goes before the environment, which goes
before the defaults. -/
namespace PragmaAssist

abbrev Environment := Table Text Text

structure Settings where
  /-- The compiler to ask, as it was given; null for none. -/
  ghcPath : Json
  defaultExtensions : NameSet
  warningBlacklist : NameSet

namespace Settings

/-- Type errors are not mended by deferring them. -/
def defaultBlacklist : NameSet := .ofList ["deferred-type-errors".toList]

def default : Settings := ⟨.null, .empty, defaultBlacklist⟩

instance : Inhabited Settings := ⟨default⟩

def texts : Json → Except Failure (List Text)
  | .arr l => .ok (l.map Json.plainText)
  | .str s => .ok (s.map fun c => [c])
  | .obj fields => .ok (fields.map (·.1))
  | .null => .error (.notIterable "NoneType".toList)
  | .bool _ => .error (.notIterable "bool".toList)
  | .int _ => .error (.notIterable "int".toList)
  | .float _ => .error (.notIterable "float".toList)

def compilerVariable : Text := "PRAGMALS_GHC".toList

def resolvePath (given : Json) (env : Environment) : Json :=
  if given.isTruthy then given
  else match env.get? compilerVariable with
    | some path => if path.isEmpty then .null else .str path
    | none => .null

def resolveExtensions (given : Json) : Except Failure NameSet :=
  if given.isTruthy then (texts given).map .ofList else .ok .empty

def resolveBlacklist : Json → Except Failure NameSet
  | .null => .ok defaultBlacklist
  | given => (texts given).map .ofList

/-- Options that are no object count as none. -/
def resolve (options : Json) (env : Environment) : Except Failure Settings := do
  let extensions ← resolveExtensions (options.getD "defaultExtensions".toList)
  let blacklist ← resolveBlacklist (options.getD "warningBlacklist".toList)
  return ⟨resolvePath (options.getD "ghcPath".toList) env, extensions, blacklist⟩

def compilerPath (s : Settings) : Option Text :=
  if s.ghcPath.isTruthy then some s.ghcPath.plainText else none

end Settings
end PragmaAssist
