import PragmaAssist.Catalog.Basic
import PragmaAssist.Compiler.Basic
import PragmaAssist.Log

/-! The catalog of an installed compiler, and the choice between it and the built-in one. -/
namespace PragmaAssist
namespace Catalog

/-- The names among `supported` whose negation is listed as well. -/
def reversible (supported : List Text) : List Text :=
  supported.filter fun x => negate x ∈ supported ∧ x ∉ Builtin.permanent

def optionFlags (options : List Text) : List Text := options.filter (·.startsWith ['-'])

def ofCompiler (k : Client) : Fallible Compiler Catalog := do
  let extensions := reversible (← k.supportedExtensions)
  let flags := optionFlags (← k.showOptions)
  if extensions.isEmpty || flags.isEmpty then throw (.emptyCatalog k.path)
  else return ⟨extensions, flags⟩

structure Loaded where
  catalog : Catalog
  log : List LogEntry

def isRecoverable (f : Failure) : Bool := f.category = .runtime || Client.isRunFailure f

namespace Loaded

def unavailable (path : Text) : Loaded :=
  ⟨builtin, [⟨.warning,
    "GHC not available at ".toList ++ path ++ ", using built-in pragma tables".toList⟩]⟩

def unreadable (path : Text) (f : Failure) : Loaded :=
  ⟨builtin, [⟨.error,
    "Could not read pragma tables from ".toList ++ path ++ ": ".toList ++ f.message⟩]⟩

def read (c : Catalog) (version : Option Text) : Loaded :=
  ⟨c, [⟨.info,
    "Loaded ".toList ++ Text.ofNat c.extensions.length ++ " extensions and ".toList
      ++ Text.ofNat c.flags.length ++ " options from GHC ".toList
      ++ version.getD "None".toList⟩]⟩

end Loaded

def loadFrom (path : Text) (k : Client) : Fallible Compiler Loaded := fun c =>
  match ofCompiler k c with
  | (.ok catalog, c') =>
    match k.numericVersion c' with
    | (.ok version, c'') => (.ok (.read catalog version), c'')
    | (.error f, c'') => (.error f, c'')
  | (.error f, c') => (if isRecoverable f then .ok (.unreadable path f) else .error f, c')

/-- The tables of the compiler at `path`; the built-in ones if there is no path, or no compiler
that tells its tables. -/
def load (path : Option Text) : Fallible Compiler Loaded :=
  match path.filter (!·.isEmpty) with
  | none => return ⟨builtin, []⟩
  | some path => do
    let k := Client.ofPath path Client.defaultSeconds
    if ← k.isAvailable then loadFrom path k else return .unavailable path

end Catalog
end PragmaAssist
