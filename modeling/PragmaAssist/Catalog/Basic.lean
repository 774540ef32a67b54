import PragmaAssist.Catalog.ExtensionNames
import PragmaAssist.Catalog.OptionNames

/-! The extension and option names of a compiler, and the lists that requests draw on. -/
namespace PragmaAssist

structure Catalog where
  /-- Names that can be negated, without their `NoX` forms. -/
  extensions : List Text
  flags : List Text
  deriving DecidableEq

namespace Catalog

def builtin : Catalog := ⟨Builtin.extensions, Builtin.flags⟩

instance : Inhabited Catalog := ⟨builtin⟩

/-- Part of many words that are no extension's name, and so never suggested. -/
def unsuggested : List Text := ["Strict".toList]

def suggestible (c : Catalog) : List Text := c.extensions.filter (· ∉ unsuggested)

def negate (name : Text) : Text := ['N', 'o'] ++ name

def pragmaNames (c : Catalog) : List Text :=
  c.extensions.flatMap (fun x => [x, negate x]) ++ Builtin.permanent

/-- The text with its first character dropped if it starts with `start`, however long that is. -/
def dropOne (start text : Text) : Text :=
  if text.startsWith start then text.drop 1 else text

def optionWords (c : Catalog) : List Text := c.flags.map (dropOne ['-'])

end Catalog
end PragmaAssist
