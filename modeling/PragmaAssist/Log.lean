import PragmaAssist.Text.Basic

/-! Log messages to the editor. -/
namespace PragmaAssist

inductive Level where
  | error | warning | info
  deriving DecidableEq

def Level.number : Level → Nat
  | error => 1
  | warning => 2
  | info => 3

structure LogEntry where
  level : Level
  text : Text
  deriving DecidableEq

end PragmaAssist
