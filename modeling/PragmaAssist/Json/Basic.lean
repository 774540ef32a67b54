import PragmaAssist.Number.Shortest
import PragmaAssist.Text.Quoted

/-! JSON values with the order of an object's keys kept and integers apart from other numbers,
their truth value, and their text as plain words. -/
namespace PragmaAssist

inductive Json where
  | null
  | bool (b : Bool)
  | int (n : Int)
  | float (x : Binary64)
  | str (s : Text)
  | arr (elements : List Json)
  | obj (fields : List (Text × Json))

namespace Json

instance : Inhabited Json := ⟨.null⟩

def lookup (key : Text) : List (Text × Json) → Option Json
  | [] => none
  | (k, v) :: r => if k = key then some v else lookup key r

def get? (j : Json) (key : Text) : Option Json :=
  match j with
  | obj fields => lookup key fields
  | _ => none

def getD (j : Json) (key : Text) : Json := (j.get? key).getD null

def text? : Json → Option Text
  | str s => some s
  | _ => none

def elements : Json → List Json
  | arr l => l
  | _ => []

/-- Everything but null, false, zero and the empty text, array and object. -/
def isTruthy : Json → Bool
  | null => false
  | bool b => b
  | int n => n != 0
  | float x => !x.isZero
  | str s => !s.isEmpty
  | arr l => !l.isEmpty
  | obj fields => !fields.isEmpty

mutual
/-- The text of a value inside another: strings are quoted. -/
def innerText : Json → Text
  | null => "None".toList
  | bool true => "True".toList
  | bool false => "False".toList
  | int n => Text.ofInt n
  | float x => x.text
  | str s => s.quote
  | arr l => '[' :: (", ".toList).intercalate (innerTexts l) ++ [']']
  | obj fields => '{' :: (", ".toList).intercalate (fieldTexts fields) ++ ['}']

def innerTexts : List Json → List Text
  | [] => []
  | j :: r => j.innerText :: innerTexts r

def fieldTexts : List (Text × Json) → List Text
  | [] => []
  | (k, v) :: r => (k.quote ++ ": ".toList ++ v.innerText) :: fieldTexts r
end

def plainText : Json → Text
  | str s => s
  | j => j.innerText

end Json
end PragmaAssist
