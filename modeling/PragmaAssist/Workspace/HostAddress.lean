import PragmaAssist.Text.Basic

/-! Numeric addresses of hosts: a dotted quad of bytes, groups of hexadecimal digits between
colons, and a tagged form that is kept for future versions. -/
namespace PragmaAssist
namespace HostAddress

def isByte (t : Text) : Bool := (List.range 256).any fun n => Text.ofNat n = t

def isQuad (t : Text) : Bool :=
  let parts := t.pieces '.'
  parts.length == 4 && parts.all isByte

def isGroup (t : Text) : Bool := !t.isEmpty && t.length ≤ 4 && t.all Text.isHexDigit

def groups (t : Text) : List Text := if t.isEmpty then [] else t.pieces ':'

/-- How many groups stand in a row; a quad may stand for the last two. -/
def width? : List Text → Option Nat
  | [] => some 0
  | [g] => if isQuad g then some 2 else if isGroup g then some 1 else none
  | g :: gs => if isGroup g then (width? gs).map (· + 1) else none

/-- Eight groups, of which two colons in a row leave out some, at least one. -/
def isGrouped (t : Text) : Bool :=
  match t.before? "::".toList with
  | none => width? (groups t) == some 8
  | some start =>
    let front := groups start
    front.all isGroup &&
      (width? (groups (t.drop (start.length + 2)))).any (front.length + · ≤ 7)

def isZoned (t : Text) : Bool :=
  let address := t.takeWhile (· ≠ '%')
  match t.drop address.length with
  | [] => isGrouped address
  | _ :: zone => !zone.isEmpty && zone.all (· ≠ '%') && isGrouped address

def futureTag : Char := 'v'

def isFuture : Text → Bool
  | c :: r =>
    c == futureTag && !(r.takeWhile Text.isHexDigit).isEmpty &&
      match r.dropWhile Text.isHexDigit with
      | '.' :: rest => !rest.isEmpty
      | _ => false
  | [] => false

end HostAddress
end PragmaAssist
