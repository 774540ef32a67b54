/-! Texts as lists of code points, and the few searches the pragma rules need:
what a text starts with, where a mark first occurs, and the pieces between separators. -/
namespace PragmaAssist

/-- A text is the list of its Unicode code points. -/
abbrev Text := List Char

instance (t : Text) (ts : List Text) : Decidable (t ∈ ts) :=
  List.instDecidableMemOfLawfulBEq t ts

namespace Text

def after? : (t start : Text) → Option Text
  | t, [] => some t
  | [], _ :: _ => none
  | c :: t, a :: start => if a = c then after? t start else none

def startsWith (t start : Text) : Bool := start.isPrefixOf t

def endsWith (t tail : Text) : Bool := tail.isSuffixOf t

def occursIn (mark : Text) : Text → Bool
  | [] => mark.isEmpty
  | c :: r => mark.isPrefixOf (c :: r) || occursIn mark r

def before? : (t mark : Text) → Option Text
  | [], mark => if mark.isEmpty then some [] else none
  | c :: r, mark => if mark.isPrefixOf (c :: r) then some [] else (before? r mark).map (c :: ·)

def pieces (separator : Char) : Text → List Text
  | [] => [[]]
  | c :: r =>
    if c = separator then [] :: pieces separator r
    else match pieces separator r with
      | [] => [[c]]
      | p :: ps => (c :: p) :: ps

def hexDigit? (c : Char) : Option Nat :=
  if '0' ≤ c ∧ c ≤ '9' then some (c.toNat - 48)
  else if 'a' ≤ c ∧ c ≤ 'f' then some (c.toNat - 87)
  else if 'A' ≤ c ∧ c ≤ 'F' then some (c.toNat - 55)
  else none

def isHexDigit (c : Char) : Bool := (hexDigit? c).isSome

def ofNat (n : Nat) : Text := Nat.toDigits 10 n

def ofInt : Int → Text
  | .ofNat n => ofNat n
  | .negSucc n => '-' :: ofNat (n + 1)

theorem after?_append (start t : Text) : (start ++ t).after? start = some t := by
  induction start with
  | nil => cases t <;> rfl
  | cons a start ih => simpa [after?] using ih

theorem after?_eq_some_iff {t start r : Text} : t.after? start = some r ↔ t = start ++ r := by
  constructor
  · intro h
    fun_induction after? t start with
    | case1 => simp_all
    | case2 => simp at h
    | case3 t a start ih => simp [ih h]
    | case4 => simp at h
  · rintro rfl
    exact after?_append start r

theorem startsWith_iff {t start : Text} : t.startsWith start = true ↔ start <+: t :=
  List.isPrefixOf_iff_prefix

theorem occursIn_iff {mark t : Text} : mark.occursIn t = true ↔ mark <:+: t := by
  induction t with
  | nil => simp [occursIn]
  | cons c r ih => simp [occursIn, ih, List.infix_cons_iff]

end Text
end PragmaAssist
