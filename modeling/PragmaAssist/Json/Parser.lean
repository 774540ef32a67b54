import PragmaAssist.Json.Basic
import PragmaAssist.Table

/-! Reading JSON. A key that is repeated keeps its first place and takes the last value, a
number with a fraction or an exponent is a floating-point one. -/
namespace PragmaAssist.Json

def skipSpace (t : Text) : Text :=
  t.dropWhile fun c => c == ' ' || c == '\n' || c == '\r' || c == '\t'

def simpleEscape? : Char → Option Char
  | '"' => some '"'
  | '\\' => some '\\'
  | '/' => some '/'
  | 'b' => some '\x08'
  | 'f' => some '\x0c'
  | 'n' => some '\n'
  | 'r' => some '\r'
  | 't' => some '\t'
  | _ => none

/-- The code points and surrogates of a string's body, and what follows the closing quote. -/
def readUnits (seen : List Nat) : Text → Option (List Nat × Text)
  | [] => none
  | '"' :: r => some (seen.reverse, r)
  | '\\' :: 'u' :: a :: b :: c :: d :: r =>
    match Text.hexDigit? a, Text.hexDigit? b, Text.hexDigit? c, Text.hexDigit? d with
    | some a, some b, some c, some d => readUnits ((((a * 16 + b) * 16 + c) * 16 + d) :: seen) r
    | _, _, _, _ => none
  | '\\' :: e :: r =>
    match simpleEscape? e with
    | some c => readUnits (c.toNat :: seen) r
    | none => none
  | c :: r => if c.toNat < 0x20 ∨ c = '\\' then none else readUnits (c.toNat :: seen) r

/-- Puts each pair of surrogates together; one that stands alone is no character. -/
def joinSurrogates : List Nat → Text
  | [] => []
  | [a] => [if 0xD800 ≤ a ∧ a < 0xE000 then '\uFFFD' else Char.ofNat a]
  | a :: b :: r =>
    if 0xD800 ≤ a ∧ a < 0xDC00 ∧ 0xDC00 ≤ b ∧ b < 0xE000 then
      Char.ofNat (0x10000 + (a - 0xD800) * 0x400 + (b - 0xDC00)) :: joinSurrogates r
    else
      (if 0xD800 ≤ a ∧ a < 0xE000 then '\uFFFD' else Char.ofNat a) :: joinSurrogates (b :: r)

def readString (t : Text) : Option (Text × Text) :=
  (readUnits [] t).map fun (units, r) => (joinSurrogates units, r)

def natOfDigits (digits : Text) : Nat := digits.foldl (fun n c => n * 10 + (c.toNat - 48)) 0

def readFraction : Text → Option (Option Text × Text)
  | '.' :: r =>
    let digits := r.takeWhile Char.isDigit
    if digits.isEmpty then none else some (some digits, r.dropWhile Char.isDigit)
  | t => some (none, t)

def readExponentDigits (negative : Bool) (t : Text) : Option (Option Int × Text) :=
  let digits := t.takeWhile Char.isDigit
  if digits.isEmpty then none
  else
    let n : Int := natOfDigits digits
    some (some (if negative then -n else n), t.dropWhile Char.isDigit)

def readExponent : Text → Option (Option Int × Text)
  | c :: r =>
    if c = 'e' ∨ c = 'E' then
      match r with
      | '+' :: r => readExponentDigits false r
      | '-' :: r => readExponentDigits true r
      | _ => readExponentDigits false r
    else some (none, c :: r)
  | [] => some (none, [])

def readMagnitude (negative : Bool) (t : Text) : Option (Json × Text) :=
  let whole := t.takeWhile Char.isDigit
  if whole.isEmpty then none
  else do
    let (fraction, t) ← readFraction (t.dropWhile Char.isDigit)
    let (exponent, t) ← readExponent t
    match fraction, exponent with
    | none, none =>
      let n : Int := natOfDigits whole
      some (int (if negative then -n else n), t)
    | _, _ =>
      let part := fraction.getD []
      let e := exponent.getD 0 - part.length
      some (float (.ofDecimal negative (natOfDigits (whole ++ part)) e), t)

def readNumber : Text → Option (Json × Text)
  | '-' :: r => readMagnitude true r
  | t => readMagnitude false t

def keywords : List (Text × Json) :=
  [("null".toList, null), ("true".toList, bool true), ("false".toList, bool false)]

def readKeyword (t : Text) : List (Text × Json) → Option (Json × Text)
  | [] => none
  | (word, j) :: r =>
    match t.after? word with
    | some rest => some (j, rest)
    | none => readKeyword t r

mutual
/-- A value at the start of the text and what follows it. The fuel bounds the number of values
and separators, each of which takes a character. -/
def readValue : Nat → Text → Option (Json × Text)
  | 0, _ => none
  | fuel + 1, t =>
    match skipSpace t with
    | '"' :: r => (readString r).map fun (s, r) => (str s, r)
    | '[' :: r =>
      match skipSpace r with
      | ']' :: r => some (arr [], r)
      | r => readElements fuel [] r
    | '{' :: r =>
      match skipSpace r with
      | '}' :: r => some (obj [], r)
      | r => readFields fuel [] r
    | t => (readKeyword t keywords).or (readNumber t)

def readElements : Nat → List Json → Text → Option (Json × Text)
  | 0, _, _ => none
  | fuel + 1, seen, t =>
    match readValue fuel t with
    | none => none
    | some (j, r) =>
      match skipSpace r with
      | ',' :: r => readElements fuel (j :: seen) r
      | ']' :: r => some (arr (j :: seen).reverse, r)
      | _ => none

def readFields : Nat → List (Text × Json) → Text → Option (Json × Text)
  | 0, _, _ => none
  | fuel + 1, seen, t =>
    match skipSpace t with
    | '"' :: r =>
      match readString r with
      | none => none
      | some (key, r) =>
        match skipSpace r with
        | ':' :: r =>
          match readValue fuel r with
          | none => none
          | some (j, r) =>
            let fields := Table.write key j seen
            match skipSpace r with
            | ',' :: r => readFields fuel fields r
            | '}' :: r => some (obj fields, r)
            | _ => none
        | _ => none
    | _ => none
end

def parse? (t : Text) : Option Json :=
  match readValue (2 * t.length + 2) t with
  | some (j, r) => if (skipSpace r).isEmpty then some j else none
  | none => none

end PragmaAssist.Json
