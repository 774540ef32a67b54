import PragmaAssist.Failure

/-! Document addresses: their percent-decoding, their parts, and the path of a file. -/
namespace PragmaAssist

abbrev Uri := Text

structure Address where
  scheme : Text
  authority : Text
  path : Text
  deriving DecidableEq

namespace Uri

def isAsciiLetter (c : Char) : Bool := c.isAlpha

def isSchemeChar (c : Char) : Bool := c.isAlphanum || c == '+' || c == '-' || c == '.'

/-- Blanks and control characters in front, and tabs and line breaks anywhere, do not count. -/
def cleaned (uri : Uri) : Text :=
  (uri.dropWhile (·.toNat ≤ 0x20)).filter fun c => c ≠ '\t' ∧ c ≠ '\n' ∧ c ≠ '\r'

/-- Scheme and rest: the scheme is a letter, then letters, digits, `+`, `-` and `.` up to the
first colon. -/
def splitScheme (uri : Text) : Text × Text :=
  let scheme := uri.takeWhile (· ≠ ':')
  match uri.drop scheme.length with
  | ':' :: rest =>
    if (scheme.head?.any isAsciiLetter) && scheme.all isSchemeChar then
      (scheme.map Char.toLower, rest)
    else ([], uri)
  | _ => ([], uri)

def endsAuthority (c : Char) : Bool := c == '/' || c == '?' || c == '#'

def splitAuthority (rest : Text) : Text × Text :=
  match rest with
  | '/' :: '/' :: r => (r.takeWhile (!endsAuthority ·), r.dropWhile (!endsAuthority ·))
  | r => ([], r)

def endsPath (c : Char) : Bool := c == '?' || c == '#'

def address (uri : Uri) : Except Failure Address :=
  let (scheme, rest) := splitScheme (cleaned uri)
  let (authority, rest) := splitAuthority rest
  match Authority.check authority with
  | .ok _ => .ok ⟨scheme, authority, rest.takeWhile (!endsPath ·)⟩
  | .error fault => .error (.badAuthority fault)

def bytes : Text → List UInt8
  | '%' :: a :: b :: r =>
    match Text.hexDigit? a, Text.hexDigit? b with
    | some x, some y => (x * 16 + y).toUInt8 :: bytes r
    | _, _ => Text.encode ['%'] ++ bytes (a :: b :: r)
  | c :: r => Text.encode [c] ++ bytes r
  | [] => []

def decoded (t : Text) : Text := Text.decodeLossy (bytes t)

/-- A path that starts with a drive is written without its slash and with a small letter. -/
def dropDriveSlash : Text → Text
  | '/' :: d :: ':' :: r => if isAsciiLetter d then d.toLower :: ':' :: r else '/' :: d :: ':' :: r
  | path => path

end Uri

namespace Address

def isFile (a : Address) : Bool := a.scheme == "file".toList

def filePath (a : Address) : Text :=
  let path := Uri.decoded a.path
  if a.isFile ∧ !a.authority.isEmpty ∧ !path.isEmpty then
    ['/', '/'] ++ Uri.decoded a.authority ++ path
  else Uri.dropDriveSlash path

end Address
end PragmaAssist
