import PragmaAssist.Text.Quoted
import PragmaAssist.Workspace.HostAddress

/-! The authority of a document's address: a user, a host and a port. Brackets enclose a numeric
host, and no character stands in it that would become a separator when characters are replaced
by their plain equivalents. -/
namespace PragmaAssist

inductive AuthorityFault where
  /-- A bracket has no partner, or there is a text beside the brackets that is no port. -/
  | brackets
  | futureForm
  | bracketedQuad
  | unknownHost (host : Text)
  /-- A character is a separator in disguise. -/
  | disguise (authority : Text)
  deriving DecidableEq

def AuthorityFault.message : AuthorityFault → Text
  | brackets => "Invalid IPv6 URL".toList
  | futureForm => "IPvFuture address is invalid".toList
  | bracketedQuad => "An IPv4 address cannot be in brackets".toList
  | unknownHost host => host.quote ++ " does not appear to be an IPv4 or IPv6 address".toList
  | disguise authority =>
    "netloc '".toList ++ authority ++ "' contains invalid characters under NFKC normalization".toList

namespace Authority

def hostAndPort (authority : Text) : Text := (authority.reverse.takeWhile (· ≠ '@')).reverse

def host (authority : Text) : Except AuthorityFault Text :=
  match hostAndPort authority with
  | '[' :: r =>
    let inner := r.takeWhile (· ≠ ']')
    match r.drop (inner.length + 1) with
    | [] | ':' :: _ => .ok inner
    | _ => .error .brackets
  | r => if '[' ∈ r then .error .brackets else .ok (r.takeWhile (· ≠ ':'))

def checkHost (host : Text) : Except AuthorityFault Unit :=
  if host.head? = some HostAddress.futureTag then
    if HostAddress.isFuture host then .ok () else .error .futureForm
  else if HostAddress.isQuad host then .error .bracketedQuad
  else if HostAddress.isZoned host then .ok ()
  else .error (.unknownHost host)

/-- The characters outside ASCII whose plain equivalent, by compatibility, has a slash, a question
mark, a number sign, an at sign or a colon. -/
def disguisedSeparators : List (Nat × Nat) :=
  [(0x2047, 0x2049), (0x2100, 0x2101), (0x2105, 0x2106), (0x2A74, 0x2A74), (0xFE13, 0xFE13),
    (0xFE16, 0xFE16), (0xFE55, 0xFE56), (0xFE5F, 0xFE5F), (0xFE6B, 0xFE6B), (0xFF03, 0xFF03),
    (0xFF0F, 0xFF0F), (0xFF1A, 0xFF1A), (0xFF1F, 0xFF20)]

def check (authority : Text) : Except AuthorityFault Unit := do
  if authority.contains '[' ≠ authority.contains ']' then throw .brackets
  if authority.contains '[' then checkHost (← host authority)
  if authority.any (inRanges disguisedSeparators) then throw (.disguise authority)

end Authority
end PragmaAssist
