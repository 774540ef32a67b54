import PragmaAssist.Json.Basic

/-! Writing JSON in ASCII, with surrogate pairs for what lies above the basic plane. -/
namespace PragmaAssist.Json

def unitText (n : Nat) : Text := ['\\', 'u'] ++ Text.hex 4 n

def charText (c : Char) : Text :=
  if c = '"' ∨ c = '\\' then ['\\', c]
  else if 0x20 ≤ c.toNat ∧ c.toNat < 0x7F then [c]
  else if c.toNat < 0x10000 then unitText c.toNat
  else unitText (0xD800 + (c.toNat - 0x10000) / 0x400)
    ++ unitText (0xDC00 + (c.toNat - 0x10000) % 0x400)

def stringText (s : Text) : Text := '"' :: s.flatMap charText ++ ['"']

mutual
def render : Json → Text
  | null => "null".toList
  | bool true => "true".toList
  | bool false => "false".toList
  | int n => Text.ofInt n
  | float x => x.text
  | str s => stringText s
  | arr l => '[' :: [','].intercalate (renderAll l) ++ [']']
  | obj fields => '{' :: [','].intercalate (renderFields fields) ++ ['}']

def renderAll : List Json → List Text
  | [] => []
  | j :: r => j.render :: renderAll r

def renderFields : List (Text × Json) → List Text
  | [] => []
  | (k, v) :: r => (stringText k ++ ':' :: v.render) :: renderFields r
end

end PragmaAssist.Json
