import PragmaAssist.Text.Blank
import PragmaAssist.Text.WordTable

/-! Word characters, and where a word ends. -/
namespace PragmaAssist

def isWordChar (c : Char) : Bool := c == '_' || inRanges alphanumericRanges c

/-- Whether a word that ends right before the text ends there indeed. -/
def Text.atWordEnd : Text → Bool
  | [] => true
  | c :: _ => !isWordChar c

def isNameChar (c : Char) : Bool := c.isAlphanum || c == '_' || c == '\''

end PragmaAssist
