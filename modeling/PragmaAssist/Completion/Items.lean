import PragmaAssist.Catalog.Basic
import PragmaAssist.Completion.Ranking

/-! Completion inside pragmas. How the line starts decides what is offered: extension names,
options, or templates for a whole pragma. -/
namespace PragmaAssist

/-- The line of the cursor and the name typed right before it. -/
structure CursorWord where
  line : Text
  word : Text
  deriving DecidableEq

inductive CompletionItem where
  | keyword (label : Text)
  | template (label detail insertText : Text)
  deriving DecidableEq

def CompletionItem.label : CompletionItem → Text
  | keyword label => label
  | template label _ _ => label

structure CompletionList where
  isIncomplete : Bool
  items : List CompletionItem
  deriving DecidableEq

structure Template where
  label : Text
  body : Text
  deriving DecidableEq

namespace Template

def named (label start placeholder : String) : Template :=
  ⟨label.toList, label.toList ++ start.toList ++ ['$', '{', '1', ':'] ++ placeholder.toList ++ ['}']⟩

def all : List Template :=
  [named "LANGUAGE" " " "extension", named "OPTIONS_GHC" " -" "option",
    named "INLINE" " " "function", named "NOINLINE" " " "function",
    named "INLINABLE" " " "function", named "WARNING" " " "message",
    named "DEPRECATED" " " "message", named "ANN" " " "annotation", named "RULES" " " "rule",
    named "SPECIALIZE" " " "function", named "SPECIALIZE INLINE" " " "function"]

def detail (t : Template) : Text :=
  ['{', '-', '#', ' '] ++ t.label ++ [' ', '#', '-', '}']

/-- The text to insert, up to the closing brace, which the line may have already. -/
def snippet (t : Template) (brace : Text) : Text := t.body ++ [' ', '#', '-'] ++ brace

def item (t : Template) (brace : Text) : CompletionItem :=
  .template t.label t.detail (t.snippet brace)

end Template

namespace Completion

inductive Subject where
  | extensions | options | templates | nothing
  deriving DecidableEq

def Subject.ofLine (line : Text) : Subject :=
  let lowered := line.lower
  if lowered.startsWith ("\x7b-# language".toList) then extensions
  else if lowered.startsWith ("\x7b-# options_ghc".toList) then options
  else if line.startsWith ['{', '-', '#'] then templates
  else nothing

def items (c : Catalog) (cursor : Option CursorWord) : List CompletionItem :=
  match cursor with
  | none => []
  | some w =>
    match Subject.ofLine w.line with
    | .extensions => (Ranking.rank w.word c.pragmaNames).map .keyword
    | .options => (Ranking.rank w.word c.optionWords).map .keyword
    | .templates =>
      let brace : Text := if w.line.endsWith ['}'] then [] else ['}']
      Template.all.map (·.item brace)
    | .nothing => []

end Completion
end PragmaAssist
