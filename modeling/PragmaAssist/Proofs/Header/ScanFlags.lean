import PragmaAssist.Header.Flags

/-! The flags that a scan of the header comes to. They hang on the names in its pragmas and on
whether it ends. -/
namespace PragmaAssist
namespace Flags

theorem mentions_append (known a b : List Text) :
    mentions known (a ++ b) = mentions known a ++ mentions known b := by
  simp [mentions]

def ofScan? (known : List Text) (defaults : NameSet) (s : Header.Scan) : Option Flags :=
  match s.ending with
  | .unterminated _ => none
  | _ => some ((mentions known s.pragmas).foldl Mention.apply (start defaults))

theorem parse?_eq_ofScan? (c : Text) (known : List Text) (defaults : NameSet) :
    parse? c known defaults = ofScan? known defaults (Header.scan c.lines) := by
  unfold parse? Header.pragmas ofScan?
  cases h : (Header.scan c.lines).ending <;> simp [h]

theorem ofScan?_of_ending {known : List Text} {defaults : NameSet} {s t : Header.Scan} {f : Flags}
    (h : ofScan? known defaults s = some f) (he : t.ending = s.ending) :
    ofScan? known defaults t =
      some ((mentions known t.pragmas).foldl Mention.apply (start defaults)) := by
  unfold ofScan? at h ⊢
  rw [he]
  split at h
  · simp at h
  · rfl

/-- Pragmas further up count by their names alone. -/
theorem ofScan?_after {known : List Text} {defaults : NameSet} {p q : List Text}
    (h : p.flatMap Header.languageNames = q.flatMap Header.languageNames) (s : Header.Scan) :
    ofScan? known defaults (s.after p) = ofScan? known defaults (s.after q) := by
  simp only [ofScan?, Header.Scan.after, mentions, List.flatMap_append, h]

theorem ofScan?_after_eq (known : List Text) (defaults : NameSet) (s : Header.Scan)
    (p : List Text) :
    ofScan? known defaults (s.after p) = (ofScan? known defaults s).map fun _ =>
      (mentions known s.pragmas).foldl Mention.apply
        ((mentions known p).foldl Mention.apply (start defaults)) := by
  simp only [ofScan?, Header.Scan.after, mentions_append, List.foldl_append]
  split <;> rfl

end Flags
end PragmaAssist
