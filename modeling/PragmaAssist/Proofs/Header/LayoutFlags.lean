import PragmaAssist.Proofs.Header.ReadBack
import PragmaAssist.Proofs.Header.ScanFlags

/-! The flags of a header that starts with an extension pragma. Its layout does not count: one line
for each name gives the same flags. -/
namespace PragmaAssist
open Header

namespace Layout

theorem scan_text (l : Layout) (below : Text) :
    scan (l.text ++ '\n' :: below).lines = (scan below.lines).after [l.text.onOneLine] := by
  have hends : ¬ Text.EndsLine l.text := by
    simp [text, Text.EndsLine, Pragma.closer, isLineBreak]
  rw [Text.lines_append_feed_of_not_endsLine hends]
  exact scanFrom_pragma l.hash_not_mem_inside below.lines

end Layout

def renderAll (xs : List Text) : Text := xs.flatMap fun x => (⟨.language, x⟩ : Pragma).render

theorem scan_renderAll_of_unbroken {xs : List Text} (h : ∀ x ∈ xs, x.Unbroken) (below : Text) :
    scan (renderAll xs ++ below).lines =
      (scan below.lines).after (xs.map fun x => (⟨.language, x⟩ : Pragma).directive) := by
  induction xs with
  | nil => rfl
  | cons x xs ih =>
    obtain ⟨hx, hxs⟩ := List.forall_mem_cons.1 h
    have hsplit : renderAll (x :: xs) ++ below =
        (⟨.language, x⟩ : Pragma).directive ++ '\n' :: (renderAll xs ++ below) := by
      simp [renderAll, Pragma.render]
    have hline := Text.lines_append_feed (Pragma.directive_unbroken (p := ⟨.language, x⟩) hx)
      (renderAll xs ++ below)
    have hscan : scanFrom none (renderAll xs ++ below).lines = _ := ih hxs
    rw [hsplit, hline, scan, scanFrom_directive, hscan, Scan.after_after]
    rfl

theorem scan_renderAll (ns : List ListedName) (below : Text) :
    scan (renderAll (ns.map ListedName.name) ++ below).lines =
      (scan below.lines).after (ns.map fun n => (⟨.language, n.name⟩ : Pragma).directive) := by
  have hnames : ∀ x ∈ ns.map ListedName.name, Text.Unbroken x :=
    List.forall_mem_map.2 fun n _ => n.name_unbroken
  rw [scan_renderAll_of_unbroken hnames, List.map_map]
  rfl

theorem Writable.languageNames_directives {xs : List Text} (h : ∀ x ∈ xs, Writable x) :
    (xs.map fun x => (⟨.language, x⟩ : Pragma).directive).flatMap languageNames = xs := by
  induction xs with
  | nil => rfl
  | cons x xs ih =>
    obtain ⟨hx, hxs⟩ := List.forall_mem_cons.1 h
    rw [List.map_cons, List.flatMap_cons, ih hxs, hx.languageNames_directive]
    rfl

theorem ListedName.languageNames_directives (ns : List ListedName) :
    (ns.map fun n => (⟨.language, n.name⟩ : Pragma).directive).flatMap languageNames =
      ns.map name := by
  have h := Writable.languageNames_directives (List.forall_mem_map.2 fun n (_ : n ∈ ns) => n.writable)
  rwa [List.map_map] at h

namespace Flags
variable (known : List Text) (defaults : NameSet)

theorem parse?_renderAll {xs : List Text} (h : ∀ x ∈ xs, Writable x) (c : Text) :
    parse? (renderAll xs ++ c) known defaults =
      (parse? c known defaults).map fun _ =>
        (mentions known (scan c.lines).pragmas).foldl Mention.apply
          ((xs.map (Mention.ofName known)).foldl Mention.apply (start defaults)) := by
  rw [parse?_eq_ofScan?, parse?_eq_ofScan?, scan_renderAll_of_unbroken fun x hx => (h x hx).unbroken,
    ofScan?_after_eq, mentions, Writable.languageNames_directives h]

/-- The layout of an extension pragma does not count. -/
theorem parse?_layout (l : Layout) (c : Text) :
    parse? (l.text ++ '\n' :: c) known defaults = parse? (renderAll l.names ++ c) known defaults := by
  obtain ⟨m, hnames, hline⟩ := l.exists_onOneLine
  have hone : [m.text].flatMap languageNames = l.names := by
    have h := m.languageNames_text []
    rw [List.append_nil, hnames] at h
    simpa using h
  rw [parse?_eq_ofScan?, parse?_eq_ofScan?, l.scan_text, hline, Layout.names, scan_renderAll]
  refine ofScan?_after (hone.trans ?_) _
  exact (ListedName.languageNames_directives (l.first :: l.others)).symm

theorem parse?_layout_six_lines :
    let first : ListedName :=
      { before := "\n".toList, name := "A".toList, after := " ".toList, before_blank := by decide,
        after_blank := by decide, name_ne_nil := by decide, name_solid := by decide,
        comma_not_mem := by decide, hash_not_mem := by decide }
    let second : ListedName :=
      { first with
        before := "\r\r\t".toList
        name := "NoB".toList
        after := "\u3000\n".toList
        before_blank := by decide
        after_blank := by decide
        name_ne_nil := by decide
        name_solid := by decide
        comma_not_mem := by decide
        hash_not_mem := by decide }
    let l : Layout :=
      { gap := "\r\n\u2003".toList, first := first, others := [second],
        gap_blank := by decide, first_before_ne_nil := by decide }
    l.text.lines.length = 6 ∧
      parse? (l.text ++ '\n' :: "main".toList) ["A".toList, "B".toList] (.ofList ["B".toList]) =
        some ⟨.ofList ["A".toList], .ofList ["B".toList]⟩ := by
  intro first second l
  refine ⟨by decide, (parse?_layout _ _ l "main".toList).trans ?_⟩
  decide +kernel

end Flags
end PragmaAssist
