import PragmaAssist.Proofs.Header.LastMention
import PragmaAssist.Proofs.Header.LayoutFlags

/-! Two extension pragmas on one line. The reader takes the line as one pragma and stops at its first
closer, so the second one is lost. -/
namespace PragmaAssist
open Header

namespace Flags
variable {a b : Text} (known : List Text) (defaults : NameSet)

theorem parse?_behind_closer (n : ListedName) {tail : Text} (htail : tail.Unbroken)
    (c : Text) :
    parse? ((⟨.language, n.name⟩ : Pragma).directive ++ tail ++ '\n' :: c) known defaults =
      parse? (renderAll [n.name] ++ c) known defaults := by
  have hdirective : (⟨.language, n.name⟩ : Pragma).directive.Unbroken :=
    Pragma.directive_unbroken n.name_unbroken
  have hline := Text.lines_append_feed (hdirective.append htail) c
  have hscan := scan_renderAll [n] c
  have hnames : [(⟨.language, n.name⟩ : Pragma).directive ++ tail.trimEnd].flatMap languageNames =
      [(⟨.language, n.name⟩ : Pragma).directive].flatMap languageNames := by
    simp only [List.flatMap_cons, List.flatMap_nil, n.writable.languageNames_directive_append,
      n.writable.languageNames_directive]
  rw [List.map_singleton, List.map_singleton] at hscan
  rw [parse?_eq_ofScan?, parse?_eq_ofScan?, hline, hscan, scan, scanFrom_directive_append]
  exact ofScan?_after hnames _

theorem parse?_second_name_iff (n k : ListedName) (c : Text) :
    let m := Mention.ofName known k.name
    parse? (renderAll [n.name] ++ c) known defaults =
        parse? (renderAll [n.name, k.name] ++ c) known defaults ↔
      parse? c known defaults = none ∨
      (∃ x ∈ mentions known (scan c.lines).pragmas, x.name = m.name) ∨
      ((Mention.ofName known n.name).apply (start defaults)).standing m.name =
        (m.isOn, !m.isOn) := by
  intro m
  have hone : parse? (renderAll [n.name] ++ c) known defaults =
      (parse? c known defaults).map fun _ =>
        (mentions known (scan c.lines).pragmas).foldl Mention.apply
          ((Mention.ofName known n.name).apply (start defaults)) :=
    parse?_renderAll known defaults (by simpa using n.writable) c
  have htwo : parse? (renderAll [n.name, k.name] ++ c) known defaults =
      (parse? c known defaults).map fun _ =>
        (mentions known (scan c.lines).pragmas).foldl Mention.apply
          (m.apply ((Mention.ofName known n.name).apply (start defaults))) :=
    parse?_renderAll known defaults (by simpa using ⟨n.writable, k.writable⟩) c
  rw [hone, htwo]
  cases parse? c known defaults with
  | none => simp
  | some f =>
    simp only [Option.map_some, Option.some.injEq, reduceCtorEq, false_or]
    rw [eq_comm, foldl_apply_eq_iff]

/-- Of two extension pragmas on one line only the first one counts. The second one is missed unless
the header does not end, mentions that name again further down, or has it so already. -/
theorem parse?_shared_line (ha : IsPlain a) (hb : IsPlain b) {w : Text} (hw : w.Unbroken)
    (c : Text) :
    let shared := (⟨.language, a⟩ : Pragma).directive ++ w ++ (⟨.language, b⟩ : Pragma).directive
    let m := Mention.ofName known b
    parse? (shared ++ '\n' :: c) known defaults = parse? (renderAll [a] ++ c) known defaults ∧
      (parse? (shared ++ '\n' :: c) known defaults = parse? (renderAll [a, b] ++ c) known defaults ↔
        parse? c known defaults = none ∨
        (∃ n ∈ mentions known (scan c.lines).pragmas, n.name = m.name) ∨
        ((Mention.ofName known a).apply (start defaults)).standing m.name = (m.isOn, !m.isOn)) := by
  intro shared m
  have hdirective : (⟨.language, b⟩ : Pragma).directive.Unbroken :=
    Pragma.directive_unbroken hb.listed.name_unbroken
  have hshared : parse? (shared ++ '\n' :: c) known defaults =
      parse? (renderAll [a] ++ c) known defaults := by
    have h := parse?_behind_closer known defaults ha.listed (hw.append hdirective) c
    rwa [← List.append_assoc] at h
  refine ⟨hshared, ?_⟩
  rw [hshared]
  exact parse?_second_name_iff known defaults ha.listed hb.listed c

theorem parse?_shared_line_loses :
    let a := "A".toList
    let b := "B".toList
    let shared := "{-# LANGUAGE A #-} {-# LANGUAGE B #-}".toList
    IsPlain a ∧ IsPlain b ∧
      parse? (shared ++ ['\n']) [a, b] .empty = some ⟨.ofList [a], .empty⟩ ∧
      parse? (renderAll [a, b]) [a, b] .empty = some ⟨.ofList [a, b], .empty⟩ := by
  decide +kernel

/-- An extension that the second pragma would switch off stays on. -/
theorem parse?_shared_line_default :
    let a := "A".toList
    let b := "NoB".toList
    let known := [a, "B".toList]
    let defaults := NameSet.ofList ["B".toList]
    let shared := "{-# LANGUAGE A #-}\t{-# LANGUAGE NoB #-}".toList
    IsPlain a ∧ IsPlain b ∧ Text.Unbroken ['\t'] ∧
      parse? (shared ++ '\n' :: "main".toList) known defaults =
        some ⟨.ofList [a, "B".toList], .empty⟩ := by
  intro a b known defaults shared
  have ha : IsPlain a := by decide
  have hb : IsPlain b := by decide
  have hw : Text.Unbroken ['\t'] := by decide
  obtain ⟨h, -⟩ := parse?_shared_line known defaults ha hb hw "main".toList
  refine ⟨ha, hb, hw, h.trans ?_⟩
  decide +kernel

end Flags
end PragmaAssist
