import PragmaAssist.Proofs.Completion.RankOrder
import PragmaAssist.Proofs.Text.LetterCase
import Mathlib.Data.List.Perm.Subperm

/-! Typing on. What is offered for a longer pattern was offered for its start, and a pattern in ASCII
is found wherever its letters stand in order, in either case. -/
namespace PragmaAssist
namespace Ranking
variable {p c s : Text}

theorem isMatch_of_append (hp : p.Ascii) {q : Text} (h : isMatch (p ++ q) c = true) :
    isMatch p c = true := by
  obtain ⟨q', hlower⟩ := hp.exists_lower_append q
  rw [isMatch_iff, hlower] at h
  rw [isMatch_iff, hp.lower_eq]
  exact (List.sublist_append_left _ q').trans h

theorem isMatch_of_sublist (hp : p.Ascii) (hs : s.Sublist c)
    (hcase : s.map Char.toLower = p.map Char.toLower) : isMatch p c = true := by
  rw [isMatch_iff, hp.lower_eq, ← hcase]
  exact sublist_lowerFrom (hp.of_map_toLower_eq hcase) hs false

theorem rank_append_subperm (hp : p.Ascii) (q : Text) (candidates : List Text) :
    (rank (p ++ q) candidates).Subperm (rank p candidates) := by
  have hfilter : (candidates.filter (isMatch (p ++ q))).Sublist (candidates.filter (isMatch p)) :=
    List.monotone_filter_right candidates fun c => isMatch_of_append hp
  exact (rank_perm (p ++ q) candidates).subperm.trans
    (hfilter.subperm.trans (rank_perm p candidates).symm.subperm)

/-- A pattern that grows loses candidates and gains none, counted with their repetitions; and it
loses none that holds its characters in order, up to the case of ASCII letters. -/
theorem rank_narrows (hp : p.Ascii) (q : Text) (candidates : List Text) :
    (rank (p ++ q) candidates).Subperm (rank p candidates) ∧
      ∀ c ∈ candidates, (∃ s : Text, s.Sublist c ∧ s.map Char.toLower = p.map Char.toLower) →
        c ∈ rank p candidates := by
  refine ⟨rank_append_subperm hp q candidates, fun c hc h => ?_⟩
  obtain ⟨s, hs, hcase⟩ := h
  have hmatch : c ∈ candidates.filter (isMatch p) :=
    List.mem_filter.2 ⟨hc, isMatch_of_sublist hp hs hcase⟩
  exact (rank_perm p candidates).mem_iff.2 hmatch

theorem rank_narrows_unicode :
    let p : Text := "Sa".toList
    let c : Text := "İSΣAΣ".toList
    p.Ascii ∧ (rank (p ++ "σ".toList) [c, c]).Subperm (rank p [c, c]) ∧ c ∈ rank p [c, c] := by
  intro p c
  have hp : p.Ascii := by decide
  obtain ⟨hnarrow, hfound⟩ := rank_narrows hp "σ".toList [c, c]
  exact ⟨hp, hnarrow, hfound c List.mem_cons_self ⟨"SA".toList, by decide, by decide⟩⟩

end Ranking
end PragmaAssist
