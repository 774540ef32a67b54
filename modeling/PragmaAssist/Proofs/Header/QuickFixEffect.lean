import PragmaAssist.Proofs.Header.LastMention
import PragmaAssist.Proofs.Header.ReadBack
import PragmaAssist.Proofs.Header.ScanFlags
import PragmaAssist.Proofs.Header.Stacking
import PragmaAssist.Proofs.QuickFixes

/-! What the quick fix for an extension does to the flags of its document. The line goes where the
search for the insertion line says, and counts as far as the header's reader gets to it. -/
namespace PragmaAssist
namespace Flags

def SameExcept (x : Text) (f g : Flags) : Prop :=
  ∀ y, y ≠ x → (y ∈ g.enabled ↔ y ∈ f.enabled) ∧ (y ∈ g.disabled ↔ y ∈ f.disabled)

end Flags

namespace QuickFix

theorem not_offered {f : Flags} {x : Text} (hx : x ∈ f.enabled) (catalog : Catalog)
    (kept : NameSet) (ds : List Diagnostic) :
    ∀ q ∈ forAll catalog (some f) kept ds, q.pragma ≠ ⟨.language, x⟩ := by
  intro q hq heq
  have hoffered := List.mem_map_of_mem (f := QuickFix.pragma) hq
  rw [heq, mem_forAll_language] at hoffered
  obtain ⟨-, d, -, hcalls⟩ := hoffered
  exact (callsFor_iff.1 hcalls).2.1 f rfl hx

end QuickFix

namespace Insertion
open Header
variable {c x : Text}

def scanAbove (c : Text) : Scan := scan (c.lines.take (nextLine c))

def scanBelow (c : Text) : Scan := scan (c.lines.drop (nextLine c))

theorem scan_lines_eq (c : Text) :
    scan c.lines = (scanAbove c).continueWith (c.lines.drop (nextLine c)) := by
  have h := scanFrom_append none (c.lines.take (nextLine c)) (c.lines.drop (nextLine c))
  rwa [List.take_append_drop] at h

theorem scan_insertPragma {p : Pragma} (hp : p.name.FitsLine) (hs : c.StartsLine (nextLine c)) :
    scan (insertPragma p c).lines =
      (scanAbove c).continueWith (p.directive :: c.lines.drop (nextLine c)) := by
  rw [lines_insertPragma hp hs]
  exact scanFrom_append none (c.lines.take (nextLine c)) (p.directive :: c.lines.drop (nextLine c))

variable {known : List Text} {defaults : NameSet} {f : Flags}

/-- Between blocks of the header the fix adds its one mention and leaves all others. -/
theorem parse?_insertPragma_between (hparse : Flags.parse? c known defaults = some f)
    (hknown : x ∈ known) (hplain : IsPlain x) (hs : c.StartsLine (nextLine c))
    (habove : (scanAbove c).ending = .exhausted) :
    ∃ above below, below = Flags.mentions known (scanBelow c).pragmas ∧
      f = (above ++ below).foldl Mention.apply (Flags.start defaults) ∧
      Flags.parse? (insertPragma ⟨.language, x⟩ c) known defaults =
        some ((above ++ .on x :: below).foldl Mention.apply (Flags.start defaults)) := by
  refine ⟨Flags.mentions known (scanAbove c).pragmas, _, rfl, ?_⟩
  have hold : scan c.lines = (scanBelow c).after (scanAbove c).pragmas := by
    rw [scan_lines_eq, Scan.continueWith, habove]
    rfl
  have hnew : scan (insertPragma ⟨.language, x⟩ c).lines =
      ((scanBelow c).after [(⟨.language, x⟩ : Pragma).directive]).after
        (scanAbove c).pragmas := by
    rw [scan_insertPragma hplain.fitsLine hs, Scan.continueWith, habove]
    exact congrArg (Scan.after · (scanAbove c).pragmas) (scanFrom_directive _ _)
  rw [Flags.parse?_eq_ofScan?] at hparse
  constructor
  · have h := Flags.ofScan?_of_ending hparse rfl
    rw [hparse, hold] at h
    simpa only [Scan.after, Flags.mentions_append] using Option.some.inj h
  · have hending : (scan (insertPragma ⟨.language, x⟩ c).lines).ending = (scan c.lines).ending := by
      rw [hnew, hold]
      rfl
    rw [Flags.parse?_eq_ofScan?, Flags.ofScan?_of_ending hparse hending, hnew]
    simp only [Scan.after, Flags.mentions_append, List.singleton_append,
      Flags.mentions_directive hplain hknown]

theorem insertPragma_between (hparse : Flags.parse? c known defaults = some f)
    (hknown : x ∈ known) (hplain : IsPlain x) (hoff : x ∉ f.enabled)
    (hs : c.StartsLine (nextLine c)) (habove : (scanAbove c).ending = .exhausted) :
    ∃ g, Flags.parse? (insertPragma ⟨.language, x⟩ c) known defaults = some g ∧
      f.SameExcept x g ∧
      if .off x ∈ Flags.mentions known (scanBelow c).pragmas then x ∉ g.enabled ∧ x ∈ g.disabled
      else x ∈ g.enabled ∧ x ∉ g.disabled := by
  obtain ⟨above, below, hbelow, hf, hg⟩ :=
    parse?_insertPragma_between hparse hknown hplain hs habove
  refine ⟨_, hg, ?_, ?_⟩
  · intro y hy
    have hname : (Mention.on x).name ≠ y := Ne.symm hy
    have hsame := Flags.standing_insert_of_ne above below hname (Flags.start defaults)
    rw [← hf] at hsame
    exact Flags.standing_eq.1 hsame
  · rw [hf] at hoff
    have hstanding := Flags.standing_insert_on hoff
    rw [← hbelow]
    by_cases h : .off x ∈ below
    · rw [if_pos h] at hstanding ⊢
      exact Flags.standing_eq_off.1 hstanding
    · rw [if_neg h] at hstanding ⊢
      exact Flags.standing_eq_on.1 hstanding

theorem parse?_insertPragma_below (hplain : IsPlain x) (hs : c.StartsLine (nextLine c))
    (habove : (scanAbove c).ending = .body) :
    Flags.parse? (insertPragma ⟨.language, x⟩ c) known defaults =
      Flags.parse? c known defaults := by
  have hold := scan_lines_eq c
  have hnew := scan_insertPragma (p := ⟨.language, x⟩) hplain.fitsLine hs
  rw [Scan.continueWith, habove] at hold hnew
  rw [Flags.parse?_eq_ofScan?, Flags.parse?_eq_ofScan?, hnew, hold]

theorem parse?_insertPragma_inside {b : OpenBlock} (hplain : IsPlain x)
    (hs : c.StartsLine (nextLine c)) (habove : (scanAbove c).ending = .unterminated b) :
    Flags.parse? (insertPragma ⟨.language, x⟩ c) known defaults =
      Flags.ofScan? known defaults ((scanBelow c).after
        ((scanAbove c).pragmas ++ (b.add (⟨.language, x⟩ : Pragma).directive).collected)) := by
  have hnew := scan_insertPragma (p := ⟨.language, x⟩) hplain.fitsLine hs
  rw [Scan.continueWith, habove] at hnew
  simp only [scanFrom_some_directive, Scan.after_after] at hnew
  rw [Flags.parse?_eq_ofScan?, hnew]
  rfl

/-- The quick fix for an extension that is not on. Between blocks of the header it switches the
extension on for good, unless the header switches it off further down, and no other extension
changes; below the header it changes nothing; inside a block its line ends the block. -/
theorem insertPragma_effect (hparse : Flags.parse? c known defaults = some f) (hknown : x ∈ known)
    (hplain : IsPlain x) (hoff : x ∉ f.enabled) (hs : c.StartsLine (nextLine c)) :
    let fixed := insertPragma ⟨.language, x⟩ c
    match (scanAbove c).ending with
    | .exhausted => ∃ g, Flags.parse? fixed known defaults = some g ∧ f.SameExcept x g ∧
        if .off x ∈ Flags.mentions known (scanBelow c).pragmas then
          x ∉ g.enabled ∧ x ∈ g.disabled
        else (x ∈ g.enabled ∧ x ∉ g.disabled) ∧
          ∀ catalog kept ds, ∀ q ∈ QuickFix.forAll catalog (some g) kept ds,
            q.pragma ≠ ⟨.language, x⟩
    | .body => Flags.parse? fixed known defaults = some f
    | .unterminated b => Flags.parse? fixed known defaults =
        Flags.ofScan? known defaults ((scanBelow c).after
          ((scanAbove c).pragmas ++ (b.add (⟨.language, x⟩ : Pragma).directive).collected)) := by
  intro fixed
  cases habove : (scanAbove c).ending with
  | exhausted =>
    obtain ⟨g, hg, hothers, hx⟩ := insertPragma_between hparse hknown hplain hoff hs habove
    refine ⟨g, hg, hothers, ?_⟩
    by_cases h : .off x ∈ Flags.mentions known (scanBelow c).pragmas
    · rw [if_pos h] at hx ⊢
      exact hx
    · rw [if_neg h] at hx ⊢
      exact ⟨hx, QuickFix.not_offered hx.1⟩
  | body => exact (parse?_insertPragma_below hplain hs habove).trans hparse
  | unterminated b => exact parse?_insertPragma_inside hplain hs habove

/-- The fix does nothing for a header that ends above a later pragma, for one that switches the
extension off where the search does not look, inside a comment, and behind a last line without a
break. -/
theorem insertPragma_without_effect :
    let known := ["A".toList, "B".toList]
    let x := "B".toList
    x ∈ known ∧ IsPlain x ∧
      ∀ c ∈ ["module M where\n{-# LANGUAGE A #-}\n".toList,
          "{-# LANGUAGE A #-}\n  {-# LANGUAGE NoB #-}\nmodule M where\n".toList,
          "\x7b-\n#!run\n-\x7d\nmodule M where\n".toList,
          "{-# LANGUAGE A #-}".toList],
        (Flags.parse? c known .empty).any (x ∉ ·.enabled) = true ∧
          (Flags.parse? (insertPragma ⟨.language, x⟩ c) known .empty).any (x ∈ ·.enabled) =
            false := by
  decide +kernel

theorem insertPragma_effect_between :
    let known := ["A".toList, "B".toList]
    let x := "B".toList
    let c : Text :=
      "#!run\r\n\x7b-# LANGUAGE A,\r NoB #-\x7d\n\n  {-# LANGUAGE C #-}\nmodule M".toList
    c.StartsLine (nextLine c) ∧ (scanAbove c).ending = .exhausted ∧
      ∃ f g, Flags.parse? c known .empty = some f ∧ x ∉ f.enabled ∧ x ∈ f.disabled ∧
        Flags.parse? (insertPragma ⟨.language, x⟩ c) known .empty = some g ∧
        f.SameExcept x g ∧ x ∈ g.enabled ∧ x ∉ g.disabled := by
  intro known x c
  have hs : c.StartsLine (nextLine c) := by decide +kernel
  have habove : (scanAbove c).ending = .exhausted := by decide +kernel
  have hbelow : .off x ∉ Flags.mentions known (scanBelow c).pragmas := by decide +kernel
  let f : Flags := ⟨.ofList ["A".toList, "C".toList], .ofList [x]⟩
  have hparse : Flags.parse? c known .empty = some f := by decide +kernel
  have hoff : x ∉ f.enabled := by decide +kernel
  have h := insertPragma_effect hparse (by decide) (by decide) hoff hs
  rw [habove] at h
  simp only [if_neg hbelow] at h
  obtain ⟨g, hg, hothers, ⟨hon, hnotOff⟩, -⟩ := h
  exact ⟨hs, habove, f, g, hparse, hoff, by decide +kernel, hg, hothers, hon, hnotOff⟩

end Insertion
end PragmaAssist
