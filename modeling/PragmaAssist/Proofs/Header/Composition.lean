import Mathlib.Logic.ExistsUnique
import PragmaAssist.Proofs.Header.Blocks

/-! A header in two parts. Lines leave its reader in the body, between blocks or in a block that is
open, and this alone decides what the lines below them add. -/
namespace PragmaAssist
namespace Header

inductive Place where
  | inBody
  | betweenBlocks
  | inBlock (k : BlockKind)

/-- Lines behind which the reader is at a place. It does not leave the body again. -/
inductive LeadsTo : List Text → Place → Prop
  | inBody {above pragmas below : List Text} {l : Text} (habove : Passes scanMargin above pragmas)
      (hl : LineKind.of l.trim = .body) : LeadsTo (above ++ l :: below) .inBody
  | betweenBlocks {lines pragmas : List Text} (h : Passes scanMargin lines pragmas) :
      LeadsTo lines .betweenBlocks
  | inBlock {above pragmas rest : List Text} {k : BlockKind}
      (habove : Passes scanMargin above pragmas) (hrest : Unclosed scanMargin k rest) :
      LeadsTo (above ++ rest) (.inBlock k)

def Ending.place : Ending → Place
  | body => .inBody
  | exhausted => .betweenBlocks
  | unterminated b => .inBlock b.kind

theorem Ending.place_eq_inBody {e : Ending} : e.place = .inBody ↔ e = .body := by
  cases e <;> simp [place]

theorem Ending.place_eq_betweenBlocks {e : Ending} : e.place = .betweenBlocks ↔ e = .exhausted := by
  cases e <;> simp [place]

theorem Ending.place_eq_inBlock {e : Ending} {k : BlockKind} :
    e.place = .inBlock k ↔ ∃ b, e = .unterminated b ∧ b.kind = k := by
  cases e <;> simp [place]

variable {lines above : List Text} {p : Place}

theorem LeadsTo.place_eq (h : LeadsTo lines p) : (scan lines).ending.place = p := by
  cases h with
  | inBody habove hl =>
    rw [scan, habove.scanFrom_append, scanFrom]
    simp only [hl]
    rfl
  | betweenBlocks h =>
    have hscan := h.scanFrom_append []
    rw [List.append_nil] at hscan
    rw [scan, hscan]
    rfl
  | inBlock habove hrest =>
    obtain ⟨b, rfl, -, hscan⟩ := scanFrom_unclosed hrest
    rw [scan, habove.scanFrom_append, hscan]
    rfl

theorem exists_leadsTo (lines : List Text) : ∃ p, LeadsTo lines p := by
  obtain ⟨above, rest, ps, rfl, habove, hrest⟩ := exists_passes scanMargin lines
  rcases hrest with rfl | ⟨l, below, rfl, hl⟩ | ⟨k, hk⟩
  · rw [List.append_nil]
    exact ⟨_, .betweenBlocks habove⟩
  · exact ⟨_, .inBody habove hl⟩
  · exact ⟨_, .inBlock habove hk⟩

theorem scan_append (above below : List Text) :
    scan (above ++ below) = (scan above).continueWith below :=
  scanFrom_append none above below

theorem pragmas_append_inBody (h : (scan above).ending = .body) (below : List Text) :
    pragmas (above ++ below) = .ok (scan above).pragmas := by
  have hscan : scan (above ++ below) = scan above := by
    rw [scan_append, Scan.continueWith, h]
  simp only [pragmas, hscan, h]

theorem pragmas_append_betweenBlocks (h : (scan above).ending = .exhausted) (below : List Text) :
    pragmas (above ++ below) = (pragmas below).map ((scan above).pragmas ++ ·) := by
  have hscan : scan (above ++ below) = (scan below).after (scan above).pragmas := by
    rw [scan_append, Scan.continueWith, h]
    rfl
  simp only [pragmas, hscan, Scan.after]
  cases (scan below).ending <;> rfl

theorem pragmas_append_inBlock {b : OpenBlock} (h : (scan above).ending = .unterminated b)
    {below : List Text} (hbelow : ∀ l ∈ below, b.kind.closer.occursIn l = false) :
    pragmas (above ++ below) = .error (.unterminated b.opening) := by
  have hinside := scanFrom_inside hbelow []
  rw [List.append_nil] at hinside
  have hscan : (scan (above ++ below)).ending = .unterminated (b.addLines below) := by
    rw [scan_append, Scan.continueWith, h]
    simp only [hinside]
    rfl
  simp only [pragmas, hscan]
  rfl

/-- Lines end the header, or close all its blocks, or leave one open. In the first case nothing
below them counts, in the second the header starts afresh there, and in the third it fails the same
way as long as no closer comes. -/
theorem pragmas_append (above : List Text) :
    (∃! p, LeadsTo above p) ∧
      (LeadsTo above .inBody → ∃ ps, pragmas above = .ok ps ∧
        ∀ below, pragmas (above ++ below) = .ok ps) ∧
      (LeadsTo above .betweenBlocks → ∃ ps, pragmas above = .ok ps ∧
        ∀ below, pragmas (above ++ below) = (pragmas below).map (ps ++ ·)) ∧
      ∀ k, LeadsTo above (.inBlock k) → ∃ f, pragmas above = .error f ∧
        ∀ below, (∀ l ∈ below, k.closer.occursIn l = false) →
          pragmas (above ++ below) = .error f := by
  have hnil : above ++ [] = above := List.append_nil above
  refine ⟨?_, fun h => ?_, fun h => ?_, fun k h => ?_⟩
  · obtain ⟨p, hp⟩ := exists_leadsTo above
    exact ⟨p, hp, fun q hq => hq.place_eq.symm.trans hp.place_eq⟩
  · have hall := pragmas_append_inBody (Ending.place_eq_inBody.1 h.place_eq)
    have hend := hall []
    rw [hnil] at hend
    exact ⟨_, hend, hall⟩
  · have hall := pragmas_append_betweenBlocks (Ending.place_eq_betweenBlocks.1 h.place_eq)
    have hend := hall []
    rw [hnil, show pragmas [] = .ok [] from rfl, Except.map, List.append_nil] at hend
    exact ⟨_, hend, hall⟩
  · obtain ⟨b, hb, rfl⟩ := Ending.place_eq_inBlock.1 h.place_eq
    have hend : pragmas (above ++ []) = .error (.unterminated b.opening) :=
      pragmas_append_inBlock hb fun l hl => absurd hl List.not_mem_nil
    rw [hnil] at hend
    exact ⟨_, hend, fun below hbelow => pragmas_append_inBlock hb hbelow⟩

/-- Behind a pragma that is open a body line and a comment change nothing: what closes the comment
does not close the pragma. -/
theorem pragmas_append_open_pragma :
    let above := ["#!run".toList, "-- first".toList, "\x7b-# LANGUAGE A".toList]
    let below := ["module M where".toList, "\x7b- two -\x7d".toList]
    let f := Failure.unterminated Pragma.opener
    LeadsTo above (.inBlock .pragma) ∧
      (∀ l ∈ below, BlockKind.pragma.closer.occursIn l = false) ∧
      pragmas above = .error f ∧ pragmas (above ++ below) = .error f := by
  intro above below f
  have hcomments : Passes scanMargin ["#!run".toList, "-- first".toList] [] :=
    .skipped rfl (.skipped rfl .nil)
  have hopen : Unclosed scanMargin .pragma ["\x7b-# LANGUAGE A".toList] :=
    ⟨⟨_, _, rfl, rfl⟩, by decide⟩
  have hplace : LeadsTo above (.inBlock .pragma) := .inBlock hcomments hopen
  have hbelow : ∀ l ∈ below, BlockKind.pragma.closer.occursIn l = false := by decide
  obtain ⟨-, -, -, hinBlock⟩ := pragmas_append above
  obtain ⟨g, hg, hmore⟩ := hinBlock .pragma hplace
  obtain rfl : f = g := Except.error.inj hg
  exact ⟨hplace, hbelow, hg, hmore below hbelow⟩

end Header
end PragmaAssist
