import PragmaAssist.Proofs.Header.ScanAppend
import PragmaAssist.Proofs.Text.OneLine

/-! The blocks of a header. A block goes from the line that opens it to the first one with its
closer; the scan passes the closed ones and fails at the first that is never closed. -/
namespace PragmaAssist
namespace Header

def FirstInLast (mark : Text) (texts : List Text) : Prop :=
  ∃ earlier last, texts = earlier ++ [last] ∧ (∀ t ∈ earlier, mark.occursIn t = false) ∧
    mark.occursIn last = true

theorem firstInLast_cons {mark t : Text} {texts : List Text} :
    FirstInLast mark (t :: texts) ↔
      if mark.occursIn t then texts = [] else FirstInLast mark texts := by
  constructor
  · rintro ⟨earlier, last, htexts, hearlier, hlast⟩
    cases earlier with
    | nil =>
      obtain ⟨rfl, rfl⟩ : t = last ∧ texts = [] := by simpa using htexts
      simp [hlast]
    | cons u earlier =>
      obtain ⟨rfl, rfl⟩ : t = u ∧ texts = earlier ++ [last] := by simpa using htexts
      obtain ⟨ht, hearlier⟩ := List.forall_mem_cons.1 hearlier
      rw [if_neg (by simp [ht])]
      exact ⟨earlier, last, rfl, hearlier, hlast⟩
  · intro h
    split at h
    · rename_i ht
      exact ⟨[], t, by simp [h], by simp, ht⟩
    · rename_i ht
      obtain ⟨earlier, last, rfl, hearlier, hlast⟩ := h
      exact ⟨t :: earlier, last, rfl, List.forall_mem_cons.2 ⟨by simpa using ht, hearlier⟩, hlast⟩

theorem none_or_firstInLast (mark : Text) (texts : List Text) :
    (∀ t ∈ texts, mark.occursIn t = false) ∨
      ∃ above below, texts = above ++ below ∧ FirstInLast mark above := by
  induction texts with
  | nil => exact .inl (by simp)
  | cons t texts ih =>
    cases ht : mark.occursIn t with
    | true => exact .inr ⟨[t], texts, rfl, firstInLast_cons.2 (by simp [ht])⟩
    | false =>
      rcases ih with h | ⟨above, below, rfl, h⟩
      · exact .inl (List.forall_mem_cons.2 ⟨ht, h⟩)
      · exact .inr ⟨t :: above, below, rfl, firstInLast_cons.2 (by simpa [ht] using h)⟩

/-! ### Blocks -/

def BlockKind.opener : BlockKind → Text
  | pragma => Pragma.opener
  | comment => ['{', '-']

/-- How many characters of its opening line a block's closer stands behind at least. -/
abbrev Margin := BlockKind → Nat

def openerMargin : Margin := fun k => k.opener.length

def scanMargin : Margin := fun _ => openingLength

def searched (n : Nat) : List Text → List Text
  | [] => []
  | opening :: below => opening.trim.drop n :: below

def Opens (k : BlockKind) (lines : List Text) : Prop :=
  ∃ l below, lines = l :: below ∧ LineKind.of l.trim = .opens k

/-- A block up to its first closer. -/
structure IsBlock (margin : Margin) (k : BlockKind) (block : List Text) : Prop where
  opens : Opens k block
  closed : FirstInLast k.closer (searched (margin k) block)

structure Unclosed (margin : Margin) (k : BlockKind) (lines : List Text) : Prop where
  opens : Opens k lines
  unclosed : ∀ t ∈ searched (margin k) lines, k.closer.occursIn t = false

def BlockKind.collected (k : BlockKind) (block : List Text) : List Text :=
  match k with
  | .pragma => [[' '].intercalate (block.map Text.trim)]
  | .comment => []

/-- Lines between which a header can be cut: skipped ones and closed blocks, with the pragmas
among them. -/
inductive Passes (margin : Margin) : List Text → List Text → Prop
  | nil : Passes margin [] []
  | skipped {l : Text} {below pragmas : List Text} (h : LineKind.of l.trim = .skipped)
      (hbelow : Passes margin below pragmas) : Passes margin (l :: below) pragmas
  | block {k : BlockKind} {block below pragmas : List Text} (h : IsBlock margin k block)
      (hbelow : Passes margin below pragmas) :
      Passes margin (block ++ below) (k.collected block ++ pragmas)

/-- Behind skipped lines and closed blocks the lines end, or the header does, or a block starts
that is never closed. -/
theorem exists_passes (margin : Margin) (lines : List Text) :
    ∃ above rest pragmas, lines = above ++ rest ∧ Passes margin above pragmas ∧
      (rest = [] ∨ (∃ l below, rest = l :: below ∧ LineKind.of l.trim = .body) ∨
        ∃ k, Unclosed margin k rest) := by
  -- By the number of lines, since a block takes several of them at once.
  induction hn : lines.length using Nat.strongRecOn generalizing lines with
  | ind n ih =>
  cases lines with
  | nil => exact ⟨[], [], [], rfl, .nil, .inl rfl⟩
  | cons l below =>
    cases hl : LineKind.of l.trim with
    | skipped =>
      obtain ⟨above, rest, pragmas, rfl, h, hrest⟩ := ih below.length (by simp [← hn]) below rfl
      exact ⟨l :: above, rest, pragmas, rfl, .skipped hl h, hrest⟩
    | body => exact ⟨[], l :: below, [], rfl, .nil, .inr (.inl ⟨l, below, rfl, hl⟩)⟩
    | opens k =>
      rcases none_or_firstInLast k.closer (searched (margin k) (l :: below)) with h | ⟨b, r, hb, h⟩
      · exact ⟨[], l :: below, [], rfl, .nil, .inr (.inr ⟨k, ⟨l, below, rfl, hl⟩, h⟩)⟩
      · cases b with
        | nil =>
          obtain ⟨earlier, last, h, -⟩ := h
          simp at h
        | cons t b =>
          rw [List.cons_append] at hb
          obtain ⟨rfl, rfl⟩ := List.cons.inj hb
          have hr : r.length < n := by
            simp only [List.length_cons, List.length_append] at hn
            omega
          obtain ⟨above, rest, pragmas, rfl, h', hrest⟩ := ih r.length hr r rfl
          exact ⟨(l :: b) ++ above, rest, k.collected (l :: b) ++ pragmas, by simp,
            .block ⟨⟨l, b, rfl, hl⟩, h⟩ h', hrest⟩

/-! ### What the scan does -/

theorem BlockKind.occursIn_trim (k : BlockKind) (l : Text) :
    k.closer.occursIn l.trim = k.closer.occursIn l := by
  cases k <;> exact Text.occursIn_trim (by decide) (by decide) l

def OpenBlock.addLines (b : OpenBlock) (ls : List Text) : OpenBlock :=
  { b with text := b.text ++ Text.continued ls }

theorem scanFrom_inside {b : OpenBlock} {inner : List Text}
    (hinner : ∀ l ∈ inner, b.kind.closer.occursIn l = false) (below : List Text) :
    scanFrom (some b) (inner ++ below) = scanFrom (some (b.addLines inner)) below := by
  induction inner generalizing b with
  | nil => simp [OpenBlock.addLines, Text.continued]
  | cons l inner ih =>
    obtain ⟨hl, hinner⟩ := List.forall_mem_cons.1 hinner
    rw [List.cons_append, scanFrom]
    simp only [BlockKind.occursIn_trim, hl, Bool.false_eq_true, if_false]
    rw [ih (b := b.add l.trim) hinner]
    simp [OpenBlock.addLines, OpenBlock.add, Text.continued]

theorem scanFrom_last {b : OpenBlock} {last : Text} (hlast : b.kind.closer.occursIn last = true)
    (below : List Text) :
    scanFrom (some b) (last :: below) =
      (scanFrom none below).after (b.addLines [last]).collected := by
  rw [scanFrom]
  simp [BlockKind.occursIn_trim, hlast, OpenBlock.add, OpenBlock.addLines, Text.continued]

theorem scanFrom_opening {k : BlockKind} {l : Text} (hl : LineKind.of l.trim = .opens k)
    (below : List Text) :
    scanFrom none (l :: below) =
      if k.closer.occursIn (l.trim.drop openingLength) then
        (scanFrom none below).after (OpenBlock.start k l.trim).collected
      else scanFrom (some (OpenBlock.start k l.trim)) below := by
  rw [scanFrom]
  simp only [hl]

theorem collected_addLines (k : BlockKind) (l : Text) (below : List Text) :
    ((OpenBlock.start k l.trim).addLines below).collected = k.collected (l :: below) := by
  cases k with
  | pragma => exact congrArg (fun t => [t]) (Text.intercalate_trim l below).symm
  | comment => rfl

theorem scanFrom_block {k : BlockKind} {block : List Text} (h : IsBlock scanMargin k block)
    (below : List Text) :
    scanFrom none (block ++ below) = (scanFrom none below).after (k.collected block) := by
  obtain ⟨⟨l, b, rfl, hl⟩, hclosed⟩ := h
  rw [List.cons_append, scanFrom_opening hl]
  rw [searched, firstInLast_cons, show scanMargin k = openingLength from rfl] at hclosed
  split at hclosed
  · rename_i hfirst
    rw [if_pos hfirst, hclosed, ← collected_addLines]
    simp [OpenBlock.addLines, Text.continued]
  · rename_i hfirst
    obtain ⟨inner, last, rfl, hinner, hlast⟩ := hclosed
    rw [if_neg hfirst, List.append_assoc, List.singleton_append,
      scanFrom_inside (b := OpenBlock.start k l.trim) hinner, scanFrom_last hlast,
      ← collected_addLines]
    simp [OpenBlock.addLines, Text.continued]

theorem scanFrom_unclosed {k : BlockKind} {lines : List Text} (h : Unclosed scanMargin k lines) :
    ∃ b, b.kind = k ∧ b.opening = (lines.headD []).trim.take openingLength ∧
      scanFrom none lines = ⟨[], .unterminated b⟩ := by
  obtain ⟨⟨l, below, rfl, hl⟩, hopen⟩ := h
  obtain ⟨hfirst, hbelow⟩ := List.forall_mem_cons.1 hopen
  have hinside := scanFrom_inside (b := OpenBlock.start k l.trim) hbelow []
  rw [List.append_nil] at hinside
  refine ⟨(OpenBlock.start k l.trim).addLines below, rfl, rfl, ?_⟩
  rw [show scanMargin k = openingLength from rfl] at hfirst
  rw [scanFrom_opening hl, if_neg (by simp [hfirst]), hinside, scanFrom]

theorem Passes.scanFrom_append {above pragmas : List Text} (h : Passes scanMargin above pragmas)
    (below : List Text) :
    scanFrom none (above ++ below) = (scanFrom none below).after pragmas := by
  induction h with
  | nil => simp [Scan.after]
  | skipped h _ ih =>
    rw [List.cons_append, scanFrom]
    simpa only [h] using ih
  | block h _ ih => rw [List.append_assoc, scanFrom_block h, ih, Scan.after_after]

/-- Behind skipped lines and closed blocks a block starts that is never closed; `rest` are the lines
from its first one on. -/
structure FailsAt (margin : Margin) (lines above rest : List Text) : Prop where
  split : lines = above ++ rest
  passes : ∃ pragmas, Passes margin above pragmas
  unclosed : ∃ k, Unclosed margin k rest

theorem pragmas_eq_error_iff (lines : List Text) (f : Failure) :
    pragmas lines = .error f ↔ ∃ above rest, FailsAt scanMargin lines above rest ∧
      f = .unterminated ((rest.headD []).trim.take openingLength) := by
  constructor
  · intro h
    obtain ⟨above, rest, ps, hlines, hpasses, hrest⟩ := exists_passes scanMargin lines
    have hscan : scan lines = (scanFrom none rest).after ps := by
      rw [hlines]
      exact hpasses.scanFrom_append rest
    rcases hrest with rfl | ⟨l, below, rfl, hl⟩ | ⟨k, hk⟩
    · simp [pragmas, hscan, scanFrom, Scan.after] at h
    · simp [pragmas, hscan, scanFrom, Scan.after, hl] at h
    · obtain ⟨b, -, hb, hunclosed⟩ := scanFrom_unclosed hk
      refine ⟨above, rest, ⟨hlines, ⟨ps, hpasses⟩, ⟨k, hk⟩⟩, ?_⟩
      simp only [pragmas, hscan, hunclosed, Scan.after, Except.error.injEq] at h
      rw [← h, hb]
  · rintro ⟨above, rest, ⟨rfl, ⟨ps, hpasses⟩, ⟨k, hk⟩⟩, rfl⟩
    obtain ⟨b, -, hb, hunclosed⟩ := scanFrom_unclosed hk
    simp only [pragmas, scan, hpasses.scanFrom_append, hunclosed, Scan.after, hb]

end Header
end PragmaAssist
