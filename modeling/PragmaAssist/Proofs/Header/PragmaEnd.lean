import PragmaAssist.Proofs.Header.ScanAppend
import PragmaAssist.Proofs.Header.Stacking
import PragmaAssist.Proofs.Text.Trimming

/-! Where a header pragma ends, for the header's reader and for the search for the insertion line.
The reader ends it at the first line with a closer; the search wants a line that ends there. -/
namespace PragmaAssist
namespace Text

theorem dropWhile_ne_eq_cons_iff {c d : Char} {t r : Text} :
    t.dropWhile (· ≠ c) = d :: r ↔ d = c ∧ ∃ s, t = s ++ c :: r ∧ c ∉ s := by
  constructor
  · intro h
    have hd : d = c := by
      have hhead := List.head?_dropWhile_not (fun e => decide (e ≠ c)) t
      rw [h, List.head?_cons] at hhead
      simpa using hhead
    subst hd
    refine ⟨rfl, t.takeWhile (· ≠ d), ?_, fun hd => ?_⟩
    · rw [← h, List.takeWhile_append_dropWhile]
    · simpa using List.all_eq_true.1 List.all_takeWhile d hd
  · rintro ⟨rfl, s, rfl, hs⟩
    have hpass : ∀ e ∈ s, decide (e ≠ d) = true := by
      intro e he
      simpa using fun hed : e = d => hs (hed ▸ he)
    rw [List.dropWhile_append_of_pos hpass]
    simp

theorem dropWhile_ne_eq_singleton {c : Char} {t : Text} :
    t.dropWhile (· ≠ c) = [c] ↔ ∃ s, t = s ++ [c] ∧ c ∉ s := by
  rw [dropWhile_ne_eq_cons_iff, and_iff_right rfl]

theorem suffix_dropWhile_ne (a : Text) (c : Char) (b : Text) :
    c :: b <:+ (a ++ c :: b).dropWhile (· ≠ c) := by
  rw [List.dropWhile_append]
  split
  · simp
  · exact List.suffix_append _ _

end Text

namespace Header

/-- The scan comes to line `i` between blocks, opens a pragma there and closes it on line `j`. -/
structure ReadsPragma (lines : List Text) (i j : Nat) : Prop where
  le : i ≤ j
  between : (scan (lines.take i)).ending = .exhausted
  opens : ∃ l, lines[i]? = some l ∧ LineKind.of l.trim = .opens .pragma
  inside : ∀ k, i < k → k ≤ j →
    ∃ b, b.kind = .pragma ∧ (scan (lines.take k)).ending = .unterminated b
  closed : (scan (lines.take (j + 1))).ending = .exhausted

theorem closer_of_closed {b : OpenBlock} {l : Text}
    (h : (scanFrom (some b) [l]).ending = .exhausted) : b.kind.closer.occursIn l.trim = true := by
  rw [scanFrom] at h
  split at h
  · assumption
  · simp [scanFrom] at h

theorem closer_of_opened {k : BlockKind} {l : Text} (hk : LineKind.of l.trim = .opens k)
    (h : (scanFrom none [l]).ending = .exhausted) :
    k.closer.occursIn (l.trim.drop openingLength) = true := by
  rw [scanFrom] at h
  simp only [hk] at h
  split at h
  · assumption
  · simp [scanFrom] at h

theorem ReadsPragma.closer_on_last {lines : List Text} {i j : Nat} {last : Text}
    (h : ReadsPragma lines i j) (hj : lines[j]? = some last) : Pragma.closer <:+: last := by
  have htake : lines.take (j + 1) = lines.take j ++ [last] := by
    rw [List.take_add_one, hj]
    rfl
  have hclosed := h.closed
  rw [htake, scan, scanFrom_append] at hclosed
  -- On the opening line the closer is looked for behind the opener, on a later one everywhere.
  rcases Nat.lt_or_eq_of_le h.le with hij | rfl
  · obtain ⟨b, hb, hopen⟩ := h.inside j hij (Nat.le_refl j)
    rw [Scan.continueWith, show (scanFrom none (lines.take j)).ending = _ from hopen] at hclosed
    have hcloser := Text.occursIn_iff.1 (closer_of_closed hclosed)
    rw [hb] at hcloser
    exact hcloser.trans (Text.trim_infix_self last)
  · obtain ⟨l, hl, hopens⟩ := h.opens
    obtain rfl : l = last := Option.some.inj (hl.symm.trans hj)
    rw [Scan.continueWith, show (scanFrom none (lines.take i)).ending = _ from h.between] at hclosed
    have hcloser := Text.occursIn_iff.1 (closer_of_opened hopens hclosed)
    exact (hcloser.trans (List.drop_suffix _ _).isInfix).trans (Text.trim_infix_self l)

end Header

namespace Insertion
open Header

/-- The line ends in the closer, and no other brace stands behind its first dash. -/
def EndsAtCloser (line : Text) : Prop :=
  Pragma.closer <:+ line ∧ '}' ∉ (line.dropWhile (· ≠ '-')).dropLast

instance (line : Text) : Decidable (EndsAtCloser line) := inferInstanceAs (Decidable (_ ∧ _))

theorem closesBlock_iff {l : Text} :
    closesBlock l = true ↔ ∃ s, l.dropWhile (· ≠ '-') = s ++ ['}'] ∧ '}' ∉ s := by
  rw [closesBlock, decide_eq_true_iff, Text.dropWhile_ne_eq_singleton]

theorem closesBlock_iff_endsAtCloser {l : Text} (h : Pragma.closer <:+: l) :
    closesBlock l = true ↔ EndsAtCloser l := by
  rw [closesBlock_iff]
  constructor
  · rintro ⟨s, hs, hbrace⟩
    refine ⟨?_, by rwa [hs, List.dropLast_concat]⟩
    obtain ⟨p, q, rfl⟩ := h
    have hl : p ++ Pragma.closer ++ q = (p ++ ['#']) ++ '-' :: '}' :: q := by
      simp [Pragma.closer]
    have hsuffix := Text.suffix_dropWhile_ne (p ++ ['#']) '-' ('}' :: q)
    rw [← hl, hs] at hsuffix
    obtain ⟨r, hr⟩ := hsuffix
    rcases List.eq_nil_or_concat q with rfl | ⟨q', x, rfl⟩
    · simp
    · -- The brace of the closer would stand in `s`.
      have hr' : (r ++ '-' :: '}' :: q') ++ [x] = s ++ ['}'] := by simpa using hr
      obtain ⟨rfl, -⟩ := List.append_inj' hr' rfl
      simp at hbrace
  · rintro ⟨⟨p, rfl⟩, hbrace⟩
    have hl : p ++ Pragma.closer = (p ++ ['#']) ++ '-' :: ['}'] := by
      simp [Pragma.closer]
    obtain ⟨r, hr⟩ := Text.suffix_dropWhile_ne (p ++ ['#']) '-' ['}']
    have hrest : (p ++ Pragma.closer).dropWhile (· ≠ '-') = (r ++ ['-']) ++ ['}'] := by
      rw [hl, ← hr]
      simp
    rw [hrest, List.dropLast_concat] at hbrace
    exact ⟨_, hrest, hbrace⟩

theorem blockLength_eq_iff {inner below : List Text} {last : Text} :
    blockLength (inner ++ last :: below) = inner.length + 1 ↔
      (∀ l ∈ inner, closesBlock l = false) ∧ (closesBlock last = true ∨ below = []) := by
  rw [blockLength_append]
  cases hinner : inner.any closesBlock with
  | true =>
    have hle := blockLength_le inner
    obtain ⟨l, hl, hcloses⟩ := List.any_eq_true.1 hinner
    constructor
    · intro h
      rw [if_pos rfl] at h
      omega
    · rintro ⟨h, -⟩
      simp [h l hl] at hcloses
  | false =>
    have hnone : ∀ l ∈ inner, closesBlock l = false := by simpa using hinner
    have hbelow : blockLength below = 0 ↔ below = [] := by
      cases below with
      | nil => simp [blockLength]
      | cons l r => simpa using Nat.ne_of_gt (blockLength_pos (List.cons_ne_nil l r))
    rw [if_neg Bool.false_ne_true, blockLength, and_iff_right hnone]
    cases closesBlock last <;> simp [hbelow]

theorem blockLength_le_iff {inner below : List Text} {last : Text} :
    blockLength (inner ++ last :: below) ≤ inner.length ↔ ∃ l ∈ inner, closesBlock l = true := by
  rw [blockLength_append, ← List.any_eq_true]
  cases hinner : inner.any closesBlock with
  | true => simpa using blockLength_le inner
  | false =>
    have hpos : 0 < blockLength (last :: below) := blockLength_pos (List.cons_ne_nil last below)
    simp
    omega

theorem drop_eq_block {lines : List Text} {i j : Nat} {last : Text} (hij : i ≤ j)
    (hj : lines[j]? = some last) :
    lines.drop i = (lines.take j).drop i ++ last :: lines.drop (j + 1) := by
  obtain ⟨hlt, rfl⟩ := List.getElem?_eq_some_iff.1 hj
  rw [← List.drop_eq_getElem_cons hlt]
  have hi : i ≤ (lines.take j).length := by
    rw [List.length_take]
    omega
  rw [← List.drop_append_of_le_length hi, List.take_append_drop]

/-- The search ends a pragma right where the header's reader does if no line above its last one
looks closed and that line ends in the closer, or no line follows. It ends it above if a line
above looks closed, and else runs on below. -/
theorem endOfBlock_eq_iff {lines : List Text} {i j : Nat} {last : Text}
    (h : ReadsPragma lines i j) (hj : lines[j]? = some last) :
    let e := endOfBlock i (lines.drop i)
    (e = j + 1 ↔ (∀ l ∈ (lines.take j).drop i, closesBlock l = false) ∧
      (EndsAtCloser last ∨ j + 1 = lines.length)) ∧
    (e ≤ j ↔ ∃ l ∈ (lines.take j).drop i, closesBlock l = true) ∧
    ∀ k line, lastIndex? (isPragma k) lines = some i → afterPragma k lines line = max line e := by
  intro e
  have hblock := drop_eq_block h.le hj
  obtain ⟨hlt, -⟩ := List.getElem?_eq_some_iff.1 hj
  have hinner : ((lines.take j).drop i).length = j - i := by
    rw [List.length_drop, List.length_take, Nat.min_eq_left (Nat.le_of_lt hlt)]
  have hle := h.le
  have hbelow : lines.drop (j + 1) = [] ↔ j + 1 = lines.length := by
    rw [List.drop_eq_nil_iff]
    omega
  refine ⟨?_, ?_, fun k line hi => ?_⟩
  · have heq : e = j + 1 ↔ blockLength (lines.drop i) = (j - i) + 1 := by
      simp only [e, endOfBlock]
      omega
    rw [heq, hblock, ← hinner, blockLength_eq_iff, hbelow,
      closesBlock_iff_endsAtCloser (h.closer_on_last hj)]
  · have heq : e ≤ j ↔ blockLength (lines.drop i) ≤ j - i := by
      simp only [e, endOfBlock]
      omega
    rw [heq, hblock, ← hinner, blockLength_le_iff]
  · simp only [afterPragma, lastBlockWith, afterBlock?, hi, Option.map_some, Option.getD_some, e,
      endOfBlock]
    omega

/-- With a comment behind its closer a pragma has no end for the search. -/
theorem endOfBlock_ne_behind_comment :
    let first := "{-# LANGUAGE A #-} -- first".toList
    let lines := [first, "module M where".toList, "main".toList]
    ReadsPragma lines 0 0 ∧ lines[0]? = some first ∧
      isPragma PragmaKind.language.name first = true ∧ endOfBlock 0 (lines.drop 0) ≠ 0 + 1 := by
  intro first lines
  refine ⟨⟨Nat.le_refl 0, by decide, ⟨first, rfl, by decide⟩, ?_, by decide⟩, rfl, by decide,
    by decide⟩
  intro k h₁ h₂
  omega

theorem endOfBlock_eq_two_lines :
    let lines := ["#!run".toList, "\x7b-# OPTIONS_GHC -Wall".toList, "  -Wno-tabs #-\x7d".toList,
      "main".toList]
    ReadsPragma lines 1 2 ∧ lines[2]? = some "  -Wno-tabs #-\x7d".toList ∧
      endOfBlock 1 (lines.drop 1) = 2 + 1 ∧
      afterPragma PragmaKind.optionsGhc.name lines 0 = 3 := by
  intro lines
  let b := OpenBlock.start .pragma "\x7b-# OPTIONS_GHC -Wall".toList
  have hinside : ∀ k, 1 < k → k ≤ 2 →
      ∃ b, b.kind = .pragma ∧ (scan (lines.take k)).ending = .unterminated b := by
    intro k h₁ h₂
    obtain rfl : k = 2 := by omega
    exact ⟨b, rfl, by decide⟩
  have h : ReadsPragma lines 1 2 :=
    ⟨by decide, by decide, ⟨_, rfl, by decide⟩, hinside, by decide⟩
  obtain ⟨heq, -, hafter⟩ := endOfBlock_eq_iff h rfl
  have he : endOfBlock 1 (lines.drop 1) = 2 + 1 := heq.2 ⟨by decide, .inl (by decide)⟩
  refine ⟨h, rfl, he, ?_⟩
  rw [hafter _ 0 (by decide)]
  exact congrArg (max 0) he

end Insertion
end PragmaAssist
