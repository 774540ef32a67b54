import PragmaAssist.Proofs.Header.Blocks

/-! Closers right behind their opener. Headers read with two margins differ only on opening lines
where one margin passes the closer over; for the scan that is a comment closed at once. -/
namespace PragmaAssist
namespace Header

variable {m m' : Margin}

def MarginsDiffer (m m' : Margin) (l : Text) : Prop :=
  ∃ k, LineKind.of l.trim = .opens k ∧
    k.closer.occursIn (l.trim.drop (m k)) ≠ k.closer.occursIn (l.trim.drop (m' k))

theorem MarginsDiffer.symm {l : Text} (h : MarginsDiffer m m' l) : MarginsDiffer m' m l := by
  obtain ⟨k, hk, hne⟩ := h
  exact ⟨k, hk, hne.symm⟩

theorem IsBlock.change {k : BlockKind} {l : Text} {below : List Text}
    (h : IsBlock m k (l :: below)) (hl : ¬ MarginsDiffer m m' l) : IsBlock m' k (l :: below) := by
  obtain ⟨⟨_, _, heq, hk⟩, hclosed⟩ := h
  obtain ⟨rfl, rfl⟩ := List.cons.inj heq
  have hsame := Decidable.not_not.1 fun hne => hl ⟨k, hk, hne⟩
  refine ⟨⟨_, _, rfl, hk⟩, ?_⟩
  rw [searched, firstInLast_cons] at hclosed ⊢
  rwa [← hsame]

theorem Unclosed.change {k : BlockKind} {l : Text} {below : List Text}
    (h : Unclosed m k (l :: below)) (hl : ¬ MarginsDiffer m m' l) : Unclosed m' k (l :: below) := by
  obtain ⟨⟨_, _, heq, hk⟩, hunclosed⟩ := h
  obtain ⟨rfl, rfl⟩ := List.cons.inj heq
  have hsame := Decidable.not_not.1 fun hne => hl ⟨k, hk, hne⟩
  refine ⟨⟨_, _, rfl, hk⟩, ?_⟩
  rw [searched, List.forall_mem_cons] at hunclosed ⊢
  rwa [← hsame]

theorem Passes.change {above ps : List Text} (h : Passes m above ps) :
    Passes m' above ps ∨ ∃ before l after ps', above = before ++ l :: after ∧
      Passes m before ps' ∧ Passes m' before ps' ∧ MarginsDiffer m m' l := by
  induction h with
  | nil => exact .inl .nil
  | @skipped l below ps hl _ ih =>
    rcases ih with h | ⟨before, l', after, ps', rfl, h, h', hdiffer⟩
    · exact .inl (.skipped hl h)
    · exact .inr ⟨l :: before, l', after, ps', rfl, .skipped hl h, .skipped hl h', hdiffer⟩
  | @block k block below ps hblock _ ih =>
    obtain ⟨l, b, rfl, -⟩ := hblock.opens
    by_cases hl : MarginsDiffer m m' l
    · exact .inr ⟨[], l, b ++ below, [], rfl, .nil, .nil, hl⟩
    · have hblock' := hblock.change hl
      rcases ih with h | ⟨before, l', after, ps', rfl, h, h', hdiffer⟩
      · exact .inl (.block hblock' h)
      · exact .inr ⟨(l :: b) ++ before, l', after, k.collected (l :: b) ++ ps', by simp,
          .block hblock h, .block hblock' h', hdiffer⟩

/-- The closer of a comment stands right behind its opener, and nowhere else on the line. -/
def ClosesAtOnce (l : Text) : Prop :=
  BlockKind.comment.opener ++ BlockKind.comment.closer <+: l.trim ∧
    BlockKind.comment.closer.occursIn (l.trim.drop openingLength) = false

instance (l : Text) : Decidable (ClosesAtOnce l) := inferInstanceAs (Decidable (_ ∧ _))

theorem ClosesAtOnce.opens {l : Text} (h : ClosesAtOnce l) :
    LineKind.of l.trim = .opens .comment := by
  obtain ⟨⟨r, hr⟩, -⟩ := h
  rw [← hr]
  rfl

theorem ClosesAtOnce.occursIn {l : Text} (h : ClosesAtOnce l) :
    BlockKind.comment.closer.occursIn (l.trim.drop (openerMargin .comment)) = true := by
  obtain ⟨⟨r, hr⟩, -⟩ := h
  have hstart : BlockKind.comment.closer <+: l.trim.drop (openerMargin .comment) := by
    rw [← hr]
    exact ⟨r, rfl⟩
  exact Text.occursIn_iff.2 hstart.isInfix

theorem opener_prefix {k : BlockKind} {t : Text} (h : LineKind.of t = .opens k) :
    k.opener <+: t := by
  unfold LineKind.of at h
  split at h
  · simp at h
  · split at h
    · rename_i hopener
      obtain rfl := LineKind.opens.inj h
      exact Text.startsWith_iff.1 hopener
    · split at h
      · rename_i hopener
        obtain rfl := LineKind.opens.inj h
        exact Text.startsWith_iff.1 hopener
      · simp at h

theorem starts_of_occursIn_ne_drop {mark t : Text}
    (h : mark.occursIn t ≠ mark.occursIn (t.drop 1)) :
    mark <+: t ∧ mark.occursIn (t.drop 1) = false := by
  cases t with
  | nil => exact absurd rfl h
  | cons c t =>
    rw [Text.occursIn, List.drop_one, List.tail_cons] at h
    rw [← List.isPrefixOf_iff_prefix, List.drop_one, List.tail_cons]
    cases hstart : mark.isPrefixOf (c :: t) <;> cases hlater : mark.occursIn t <;>
      simp [hstart, hlater] at h ⊢

theorem closesAtOnce_iff {l : Text} :
    ClosesAtOnce l ↔ MarginsDiffer openerMargin scanMargin l := by
  constructor
  · intro h
    have hfar : BlockKind.comment.closer.occursIn (l.trim.drop (scanMargin .comment)) = false := h.2
    exact ⟨.comment, h.opens, by rw [h.occursIn, hfar]; decide⟩
  · rintro ⟨k, hk, hne⟩
    cases k with
    | pragma => exact absurd rfl hne
    | comment =>
      obtain ⟨r, hr⟩ := opener_prefix hk
      have hdrop : (l.trim.drop 2).drop 1 = l.trim.drop 3 := List.drop_drop
      obtain ⟨hstart, hfar⟩ := starts_of_occursIn_ne_drop (t := l.trim.drop 2) (by rwa [hdrop])
      rw [hdrop] at hfar
      rw [← hr] at hstart
      refine ⟨?_, hfar⟩
      rw [← hr]
      exact (List.prefix_append_right_inj _).2 hstart

/-- The lines are read as blocks with this margin: the header fails just where one is never closed,
and goes on below every one that is. -/
structure ReadsBlocks (margin : Margin) (lines : List Text) : Prop where
  fails : ∀ f, pragmas lines = .error f ↔ ∃ above rest, FailsAt margin lines above rest ∧
    f = .unterminated ((rest.headD []).trim.take openingLength)
  goesOn : ∀ above ps k block below, lines = above ++ (block ++ below) → Passes margin above ps →
    IsBlock margin k block →
      ∀ rest, scan (above ++ (block ++ rest)) = (scan rest).after (ps ++ k.collected block)

theorem readsBlocks_scanMargin (lines : List Text) : ReadsBlocks scanMargin lines := by
  refine ⟨pragmas_eq_error_iff lines, fun above ps k block below _ hpasses hblock rest => ?_⟩
  rw [scan, hpasses.scanFrom_append, scanFrom_block hblock, Scan.after_after]
  rfl

def MarginsAgree (m m' : Margin) (lines : List Text) : Prop :=
  ∀ above ps l below, lines = above ++ l :: below → Passes m above ps → Passes m' above ps →
    ¬ MarginsDiffer m m' l

theorem MarginsAgree.symm {lines : List Text} (h : MarginsAgree m m' lines) :
    MarginsAgree m' m lines :=
  fun above ps l below hlines hm' hm hdiffer => h above ps l below hlines hm hm' hdiffer.symm

theorem MarginsAgree.passes {lines above rest ps : List Text} (h : MarginsAgree m m' lines)
    (hlines : lines = above ++ rest) (hpasses : Passes m above ps) : Passes m' above ps := by
  rcases hpasses.change with h' | ⟨before, l, after, ps', rfl, hm, hm', hdiffer⟩
  · exact h'
  · exact absurd hdiffer (h before ps' l (after ++ rest) (by simp [hlines]) hm hm')

theorem MarginsAgree.failsAt {lines above rest : List Text} (h : MarginsAgree m m' lines)
    (hfails : FailsAt m lines above rest) : FailsAt m' lines above rest := by
  obtain ⟨hlines, ⟨ps, hpasses⟩, ⟨k, hk⟩⟩ := hfails
  have hpasses' := h.passes hlines hpasses
  obtain ⟨l, below, rfl, -⟩ := hk.opens
  exact ⟨hlines, ⟨ps, hpasses'⟩, ⟨k, hk.change (h above ps l below hlines hpasses hpasses')⟩⟩

theorem ReadsBlocks.change {lines : List Text} (h : ReadsBlocks m lines)
    (hagree : MarginsAgree m m' lines) : ReadsBlocks m' lines := by
  refine ⟨fun f => (h.fails f).trans ?_, fun above ps k block below hlines hpasses hblock => ?_⟩
  · constructor
    · rintro ⟨above, rest, hfails, hf⟩
      exact ⟨above, rest, hagree.failsAt hfails, hf⟩
    · rintro ⟨above, rest, hfails, hf⟩
      exact ⟨above, rest, hagree.symm.failsAt hfails, hf⟩
  · have hpasses' := hagree.symm.passes hlines hpasses
    obtain ⟨l, b, rfl, -⟩ := hblock.opens
    have hl := hagree.symm above ps l (b ++ below) hlines hpasses hpasses'
    exact h.goesOn above ps k (l :: b) below hlines hpasses' (hblock.change hl)

theorem scan_closesAtOnce {above ps : List Text} {l : Text} (hpasses : Passes scanMargin above ps)
    (hl : ClosesAtOnce l) : (scan (above ++ [l])).ending ≠ .exhausted := by
  rw [scan, hpasses.scanFrom_append, scanFrom_opening hl.opens, hl.2]
  simp [scanFrom, Scan.after]

theorem isBlock_closesAtOnce {l : Text} (hl : ClosesAtOnce l) :
    IsBlock openerMargin .comment [l] := by
  refine ⟨⟨l, [], rfl, hl.opens⟩, ?_⟩
  rw [searched, firstInLast_cons, if_pos hl.occursIn]

/-- The header fails just where a block is never closed behind the first three characters of its
opening line, and goes on below every block that is closed. A closer right behind the opener of a
comment is passed over, so closers count from the opener on just if no comment is closed there. -/
theorem readsBlocks_iff (lines : List Text) :
    ReadsBlocks scanMargin lines ∧
      (ReadsBlocks openerMargin lines ↔ ∀ above ps l below, lines = above ++ l :: below →
        Passes openerMargin above ps → ¬ ClosesAtOnce l) := by
  have hscan := readsBlocks_scanMargin lines
  refine ⟨hscan, fun hopener above ps l below hlines hpasses hl => ?_, fun h => ?_⟩
  · -- The first comment of that kind is a block, but the scan does not go on below it.
    have hfirst : ∃ above ps l below, lines = above ++ l :: below ∧ Passes openerMargin above ps ∧
        Passes scanMargin above ps ∧ ClosesAtOnce l := by
      rcases hpasses.change with h' | ⟨before, l', after, ps', rfl, hm, hm', hdiffer⟩
      · exact ⟨above, ps, l, below, hlines, hpasses, h', hl⟩
      · exact ⟨before, ps', l', after ++ l :: below, by simp [hlines], hm, hm',
          closesAtOnce_iff.2 hdiffer⟩
    obtain ⟨above, ps, l, below, hlines, hm, hm', hl⟩ := hfirst
    have hgoes := hopener.goesOn above ps .comment [l] below hlines hm (isBlock_closesAtOnce hl) []
    refine scan_closesAtOnce hm' hl ?_
    rw [List.append_nil] at hgoes
    rw [hgoes]
    rfl
  · refine hscan.change fun above ps l below hlines _ hpasses hdiffer => ?_
    exact h above ps l below hlines hpasses (closesAtOnce_iff.2 hdiffer.symm)

/-- An empty comment is a block of its own, but the header is taken to end in it. -/
theorem empty_comment_unclosed :
    let empty := ['{', '-', '-', '}']
    let lines := [empty, "module M where".toList]
    IsBlock openerMargin .comment [empty] ∧
      pragmas lines = .error (.unterminated ['{', '-', '-']) ∧
      ¬ ReadsBlocks openerMargin lines := by
  intro empty lines
  have hblock : IsBlock openerMargin .comment [empty] :=
    ⟨⟨empty, [], rfl, by decide⟩, [], ['-', '}'], rfl, by simp, by decide⟩
  refine ⟨hblock, rfl, fun h => ?_⟩
  have hgoes := h.goesOn [] [] .comment [empty] ["module M where".toList] rfl .nil hblock []
  exact absurd (congrArg Scan.ending hgoes) (by decide)

theorem readsBlocks_iff_unclosed_pragma :
    let comment := "\x7b--\x7d rest -\x7d".toList
    let lines := ["#!run".toList, comment, "\x7b-# LANGUAGE A".toList, "main".toList]
    (∀ above ps l below, lines = above ++ l :: below → Passes openerMargin above ps →
        ¬ ClosesAtOnce l) ∧ ReadsBlocks openerMargin lines ∧
      ∃ above rest, FailsAt openerMargin lines above rest := by
  intro comment lines
  have hlines : ∀ l ∈ lines, ¬ ClosesAtOnce l := by decide
  have h : ∀ above ps l below, lines = above ++ l :: below → Passes openerMargin above ps →
      ¬ ClosesAtOnce l := by
    intro above ps l below heq _
    exact hlines l (by simp [heq])
  have hreads := (readsBlocks_iff lines).2.2 h
  refine ⟨h, hreads, ?_⟩
  obtain ⟨above, rest, hfails, -⟩ :=
    (hreads.fails (.unterminated Pragma.opener)).1 rfl
  exact ⟨above, rest, hfails⟩

end Header
end PragmaAssist
