import PragmaAssist.Proofs.Header.Directive
import PragmaAssist.Proofs.Header.Layout
import PragmaAssist.Proofs.Header.ScanAppend

/-! The line that an extension pragma is written on, as the header's reader takes it: between blocks
it is a pragma with one name, and inside a block it is the last line of that block. -/
namespace PragmaAssist

def IsPlain (name : Text) : Prop := name ≠ [] ∧ name.all Char.isAlphanum = true

instance (name : Text) : Decidable (IsPlain name) := inferInstanceAs (Decidable (_ ∧ _))

theorem isBlank_of_isAlphanum {c : Char} (h : c.isAlphanum = true) : isBlank c = false := by
  have hranges : (decide (c.val ≥ 65 ∧ c.val ≤ 90) || (c.val ≥ 97 && c.val ≤ 122) ||
      (c.val ≥ 48 && c.val ≤ 57)) = true := h
  have hc : c.toNat = c.val.toNat := rfl
  simp [UInt32.le_iff_toNat_le] at hranges
  simp [isBlank, inRanges, blankRanges]
  omega

namespace IsPlain
variable {x : Text}

theorem not_mem (h : IsPlain x) {c : Char} (hc : c.isAlphanum = false) : c ∉ x := by
  intro hmem
  rw [List.all_eq_true.1 h.2 c hmem] at hc
  exact Bool.noConfusion hc

theorem not_isBlank (h : IsPlain x) : ∀ c ∈ x, isBlank c = false :=
  fun c hc => isBlank_of_isAlphanum (List.all_eq_true.1 h.2 c hc)

theorem fitsLine (h : IsPlain x) : x.FitsLine := by
  intro c hc
  have hne {d : Char} (hd : d.isAlphanum = false) : c ≠ d := by
    rintro rfl
    exact h.not_mem hd hc
  refine ⟨hne (by decide), ?_⟩
  simp [isLineBreak, hne (d := '\n') (by decide), hne (d := '\r') (by decide)]

def listed (h : IsPlain x) : ListedName where
  before := []
  name := x
  after := []
  before_blank := by decide
  after_blank := by decide
  name_ne_nil := h.1
  name_solid := h.not_isBlank
  comma_not_mem := h.not_mem (by decide)
  hash_not_mem := h.not_mem (by decide)

end IsPlain

namespace Header
variable {p : Pragma}

theorem trim_directive (p : Pragma) : p.directive.trim = p.directive := by
  rw [Pragma.directive_eq, Text.trim_cons (by decide), Text.trimEnd_concat (by decide)]

theorem occursIn_directive (k : BlockKind) (n : Nat) (hn : n ≤ openingLength) (p : Pragma) :
    k.closer.occursIn (p.directive.drop n) = true := by
  have hcloser : k.closer <:+ Pragma.closer := by cases k <;> decide
  have hdrop : p.directive.drop n =
      (Pragma.opener.drop n ++ ' ' :: p.body ++ [' ']) ++ Pragma.closer := by
    have hlen : n ≤ Pragma.opener.length := hn
    simp [Pragma.directive, List.drop_append_of_le_length hlen]
  rw [Text.occursIn_iff, hdrop]
  exact (hcloser.trans (List.suffix_append _ Pragma.closer)).isInfix

theorem scanFrom_directive_append (p : Pragma) (tail : Text) (below : List Text) :
    scanFrom none ((p.directive ++ tail) :: below) =
      (scanFrom none below).after [p.directive ++ tail.trimEnd] := by
  have htrim : (p.directive ++ tail).trim = p.directive ++ tail.trimEnd := by
    have hline (t : Text) : p.directive ++ t = '{' :: (p.inside ++ '}' :: t) := by
      simp [Pragma.directive_eq]
    rw [hline, hline, Text.trim_cons (by decide), Text.trimEnd_append (by decide)]
  have hkind : LineKind.of (p.directive ++ tail.trimEnd) = .opens .pragma := rfl
  have hclose : BlockKind.pragma.closer.occursIn
      ((p.directive ++ tail.trimEnd).drop openingLength) = true := by
    have h := Text.occursIn_iff.1 (occursIn_directive .pragma openingLength (Nat.le_refl _) p)
    exact Text.occursIn_iff.2 (h.trans (List.prefix_append _ tail.trimEnd).isInfix)
  rw [scanFrom, htrim]
  simp only [hkind, hclose, if_true]
  rfl

theorem scanFrom_directive (p : Pragma) (below : List Text) :
    scanFrom none (p.directive :: below) = (scanFrom none below).after [p.directive] := by
  simpa [Text.trimEnd] using scanFrom_directive_append p [] below

/-- In a block the line is the last one, of a comment as well as of a pragma. -/
theorem scanFrom_some_directive (b : OpenBlock) (p : Pragma) (below : List Text) :
    scanFrom (some b) (p.directive :: below) =
      (scanFrom none below).after (b.add p.directive).collected := by
  have hclose : b.kind.closer.occursIn p.directive = true :=
    occursIn_directive b.kind 0 (Nat.zero_le _) p
  rw [scanFrom, trim_directive]
  simp only [hclose, if_true]

theorem languageNames_directive {x : Text} (h : IsPlain x) :
    languageNames (⟨.language, x⟩ : Pragma).directive = [x] :=
  h.listed.writable.languageNames_directive

end Header

theorem Flags.mentions_directive {x : Text} (h : IsPlain x) {known : List Text} (hx : x ∈ known)
    (pragmas : List Text) :
    mentions known ((⟨.language, x⟩ : Pragma).directive :: pragmas) =
      .on x :: mentions known pragmas := by
  have hon : Mention.ofName known x = .on x := by simp [Mention.ofName, hx]
  rw [mentions, List.flatMap_cons, Header.languageNames_directive h, List.singleton_append,
    List.map_cons, hon]
  rfl

end PragmaAssist
