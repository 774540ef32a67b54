import PragmaAssist.Proofs.Header.Directive
import PragmaAssist.Proofs.Text.LineInsertion

/-! Pragmas put in one after the other, each at the line computed afresh. Each new line closes its
own block, so the next one goes right below it and none is split. -/
namespace PragmaAssist
namespace Insertion

theorem lastIndex?_append (p : Text → Bool) (a b : List Text) :
    lastIndex? p (a ++ b) = ((lastIndex? p b).map (· + a.length)).or (lastIndex? p a) := by
  induction a with
  | nil => cases h : lastIndex? p b <;> simp [lastIndex?, h]
  | cons l a ih =>
    rw [List.cons_append, lastIndex?, lastIndex?, ih]
    cases lastIndex? p b with
    | none => simp
    | some i => simp; omega

theorem blockLength_append (a b : List Text) :
    blockLength (a ++ b) =
      if a.any closesBlock then blockLength a else a.length + blockLength b := by
  induction a with
  | nil => simp
  | cons l a ih =>
    rw [List.cons_append, blockLength, blockLength, ih, List.any_cons, List.length_cons]
    cases closesBlock l with
    | true => rfl
    | false =>
      cases a.any closesBlock with
      | true => rfl
      | false => exact Nat.add_right_comm a.length (blockLength b) 1

theorem blockLength_pos {lines : List Text} (h : lines ≠ []) : 0 < blockLength lines := by
  obtain ⟨l, r, rfl⟩ := List.exists_cons_of_ne_nil h
  simp only [blockLength]
  split <;> omega

def lineBehind (lines : List Text) : Nat :=
  max (max ((afterLine? isShebang lines).getD 0)
      ((afterBlock? (isPragma PragmaKind.optionsGhc.name) lines).getD 0))
    ((afterBlock? (isPragma PragmaKind.language.name) lines).getD 0)

theorem nextLine_eq_lineBehind (c : Text) : nextLine c = lineBehind c.lines := rfl

variable {p : Text → Bool} {a b : List Text} {d : Text}

theorem lt_afterLine? {i : Nat} (h : lastIndex? p a = some i) : i < (afterLine? p a).getD 0 := by
  simp [afterLine?, h]

theorem lt_afterBlock? {i : Nat} (h : lastIndex? p a = some i) : i < (afterBlock? p a).getD 0 := by
  have hi := lastIndex?_lt h
  have hpos : 0 < blockLength (a.drop i) := blockLength_pos (by simpa using hi)
  simp only [afterBlock?, h, Option.map_some, Option.getD_some]
  omega

/-- A search whose last match is above some lines finds nothing in them. -/
theorem lastIndex?_below (h : ∀ i, lastIndex? p (a ++ b) = some i → i < a.length) :
    lastIndex? p b = none := by
  cases hb : lastIndex? p b with
  | none => rfl
  | some i =>
    have := h (i + a.length) (by simp [lastIndex?_append, hb])
    omega

theorem lastIndex?_insert (h : lastIndex? p b = none) :
    lastIndex? p (a ++ d :: b) = if p d then some a.length else lastIndex? p a := by
  rw [lastIndex?_append, lastIndex?, h]
  cases p d <;> simp

theorem afterLine?_insert (h : (afterLine? p (a ++ b)).getD 0 ≤ a.length) (hd : p d = false) :
    (afterLine? p (a ++ d :: b)).getD 0 ≤ a.length := by
  have hb : lastIndex? p b = none :=
    lastIndex?_below fun i hi => Nat.lt_of_lt_of_le (lt_afterLine? hi) h
  simp only [afterLine?, lastIndex?_insert hb, hd, Bool.false_eq_true, if_false]
  cases ha : lastIndex? p a with
  | none => simp
  | some i => simpa [Nat.succ_le_iff] using lastIndex?_lt ha

/-- A new line that closes blocks ends all that start above it, and its own. -/
theorem afterBlock?_insert (h : (afterBlock? p (a ++ b)).getD 0 ≤ a.length)
    (hd : closesBlock d = true) :
    (afterBlock? p (a ++ d :: b)).getD 0 ≤ a.length + 1 ∧
      (p d = true → (afterBlock? p (a ++ d :: b)).getD 0 = a.length + 1) := by
  have hb : lastIndex? p b = none :=
    lastIndex?_below fun i hi => Nat.lt_of_lt_of_le (lt_afterBlock? hi) h
  simp only [afterBlock?, lastIndex?_insert hb]
  cases hp : p d with
  | true => simp [blockLength, hd]
  | false =>
    refine ⟨?_, by simp⟩
    cases ha : lastIndex? p a with
    | none => simp
    | some i =>
      have hi := lastIndex?_lt ha
      have hle := blockLength_le (a.drop i)
      simp only [Bool.false_eq_true, if_false, Option.map_some, Option.getD_some,
        List.drop_append_of_le_length (Nat.le_of_lt hi), blockLength_append, blockLength, hd,
        if_true, List.length_drop] at hle ⊢
      split <;> omega

theorem lineBehind_insert (h : lineBehind (a ++ b) = a.length) (hs : isShebang d = false)
    (hd : closesBlock d = true) {k : PragmaKind} (hk : isPragma k.name d = true) :
    lineBehind (a ++ d :: b) = a.length + 1 := by
  unfold lineBehind at *
  have h₁ : (afterLine? isShebang (a ++ d :: b)).getD 0 ≤ a.length :=
    afterLine?_insert (by omega) hs
  have hblock (k : PragmaKind)
      (hle : (afterBlock? (isPragma k.name) (a ++ b)).getD 0 ≤ a.length) :=
    afterBlock?_insert hle hd
  obtain ⟨h₂, h₂'⟩ := hblock .optionsGhc (by omega)
  obtain ⟨h₃, h₃'⟩ := hblock .language (by omega)
  cases k with
  | language => have := h₃' hk; omega
  | optionsGhc => have := h₂' hk; omega

theorem afterBlock?_le (p : Text → Bool) (lines : List Text) :
    (afterBlock? p lines).getD 0 ≤ lines.length := by
  cases h : lastIndex? p lines with
  | none => simp [afterBlock?, h]
  | some i =>
    have hi := lastIndex?_lt h
    have hle := blockLength_le (lines.drop i)
    rw [List.length_drop] at hle
    simp only [afterBlock?, h, Option.map_some, Option.getD_some]
    omega

theorem lineBehind_le (lines : List Text) : lineBehind lines ≤ lines.length := by
  have h₁ : (afterLine? isShebang lines).getD 0 ≤ lines.length := by
    cases h : lastIndex? isShebang lines with
    | none => simp [afterLine?, h]
    | some i => simpa [afterLine?, h, Nat.succ_le_iff] using lastIndex?_lt h
  have h₂ := afterBlock?_le (isPragma PragmaKind.optionsGhc.name) lines
  have h₃ := afterBlock?_le (isPragma PragmaKind.language.name) lines
  unfold lineBehind
  omega

def insertPragma (p : Pragma) (c : Text) : Text :=
  p.render.insertAtLine (range (some c)).first.line c

/-- Pragmas put in one after the other, each at the place that the document then has. -/
def insertAll (ps : List Pragma) (c : Text) : Text := ps.foldl (fun c p => insertPragma p c) c

variable {p : Pragma} {c : Text}

theorem lines_insertPragma (hp : p.name.FitsLine) (hs : c.StartsLine (nextLine c)) :
    (insertPragma p c).lines =
      c.lines.take (nextLine c) ++ p.directive :: c.lines.drop (nextLine c) :=
  Text.lines_insertAtLine (Pragma.not_isLineBreak hp) p.directive_ne_nil (lineBehind_le c.lines) hs

theorem nextLine_insertPragma (hp : p.name.FitsLine) (hs : c.StartsLine (nextLine c)) :
    nextLine (insertPragma p c) = nextLine c + 1 := by
  have hn : (c.lines.take (nextLine c)).length = nextLine c :=
    List.length_take_of_le (lineBehind_le c.lines)
  have h : lineBehind (c.lines.take (nextLine c) ++ c.lines.drop (nextLine c)) =
      (c.lines.take (nextLine c)).length := by
    rw [List.take_append_drop, hn, nextLine_eq_lineBehind]
  rw [nextLine_eq_lineBehind, lines_insertPragma hp hs,
    lineBehind_insert h p.isShebang_directive (Pragma.closesBlock_directive hp)
      p.isPragma_directive, hn]

theorem startsLine_insertPragma (hp : p.name.FitsLine) (hs : c.StartsLine (nextLine c)) :
    (insertPragma p c).StartsLine (nextLine (insertPragma p c)) := by
  rw [nextLine_insertPragma hp hs]
  exact hs.insertAtLine (Pragma.not_isLineBreak hp) p.directive_ne_nil (lineBehind_le c.lines)

theorem splice_below (a b ds : List Text) (d : Text) :
    (a ++ d :: b).take (a.length + 1) ++ ds ++ (a ++ d :: b).drop (a.length + 1) =
      a ++ d :: ds ++ b := by
  have h : a ++ d :: b = (a ++ [d]) ++ b := by simp
  rw [h, List.take_left' (by simp), List.drop_left' (by simp)]
  simp

theorem insertAll_lines (ps : List Pragma) (hps : ∀ p ∈ ps, p.name.FitsLine)
    (hs : c.StartsLine (nextLine c)) :
    (insertAll ps c).lines =
        c.lines.take (nextLine c) ++ ps.map Pragma.directive ++ c.lines.drop (nextLine c) ∧
      nextLine (insertAll ps c) = nextLine c + ps.length := by
  induction ps generalizing c with
  | nil => simp [insertAll]
  | cons p ps ih =>
    have hp := hps p List.mem_cons_self
    have hn : (c.lines.take (nextLine c)).length = nextLine c :=
      List.length_take_of_le (lineBehind_le c.lines)
    obtain ⟨hlines, hnext⟩ :=
      ih (fun q hq => hps q (List.mem_cons_of_mem p hq)) (startsLine_insertPragma hp hs)
    rw [nextLine_insertPragma hp hs] at hlines hnext
    change (insertAll ps (insertPragma p c)).lines = _ ∧
      nextLine (insertAll ps (insertPragma p c)) = _
    constructor
    · have hsplice := splice_below (c.lines.take (nextLine c)) (c.lines.drop (nextLine c))
        (ps.map Pragma.directive) p.directive
      rw [hn] at hsplice
      rw [hlines, lines_insertPragma hp hs, List.map_cons, hsplice]
    · rw [hnext, List.length_cons]
      omega

/-- Quick fixes stack: each pragma stands on a line of its own right below the one before it, and
all lines of the document are kept above and below. -/
theorem insertAll_stacks (c : Text) (hs : c.StartsLine (nextLine c)) :
    (∀ p : Pragma, p.name.FitsLine →
      (insertPragma p c).lines =
          c.lines.take (nextLine c) ++ p.directive :: c.lines.drop (nextLine c) ∧
        nextLine (insertPragma p c) = nextLine c + 1) ∧
    ∀ ps : List Pragma, (∀ p ∈ ps, p.name.FitsLine) →
      (insertAll ps c).lines =
          c.lines.take (nextLine c) ++ ps.map Pragma.directive ++ c.lines.drop (nextLine c) ∧
        nextLine (insertAll ps c) = nextLine c + ps.length :=
  ⟨fun _ hp => ⟨lines_insertPragma hp hs, nextLine_insertPragma hp hs⟩,
    fun ps hps => insertAll_lines ps hps hs⟩

theorem insertAll_stacks_in_block :
    let c : Text := "#!run\r\n\x7b-# LANGUAGE A,\r B #-\x7d\nmain".toList
    let ps : List Pragma := [⟨.language, "C".toList⟩, ⟨.optionsGhc, "unused".toList⟩]
    c.StartsLine (nextLine c) ∧ (∀ p ∈ ps, p.name.FitsLine) ∧
      (insertAll ps c).lines = ["#!run".toList, "\x7b-# LANGUAGE A,".toList, " B #-\x7d".toList,
        "{-# LANGUAGE C #-}".toList, "{-# OPTIONS_GHC -Wno-unused #-}".toList, "main".toList] ∧
      nextLine (insertAll ps c) = 5 := by
  intro c ps
  have hs : c.StartsLine (nextLine c) := by decide
  have hps : ∀ p ∈ ps, p.name.FitsLine := by decide
  obtain ⟨-, hall⟩ := insertAll_stacks c hs
  obtain ⟨hlines, hnext⟩ := hall ps hps
  rw [hlines, hnext]
  exact ⟨hs, hps, by decide, by decide⟩

end Insertion
end PragmaAssist
