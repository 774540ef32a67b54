import PragmaAssist.Proofs.Header.PragmaEnd
import Mathlib.Order.Bounds.Basic

/-! The insertion line as three searches by line numbers: behind the last shebang, and behind the
blocks that start at the last options pragma and at the last extension pragma. -/
namespace PragmaAssist
namespace Insertion

def LineIs (P : Text → Prop) (lines : List Text) (i : Nat) : Prop := ∃ l, lines[i]? = some l ∧ P l

def IsShebang (line : Text) : Prop := ['#', '!'] <+: line

def OpensPragma (name line : Text) : Prop :=
  ∃ gap rest : Text, gap.Blank ∧ line = Pragma.opener ++ (gap ++ (name ++ rest))

/-- A dash, the first one, and later a brace that ends the line and is the first one behind it. -/
def Closes (line : Text) : Prop :=
  ∃ u v : Text, line = u ++ '-' :: (v ++ ['}']) ∧ '-' ∉ u ∧ '}' ∉ v

/-- The block from line `i` on ends in front of line `n`: with its first closing line, or else with
the document. -/
inductive BlockEnds (lines : List Text) (i : Nat) : Nat → Prop
  | closed {j : Nat} (h : IsLeast {k | i ≤ k ∧ LineIs Closes lines k} j) : BlockEnds lines i (j + 1)
  | unclosed (h : ∀ k, i ≤ k → ¬ LineIs Closes lines k) : BlockEnds lines i lines.length

/-- Line `n` is behind the last line with the property, where `Ends` says what ends at `n`; without
such a line it is the first one. -/
inductive BehindLast (P : Text → Prop) (Ends : Nat → Nat → Prop) (lines : List Text) : Nat → Prop
  | none (h : ∀ i, ¬ LineIs P lines i) : BehindLast P Ends lines 0
  | last {i n : Nat} (h : IsGreatest {k | LineIs P lines k} i) (hends : Ends i n) :
      BehindLast P Ends lines n

section LineIs
variable {P : Text → Prop} {l : Text} {lines : List Text} {i k : Nat}

@[simp] theorem lineIs_nil : ¬ LineIs P [] i := by simp [LineIs]

@[simp] theorem lineIs_cons_zero : LineIs P (l :: lines) 0 ↔ P l := by simp [LineIs]

@[simp] theorem lineIs_cons_succ : LineIs P (l :: lines) (i + 1) ↔ LineIs P lines i := by
  simp [LineIs]

@[simp] theorem lineIs_drop : LineIs P (lines.drop k) i ↔ LineIs P lines (k + i) := by
  simp [LineIs]

theorem LineIs.imp {Q : Text → Prop} (h : LineIs P lines i) (hPQ : ∀ l, P l → Q l) :
    LineIs Q lines i := by
  obtain ⟨l, hl, hP⟩ := h
  exact ⟨l, hl, hPQ l hP⟩

end LineIs

section Search
variable {p : Text → Bool} {lines : List Text} {i m n : Nat}

theorem not_lineIs_of_lastIndex? (h : lastIndex? p lines = none) (i : Nat) :
    ¬ LineIs (p · = true) lines i := by
  induction lines generalizing i with
  | nil => exact lineIs_nil
  | cons l r ih =>
    rw [lastIndex?] at h
    split at h
    · simp at h
    · rename_i hr
      cases i with
      | zero => simpa using h
      | succ i => simpa using ih hr i

theorem isGreatest_lastIndex? (h : lastIndex? p lines = some i) :
    IsGreatest {k | LineIs (p · = true) lines k} i := by
  induction lines generalizing i with
  | nil => simp [lastIndex?] at h
  | cons l r ih =>
    rw [lastIndex?] at h
    split at h
    · rename_i j hr
      obtain rfl := Option.some.inj h
      obtain ⟨hj, hmax⟩ := ih hr
      refine ⟨lineIs_cons_succ.2 hj, fun k hk => ?_⟩
      cases k with
      | zero => exact Nat.zero_le _
      | succ k => exact Nat.succ_le_succ (hmax (lineIs_cons_succ.1 hk))
    · rename_i hr
      obtain ⟨hl, rfl⟩ := by simpa using h
      refine ⟨lineIs_cons_zero.2 hl, fun k hk => ?_⟩
      cases k with
      | zero => exact Nat.le_refl 0
      | succ k => exact absurd (lineIs_cons_succ.1 hk) (not_lineIs_of_lastIndex? hr k)

theorem behindLast_lastIndex? {Ends : Nat → Nat → Prop} {line : Nat → Nat}
    (h : ∀ i, lastIndex? p lines = some i → Ends i (line i)) :
    BehindLast (p · = true) Ends lines (((lastIndex? p lines).map line).getD 0) := by
  cases hlast : lastIndex? p lines with
  | none => exact .none (not_lineIs_of_lastIndex? hlast)
  | some i => exact .last (isGreatest_lastIndex? hlast) (h i hlast)

theorem BehindLast.unique {P : Text → Prop} {Ends : Nat → Nat → Prop}
    (hends : ∀ i m n, Ends i m → Ends i n → m = n) (hm : BehindLast P Ends lines m)
    (hn : BehindLast P Ends lines n) : m = n := by
  cases hm with
  | none hm => cases hn with
    | none => rfl
    | last hn => exact absurd hn.1 (hm _)
  | last hm hmi => cases hn with
    | none hn => exact absurd hm.1 (hn _)
    | last hn hni =>
      obtain rfl := hm.unique hn
      exact hends _ _ _ hmi hni

theorem BehindLast.exists_of_pos {P : Text → Prop} {Ends : Nat → Nat → Prop}
    (h : BehindLast P Ends lines n) (hpos : 0 < n) : ∃ i, LineIs P lines i ∧ Ends i n := by
  cases h with
  | none => exact absurd hpos (Nat.lt_irrefl 0)
  | last h hends => exact ⟨_, h.1, hends⟩

theorem closesBlock_iff_closes {l : Text} : closesBlock l = true ↔ Closes l := by
  rw [closesBlock_iff]
  constructor
  · rintro ⟨s, hs, hbrace⟩
    cases s with
    | nil => exact absurd (Text.dropWhile_ne_eq_cons_iff.1 hs).1 (by decide)
    | cons d v =>
      obtain ⟨rfl, u, rfl, hu⟩ := Text.dropWhile_ne_eq_cons_iff.1 hs
      exact ⟨u, v, rfl, hu, fun hv => hbrace (List.mem_cons_of_mem _ hv)⟩
  · rintro ⟨u, v, rfl, hu, hv⟩
    exact ⟨'-' :: v, Text.dropWhile_ne_eq_cons_iff.2 ⟨rfl, u, rfl, hu⟩, by simp [hv]⟩

theorem blockLength_cases (lines : List Text) :
    (∃ j, IsLeast {k | LineIs Closes lines k} j ∧ blockLength lines = j + 1) ∨
      (∀ k, ¬ LineIs Closes lines k) ∧ blockLength lines = lines.length := by
  induction lines with
  | nil => exact .inr ⟨fun k => lineIs_nil, rfl⟩
  | cons l r ih =>
    rw [blockLength]
    split
    · rename_i hl
      have hzero : LineIs Closes (l :: r) 0 := lineIs_cons_zero.2 (closesBlock_iff_closes.1 hl)
      exact .inl ⟨0, ⟨hzero, fun k _ => Nat.zero_le k⟩, rfl⟩
    · rename_i hl
      have hzero : ¬ LineIs Closes (l :: r) 0 :=
        fun h => hl (closesBlock_iff_closes.2 (lineIs_cons_zero.1 h))
      rcases ih with ⟨j, ⟨hj, hmin⟩, hlength⟩ | ⟨hnone, hlength⟩
      · refine .inl ⟨j + 1, ⟨lineIs_cons_succ.2 hj, fun k hk => ?_⟩, congrArg (· + 1) hlength⟩
        cases k with
        | zero => exact absurd hk hzero
        | succ k => exact Nat.succ_le_succ (hmin (lineIs_cons_succ.1 hk))
      · refine .inr ⟨fun k hk => ?_, congrArg (· + 1) hlength⟩
        cases k with
        | zero => exact hzero hk
        | succ k => exact hnone k (lineIs_cons_succ.1 hk)

theorem blockEnds_blockLength (hi : i < lines.length) :
    BlockEnds lines i (i + blockLength (lines.drop i)) := by
  -- Lines from `i` on are counted from `i`.
  have hdrop {k : Nat} (hik : i ≤ k) :
      LineIs Closes lines k ↔ LineIs Closes (lines.drop i) (k - i) := by
    rw [lineIs_drop, Nat.add_sub_cancel' hik]
  rcases blockLength_cases (lines.drop i) with ⟨j, ⟨hj, hmin⟩, hlength⟩ | ⟨hnone, hlength⟩
  · rw [hlength]
    refine .closed (j := i + j) ⟨⟨Nat.le_add_right i j, lineIs_drop.1 hj⟩, ?_⟩
    rintro k ⟨hik, hk⟩
    have hle : j ≤ k - i := hmin ((hdrop hik).1 hk)
    omega
  · have hend : i + blockLength (lines.drop i) = lines.length := by
      rw [hlength, List.length_drop]
      omega
    rw [hend]
    exact .unclosed fun k hik hk => hnone (k - i) ((hdrop hik).1 hk)

theorem BlockEnds.unique (hm : BlockEnds lines i m) (hn : BlockEnds lines i n) : m = n := by
  cases hm with
  | closed hm => cases hn with
    | closed hn => rw [hm.unique hn]
    | unclosed hn => exact absurd hm.1.2 (hn _ hm.1.1)
  | unclosed hm => cases hn with
    | closed hn => exact absurd hn.1.2 (hm _ hn.1.1)
    | unclosed => rfl

theorem BlockEnds.closes (h : BlockEnds lines i n) (hlt : n < lines.length) :
    LineIs Closes lines (n - 1) := by
  cases h with
  | closed h => exact h.1.2
  | unclosed => exact absurd hlt (Nat.lt_irrefl _)

end Search

theorem isPragma_iff (k : PragmaKind) (l : Text) :
    isPragma k.name l = true ↔ OpensPragma k.name l := by
  have hkeyword {r rest : Text} : r.trimStart = k.name ++ rest ↔
      ∃ gap : Text, gap.Blank ∧ r = gap ++ (k.name ++ rest) :=
    Text.trimStart_eq_append_iff (by cases k <;> decide) (by cases k <;> decide)
  unfold isPragma
  constructor
  · intro h
    split at h
    · rename_i r hr
      obtain rfl := Text.after?_eq_some_iff.1 hr
      obtain ⟨rest, hrest⟩ := Text.startsWith_iff.1 h
      obtain ⟨gap, hgap, rfl⟩ := hkeyword.1 hrest.symm
      exact ⟨gap, rest, hgap, rfl⟩
    · exact Bool.noConfusion h
  · rintro ⟨gap, rest, hgap, rfl⟩
    rw [Text.after?_append]
    simp only [hkeyword.2 ⟨gap, hgap, rfl⟩]
    exact Text.startsWith_iff.2 (List.prefix_append k.name rest)

theorem behindLast_shebang (lines : List Text) :
    BehindLast IsShebang (fun i n => n = i + 1) lines ((afterLine? isShebang lines).getD 0) := by
  have hiff : (isShebang · = true) = IsShebang := funext fun l => propext Text.startsWith_iff
  exact hiff ▸ behindLast_lastIndex? fun i _ => rfl

theorem behindLast_pragma (k : PragmaKind) (lines : List Text) :
    BehindLast (OpensPragma k.name) (BlockEnds lines) lines
      ((afterBlock? (isPragma k.name) lines).getD 0) := by
  have hiff : (isPragma k.name · = true) = OpensPragma k.name :=
    funext fun l => propext (isPragma_iff k l)
  exact hiff ▸ behindLast_lastIndex? fun i hi => blockEnds_blockLength (lastIndex?_lt hi)

/-- The insertion line is the greatest that the three searches give. It is a line of the document or
the one behind the last, and if it is neither that nor the first, it stands behind a shebang or a
closing line. -/
theorem nextLine_eq_iff (c : Text) :
    let lines := c.lines
    let n := nextLine c
    (∀ m, n = m ↔ ∃ s o e, BehindLast IsShebang (fun i n => n = i + 1) lines s ∧
      BehindLast (OpensPragma PragmaKind.optionsGhc.name) (BlockEnds lines) lines o ∧
      BehindLast (OpensPragma PragmaKind.language.name) (BlockEnds lines) lines e ∧
      m = max (max s o) e) ∧
    n ≤ lines.length ∧
    (0 < n → n < lines.length → LineIs (fun l => IsShebang l ∨ Closes l) lines (n - 1)) := by
  intro lines n
  have hshebang := behindLast_shebang lines
  have hpragma (k : PragmaKind) := behindLast_pragma k lines
  have hunique : ∀ i m n, BlockEnds lines i m → BlockEnds lines i n → m = n :=
    fun _ _ _ => BlockEnds.unique
  refine ⟨fun m => ⟨?_, ?_⟩, lineBehind_le lines, fun hpos hlt => ?_⟩
  · rintro rfl
    exact ⟨_, _, _, hshebang, hpragma .optionsGhc, hpragma .language, rfl⟩
  · rintro ⟨s, o, e, hs, ho, he, rfl⟩
    rw [hs.unique (fun _ _ _ h h' => h.trans h'.symm) hshebang,
      ho.unique hunique (hpragma .optionsGhc), he.unique hunique (hpragma .language)]
    rfl
  · have hmax (s o e : Nat) :
        max (max s o) e = s ∨ max (max s o) e = o ∨ max (max s o) e = e := by omega
    have hblock {P : Text → Prop} (h : BehindLast P (BlockEnds lines) lines n) :
        LineIs (fun l => IsShebang l ∨ Closes l) lines (n - 1) := by
      obtain ⟨i, -, hends⟩ := h.exists_of_pos hpos
      exact (hends.closes hlt).imp fun _ => .inr
    have hn : n = _ ∨ n = _ ∨ n = _ := hmax _ _ _
    rcases hn with hn | hn | hn
    · rw [← hn] at hshebang
      obtain ⟨i, hi, heq⟩ := hshebang.exists_of_pos hpos
      rw [heq]
      exact hi.imp fun _ => .inl
    · exact hblock (hn ▸ hpragma .optionsGhc)
    · exact hblock (hn ▸ hpragma .language)

theorem nextLine_eq_iff_shebang_inside :
    let c : Text := "\x7b-# OPTIONS_GHC\n#!run\r\n -Wall #-\x7d\nmain".toList
    nextLine c = 3 ∧ 0 < nextLine c ∧ nextLine c < c.lines.length ∧
      LineIs (fun l => IsShebang l ∨ Closes l) c.lines 2 ∧
      ∃ s o e, BehindLast IsShebang (fun i n => n = i + 1) c.lines s ∧
        BehindLast (OpensPragma PragmaKind.optionsGhc.name) (BlockEnds c.lines) c.lines o ∧
        BehindLast (OpensPragma PragmaKind.language.name) (BlockEnds c.lines) c.lines e ∧
        max (max s o) e = 3 := by
  intro c
  have hn : nextLine c = 3 := by decide
  have hpos : 0 < nextLine c := by decide
  have hlt : nextLine c < c.lines.length := by decide
  obtain ⟨hiff, -, habove⟩ := nextLine_eq_iff c
  obtain ⟨s, o, e, hs, ho, he, hmax⟩ := (hiff 3).1 hn
  have hline := habove hpos hlt
  rw [hn] at hline
  exact ⟨hn, hpos, hlt, hline, s, o, e, hs, ho, he, hmax.symm⟩

end Insertion
end PragmaAssist
