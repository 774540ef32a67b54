import PragmaAssist.Text.Lowercase

/-! Lower-casing against the letters of ASCII. Two other characters become ASCII letters, and a mark
that these two cannot make starts a lower-cased text just if it does so up to ASCII case. -/
namespace PragmaAssist

theorem forall_ascii {P : Char → Prop} (h : ∀ n < 128, P (Char.ofNat n)) {c : Char}
    (hc : c.toNat < 128) : P c := by
  have hn := h c.toNat hc
  rwa [Char.ofNat_toNat] at hn

theorem toLower_of_not_ascii {c : Char} (h : 128 ≤ c.toNat) : c.toLower = c := by
  unfold Char.toLower
  refine dif_neg fun hc => ?_
  have hZ : c.toNat ≤ 90 := UInt32.le_iff_toNat_le.1 hc.2
  omega

theorem eq_of_toLower_eq {c a : Char} (ha : a.isLower = false) (h : c.toLower = a) : c = a := by
  subst h
  by_cases hc : c.toNat < 128
  · exact forall_ascii (P := fun c => c.toLower.isLower = false → c = c.toLower)
      (by decide +kernel) hc ha
  · exact (toLower_of_not_ascii (by omega)).symm

def Text.NoSmall (t : Text) : Prop := ∀ c ∈ t, c.isLower = false

instance (t : Text) : Decidable t.NoSmall := List.decidableBAll _ t

theorem eq_of_map_toLower_eq {t mark : Text} (hmark : mark.NoSmall)
    (h : t.map Char.toLower = mark) : t = mark := by
  induction t generalizing mark with
  | nil => exact h
  | cons c t ih =>
    subst h
    have hhead : c = c.toLower := eq_of_toLower_eq (hmark _ List.mem_cons_self) rfl
    have htail : t = t.map Char.toLower := ih (fun a ha => hmark a (List.mem_cons_of_mem _ ha)) rfl
    rw [List.map_cons, ← hhead, ← htail]

theorem lowerSimple_of_ascii {c : Char} (h : c.toNat < 128) : lowerSimple c = c.toLower :=
  forall_ascii (P := fun c => lowerSimple c = c.toLower) (by decide +kernel) h

theorem ascii_of_toLower {c : Char} (h : c.toLower.toNat < 128) : c.toNat < 128 := by
  refine Nat.lt_of_not_le fun hc => ?_
  rw [toLower_of_not_ascii hc] at h
  omega

theorem toLower_ascii {c : Char} (h : c.toNat < 128) : c.toLower.toNat < 128 :=
  forall_ascii (P := fun c => c.toLower.toNat < 128) (by decide +kernel) h

def Text.Ascii (t : Text) : Prop := ∀ c ∈ t, c.toNat < 128

instance (t : Text) : Decidable t.Ascii := List.decidableBAll _ t

theorem Text.Ascii.of_map_toLower_eq {s p : Text} (hp : p.Ascii)
    (h : s.map Char.toLower = p.map Char.toLower) : s.Ascii := by
  intro c hc
  have hlower : c.toLower ∈ p.map Char.toLower := h ▸ List.mem_map_of_mem hc
  obtain ⟨a, ha, hac⟩ := List.mem_map.1 hlower
  exact ascii_of_toLower (hac ▸ toLower_ascii (hp a ha))

theorem exists_lowerFrom_cons (before : Bool) (c : Char) (t : Text) :
    ∃ u before', lowerFrom before (c :: t) = u ++ lowerFrom before' t := by
  rw [lowerFrom]
  split
  · exact ⟨[_], true, rfl⟩
  · exact ⟨lowerChar c, _, rfl⟩

theorem exists_lowerFrom_cons_ascii (before : Bool) {c : Char} (hc : c.toNat < 128) (t : Text) :
    ∃ before', lowerFrom before (c :: t) = c.toLower :: lowerFrom before' t := by
  have hsigma : c ≠ 'Σ' := by
    rintro rfl
    exact absurd hc (by decide)
  have hdot : c ≠ 'İ' := by
    rintro rfl
    exact absurd hc (by decide)
  rw [lowerFrom, if_neg hsigma, lowerChar, if_neg hdot, lowerSimple_of_ascii hc]
  exact ⟨_, rfl⟩

theorem exists_lowerFrom_append_ascii {p : Text} (hp : p.Ascii) (before : Bool) (q : Text) :
    ∃ before', lowerFrom before (p ++ q) = p.map Char.toLower ++ lowerFrom before' q := by
  induction p generalizing before with
  | nil => exact ⟨before, rfl⟩
  | cons c p ih =>
    obtain ⟨hc, hp⟩ := List.forall_mem_cons.1 hp
    obtain ⟨next, hnext⟩ := exists_lowerFrom_cons_ascii before hc (p ++ q)
    obtain ⟨last, hlast⟩ := ih hp next
    exact ⟨last, by rw [List.cons_append, hnext, hlast]; rfl⟩

theorem Text.Ascii.exists_lower_append {p : Text} (hp : p.Ascii) (q : Text) :
    ∃ q', (p ++ q).lower = p.map Char.toLower ++ q' := by
  obtain ⟨before, h⟩ := exists_lowerFrom_append_ascii hp false q
  exact ⟨_, h⟩

theorem Text.Ascii.lower_eq {p : Text} (hp : p.Ascii) : p.lower = p.map Char.toLower := by
  obtain ⟨before, h⟩ := exists_lowerFrom_append_ascii hp false []
  simpa [Text.lower, lowerFrom] using h

/-- The characters of ASCII stay in their order, whatever the others become. -/
theorem sublist_lowerFrom {s t : Text} (hs : s.Ascii) (h : s.Sublist t) (before : Bool) :
    (s.map Char.toLower).Sublist (lowerFrom before t) := by
  induction h generalizing before with
  | slnil => exact List.nil_sublist _
  | cons c h ih =>
    obtain ⟨u, next, hnext⟩ := exists_lowerFrom_cons before c _
    rw [hnext]
    exact (ih hs next).trans (List.sublist_append_right u _)
  | cons_cons c h ih =>
    obtain ⟨hc, hs⟩ := List.forall_mem_cons.1 hs
    obtain ⟨next, hnext⟩ := exists_lowerFrom_cons_ascii before hc _
    rw [hnext]
    exact (ih hs next).cons_cons c.toLower

/-- Behind ASCII one range alone leads into it, and that has one character, the Kelvin sign. -/
theorem lowerRanges_outside_ascii : ∀ r ∈ lowerRanges, 128 ≤ r.last →
    r.first = 0x212A ∧ r.last = 0x212A ∨
      128 ≤ r.first + r.shift ∧
        (r.last + r.shift < 0xD800 ∨ 0xDFFF < r.first + r.shift ∧ r.last + r.shift < 0x110000) := by
  decide +kernel

theorem eq_kelvin_of_lowerSimple {c : Char} (hc : 128 ≤ c.toNat) (h : (lowerSimple c).toNat < 128) :
    c = '\u212A' := by
  unfold lowerSimple at h
  cases hfind : lowerRanges.find? fun r => c.toNat ≤ r.last with
  | none =>
    simp only [hfind, Option.bind_none] at h
    omega
  | some r =>
    have hlast : c.toNat ≤ r.last := by simpa using List.find?_some hfind
    have hr := lowerRanges_outside_ascii r (List.mem_of_find?_eq_some hfind) (by omega)
    simp only [hfind, Option.bind_some, CaseRange.lower?] at h
    by_cases hin : r.first ≤ c.toNat ∧ c.toNat ≤ r.last ∧ (c.toNat - r.first) % r.stride = 0
    · rw [if_pos hin] at h
      rcases hr with ⟨hfirst, hlast⟩ | ⟨hlow, hvalid⟩
      · have hkelvin : c.toNat = 0x212A := by omega
        rw [← Char.ofNat_toNat c, hkelvin]
      · have hn : ((c.toNat : Int) + r.shift).toNat.isValidChar := by
          unfold Nat.isValidChar
          omega
        have hval : (Char.ofNat (c.toNat + r.shift).toNat).toNat = (c.toNat + r.shift).toNat := by
          rw [Char.ofNat, dif_pos hn]
          rfl
        simp only [hval] at h
        omega
    · rw [if_neg hin] at h
      simp only at h
      omega

theorem lowerSimple_eq_iff {c a : Char} (ha : a.toNat < 128) (hk : a ≠ 'k') :
    lowerSimple c = a ↔ c.toLower = a := by
  by_cases hc : c.toNat < 128
  · rw [lowerSimple_of_ascii hc]
  · have hc : 128 ≤ c.toNat := by omega
    rw [toLower_of_not_ascii hc]
    constructor
    · intro h
      obtain rfl := eq_kelvin_of_lowerSimple hc (h ▸ ha)
      exact absurd h.symm hk
    · intro h
      subst h
      omega

namespace Text

/-- The other two cannot make a part of the mark: the Kelvin sign gives a `k`, and the dotted capital
I an `i` with a dot behind it. -/
structure CaseMark (mark : Text) : Prop where
  ascii : ∀ a ∈ mark, a.toNat < 128 ∧ a ≠ 'k'
  last_ne : mark.getLast? ≠ some 'i'

instance (mark : Text) : Decidable mark.CaseMark :=
  have := List.decidableBAll (fun a : Char => a.toNat < 128 ∧ a ≠ 'k') mark
  decidable_of_iff ((∀ a ∈ mark, a.toNat < 128 ∧ a ≠ 'k') ∧ mark.getLast? ≠ some 'i')
    ⟨fun h => ⟨h.1, h.2⟩, fun h => ⟨h.ascii, h.last_ne⟩⟩

theorem CaseMark.tail {a : Char} {mark : Text} (h : CaseMark (a :: mark)) : CaseMark mark := by
  refine ⟨fun b hb => h.ascii b (List.mem_cons_of_mem a hb), fun hlast => h.last_ne ?_⟩
  cases mark with
  | nil => simp at hlast
  | cons b mark => simpa using hlast

theorem CaseMark.head_ne {a c : Char} {mark : Text} (h : CaseMark (a :: mark))
    (hc : 128 ≤ c.toNat) : a ≠ c := by
  intro hac
  subst hac
  have ha := (h.ascii a List.mem_cons_self).1
  omega

theorem prefix_lowerFrom_iff {mark : Text} (h : CaseMark mark) (before : Bool) (t : Text) :
    mark <+: lowerFrom before t ↔ (t.take mark.length).map Char.toLower = mark := by
  induction mark generalizing before t with
  | nil => simp
  | cons a mark ih =>
    cases t with
    | nil => simp [lowerFrom]
    | cons c t =>
      rw [lowerFrom, List.length_cons, List.take_succ_cons, List.map_cons, List.cons.injEq]
      by_cases hsigma : c = 'Σ'
      · -- Neither the capital nor a small sigma is in ASCII.
        subst hsigma
        have hcapital : ('Σ'.toLower = a) = False := by
          simpa using (h.head_ne (c := 'Σ'.toLower) (by decide)).symm
        rw [if_pos rfl, List.cons_prefix_cons, hcapital]
        split
        · simp [h.head_ne (c := 'ς') (by decide)]
        · simp [h.head_ne (c := 'σ') (by decide)]
      rw [if_neg hsigma, lowerChar]
      by_cases hdot : c = 'İ'
      · -- Its `i` would be the last character of the mark, which has no dot.
        subst hdot
        have hcapital : ('İ'.toLower = a) = False := by
          simpa using (h.head_ne (c := 'İ'.toLower) (by decide)).symm
        rw [if_pos rfl, List.cons_append, List.cons_prefix_cons, hcapital]
        cases mark with
        | nil => simpa using h.last_ne
        | cons b mark => simp [List.cons_prefix_cons, h.tail.head_ne (c := '\u0307') (by decide)]
      · obtain ⟨ha, hk⟩ := h.ascii a List.mem_cons_self
        rw [if_neg hdot, List.singleton_append, List.cons_prefix_cons, ih h.tail,
          ← lowerSimple_eq_iff ha hk, eq_comm]

theorem startsWith_lower_iff {mark : Text} (h : CaseMark mark) (t : Text) :
    t.lower.startsWith mark = true ↔ (t.take mark.length).map Char.toLower = mark :=
  startsWith_iff.trans (prefix_lowerFrom_iff h false t)

end Text
end PragmaAssist
