import PragmaAssist.Proofs.Text.LineBreaks
import PragmaAssist.Workspace.Documents
import Mathlib.Data.List.Infix
import Mathlib.Data.List.TakeWhile

/-! The name at the end of a text. The search takes the first run of name characters that comes to
the end, and on one line that run is the longest. -/
namespace PragmaAssist
namespace Text

/-- The longest piece of name characters at the end of a text. -/
structure IsLastName (t w : Text) : Prop where
  suffix : w <:+ t
  names : ∀ c ∈ w, isNameChar c = true
  longest : ∀ v, v <:+ t → (∀ c ∈ v, isNameChar c = true) → v.length ≤ w.length

namespace IsLastName
variable {t e w u : Text}

theorem unique (h : IsLastName t w) (h' : IsLastName t u) : w = u := by
  have hle : w.length ≤ u.length := h'.longest w h.suffix h.names
  have hge : u.length ≤ w.length := h.longest u h'.suffix h'.names
  exact (List.suffix_of_suffix_length_le h.suffix h'.suffix hle).eq_of_length (hle.antisymm hge)

theorem of_forall (h : ∀ c ∈ t, isNameChar c = true) : IsLastName t t :=
  ⟨List.suffix_refl t, h, fun _ hv _ => hv.length_le⟩

theorem cons (h : IsLastName t w) {c : Char} (hc : ¬ ∀ a ∈ c :: t, isNameChar a = true) :
    IsLastName (c :: t) w := by
  refine ⟨h.suffix.trans (List.suffix_cons c t), h.names, fun v hv hnames => ?_⟩
  rcases List.suffix_cons_iff.1 hv with rfl | hv
  · exact absurd hnames hc
  · exact h.longest v hv hnames

theorem not_isNameChar_before (h : IsLastName t w) {r : Text} {c : Char} (ht : t = r ++ c :: w) :
    isNameChar c = false := by
  cases hc : isNameChar c with
  | false => rfl
  | true =>
    have hle := h.longest (c :: w) ⟨r, ht.symm⟩ (List.forall_mem_cons.2 ⟨hc, h.names⟩)
    exact absurd hle (Nat.not_succ_le_self w.length)

/-- A name behind a text joins the one at its end. -/
theorem append_names (h : IsLastName t w) (he : ∀ c ∈ e, isNameChar c = true) :
    IsLastName (t ++ e) (w ++ e) := by
  obtain ⟨r, rfl⟩ := h.suffix
  refine ⟨⟨r, (List.append_assoc r w e).symm⟩, List.forall_mem_append.2 ⟨h.names, he⟩, ?_⟩
  intro v hv hnames
  rcases List.suffix_or_suffix_of_suffix hv (List.suffix_append (r ++ w) e) with hshort | ⟨v', rfl⟩
  · exact hshort.length_le.trans (List.suffix_append w e).length_le
  · have hv' := h.longest v' ((List.suffix_append_inj_of_length_eq rfl).1 hv).1 fun c hc =>
      hnames c (List.mem_append_left e hc)
    rw [List.length_append, List.length_append]
    exact Nat.add_le_add_right hv' e.length

theorem of_append (h : IsLastName (t ++ e) w) (he : ∃ c ∈ e, isNameChar c = false) :
    IsLastName e w := by
  refine ⟨?_, h.names, fun v hv => h.longest v (hv.trans (List.suffix_append t e))⟩
  rcases List.suffix_or_suffix_of_suffix h.suffix (List.suffix_append t e) with hw | hlong
  · exact hw
  · obtain ⟨c, hc, hno⟩ := he
    have hyes := h.names c (hlong.subset hc)
    rw [hno] at hyes
    cases hyes

theorem front_iff (h : IsLastName (t ++ e) w) (ht : IsLastName t u) :
    IsLastName t w ↔ e = [] ∨ (∃ c ∈ e, isNameChar c = false) ∧
      ∃ v, IsLastName t v ∧ IsLastName e v := by
  by_cases he : ∃ c ∈ e, isNameChar c = false
  · have hw : IsLastName e w := h.of_append he
    constructor
    · exact fun htw => .inr ⟨he, w, htw, hw⟩
    · rintro (rfl | ⟨-, v, htv, hev⟩)
      · exact absurd he (by simp)
      · exact hev.unique hw ▸ htv
  · have hnames : ∀ c ∈ e, isNameChar c = true := by simpa using he
    have hw : w = u ++ e := h.unique (ht.append_names hnames)
    rw [or_iff_left fun h => he h.1]
    constructor
    · intro htw
      exact List.self_eq_append_right.1 ((ht.unique htw).trans hw)
    · rintro rfl
      rwa [hw, List.append_nil]

end IsLastName

/-- On one line the search goes on to a place from which all is name. -/
theorem isLastName_lastName {t : Text} (h : t.Unbroken) : IsLastName t t.lastName := by
  fun_induction lastName t with
  | case1 => exact .of_forall (List.forall_mem_nil _)
  | case2 c r hend =>
    have hrest : (c :: r).dropWhile isNameChar = [] := by
      unfold isAtEnd at hend
      split at hend
      · assumption
      · -- A line feed at the end would be one in the line.
        rename_i hfeed
        have hmem : '\n' ∈ c :: r := (List.dropWhile_suffix isNameChar).subset (by simp [hfeed])
        exact absurd (h '\n' hmem) (by decide)
      · cases hend
    have hall := List.dropWhile_eq_nil_iff.1 hrest
    rw [List.takeWhile_eq_self_iff.2 hall]
    exact .of_forall hall
  | case3 c r hend ih =>
    refine (ih fun a ha => h a (List.mem_cons_of_mem c ha)).cons fun hall => hend ?_
    rw [List.dropWhile_eq_nil_iff.2 hall]
    rfl

/-- Before a line feed at the very end the search stops, so that a broken text has another name. -/
example : lastName "a-b\n".toList = "b".toList := by decide

end Text
end PragmaAssist
