import PragmaAssist.Proofs.Completion.RankOrder

/-! Where the one pass of a match finds the pattern's characters. It takes the earliest place for each
of them, and whatever other places there are come no earlier, so it fails only where there are none. -/
namespace PragmaAssist
namespace Ranking
variable {a c : Char} {p t : Text} {n : Nat} {ns first : List Nat}

/-- The characters of the pattern stand at these places of the text, which increase. -/
structure StandsAt (ns : List Nat) (p t : Text) : Prop where
  increasing : ns.Pairwise (· < ·)
  chars : ns.map (t[·]?) = p.map some

def shift (ns : List Nat) : List Nat := ns.map (· + 1)

/-- The places that the pass over the text takes, if it comes to the end of the pattern. -/
def placesTaken? : (pattern text : Text) → Option (List Nat)
  | [], _ => some []
  | _ :: _, [] => none
  | a :: p, c :: t =>
    if a = c then (placesTaken? p t).map fun ns => 0 :: shift ns
    else (placesTaken? (a :: p) t).map shift

theorem inOrder_eq_isSome (p t : Text) : inOrder p t = (placesTaken? p t).isSome := by
  fun_induction inOrder p t with
  | case1 t => rw [placesTaken?, Option.isSome_some]
  | case2 a p => rfl
  | case3 a p t ih => rw [placesTaken?, if_pos rfl, Option.isSome_map, ih]
  | case4 a p c t hac ih => rw [placesTaken?, if_neg hac, Option.isSome_map, ih]

theorem pairwise_shift : (shift ns).Pairwise (· < ·) ↔ ns.Pairwise (· < ·) := by
  simp [shift, List.pairwise_map]

theorem map_shift (ns : List Nat) (c : Char) (t : Text) :
    (shift ns).map ((c :: t)[·]?) = ns.map (t[·]?) := by
  simp [shift, Function.comp_def]

theorem exists_shift (h : ∀ n ∈ ns, 0 < n) : ∃ ms, ns = shift ms := by
  refine ⟨ns.map (· - 1), ?_⟩
  rw [shift, List.map_map]
  exact ((List.map_congr_left fun n hn => Nat.sub_add_cancel (h n hn)).trans (List.map_id ns)).symm

theorem forall₂_shift {ms : List Nat} (h : List.Forall₂ (· ≤ ·) ms ns) :
    List.Forall₂ (· ≤ ·) (shift ms) (shift ns) := by
  induction h with
  | nil => exact .nil
  | cons hle h ih => exact .cons (Nat.succ_le_succ hle) ih

theorem standsAt_nil (t : Text) : StandsAt [] [] t := ⟨.nil, rfl⟩

theorem standsAt_shift : StandsAt (shift ns) p (c :: t) ↔ StandsAt ns p t := by
  constructor
  · exact fun h => ⟨pairwise_shift.1 h.increasing, (map_shift ns c t).symm.trans h.chars⟩
  · exact fun h => ⟨pairwise_shift.2 h.increasing, (map_shift ns c t).trans h.chars⟩

theorem StandsAt.cons (h : StandsAt ns p t) (c : Char) :
    StandsAt (0 :: shift ns) (c :: p) (c :: t) := by
  refine ⟨List.pairwise_cons.2 ⟨fun m hm => ?_, pairwise_shift.2 h.increasing⟩, ?_⟩
  · obtain ⟨m, -, rfl⟩ := List.mem_map.1 hm
    exact Nat.succ_pos m
  · rw [List.map_cons, List.map_cons, map_shift, h.chars]
    rfl

theorem StandsAt.tail (h : StandsAt (n :: ns) (a :: p) t) : StandsAt ns p t :=
  ⟨(List.pairwise_cons.1 h.increasing).2, (List.cons.inj h.chars).2⟩

theorem StandsAt.exists_cons (h : StandsAt ns (a :: p) t) : ∃ m ms, ns = m :: ms := by
  refine List.exists_cons_of_ne_nil ?_
  rintro rfl
  exact List.cons_ne_nil _ _ h.chars.symm

theorem StandsAt.behind_or_on (h : StandsAt ns (a :: p) (c :: t)) :
    (∃ ms, ns = shift ms ∧ StandsAt ms (a :: p) t) ∨
      a = c ∧ ∃ ms, ns = 0 :: shift ms ∧ StandsAt ms p t := by
  obtain ⟨n, ns, rfl⟩ := h.exists_cons
  obtain ⟨hlt, -⟩ := List.pairwise_cons.1 h.increasing
  cases n with
  | zero =>
    obtain ⟨ms, rfl⟩ := exists_shift hlt
    have hac : some c = some a := (List.cons.inj h.chars).1
    exact .inr ⟨(Option.some.inj hac).symm, ms, rfl, standsAt_shift.1 h.tail⟩
  | succ n =>
    have hpos : ∀ m ∈ (n + 1) :: ns, 0 < m :=
      List.forall_mem_cons.2 ⟨Nat.succ_pos n, fun m hm => Nat.zero_lt_of_lt (hlt m hm)⟩
    obtain ⟨ms, hms⟩ := exists_shift hpos
    rw [hms] at h
    exact .inl ⟨ms, hms, standsAt_shift.1 h⟩

theorem standsAt_placesTaken (h : placesTaken? p t = some first) : StandsAt first p t := by
  fun_induction placesTaken? p t generalizing first with
  | case1 t =>
    obtain rfl := Option.some.inj h
    exact standsAt_nil t
  | case2 a p => cases h
  | case3 p a t ih =>
    obtain ⟨ns, hns, rfl⟩ := Option.map_eq_some_iff.1 h
    exact (ih hns).cons a
  | case4 a p c t hac ih =>
    obtain ⟨ns, hns, rfl⟩ := Option.map_eq_some_iff.1 h
    exact standsAt_shift.2 (ih hns)

/-- Wherever else the pattern stands in the text, the pass comes to its end and has taken places that
are no later, one by one. -/
theorem StandsAt.placesTaken_le (h : StandsAt ns p t) :
    ∃ first, placesTaken? p t = some first ∧ List.Forall₂ (· ≤ ·) first ns := by
  fun_induction placesTaken? p t generalizing ns with
  | case1 t =>
    obtain rfl := List.map_eq_nil_iff.1 h.chars
    exact ⟨[], rfl, .nil⟩
  | case2 a p =>
    obtain ⟨m, ms, rfl⟩ := h.exists_cons
    cases (List.cons.inj h.chars).1
  | case3 p a t ih =>
    rcases h.behind_or_on with ⟨ms, rfl, hms⟩ | ⟨-, ms, rfl, hms⟩
    · -- The first place may be given up for the earlier one, whatever the others are.
      obtain ⟨m, ms, rfl⟩ := hms.exists_cons
      obtain ⟨first, hfirst, hle⟩ := ih hms.tail
      exact ⟨_, by rw [hfirst]; rfl, .cons (Nat.zero_le _) (forall₂_shift hle)⟩
    · obtain ⟨first, hfirst, hle⟩ := ih hms
      exact ⟨_, by rw [hfirst]; rfl, .cons (Nat.le_refl 0) (forall₂_shift hle)⟩
  | case4 a p c t hac ih =>
    rcases h.behind_or_on with ⟨ms, rfl, hms⟩ | ⟨rfl, -⟩
    · obtain ⟨first, hfirst, hle⟩ := ih hms
      exact ⟨_, by rw [hfirst]; rfl, forall₂_shift hle⟩
    · exact absurd rfl hac

/-- A pattern matches just if its characters stand in the text at places that increase, letter case
apart; so it is a subsequence of it. The one pass takes the earliest of all such places. -/
theorem isMatch_iff_standsAt (p t : Text) :
    (isMatch p t = true ↔ ∃ ns, StandsAt ns p.lower t.lower) ∧
      (isMatch p t = true ↔ p.lower.Sublist t.lower) ∧
      isMatch p t = (placesTaken? p.lower t.lower).isSome ∧
      (∀ first, placesTaken? p.lower t.lower = some first → StandsAt first p.lower t.lower) ∧
      ∀ ns, StandsAt ns p.lower t.lower →
        ∃ first, placesTaken? p.lower t.lower = some first ∧ List.Forall₂ (· ≤ ·) first ns := by
  have hpass : isMatch p t = (placesTaken? p.lower t.lower).isSome := inOrder_eq_isSome _ _
  refine ⟨⟨fun h => ?_, fun ⟨ns, h⟩ => ?_⟩, isMatch_iff, hpass, fun first => standsAt_placesTaken,
    fun ns h => h.placesTaken_le⟩
  · obtain ⟨first, hfirst⟩ := Option.isSome_iff_exists.1 (hpass ▸ h)
    exact ⟨first, standsAt_placesTaken hfirst⟩
  · obtain ⟨first, hfirst, -⟩ := h.placesTaken_le
    rw [hpass, hfirst, Option.isSome_some]

end Ranking
end PragmaAssist
