import PragmaAssist.Text.Basic

/-! Finite sets of names, kept in ascending order of code points, so that two sets with the
same members are equal. -/
namespace PragmaAssist

theorem Text.lt_of_not_lt {a b : Text} (h : ¬ a < b) (hne : a ≠ b) : b < a := by
  rcases Decidable.em (b < a) with hba | hba
  · exact hba
  · exact absurd (List.le_antisymm (List.not_lt.1 hba) (List.not_lt.1 h)) hne

/-- `a` put at its place in an ascending list that may hold it already. -/
def insertName (a : Text) : List Text → List Text
  | [] => [a]
  | b :: r => if a < b then a :: b :: r else if a = b then b :: r else b :: insertName a r

theorem mem_insertName {a x : Text} {l : List Text} : x ∈ insertName a l ↔ x = a ∨ x ∈ l := by
  induction l with
  | nil => simp [insertName]
  | cons b r ih =>
    simp only [insertName]
    split
    · simp
    · split
      · rename_i h
        subst h
        simp
      · simp only [List.mem_cons, ih]
        grind

theorem pairwise_insertName {a : Text} {l : List Text} (h : l.Pairwise (· < ·)) :
    (insertName a l).Pairwise (· < ·) := by
  induction l with
  | nil => simp [insertName]
  | cons b r ih =>
    obtain ⟨hb, hr⟩ := List.pairwise_cons.1 h
    simp only [insertName]
    split
    · rename_i hab
      refine List.pairwise_cons.2 ⟨fun x hx => ?_, h⟩
      rcases List.mem_cons.1 hx with rfl | hx
      · exact hab
      · exact List.lt_trans hab (hb x hx)
    · split
      · exact h
      · rename_i hab hne
        refine List.pairwise_cons.2 ⟨fun x hx => ?_, ih hr⟩
        rcases mem_insertName.1 hx with rfl | hx
        · exact Text.lt_of_not_lt hab hne
        · exact hb x hx

/-- A set of names: its members in ascending order. -/
structure NameSet where
  toList : List Text
  ascending : toList.Pairwise (· < ·)
  deriving DecidableEq

namespace NameSet

def empty : NameSet := ⟨[], .nil⟩

instance : Inhabited NameSet := ⟨empty⟩

instance : Membership Text NameSet := ⟨fun s a => a ∈ s.toList⟩

instance (a : Text) (s : NameSet) : Decidable (a ∈ s) :=
  inferInstanceAs (Decidable (a ∈ s.toList))

def insert (s : NameSet) (a : Text) : NameSet :=
  ⟨insertName a s.toList, pairwise_insertName s.ascending⟩

def erase (s : NameSet) (a : Text) : NameSet :=
  ⟨s.toList.filter (· ≠ a), s.ascending.filter _⟩

def ofList (l : List Text) : NameSet := l.foldl insert empty

def size (s : NameSet) : Nat := s.toList.length

theorem ext {s t : NameSet} (h : ∀ a, a ∈ s ↔ a ∈ t) : s = t := by
  obtain ⟨l, hl⟩ := s
  obtain ⟨m, hm⟩ := t
  have hnodup {k : List Text} (hk : k.Pairwise (· < ·)) : k.Nodup :=
    hk.imp fun hab => fun hne => List.lt_irrefl _ (hne ▸ hab)
  have hperm : l.Perm m := (List.perm_ext_iff_of_nodup (hnodup hl) (hnodup hm)).2 h
  obtain rfl : l = m :=
    hperm.eq_of_pairwise (fun a b _ _ hab hba => absurd hba (List.lt_asymm hab)) hl hm
  rfl

@[simp] theorem not_mem_empty (a : Text) : a ∉ empty := List.not_mem_nil

@[simp] theorem mem_insert {s : NameSet} {a x : Text} : x ∈ s.insert a ↔ x = a ∨ x ∈ s :=
  mem_insertName

@[simp] theorem mem_erase {s : NameSet} {a x : Text} : x ∈ s.erase a ↔ x ∈ s ∧ x ≠ a := by
  change x ∈ s.toList.filter (· ≠ a) ↔ x ∈ s.toList ∧ x ≠ a
  simp

theorem mem_foldl_insert {l : List Text} {s : NameSet} {x : Text} :
    x ∈ l.foldl insert s ↔ x ∈ l ∨ x ∈ s := by
  induction l generalizing s with
  | nil => simp
  | cons a r ih =>
    rw [List.foldl_cons, ih, mem_insert, List.mem_cons]
    grind

@[simp] theorem mem_ofList {l : List Text} {x : Text} : x ∈ ofList l ↔ x ∈ l := by
  simp [ofList, mem_foldl_insert]

end NameSet
end PragmaAssist
