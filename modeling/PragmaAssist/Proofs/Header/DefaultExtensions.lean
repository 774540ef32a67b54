import PragmaAssist.Proofs.Header.LayoutFlags

/-! Extensions that are on by default. They count like extension pragmas above the header, and what
the header says about them overrides both in the same way. -/
namespace PragmaAssist
open Header

namespace Mention
variable {known : List Text} {x y : Text}

/-- The name switches a known extension off: it is no extension itself, and `No` stands before one. -/
def Negates (known : List Text) (name : Text) : Prop :=
  name ∉ known ∧ ∃ y ∈ known, name = Catalog.negate y

theorem ofName_of_mem (hx : x ∈ known) : ofName known x = .on x := by
  rw [ofName]
  exact if_neg fun h => h.1 hx

theorem ofName_negate (hy : y ∈ known) (hno : Catalog.negate y ∉ known) :
    ofName known (Catalog.negate y) = .off y := by
  have hafter : (Catalog.negate y).after? ['N', 'o'] = some y := Text.after?_append _ y
  simp only [ofName, hafter, Option.getD_some]
  exact if_pos ⟨hno, hy⟩

/-- The empty name would count as negated by every name that does not start with `No`. -/
theorem ofName_of_not_negates (hknown : [] ∉ known) (hx : ¬ Negates known x) :
    ofName known x = .on x := by
  rw [ofName]
  refine if_neg fun h => ?_
  obtain ⟨hnot, hneg⟩ := h
  cases hafter : x.after? ['N', 'o'] with
  | none =>
    rw [hafter, Option.getD_none] at hneg
    exact hknown hneg
  | some y =>
    rw [hafter, Option.getD_some] at hneg
    exact hx ⟨hnot, y, hneg, Text.after?_eq_some_iff.1 hafter⟩

end Mention

namespace Flags
variable {known : List Text}

theorem apply_on_start (x : Text) (defaults : NameSet) :
    (Mention.on x).apply (start defaults) = start (defaults.insert x) := rfl

theorem foldl_apply_on_start (xs : List Text) (defaults : NameSet) :
    (xs.map Mention.on).foldl Mention.apply (start defaults) =
      start (xs.foldl NameSet.insert defaults) := by
  induction xs generalizing defaults with
  | nil => rfl
  | cons x xs ih => rw [List.map_cons, List.foldl_cons, apply_on_start, ih, List.foldl_cons]

theorem parse?_map_start (c : Text) (defaults others : NameSet) :
    (parse? c known defaults).map (fun _ =>
        (mentions known (scan c.lines).pragmas).foldl Mention.apply (start others)) =
      parse? c known others := by
  rw [parse?_eq_ofScan?, parse?_eq_ofScan?, ofScan?, ofScan?]
  cases (scan c.lines).ending <;> rfl

theorem parse?_renderAll_on (hknown : [] ∉ known) {xs : List Text}
    (hxs : ∀ x ∈ xs, Writable x ∧ ¬ Mention.Negates known x) (defaults : NameSet) (c : Text) :
    parse? (renderAll xs ++ c) known defaults =
      parse? c known (xs.foldl NameSet.insert defaults) := by
  have hon : xs.map (Mention.ofName known) = xs.map Mention.on :=
    List.map_congr_left fun x hx => Mention.ofName_of_not_negates hknown (hxs x hx).2
  rw [parse?_renderAll known defaults fun x hx => (hxs x hx).1, hon, foldl_apply_on_start,
    parse?_map_start]

/-- A pragma above the header is one more default extension, and the default extensions all are
pragmas above it. -/
theorem parse?_default_extensions (hknown : [] ∉ known) (c : Text) :
    (∀ (defaults : NameSet) (x : Text), Writable x → ¬ Mention.Negates known x →
      parse? ((⟨.language, x⟩ : Pragma).render ++ c) known defaults =
        parse? c known (defaults.insert x)) ∧
      ∀ xs : List Text, (∀ x ∈ xs, Writable x ∧ ¬ Mention.Negates known x) →
        parse? (renderAll xs ++ c) known .empty = parse? c known (.ofList xs) := by
  refine ⟨fun defaults x hx hnegates => ?_, fun xs hxs => parse?_renderAll_on hknown hxs .empty c⟩
  have hone : renderAll [x] = (⟨.language, x⟩ : Pragma).render := List.flatMap_singleton ..
  rw [← hone]
  exact parse?_renderAll_on hknown (List.forall_mem_singleton.2 ⟨hx, hnegates⟩) defaults c

theorem parse?_default_extensions_shebang :
    let known := ["A".toList, "NoA".toList, "B".toList]
    let x := "NoA".toList
    let defaults := NameSet.ofList ["B".toList]
    let c := "#!run\n{-# LANGUAGE NoB #-}\nmain".toList
    [] ∉ known ∧ Writable x ∧ ¬ Mention.Negates known x ∧
      parse? ((⟨.language, x⟩ : Pragma).render ++ c) known defaults =
        some ⟨.ofList [x], .ofList ["B".toList]⟩ ∧
      parse? (renderAll [x, "B".toList] ++ c) known .empty =
        some ⟨.ofList [x], .ofList ["B".toList]⟩ := by
  intro known x defaults c
  have hknown : [] ∉ known := by decide
  have hx : Writable x := by decide
  have hxnot : ¬ Mention.Negates known x := fun h => h.1 (by decide)
  have hb : Writable "B".toList ∧ ¬ Mention.Negates known "B".toList :=
    ⟨by decide, fun h => h.1 (by decide)⟩
  obtain ⟨hone, hall⟩ := parse?_default_extensions hknown c
  refine ⟨hknown, hx, hxnot, (hone defaults x hx hxnot).trans ?_, (hall [x, "B".toList] ?_).trans ?_⟩
  · decide +kernel
  · exact List.forall_mem_cons.2 ⟨⟨hx, hxnot⟩, List.forall_mem_singleton.2 hb⟩
  · decide +kernel

end Flags
end PragmaAssist
