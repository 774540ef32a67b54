import PragmaAssist.Proofs.Header.DefaultExtensions

/-! The names that completion offers in an extension pragma. The header's reader takes each of them
for what it says: an extension that is on, or one that is off. -/
namespace PragmaAssist

namespace Catalog
variable {c : Catalog} {m x : Text}

/-- Every extension fits in a pragma, and none is the negation of another. -/
structure Legible (c : Catalog) : Prop where
  writable : ∀ x ∈ c.extensions, Writable x
  negate_not_mem : ∀ x ∈ c.extensions, negate x ∉ c.extensions

theorem Legible.nil_not_mem (h : c.Legible) : [] ∉ c.extensions := fun hnil =>
  (h.writable [] hnil).ne_nil rfl

theorem mem_pragmaNames : m ∈ c.pragmaNames ↔
    m ∈ c.extensions ∨ (∃ x ∈ c.extensions, m = negate x) ∨ m ∈ Builtin.permanent := by
  rw [pragmaNames, List.mem_append, List.mem_flatMap]
  constructor
  · rintro (⟨x, hx, hm⟩ | hm)
    · rcases (by simpa using hm : m = x ∨ m = negate x) with rfl | rfl
      · exact .inl hx
      · exact .inr (.inl ⟨x, hx, rfl⟩)
    · exact .inr (.inr hm)
  · rintro (hm | ⟨x, hx, rfl⟩ | hm)
    · exact .inl ⟨m, hm, List.mem_cons_self⟩
    · exact .inl ⟨x, hx, by simp⟩
    · exact .inr hm

theorem writable_permanent : ∀ m ∈ Builtin.permanent, Writable m := by decide +kernel

theorem Legible.writable_pragmaName (h : c.Legible) (hm : m ∈ c.pragmaNames) : Writable m := by
  rcases mem_pragmaNames.1 hm with hm | ⟨x, hx, rfl⟩ | hm
  · exact h.writable m hm
  · exact (h.writable x hx).negate
  · exact writable_permanent m hm

end Catalog

namespace Flags
variable {known : List Text} {c : Catalog} {m : Text}

theorem parse?_render (hm : Writable m) :
    parse? (⟨.language, m⟩ : Pragma).render known .empty =
      some ((Mention.ofName known m).apply (start .empty)) := by
  have hone : renderAll [m] ++ [] = (⟨.language, m⟩ : Pragma).render := by simp [renderAll]
  rw [← hone, parse?_renderAll known .empty (List.forall_mem_singleton.2 hm)]
  rfl

/-- Every offered name switches on or off what it names. -/
theorem parse?_offered (h : c.Legible) (hm : m ∈ c.pragmaNames) :
    let flags? := parse? (⟨.language, m⟩ : Pragma).render c.extensions .empty
    flags? ≠ none ∧
      (m ∈ c.extensions → flags? = some ⟨.ofList [m], .empty⟩) ∧
      (∀ x ∈ c.extensions, m = Catalog.negate x → flags? = some ⟨.empty, .ofList [x]⟩) ∧
      (m ∈ Builtin.permanent → m ∉ c.extensions → (∀ x ∈ c.extensions, m ≠ Catalog.negate x) →
        flags? = some ⟨.ofList [m], .empty⟩) := by
  intro flags?
  have hflags : flags? = some ((Mention.ofName c.extensions m).apply (start .empty)) :=
    parse?_render (h.writable_pragmaName hm)
  rw [hflags]
  refine ⟨Option.some_ne_none _, fun hx => ?_, fun x hx hmx => ?_, fun _ _ hneg => ?_⟩
  · rw [Mention.ofName_of_mem hx]
    rfl
  · subst hmx
    rw [Mention.ofName_negate hx (h.negate_not_mem x hx)]
    rfl
  · have hnegates : ¬ Mention.Negates c.extensions m := fun ⟨_, x, hx, hmx⟩ => hneg x hx hmx
    rw [Mention.ofName_of_not_negates h.nil_not_mem hnegates]
    rfl

/-- The negation of an extension that is called `No` itself, beside one with a blank in its name. -/
theorem parse?_offered_no :
    let c : Catalog := ⟨["No".toList, "A #-b".toList], []⟩
    let m := "NoNo".toList
    c.Legible ∧ m ∈ c.pragmaNames ∧
      parse? (⟨.language, m⟩ : Pragma).render c.extensions .empty =
        some ⟨.empty, .ofList ["No".toList]⟩ := by
  intro c m
  have hlegible : c.Legible := ⟨by decide, by decide⟩
  have hx : "No".toList ∈ c.extensions := List.mem_cons_self
  have hm : m ∈ c.pragmaNames := Catalog.mem_pragmaNames.2 (.inr (.inl ⟨_, hx, rfl⟩))
  obtain ⟨-, -, hoff, -⟩ := parse?_offered hlegible hm
  exact ⟨hlegible, hm, hoff "No".toList hx rfl⟩

end Flags
end PragmaAssist
