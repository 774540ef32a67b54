import PragmaAssist.Catalog.Basic
import PragmaAssist.Header.Flags
import PragmaAssist.Proofs.Text.LineInsertion
import PragmaAssist.Proofs.Text.Trimming

/-! Names that an extension pragma can hold. Between its keyword and its closer the reader finds such
a name again, whatever stands behind the closer. -/
namespace PragmaAssist
namespace Text

theorem pieces_of_not_mem {separator : Char} {t : Text} (h : separator ∉ t) :
    t.pieces separator = [t] := by
  induction t with
  | nil => rfl
  | cons c t ih =>
    obtain ⟨hc, ht⟩ : separator ≠ c ∧ separator ∉ t := by simpa using h
    rw [pieces, if_neg (Ne.symm hc), ih ht]

theorem before?_append_of_not_prefix {mark t r : Text}
    (h : ∀ v, v <:+ t → v ≠ [] → ¬ mark <+: v ++ (mark ++ r)) :
    (t ++ (mark ++ r)).before? mark = some t := by
  induction t with
  | nil =>
    have hstart : mark.isPrefixOf (mark ++ r) = true :=
      List.isPrefixOf_iff_prefix.2 (List.prefix_append mark r)
    rw [List.nil_append]
    cases hm : mark ++ r with
    | nil =>
      obtain rfl := (List.append_eq_nil_iff.1 hm).1
      rfl
    | cons c s => rw [before?, ← hm, if_pos hstart]
  | cons c t ih =>
    have hc : ¬ mark <+: c :: (t ++ (mark ++ r)) :=
      h (c :: t) (List.suffix_refl _) (List.cons_ne_nil c t)
    rw [List.cons_append, before?, if_neg (mt List.isPrefixOf_iff_prefix.1 hc),
      ih fun v hv => h v (hv.trans (List.suffix_cons c t)), Option.map_some]

theorem before?_append (c : Char) (m : Text) {t : Text} (ht : c ∉ t) (r : Text) :
    (t ++ (c :: m ++ r)).before? (c :: m) = some t := by
  refine before?_append_of_not_prefix fun v hv hne hstart => ?_
  obtain ⟨d, v, rfl⟩ := List.exists_cons_of_ne_nil hne
  obtain ⟨rfl, -⟩ := List.cons_prefix_cons.1 hstart
  exact ht (hv.subset List.mem_cons_self)

/-- A character that the mark does not have keeps it from starting in front. -/
theorem before?_append_gap {mark t : Text} {c : Char} (hc : c ∉ mark)
    (ht : mark.occursIn t = false) (r : Text) :
    (t ++ [c] ++ (mark ++ r)).before? mark = some (t ++ [c]) := by
  refine before?_append_of_not_prefix fun v hv hne hstart => ?_
  obtain ⟨u, rfl, hu⟩ : ∃ u, v = u ++ [c] ∧ u <:+ t :=
    (List.suffix_concat_iff.1 hv).resolve_left hne
  rcases List.prefix_or_prefix_of_prefix hstart (List.prefix_append (u ++ [c]) (mark ++ r)) with
    hin | hout
  · rcases List.prefix_concat_iff.1 hin with hall | hin
    · exact hc (hall ▸ List.mem_append_right u List.mem_cons_self)
    · have hoccurs := occursIn_iff.2 (hin.isInfix.trans hu.isInfix)
      rw [ht] at hoccurs
      exact Bool.noConfusion hoccurs
  · exact hc (hout.subset (List.mem_append_right u List.mem_cons_self))

theorem occursIn_cons {a c : Char} (h : a ≠ c) (m t : Text) :
    Text.occursIn (a :: m) (c :: t) = Text.occursIn (a :: m) t := by
  simp [occursIn, List.isPrefixOf, h]

end Text

/-- A name that an extension pragma can hold: one that its reader takes for a single name. -/
structure Writable (name : Text) : Prop where
  ne_nil : name ≠ []
  unbroken : name.Unbroken
  comma_not_mem : ',' ∉ name
  closer_not_in : Pragma.closer.occursIn name = false
  trim_eq : name.trim = name

namespace Writable
variable {x : Text}

instance (x : Text) : Decidable (Writable x) :=
  decidable_of_iff (x ≠ [] ∧ x.Unbroken ∧ ',' ∉ x ∧ Pragma.closer.occursIn x = false ∧ x.trim = x)
    ⟨fun ⟨h₁, h₂, h₃, h₄, h₅⟩ => ⟨h₁, h₂, h₃, h₄, h₅⟩,
      fun ⟨h₁, h₂, h₃, h₄, h₅⟩ => ⟨h₁, h₂, h₃, h₄, h₅⟩⟩

theorem negate (h : Writable x) : Writable (Catalog.negate x) where
  ne_nil := List.cons_ne_nil _ _
  unbroken := Text.Unbroken.append (by decide) h.unbroken
  comma_not_mem := by simp [Catalog.negate, h.comma_not_mem]
  closer_not_in := by
    refine (Text.occursIn_cons (by decide) _ _).trans ?_
    exact (Text.occursIn_cons (by decide) _ x).trans h.closer_not_in
  trim_eq := by
    have hend := Text.trimEnd_eq_of_trim h.trim_eq
    simp only [Catalog.negate, List.cons_append, List.nil_append]
    rw [Text.trim_cons (by decide), Text.trimEnd_cons_solid (by decide), hend]

theorem languageNames_directive_append (h : Writable x) (rest : Text) :
    Header.languageNames ((⟨.language, x⟩ : Pragma).directive ++ rest) = [x] := by
  have hwords : (⟨.language, x⟩ : Pragma).body = PragmaKind.language.name ++ ' ' :: x := rfl
  have hopen : (⟨.language, x⟩ : Pragma).directive ++ rest = Pragma.opener ++
      ' ' :: (PragmaKind.language.name ++ (' ' :: x ++ [' '] ++ (Pragma.closer ++ rest))) := by
    simp [Pragma.directive, hwords]
  have hkeyword (t : Text) : Text.trimStart (' ' :: (PragmaKind.language.name ++ t)) =
      PragmaKind.language.name ++ t :=
    (Text.trimStart_blank (w := [' ']) (by decide) _).trans (Text.trimStart_cons (by decide) _)
  have hword (t : Text) : Text.atWordEnd (' ' :: x ++ [' '] ++ t) = true := by
    have hblank : isWordChar ' ' = false := isWordChar_of_isBlank (by decide)
    simp [Text.atWordEnd, hblank]
  have hclosed : Pragma.closer.occursIn (' ' :: x) = false :=
    (Text.occursIn_cons (by decide) _ x).trans h.closer_not_in
  have hbefore := Text.before?_append_gap (c := ' ') (by decide) hclosed rest
  have hbody : Header.languageBody? ((⟨.language, x⟩ : Pragma).directive ++ rest) =
      some (' ' :: x ++ [' ']) := by
    rw [Header.languageBody?, hopen, Text.after?_append]
    simp only [Option.bind_eq_bind, Option.bind_some]
    rw [hkeyword, Text.after?_append, Option.bind_some, if_pos (hword _), hbefore]
  have hcomma : ',' ∉ ' ' :: x ++ [' '] := by simp [h.comma_not_mem]
  have htrim : Text.trim (' ' :: x ++ [' ']) = x := by
    rw [Text.trim_append_blank (by decide), ← List.singleton_append,
      Text.trim_blank_append (by decide), h.trim_eq]
  rw [Header.languageNames, hbody]
  simp only
  rw [Text.pieces_of_not_mem hcomma, List.map_singleton, htrim]
  simp [h.ne_nil]

theorem languageNames_directive (h : Writable x) :
    Header.languageNames (⟨.language, x⟩ : Pragma).directive = [x] := by
  simpa using h.languageNames_directive_append []

end Writable
end PragmaAssist
