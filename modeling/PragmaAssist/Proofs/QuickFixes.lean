import PragmaAssist.QuickFix

/-! What the diagnostics of a request call for. Each pragma is offered once, by the first diagnostic
that calls for it, and further diagnostics only add fixes behind. -/
namespace PragmaAssist
namespace QuickFix

section WithoutRepeats
variable {seen seen' : List Pragma} {p : Pragma} {fixes : List QuickFix}

theorem mem_pragmas_withoutRepeats :
    p ∈ (withoutRepeats seen fixes).map pragma ↔ p ∈ fixes.map pragma ∧ p ∉ seen := by
  induction fixes generalizing seen with
  | nil => simp [withoutRepeats]
  | cons f fixes ih =>
    rw [withoutRepeats]
    split
    · rename_i hf
      rw [ih, List.map_cons, List.mem_cons]
      grind
    · rename_i hf
      rw [List.map_cons, List.mem_cons, ih, List.map_cons, List.mem_cons, List.mem_cons]
      grind

theorem nodup_withoutRepeats (seen : List Pragma) (fixes : List QuickFix) :
    ((withoutRepeats seen fixes).map pragma).Nodup := by
  induction fixes generalizing seen with
  | nil => exact List.nodup_nil
  | cons f fixes ih =>
    rw [withoutRepeats]
    split
    · exact ih seen
    · refine List.nodup_cons.2 ⟨fun h => ?_, ih (f.pragma :: seen)⟩
      exact (mem_pragmas_withoutRepeats.1 h).2 List.mem_cons_self

theorem filter_withoutRepeats (keep : Pragma → Bool)
    (h : ∀ p, keep p = true → (p ∈ seen ↔ p ∈ seen')) (fixes : List QuickFix) :
    (withoutRepeats seen fixes).filter (keep ·.pragma) =
      withoutRepeats seen' (fixes.filter (keep ·.pragma)) := by
  induction fixes generalizing seen seen' with
  | nil => rfl
  | cons f fixes ih =>
    cases hf : keep f.pragma with
    | true =>
      simp only [withoutRepeats, List.filter_cons, hf, if_true]
      by_cases hseen : f.pragma ∈ seen
      · rw [if_pos hseen, if_pos ((h _ hf).1 hseen), ih h]
      · rw [if_neg hseen, if_neg (mt (h _ hf).2 hseen), List.filter_cons, if_pos hf, ih]
        intro p hp
        rw [List.mem_cons, List.mem_cons, h p hp]
    | false =>
      simp only [withoutRepeats, List.filter_cons, hf, Bool.false_eq_true, if_false]
      split
      · exact ih h
      · rw [List.filter_cons, hf, if_neg Bool.false_ne_true]
        refine ih fun p hp => ?_
        have hne : p ≠ f.pragma := fun e => by simp [← e, hp] at hf
        rw [List.mem_cons, or_iff_right hne, h p hp]

theorem withoutRepeats_congr (h : ∀ p, p ∈ seen ↔ p ∈ seen') (fixes : List QuickFix) :
    withoutRepeats seen fixes = withoutRepeats seen' fixes := by
  have hall (l : List QuickFix) : l.filter (fun _ => true) = l :=
    List.filter_eq_self.2 fun _ _ => rfl
  have hfilter := filter_withoutRepeats (fun _ => true) (fun p _ => h p) fixes
  rwa [hall, hall] at hfilter

theorem withoutRepeats_append (seen : List Pragma) (a b : List QuickFix) :
    withoutRepeats seen (a ++ b) =
      withoutRepeats seen a ++ withoutRepeats (a.map pragma ++ seen) b := by
  induction a generalizing seen with
  | nil => rfl
  | cons f a ih =>
    rw [List.cons_append, withoutRepeats, withoutRepeats]
    split
    · rename_i hf
      rw [ih]
      congr 1
      refine withoutRepeats_congr (fun p => ?_) b
      simp only [List.map_cons, List.mem_append, List.mem_cons]
      grind
    · rw [ih, List.cons_append]
      congr 2
      refine withoutRepeats_congr (fun p => ?_) b
      simp only [List.map_cons, List.mem_append, List.mem_cons]
      grind

/-- Fixes that come later are those that would be made alone, less the pragmas seen before. -/
theorem withoutRepeats_eq_filter (seen : List Pragma) (fixes : List QuickFix) :
    withoutRepeats seen fixes = (withoutRepeats [] fixes).filter (·.pragma ∉ seen) := by
  have hself :
      (withoutRepeats seen fixes).filter (·.pragma ∉ seen) = withoutRepeats seen fixes := by
    refine List.filter_eq_self.2 fun f hf => ?_
    simpa using (mem_pragmas_withoutRepeats.1 (List.mem_map_of_mem hf)).2
  have hnone : (withoutRepeats [] fixes).filter (·.pragma ∉ seen) = _ :=
    filter_withoutRepeats (· ∉ seen) (fun p hp => by simpa using hp) fixes
  rw [← hself, hnone]
  exact filter_withoutRepeats (· ∉ seen) (fun p _ => Iff.rfl) fixes

theorem pragma_enable (x : Text) : (enable x).pragma = ⟨.language, x⟩ := rfl

theorem pragma_silence (w : Text) : (silence w).pragma = ⟨.optionsGhc, w⟩ := rfl

theorem withoutRepeats_enable (names : List Text) :
    withoutRepeats [] (names.map enable) = names.eraseDups.map enable := by
  match names with
  | [] => rfl
  | x :: names =>
    -- The pragma of the first name is seen, and so the name itself goes from the others.
    have hothers : (names.map enable).filter (·.pragma ∉ [(enable x).pragma]) =
        (names.filter fun y => !y == x).map enable := by
      rw [List.filter_map]
      refine congrArg (List.map enable) (List.filter_congr fun y _ => ?_)
      by_cases hyx : y = x <;> simp [pragma_enable, hyx]
    have hfilter :
        (withoutRepeats [] (names.map enable)).filter (·.pragma ∉ [(enable x).pragma]) = _ :=
      filter_withoutRepeats (· ∉ [(enable x).pragma]) (fun _ _ => Iff.rfl) (names.map enable)
    rw [List.map_cons, withoutRepeats, if_neg List.not_mem_nil, withoutRepeats_eq_filter, hfilter,
      hothers, withoutRepeats_enable, List.eraseDups_cons, List.map_cons]
termination_by names.length
decreasing_by exact Nat.lt_succ_of_le (List.length_filter_le _ _)

end WithoutRepeats

section Diagnostic
variable {c : Catalog} {flags : Option Flags} {kept : NameSet} {d : Diagnostic} {x w : Text}

/-- The diagnostic names an extension that can be suggested and is not on. -/
def callsFor (flags : Option Flags) (d : Diagnostic) (x : Text) : Bool :=
  x ∉ Catalog.unsuggested && (!isEnabled flags x && x.occursIn d.message)

theorem callsFor_iff : callsFor flags d x = true ↔
    x ≠ "Strict".toList ∧ (∀ f ∈ flags, x ∉ f.enabled) ∧ x <:+: d.message := by
  simp only [callsFor, Bool.and_eq_true, Text.occursIn_iff, Catalog.unsuggested, List.mem_singleton,
    decide_eq_true_eq]
  cases flags <;> simp [isEnabled]

theorem forExtensions_eq (c : Catalog) (flags : Option Flags) (d : Diagnostic) :
    forExtensions c flags d = (c.extensions.filter (callsFor flags d)).map enable := by
  rw [forExtensions, mentioned, Catalog.suggestible, List.filter_filter, List.filter_filter]
  refine congrArg (List.map enable) (List.filter_congr fun x _ => ?_)
  rw [callsFor, Bool.and_comm]

def silenced? (kept : NameSet) (d : Diagnostic) : Option Text := (warning? d).filter (· ∉ kept)

theorem silenced?_eq_some_iff :
    silenced? kept d = some w ↔ w ∉ kept ∧ d.code = some (['-', 'W'] ++ w) := by
  simp only [silenced?, warning?, Option.filter_eq_some_iff, Option.bind_eq_some_iff,
    Text.after?_eq_some_iff, decide_eq_true_eq]
  constructor
  · rintro ⟨⟨code, hcode, rfl⟩, hw⟩
    exact ⟨hw, hcode⟩
  · rintro ⟨hw, hcode⟩
    exact ⟨⟨_, hcode, rfl⟩, hw⟩

theorem forWarning_eq (kept : NameSet) (d : Diagnostic) :
    forWarning kept d = (silenced? kept d).toList.map silence := by
  rw [forWarning, silenced?]
  cases warning? d with
  | none => rfl
  | some w =>
    by_cases hw : w ∈ kept
    · simp [hw, Option.filter]
    · simp [hw, Option.filter]

theorem pragmas_forDiagnostic (c : Catalog) (flags : Option Flags) (kept : NameSet)
    (d : Diagnostic) :
    (forDiagnostic c flags kept d).map pragma =
      (c.extensions.filter (callsFor flags d)).map (⟨.language, ·⟩) ++
        (silenced? kept d).toList.map (⟨.optionsGhc, ·⟩) := by
  rw [forDiagnostic, forExtensions_eq, forWarning_eq, List.map_append, List.map_map, List.map_map]
  rfl

theorem mem_forAll {p : Pragma} {ds : List Diagnostic} :
    p ∈ (forAll c flags kept ds).map pragma ↔
      ∃ d ∈ ds, p ∈ (forDiagnostic c flags kept d).map pragma := by
  simp only [forAll, mem_pragmas_withoutRepeats, List.not_mem_nil, not_false_eq_true, and_true,
    List.map_flatMap, List.mem_flatMap]

theorem mem_forAll_language {ds : List Diagnostic} :
    (⟨.language, x⟩ : Pragma) ∈ (forAll c flags kept ds).map pragma ↔
      x ∈ c.extensions ∧ ∃ d ∈ ds, callsFor flags d x = true := by
  rw [mem_forAll]
  simp only [pragmas_forDiagnostic, List.mem_append, List.mem_map, List.mem_filter,
    Pragma.mk.injEq, reduceCtorEq, true_and, false_and, and_false, exists_false, or_false,
    exists_eq_right]
  exact ⟨fun ⟨d, hd, hx, hcalls⟩ => ⟨hx, d, hd, hcalls⟩,
    fun ⟨hx, d, hd, hcalls⟩ => ⟨d, hd, hx, hcalls⟩⟩

theorem mem_forAll_optionsGhc {ds : List Diagnostic} :
    (⟨.optionsGhc, w⟩ : Pragma) ∈ (forAll c flags kept ds).map pragma ↔
      ∃ d ∈ ds, silenced? kept d = some w := by
  rw [mem_forAll]
  simp only [pragmas_forDiagnostic, List.mem_append, List.mem_map, Option.mem_toList,
    Pragma.mk.injEq, reduceCtorEq, true_and, false_and, and_false, exists_false, false_or,
    exists_eq_right]

theorem forAll_append (c : Catalog) (flags : Option Flags) (kept : NameSet)
    (ds ds' : List Diagnostic) :
    forAll c flags kept (ds ++ ds') = forAll c flags kept ds ++
      (forAll c flags kept ds').filter (·.pragma ∉ (forAll c flags kept ds).map pragma) := by
  have hseen (p : Pragma) : p ∈ (forAll c flags kept ds).map pragma ↔
      p ∈ (ds.flatMap (forDiagnostic c flags kept)).map pragma := by
    simp [forAll, mem_pragmas_withoutRepeats]
  simp only [hseen]
  rw [forAll, List.flatMap_append, withoutRepeats_append, List.append_nil]
  exact congrArg (forAll c flags kept ds ++ ·) (withoutRepeats_eq_filter _ _)

theorem forAll_singleton (c : Catalog) (flags : Option Flags) (kept : NameSet) (d : Diagnostic) :
    forAll c flags kept [d] =
      (c.extensions.eraseDups.filter (callsFor flags d)).map enable ++
        (silenced? kept d).toList.map silence := by
  have hcatalog (names : List Text) : (names.filter (callsFor flags d)).map enable =
      (names.map enable).filter (fun q => callsFor flags d q.pragma.name) := by
    rw [List.filter_map]
    rfl
  have hextensions : withoutRepeats [] (forExtensions c flags d) =
      (c.extensions.eraseDups.filter (callsFor flags d)).map enable := by
    rw [forExtensions_eq, hcatalog, hcatalog, ← withoutRepeats_enable]
    exact (filter_withoutRepeats (callsFor flags d ·.name) (fun _ _ => Iff.rfl) _).symm
  have hwarning (names : List Text) :
      withoutRepeats ((names.map enable).map pragma ++ []) (forWarning kept d) =
        (silenced? kept d).toList.map silence := by
    rw [forWarning_eq]
    cases silenced? kept d with
    | none => rfl
    | some w =>
      have hnew : (silence w).pragma ∉ (names.map enable).map pragma ++ [] := by
        simp [pragma_enable, pragma_silence]
      rw [Option.toList_some, List.map_singleton, withoutRepeats, if_neg hnew]
      rfl
  rw [forAll, List.flatMap_singleton, forDiagnostic, withoutRepeats_append, hextensions,
    forExtensions_eq, hwarning]

/-- A fix for every extension that a message names and that is not on, and for every warning by its
code that is not kept; each once, in the order of the diagnostics. -/
theorem forAll_called_for (c : Catalog) (flags : Option Flags) (kept : NameSet) :
    (∀ ds, let offered := (forAll c flags kept ds).map pragma
      offered.Nodup ∧
      (∀ x, ⟨.language, x⟩ ∈ offered ↔ x ∈ c.extensions ∧ x ≠ "Strict".toList ∧
        (∀ f ∈ flags, x ∉ f.enabled) ∧ ∃ d ∈ ds, x <:+: d.message) ∧
      ∀ w, ⟨.optionsGhc, w⟩ ∈ offered ↔
        w ∉ kept ∧ ∃ d ∈ ds, d.code = some ("-W".toList ++ w)) ∧
    (∀ ds ds', forAll c flags kept (ds ++ ds') = forAll c flags kept ds ++
      (forAll c flags kept ds').filter (·.pragma ∉ (forAll c flags kept ds).map pragma)) ∧
    ∀ d, ∃ (names : List Text) (warning : Option Text),
      forAll c flags kept [d] = names.map enable ++ warning.toList.map silence ∧
        names.Sublist c.extensions.eraseDups := by
  refine ⟨fun ds => ⟨nodup_withoutRepeats _ _, fun x => ?_, fun w => ?_⟩,
    forAll_append c flags kept, fun d => ?_⟩
  · rw [mem_forAll_language]
    simp only [callsFor_iff]
    exact ⟨fun ⟨hx, d, hd, hne, hoff, hin⟩ => ⟨hx, hne, hoff, d, hd, hin⟩,
      fun ⟨hx, hne, hoff, d, hd, hin⟩ => ⟨hx, d, hd, hne, hoff, hin⟩⟩
  · rw [mem_forAll_optionsGhc]
    simp only [silenced?_eq_some_iff]
    exact ⟨fun ⟨d, hd, hw, hcode⟩ => ⟨hw, d, hd, hcode⟩,
      fun ⟨hw, d, hd, hcode⟩ => ⟨d, hd, hw, hcode⟩⟩
  · exact ⟨_, _, forAll_singleton c flags kept d, List.filter_sublist⟩

end Diagnostic
end QuickFix
end PragmaAssist
