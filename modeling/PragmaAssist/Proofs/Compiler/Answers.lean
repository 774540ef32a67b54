import PragmaAssist.Proofs.Compiler.Loading

/-! The catalog that a compiler's two answers give, whatever they are. The names of an output are the
pieces between its line boundaries, trimmed, but for those that are blank; the catalog keeps the
reversible ones and the options, each as often and in the order as they are told. -/
namespace PragmaAssist

namespace Text
variable {isBreak : Char → Bool}

/-- Lines and pieces between boundaries start alike and differ by empty ones alone: behind the last
boundary, and within a carriage return with its line feed. -/
theorem linesAt_splitOnP (hreturn : isBreak '\r' = true) (hfeed : isBreak '\n' = true) (t : Text) :
    (t.linesAt isBreak).headD [] = (t.splitOnP isBreak).headD [] ∧
      (t.linesAt isBreak).filter (· ≠ []) = (t.splitOnP isBreak).filter (· ≠ []) := by
  induction t using linesAt.induct isBreak with
  | case1 => simp [linesAt]
  | case2 r ih =>
    rw [linesAt, List.splitOnP_cons_eq_if_modifyHead, if_pos hreturn,
      List.splitOnP_cons_eq_if_modifyHead, if_pos hfeed]
    exact ⟨rfl, by simpa using ih.2⟩
  | case3 c r h hc ih =>
    rw [linesAt, if_pos hc, List.splitOnP_cons_eq_if_modifyHead, if_pos hc]
    · exact ⟨rfl, by simpa using ih.2⟩
    · exact h
  | case4 c r h hc hr ih =>
    obtain ⟨p, ps, hps⟩ := List.exists_cons_of_ne_nil (List.splitOnP_ne_nil isBreak r)
    rw [linesAt, if_neg hc, List.splitOnP_cons_eq_if_modifyHead, if_neg hc]
    · rw [hr, hps] at ih ⊢
      obtain ⟨rfl, hfilter⟩ := ih
      simpa using hfilter
    · exact h
  | case5 c r h hc l ls hr ih =>
    obtain ⟨p, ps, hps⟩ := List.exists_cons_of_ne_nil (List.splitOnP_ne_nil isBreak r)
    rw [linesAt, if_neg hc, List.splitOnP_cons_eq_if_modifyHead, if_neg hc]
    · rw [hr, hps] at ih ⊢
      obtain ⟨hp, hfilter⟩ := ih
      obtain rfl : l = p := hp
      have hrest : ls.filter (· ≠ []) = ps.filter (· ≠ []) := by
        by_cases hl : l = [] <;> simpa [hl] using hfilter
      simpa using hrest
    · exact h

end Text

namespace Outcome

def Refuses (o : Outcome) (stderr : Text) : Prop :=
  ∃ stdout code, o = .finished ⟨stdout, stderr, code⟩ ∧ code ≠ 0

end Outcome

namespace Client
variable {k : Client} {q : Question} {o : Outcome}

/-- The names in an output: what stands between its line boundaries, without the blanks around it
and without pieces that are blank. -/
def listed (output : Text) : List Text :=
  ((output.splitOnP isOutputBreak).map Text.trim).filter (· ≠ [])

theorem filter_map_trim (ts : List Text) :
    (ts.map Text.trim).filter (· ≠ []) = ((ts.filter (· ≠ [])).map Text.trim).filter (· ≠ []) := by
  induction ts with
  | nil => rfl
  | cons t ts ih =>
    by_cases ht : t = []
    · subst ht
      simpa [Text.trim, Text.trimStart, Text.trimEnd] using ih
    · simp only [List.map_cons, List.filter_cons, ih]
      simp [ht, List.filter_cons]

theorem outputWords_eq (output : Text) : outputWords output = listed output := by
  have hpieces : (output.linesAt isOutputBreak).filter (· ≠ []) =
      (output.splitOnP isOutputBreak).filter (· ≠ []) :=
    (Text.linesAt_splitOnP rfl rfl output).2
  have hempty (ts : List Text) : ts.filter (!·.isEmpty) = ts.filter (· ≠ []) := by
    refine List.filter_congr fun t _ => ?_
    cases t <;> rfl
  rw [outputWords, Text.outputLines, hempty, filter_map_trim, hpieces, ← filter_map_trim, listed]

theorem answer_of_succeeds {stdout : Text} (h : o.Succeeds stdout) :
    k.answer q o = .ok (listed stdout) :=
  answer_eq_ok_iff.2 ⟨stdout, h, (outputWords_eq stdout).symm⟩

theorem answer_of_refuses {stderr : Text} (h : o.Refuses stderr) :
    k.answer q o = .error (.commandFailed k.path q.argument stderr.trim) := by
  obtain ⟨stdout, code, rfl, hcode⟩ := h
  simp [answer, result, bind, Except.bind, hcode]
  rfl

theorem answer_of_result {f : Failure} (h : k.result q o = .error f) :
    k.answer q o = .error f := by
  rw [answer, h]
  rfl

end Client

namespace Catalog

def Raises {α : Type} (r : Except Failure α) (family : Category) : Prop :=
  ∃ f, r = .error f ∧ f.category = family

theorem optionFlags_eq (options : List Text) :
    optionFlags options = options.filter fun x => x.head? = some '-' := by
  refine List.filter_congr fun x _ => ?_
  cases x <;> simp [Text.startsWith, List.isPrefixOf, eq_comm, Bool.beq_eq_decide_eq]

/-- The catalog was read, or not, with this result and by runs for these questions. -/
def ReadBy (k : Client) (c : Compiler) (qs : List Question) (r : Except Failure Catalog) : Prop :=
  (ofCompiler k c).1 = r ∧ (ofCompiler k c).2.runs = c.runs ++ qs.map k.run

variable {k : Client} {c : Compiler} {names options : List Text} {f : Failure}

theorem readBy_of_extensions_error
    (h : k.answer .supportedExtensions (c.next .supportedExtensions) = .error f) :
    ReadBy k c [.supportedExtensions] (.error f) := by
  rw [ReadBy, ofCompiler_eq, tables, askedTables, h]
  exact ⟨rfl, rfl⟩

theorem readBy_of_extensions
    (h : k.answer .supportedExtensions (c.next .supportedExtensions) = .ok names) :
    ReadBy k c [.supportedExtensions, .showOptions] (do
      let options ← k.answer .showOptions (c.next .showOptions)
      if (reversible names).isEmpty || (optionFlags options).isEmpty then
        throw (.emptyCatalog k.path)
      else return ⟨reversible names, optionFlags options⟩) := by
  rw [ReadBy, ofCompiler_eq, tables, askedTables, h]
  exact ⟨rfl, List.append_assoc ..⟩

theorem readBy_of_options_error
    (h : k.answer .supportedExtensions (c.next .supportedExtensions) = .ok names)
    (h' : k.answer .showOptions (c.next .showOptions) = .error f) :
    ReadBy k c [.supportedExtensions, .showOptions] (.error f) := by
  have hread := readBy_of_extensions h
  rw [h'] at hread
  exact hread

theorem readBy_of_options
    (h : k.answer .supportedExtensions (c.next .supportedExtensions) = .ok names)
    (h' : k.answer .showOptions (c.next .showOptions) = .ok options) :
    ReadBy k c [.supportedExtensions, .showOptions]
      (if reversible names = [] ∨ optionFlags options = [] then .error (.emptyCatalog k.path)
      else .ok ⟨reversible names, optionFlags options⟩) := by
  have hread := readBy_of_extensions h
  simp only [h', Bool.or_eq_true, List.isEmpty_iff] at hread
  exact hread

theorem exists_readBy (k : Client) (c : Compiler) :
    ∃ qs r, ReadBy k c qs r ∧ qs <+: [.supportedExtensions, .showOptions] ∧
      ∀ t, r = .ok t → qs = [.supportedExtensions, .showOptions] := by
  cases h : k.answer .supportedExtensions (c.next .supportedExtensions) with
  | error f => exact ⟨_, _, readBy_of_extensions_error h, by simp, fun t ht => by cases ht⟩
  | ok names => exact ⟨_, _, readBy_of_extensions h, List.prefix_refl _, fun t _ => rfl⟩

theorem raises_of_readBy {qs : List Question} {family : Category} (h : ReadBy k c qs (.error f))
    (hf : f.category = family) : Raises (ofCompiler k c).1 family := ⟨f, h.1, hf⟩

/-- What the tables are for each pair of answers, and by which runs they are read. -/
theorem ofCompiler_answers (k : Client) (c : Compiler) :
    let first := c.next .supportedExtensions
    let second := c.next .showOptions
    let told := (ofCompiler k c).1
    let Asked (qs : List Question) := (ofCompiler k c).2.runs = c.runs ++ qs.map k.run
    (∀ stdout stdout', first.Succeeds stdout → second.Succeeds stdout' →
      let names := Client.listed stdout
      let kept := names.filter fun x => ['N', 'o'] ++ x ∈ names ∧ x ∉ Builtin.permanent
      let flags := (Client.listed stdout').filter fun x => x.head? = some '-'
      (Raises told .runtime ↔ kept = [] ∨ flags = []) ∧
        (¬ (kept = [] ∨ flags = []) → told = .ok ⟨kept, flags⟩) ∧
        Asked [.supportedExtensions, .showOptions]) ∧
      (∀ stderr, first.Refuses stderr → Raises told .runtime ∧ Asked [.supportedExtensions]) ∧
      (∀ stdout stderr, first.Succeeds stdout → second.Refuses stderr →
        Raises told .runtime ∧ Asked [.supportedExtensions, .showOptions]) ∧
      (∀ f, k.result .supportedExtensions first = .error f →
        told = .error f ∧ Asked [.supportedExtensions]) ∧
      (∀ stdout f, first.Succeeds stdout → k.result .showOptions second = .error f →
        told = .error f ∧ Asked [.supportedExtensions, .showOptions]) ∧
      ∀ t, told = .ok t → t.extensions ≠ [] ∧ t.flags ≠ [] := by
  intro first second told Asked
  refine ⟨fun stdout stdout' hfirst hsecond => ?_, fun stderr hfirst => ?_,
    fun stdout stderr hfirst hsecond => ?_, fun f hfirst => ?_,
    fun stdout f hfirst hsecond => ?_, fun t ht => ?_⟩
  · intro names kept flags
    have hread := readBy_of_options (Client.answer_of_succeeds (k := k) hfirst)
      (Client.answer_of_succeeds hsecond)
    rw [optionFlags_eq] at hread
    obtain ⟨hresult, hruns⟩ : ReadBy k c _ (if kept = [] ∨ flags = [] then _ else _) := hread
    refine ⟨?_, fun hkept => hresult.trans (if_neg hkept), hruns⟩
    by_cases hempty : kept = [] ∨ flags = []
    · rw [if_pos hempty] at hresult
      exact iff_of_true ⟨_, hresult, rfl⟩ hempty
    · rw [if_neg hempty] at hresult
      refine iff_of_false ?_ hempty
      rintro ⟨f, hf, -⟩
      cases hf.symm.trans hresult
  · have hread := readBy_of_extensions_error (Client.answer_of_refuses (k := k) hfirst)
    exact ⟨raises_of_readBy hread rfl, hread.2⟩
  · have hread := readBy_of_options_error (Client.answer_of_succeeds (k := k) hfirst)
      (Client.answer_of_refuses hsecond)
    exact ⟨raises_of_readBy hread rfl, hread.2⟩
  · exact readBy_of_extensions_error (Client.answer_of_result hfirst)
  · exact readBy_of_options_error (Client.answer_of_succeeds hfirst)
      (Client.answer_of_result hsecond)
  · have htables : tables k c = .ok t := (congrArg Prod.fst (ofCompiler_eq k c)).symm.trans ht
    have htells := tables_eq_ok_iff.1 htables
    exact ⟨htells.extensions_ne, htells.flags_ne⟩

/-- A name that begins with `No`, one that is told twice, and one whose negation comes first; the
lines end in three ways, and one of them is blank. -/
theorem ofCompiler_answers_repeats :
    let told (t : String) : List Outcome := [.finished ⟨t.toList, [], 0⟩]
    let c : Compiler := ⟨true, fun
      | .numericVersion => []
      | .supportedExtensions => told "NoGADTs\r\n GADTs\x0b \nNoNoFoo\nNoFoo\rNoSafe\nSafe\nGADTs"
      | .showOptions => told "-Wall\nWtabs\n-Wall\n", []⟩
    (ofCompiler ⟨['g'], 10⟩ c).1 = .ok ⟨["GADTs".toList, "NoFoo".toList, "GADTs".toList],
      ["-Wall".toList, "-Wall".toList]⟩ := by
  intro told c
  obtain ⟨-, htold, -⟩ := (ofCompiler_answers ⟨['g'], 10⟩ c).1 _ _ ⟨[], rfl⟩ ⟨[], rfl⟩
  exact htold (by decide)

end Catalog
end PragmaAssist
