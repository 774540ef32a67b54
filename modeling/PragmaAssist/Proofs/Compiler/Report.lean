import PragmaAssist.Proofs.Compiler.Answers

/-! What loading a catalog reports. For a path one entry is logged, and its level tells which of
three ways the loading went: no compiler answered, its tables could not be read, or they are the
catalog. -/
namespace PragmaAssist
namespace Catalog

def askedVersion (k : Client) (c : Compiler) : Compiler :=
  c.after .numericVersion (k.run .numericVersion)

def toldBehindVersion (k : Client) (c : Compiler) : Except Failure Catalog :=
  (ofCompiler k (askedVersion k c)).1

/-- The ways in which loading from a path ends with a catalog: with its report and the runs, told by
their questions, that were made for it. -/
inductive Way (path : Text) (c : Compiler) : Loaded → List Question → Prop
  | unavailable (h : ¬ c.Available) :
      Way path c (.unavailable path) (if c.found then [.numericVersion] else [])
  | unreadable {f : Failure} {qs : List Question} (h : c.Available)
      (hf : toldBehindVersion (loader path) c = .error f)
      (hqs : qs <+: [.supportedExtensions, .showOptions]) :
      Way path c (.unreadable path f) (.numericVersion :: qs)
  | read {t : Catalog} (version : Option Text) (h : c.Available)
      (ht : toldBehindVersion (loader path) c = .ok t) :
      Way path c (.read t version)
        [.numericVersion, .supportedExtensions, .showOptions, .numericVersion]

variable {path : Text} {c c' : Compiler} {l : Loaded}

theorem way_of_loadFrom (ha : c.Available)
    (h : loadFrom path (loader path) (askedVersion (loader path) c) = (.ok l, c')) :
    ∃ qs, c'.runs = c.runs ++ qs.map (loader path).run ∧ Way path c l qs := by
  let k := loader path
  let c₁ := askedVersion k c
  obtain ⟨version, hload⟩ := loadFrom_apply path k c₁
  obtain ⟨qs, r, ⟨hr, hruns⟩, hqs, hall⟩ := exists_readBy k c₁
  have hasked : (askedTables k c₁).runs = c.runs ++ (.numericVersion :: qs).map k.run := by
    have hfirst : c₁.runs = c.runs ++ [k.run .numericVersion] := rfl
    rw [ofCompiler_eq, hfirst, List.append_assoc] at hruns
    exact hruns
  have htold : toldBehindVersion k c = tables k c₁ := congrArg Prod.fst (ofCompiler_eq k c₁)
  have htables : r = tables k c₁ := hr.symm.trans htold
  rw [hload] at h
  cases ht : tables k c₁ with
  | error f =>
    rw [ht] at h htold
    obtain ⟨hl, rfl⟩ := Prod.mk.inj h
    split at hl
    · obtain rfl := Except.ok.inj hl
      exact ⟨_, hasked, .unreadable ha htold hqs⟩
    · cases hl
  | ok t =>
    rw [ht] at h htold htables
    obtain rfl := hall t htables
    obtain ⟨hl, rfl⟩ := Prod.mk.inj h
    cases hv : k.result .numericVersion (c₁.next .numericVersion) with
    | error f =>
      rw [hv] at hl
      cases hl
    | ok reply =>
      rw [hv] at hl
      obtain rfl := Except.ok.inj hl
      refine ⟨_, ?_, .read (version reply) ha htold⟩
      rw [Compiler.after, hasked, List.append_assoc]
      rfl

theorem load_of_not_answering (hpath : path ≠ []) (ha : ¬ c.Available)
    (h : load (some path) c = (.ok l, c')) :
    l = .unavailable path ∧ c' = if c.found then askedVersion (loader path) c else c := by
  have hnot : ((loader path).isAvailable c).1 ≠ .ok true :=
    fun htrue => ha (Client.isAvailable_eq_true_iff.1 htrue)
  rw [load_apply hpath] at h
  rw [Client.isAvailable_apply] at h hnot
  cases hfound : c.found with
  | false =>
    rw [hfound] at h
    obtain ⟨hl, rfl⟩ := Prod.mk.inj h
    exact ⟨(Except.ok.inj hl).symm, rfl⟩
  | true =>
    simp only [hfound, if_true] at h hnot
    cases hfirst : (loader path).available (c.next .numericVersion) with
    | error f =>
      rw [hfirst] at h
      cases h
    | ok available =>
      cases available with
      | true => exact absurd hfirst hnot
      | false =>
        rw [hfirst] at h
        obtain ⟨hl, rfl⟩ := Prod.mk.inj h
        exact ⟨(Except.ok.inj hl).symm, rfl⟩

theorem way_of_load (hpath : path ≠ []) (h : load (some path) c = (.ok l, c')) :
    ∃ qs, c'.runs = c.runs ++ qs.map (loader path).run ∧ Way path c l qs := by
  by_cases ha : c.Available
  · rw [load_of_available hpath ha] at h
    exact way_of_loadFrom ha h
  · obtain ⟨rfl, rfl⟩ := load_of_not_answering hpath ha h
    refine ⟨_, ?_, .unavailable ha⟩
    cases c.found with
    | false => exact (List.append_nil _).symm
    | true => rfl

def counts (t : Catalog) : Text :=
  "Loaded ".toList ++ Text.ofNat t.extensions.length ++ " extensions and ".toList
    ++ Text.ofNat t.flags.length ++ " options from GHC ".toList

/-- What a load that ends with a catalog reports, and what it does for it. -/
theorem load_reports {path : Option Text} (h : load path c = (.ok l, c')) :
    (path.getD [] = [] → l.catalog = builtin ∧ l.log = [] ∧ c'.runs = c.runs) ∧
      ∀ p, path = some p → p ≠ [] →
        let told := toldBehindVersion (loader p) c
        ∃ entry qs, l.log = [entry] ∧ c'.runs = c.runs ++ qs.map (loader p).run ∧
          qs <+: [.numericVersion, .supportedExtensions, .showOptions, .numericVersion] ∧
          (entry.level = .warning ↔ ¬ c.Available) ∧
          (entry.level = .error ↔ c.Available ∧ ∃ f, told = .error f) ∧
          (entry.level = .info ↔ c.Available ∧ ∃ t, told = .ok t) ∧
          (¬ c.Available → l.catalog = builtin ∧ qs = if c.found then [.numericVersion] else []) ∧
          (∀ f, c.Available → told = .error f → l.catalog = builtin ∧ f.message <:+: entry.text) ∧
          ∀ t, c.Available → told = .ok t → l.catalog = t ∧ counts t <+: entry.text := by
  constructor
  · intro hpath
    have hnone : path.filter (!·.isEmpty) = none := by
      cases path <;> simp_all
    rw [load, hnone] at h
    obtain ⟨hl, rfl⟩ := Prod.mk.inj h
    obtain rfl := Except.ok.inj hl
    exact ⟨rfl, rfl, rfl⟩
  · intro p hp hne told
    subst hp
    obtain ⟨qs, hruns, hway⟩ := way_of_load hne h
    cases hway with
    | unavailable hno =>
      refine ⟨_, _, rfl, hruns, ?_, by simp [hno], by simp [hno], by simp [hno],
        fun _ => ⟨rfl, rfl⟩, fun f ha => absurd ha hno, fun t ha => absurd ha hno⟩
      split <;> simp
    | @unreadable f qs ha hf hqs =>
      have htold : told = .error f := hf
      refine ⟨_, _, rfl, hruns, ?_, by simp [ha], by simp [ha, htold], by simp [htold],
        fun hno => absurd ha hno, fun g _ hg => ⟨rfl, ?_⟩, fun t _ ht => ?_⟩
      · exact (List.cons_prefix_cons.2 ⟨rfl, hqs⟩).trans (by simp)
      · obtain rfl := Except.error.inj (htold.symm.trans hg)
        exact (List.suffix_append _ _).isInfix
      · cases htold.symm.trans ht
    | @read t version ha ht =>
      have htold : told = .ok t := ht
      refine ⟨_, _, rfl, hruns, List.prefix_refl _, by simp [ha], by simp [htold],
        by simp [ha, htold], fun hno => absurd ha hno, fun f _ hf => ?_, fun t' _ ht' => ?_⟩
      · cases htold.symm.trans hf
      · obtain rfl := Except.ok.inj (htold.symm.trans ht')
        exact ⟨rfl, List.prefix_append _ _⟩

theorem load_reports_refusal :
    let ended (t : String) (code : Int) : List Outcome := [.finished ⟨t.toList, t.toList, code⟩]
    let c : Compiler := ⟨true, fun
      | .numericVersion => ended "9.4.8\n" 0
      | .supportedExtensions => ended "GADTs\nNoGADTs\n" 0
      | .showOptions => ended "unknown mode\n" 1, []⟩
    ∃ l c' entry, load (some ['g']) c = (.ok l, c') ∧ l.log = [entry] ∧ entry.level = .error ∧
      l.catalog = builtin ∧ "g --show-options failed: unknown mode".toList <:+: entry.text := by
  intro ended c
  obtain ⟨l, c', h⟩ : ∃ l c', load (some ['g']) c = (.ok l, c') := ⟨_, _, rfl⟩
  have ha : c.Available := ⟨rfl, _, _, rfl⟩
  have htold : toldBehindVersion (loader ['g']) c =
      .error (.commandFailed ['g'] "--show-options".toList "unknown mode".toList) := rfl
  obtain ⟨entry, qs, hlog, -, -, -, herror, -, -, htext, -⟩ :=
    (load_reports h).2 ['g'] rfl (List.cons_ne_nil _ _)
  obtain ⟨hbuiltin, hmessage⟩ := htext _ ha htold
  exact ⟨l, c', entry, h, hlog, herror.2 ⟨ha, _, htold⟩, hbuiltin, hmessage⟩

end Catalog
end PragmaAssist
