import PragmaAssist.Compiler.Tables
import PragmaAssist.Proofs.Fallible

/-! Loading a catalog when runs of the compiler fail. Each failure but one leaves the built-in
tables; the version, asked for once more for the log behind the tables, is not guarded. -/
namespace PragmaAssist

namespace Outcome

def Succeeds (o : Outcome) (stdout : Text) : Prop := ∃ stderr, o = .finished ⟨stdout, stderr, 0⟩

/-- The run ends, or fails as runs do. -/
def Plain : Outcome → Prop
  | finished _ => True
  | failed f => Client.isRunFailure f = true
  | timedOut => True

instance : (o : Outcome) → Decidable o.Plain
  | finished _ => isTrue trivial
  | failed f => inferInstanceAs (Decidable (Client.isRunFailure f = true))
  | timedOut => isTrue trivial

end Outcome

namespace Compiler

def versionAgain (c : Compiler) : Outcome := (advance (c.outcomes .numericVersion)).headD noOutcome

/-- The compiler is found, and its first run ends well. -/
def Available (c : Compiler) : Prop :=
  c.found = true ∧ ∃ stdout, (c.next .numericVersion).Succeeds stdout

/-- The tables that the compiler tells, neither of which is empty. -/
structure Tells (c : Compiler) (t : Catalog) : Prop where
  extensions : ∃ stdout, (c.next .supportedExtensions).Succeeds stdout ∧
    t.extensions = Catalog.reversible (Client.outputWords stdout)
  flags : ∃ stdout, (c.next .showOptions).Succeeds stdout ∧
    t.flags = Catalog.optionFlags (Client.outputWords stdout)
  extensions_ne : t.extensions ≠ []
  flags_ne : t.flags ≠ []

def Plain (c : Compiler) : Prop := ∀ q, ∀ o ∈ c.outcomes q, o.Plain

variable {c : Compiler} {q q' : Question} {run : Run}

theorem next_after_self : (c.after q run).next q = (advance (c.outcomes q)).headD noOutcome := by
  simp [next, after]

theorem next_after_of_ne (h : q' ≠ q) : (c.after q run).next q' = c.next q' := by
  simp [next, after, h]

theorem mem_of_mem_advance {o : Outcome} {os : List Outcome} (h : o ∈ advance os) : o ∈ os := by
  unfold advance at h
  split at h
  · exact h
  · exact h
  · exact List.mem_cons_of_mem _ h

theorem Plain.after (h : c.Plain) (q : Question) (run : Run) : (c.after q run).Plain := by
  intro q' o ho
  by_cases hq : q' = q
  · simp only [Compiler.after, hq, if_true] at ho
    exact h q o (mem_of_mem_advance ho)
  · simp only [Compiler.after, hq, if_false] at ho
    exact h q' o ho

theorem tells_after {t : Catalog} : (c.after .numericVersion run).Tells t ↔ c.Tells t := by
  have hextensions : (c.after .numericVersion run).next .supportedExtensions = _ :=
    next_after_of_ne (by decide)
  have hflags : (c.after .numericVersion run).next .showOptions = _ := next_after_of_ne (by decide)
  constructor
  · rintro ⟨he, hf, hne, hne'⟩
    exact ⟨hextensions ▸ he, hflags ▸ hf, hne, hne'⟩
  · rintro ⟨he, hf, hne, hne'⟩
    exact ⟨hextensions.symm ▸ he, hflags.symm ▸ hf, hne, hne'⟩

theorem Plain.next (h : c.Plain) (q : Question) : (c.next q).Plain := by
  rw [Compiler.next]
  cases ho : c.outcomes q with
  | nil => trivial
  | cons o rest => exact h q o (by simp [ho])

end Compiler

namespace Client
variable {k : Client} {c : Compiler} {q : Question}

def result (k : Client) (q : Question) : Outcome → Except Failure Reply
  | .finished r => .ok r
  | .failed f => .error f
  | .timedOut => .error (.timedOut [k.path, q.argument] k.seconds)

def run (k : Client) (q : Question) : Run := ⟨k.path, q.argument, k.seconds⟩

def answer (k : Client) (q : Question) (o : Outcome) : Except Failure (List Text) := do
  let r ← k.result q o
  if r.code == 0 then return outputWords r.stdout
  else throw (.commandFailed k.path q.argument r.stderr.trim)

theorem result_eq_ok_iff {o : Outcome} {r : Reply} : k.result q o = .ok r ↔ o = .finished r := by
  cases o <;> simp [result]

theorem isRunFailure_result {o : Outcome} (h : o.Plain) {f : Failure}
    (hf : k.result q o = .error f) : isRunFailure f = true := by
  cases o with
  | finished r => simp [result] at hf
  | failed f' =>
    obtain rfl := Except.error.inj hf
    exact h
  | timedOut =>
    obtain rfl := Except.error.inj hf
    rfl

theorem ask_apply (k : Client) (q : Question) (c : Compiler) :
    k.ask q c = (k.result q (c.next q), c.after q (k.run q)) := by
  rw [ask]
  cases c.next q <;> rfl

theorem words_apply (k : Client) (q : Question) (c : Compiler) :
    k.words q c = (k.answer q (c.next q), c.after q (k.run q)) := by
  rw [words, Fallible.bind_apply, ask_apply, answer]
  cases k.result q (c.next q) with
  | error f => rfl
  | ok r =>
    simp only [bind, Except.bind]
    split <;> rfl

theorem answer_eq_ok_iff {o : Outcome} {ws : List Text} :
    k.answer q o = .ok ws ↔ ∃ stdout, o.Succeeds stdout ∧ ws = outputWords stdout := by
  constructor
  · intro h
    unfold answer at h
    rcases o with ⟨stdout, stderr, code⟩ | f | _
    · simp only [result, bind, Except.bind] at h
      split at h
      · rename_i hcode
        obtain rfl : code = 0 := by simpa using hcode
        exact ⟨stdout, ⟨stderr, rfl⟩, (Except.ok.inj h).symm⟩
      · cases h
    · cases h
    · cases h
  · rintro ⟨stdout, ⟨stderr, rfl⟩, rfl⟩
    rfl

theorem isRecoverable_answer {o : Outcome} (h : o.Plain) {f : Failure}
    (hf : k.answer q o = .error f) : Catalog.isRecoverable f = true := by
  unfold answer at hf
  cases hr : k.result q o with
  | error f' =>
    obtain rfl : f' = f := by simpa [hr, bind, Except.bind] using hf
    simp [Catalog.isRecoverable, isRunFailure_result h hr]
  | ok r =>
    simp only [hr, bind, Except.bind] at hf
    split at hf
    · cases hf
    · obtain rfl := Except.error.inj hf
      rfl

def available (k : Client) (o : Outcome) : Except Failure Bool :=
  match k.result .numericVersion o with
  | .ok r => .ok (r.code == 0)
  | .error f => if isRunFailure f then .ok false else .error f

theorem isAvailable_apply (k : Client) (c : Compiler) :
    k.isAvailable c =
      if c.found then
        (k.available (c.next .numericVersion), c.after .numericVersion (k.run .numericVersion))
      else (.ok false, c) := by
  unfold isAvailable available
  simp only [ask_apply]
  split
  · cases k.result .numericVersion (c.next .numericVersion) <;> rfl
  · rfl

theorem available_eq_true_iff {o : Outcome} :
    k.available o = .ok true ↔ ∃ stdout, o.Succeeds stdout := by
  unfold available
  constructor
  · intro h
    cases hr : k.result .numericVersion o with
    | error f =>
      simp only [hr] at h
      split at h <;> cases h
    | ok r =>
      obtain ⟨stdout, stderr, code⟩ := r
      simp only [hr, Except.ok.injEq, beq_iff_eq] at h
      subst h
      exact ⟨stdout, stderr, result_eq_ok_iff.1 hr⟩
  · rintro ⟨stdout, stderr, rfl⟩
    rfl

theorem isAvailable_eq_true_iff : (k.isAvailable c).1 = .ok true ↔ c.Available := by
  rw [isAvailable_apply, Compiler.Available]
  cases c.found with
  | false => simp
  | true => simp only [if_true, true_and, available_eq_true_iff]

theorem isAvailable_of_available (h : c.Available) :
    k.isAvailable c = (.ok true, c.after .numericVersion (k.run .numericVersion)) := by
  have htrue : (k.isAvailable c).1 = .ok true := isAvailable_eq_true_iff.2 h
  rw [isAvailable_apply, if_pos h.1] at htrue ⊢
  exact Prod.ext htrue rfl

theorem isAvailable_of_not_available (hc : c.Plain) (h : ¬ c.Available) :
    (k.isAvailable c).1 = .ok false := by
  have hfalse : (k.isAvailable c).1 ≠ .ok true := fun htrue => h (isAvailable_eq_true_iff.1 htrue)
  rw [isAvailable_apply] at hfalse ⊢
  cases hfound : c.found with
  | false => rfl
  | true =>
    simp only [hfound, if_true, available] at hfalse ⊢
    cases hr : k.result .numericVersion (c.next .numericVersion) with
    | error f => simp only [isRunFailure_result (hc.next _) hr, if_true]
    | ok r => simpa [hr] using hfalse

end Client

namespace Catalog
variable {k : Client} {c : Compiler} {t : Catalog} {f : Failure}

def tables (k : Client) (c : Compiler) : Except Failure Catalog := do
  let supported ← k.answer .supportedExtensions (c.next .supportedExtensions)
  let options ← k.answer .showOptions (c.next .showOptions)
  if (reversible supported).isEmpty || (optionFlags options).isEmpty then
    throw (.emptyCatalog k.path)
  else return ⟨reversible supported, optionFlags options⟩

/-- The compiler behind the tables: the options are asked for only if the extensions were told. -/
def askedTables (k : Client) (c : Compiler) : Compiler :=
  let c' := c.after .supportedExtensions (k.run .supportedExtensions)
  match k.answer .supportedExtensions (c.next .supportedExtensions) with
  | .ok _ => c'.after .showOptions (k.run .showOptions)
  | .error _ => c'

theorem ofCompiler_eq (k : Client) (c : Compiler) :
    ofCompiler k c = (tables k c, askedTables k c) := by
  unfold ofCompiler Client.supportedExtensions Client.showOptions tables askedTables
  simp only [Fallible.bind_apply, Client.words_apply]
  cases k.answer .supportedExtensions (c.next .supportedExtensions) with
  | error f => rfl
  | ok supported =>
    simp only
    rw [show (c.after _ _).next .showOptions = _ from Compiler.next_after_of_ne (by decide)]
    cases k.answer .showOptions (c.next .showOptions) with
    | error f => rfl
    | ok options =>
      simp only [bind, Except.bind]
      split <;> rfl

theorem next_askedTables (k : Client) (c : Compiler) :
    (askedTables k c).next .numericVersion = c.next .numericVersion := by
  unfold askedTables
  simp only
  split
  · rw [Compiler.next_after_of_ne (by decide), Compiler.next_after_of_ne (by decide)]
  · rw [Compiler.next_after_of_ne (by decide)]

theorem tables_cases (k : Client) (c : Compiler) :
    (∃ t, tables k c = .ok t ∧ c.Tells t) ∨
      ∃ f, tables k c = .error f ∧
        ((∃ q, k.answer q (c.next q) = .error f) ∨ f = .emptyCatalog k.path) := by
  unfold tables
  cases hs : k.answer .supportedExtensions (c.next .supportedExtensions) with
  | error f => exact .inr ⟨f, rfl, .inl ⟨_, hs⟩⟩
  | ok supported =>
    cases ho : k.answer .showOptions (c.next .showOptions) with
    | error f => exact .inr ⟨f, rfl, .inl ⟨_, ho⟩⟩
    | ok options =>
      obtain ⟨stdout, hstdout, rfl⟩ := Client.answer_eq_ok_iff.1 hs
      obtain ⟨stdout', hstdout', rfl⟩ := Client.answer_eq_ok_iff.1 ho
      simp only [bind, Except.bind]
      split
      · exact .inr ⟨_, rfl, .inr rfl⟩
      · rename_i hempty
        rw [Bool.or_eq_true, not_or, List.isEmpty_iff, List.isEmpty_iff] at hempty
        exact .inl ⟨_, rfl, ⟨stdout, hstdout, rfl⟩, ⟨stdout', hstdout', rfl⟩, hempty.1, hempty.2⟩

theorem tables_eq_ok_iff : tables k c = .ok t ↔ c.Tells t := by
  constructor
  · intro h
    rcases tables_cases k c with ⟨t', ht', htells⟩ | ⟨f, hf, -⟩
    · obtain rfl := Except.ok.inj (h.symm.trans ht')
      exact htells
    · cases h.symm.trans hf
  · rintro ⟨⟨stdout, hs, he⟩, ⟨stdout', ho, hf⟩, hne, hne'⟩
    have hs' := (Client.answer_eq_ok_iff (k := k) (q := .supportedExtensions)).2 ⟨stdout, hs, rfl⟩
    have ho' := (Client.answer_eq_ok_iff (k := k) (q := .showOptions)).2 ⟨stdout', ho, rfl⟩
    have hempty : ¬ (t.extensions.isEmpty || t.flags.isEmpty) = true := by simp [hne, hne']
    unfold tables
    simp only [hs', ho', bind, Except.bind, ← he, ← hf, if_neg hempty]
    rfl

theorem isRecoverable_tables (hc : c.Plain) (hf : tables k c = .error f) :
    isRecoverable f = true := by
  rcases tables_cases k c with ⟨t, ht, -⟩ | ⟨f', hf', h⟩
  · cases hf.symm.trans ht
  · obtain rfl := Except.error.inj (hf.symm.trans hf')
    rcases h with ⟨q, hq⟩ | rfl
    · exact Client.isRecoverable_answer (hc.next q) hq
    · rfl

theorem numericVersion_apply (k : Client) (c : Compiler) :
    ∃ version : Reply → Option Text, k.numericVersion c =
      ((k.result .numericVersion (c.next .numericVersion)).map version,
        c.after .numericVersion (k.run .numericVersion)) := by
  refine ⟨fun r =>
    if r.code == 0 && !r.stdout.trim.isEmpty then some r.stdout.trim else none, ?_⟩
  unfold Client.numericVersion
  simp only [Fallible.bind_apply, Client.ask_apply]
  cases k.result .numericVersion (c.next .numericVersion) <;> rfl

theorem loadFrom_apply (path : Text) (k : Client) (c : Compiler) :
    ∃ version : Reply → Option Text, loadFrom path k c =
      match tables k c with
      | .ok t =>
        ((k.result .numericVersion (c.next .numericVersion)).map fun r => .read t (version r),
          (askedTables k c).after .numericVersion (k.run .numericVersion))
      | .error f =>
        (if isRecoverable f then .ok (.unreadable path f) else .error f, askedTables k c) := by
  obtain ⟨version, hversion⟩ := numericVersion_apply k (askedTables k c)
  rw [next_askedTables] at hversion
  refine ⟨version, ?_⟩
  unfold loadFrom
  rw [ofCompiler_eq]
  cases tables k c with
  | error f => rfl
  | ok t =>
    simp only [hversion]
    cases k.result .numericVersion (c.next .numericVersion) <;> rfl

theorem loadFrom_tells {path : Text} (h : c.Tells t) :
    (loadFrom path k c).1.map Loaded.catalog =
      (k.result .numericVersion (c.next .numericVersion)).map fun _ => t := by
  -- What the version's run says goes into the log alone.
  obtain ⟨version, hload⟩ := loadFrom_apply path k c
  rw [hload, tables_eq_ok_iff.2 h]
  cases k.result .numericVersion (c.next .numericVersion) <;> rfl

theorem loadFrom_silent {path : Text} (hc : c.Plain) (h : ¬ ∃ t, c.Tells t) :
    (loadFrom path k c).1.map Loaded.catalog = .ok builtin := by
  obtain ⟨version, hload⟩ := loadFrom_apply path k c
  rw [hload]
  cases hf : tables k c with
  | error f => simp only [isRecoverable_tables hc hf, if_true]; rfl
  | ok t => exact absurd ⟨t, tables_eq_ok_iff.1 hf⟩ h

def loader (path : Text) : Client := .ofPath path Client.defaultSeconds

theorem load_apply {path : Text} (hpath : path ≠ []) (c : Compiler) :
    load (some path) c =
      match (loader path).isAvailable c with
      | (.ok true, c') => loadFrom path (loader path) c'
      | (.ok false, c') => (.ok (.unavailable path), c')
      | (.error f, c') => (.error f, c') := by
  have hfilter : (some path).filter (!·.isEmpty) = some path := by simp [hpath]
  unfold load
  rw [hfilter]
  simp only [Fallible.bind_apply]
  rw [show Client.ofPath path Client.defaultSeconds = loader path from rfl]
  generalize (loader path).isAvailable c = asked
  obtain ⟨f | _ | _, c'⟩ := asked <;> rfl

theorem load_of_available {path : Text} (hpath : path ≠ []) (h : c.Available) :
    load (some path) c =
      loadFrom path (loader path)
        (c.after .numericVersion ((loader path).run .numericVersion)) := by
  rw [load_apply hpath, Client.isAvailable_of_available h]

theorem load_of_not_available {path : Text} (hpath : path ≠ []) (hc : c.Plain)
    (h : ¬ c.Available) : (load (some path) c).1 = .ok (.unavailable path) := by
  have hasked := Client.isAvailable_of_not_available (k := loader path) hc h
  rw [load_apply hpath]
  generalize (loader path).isAvailable c = asked at hasked ⊢
  obtain ⟨r, c'⟩ := asked
  obtain rfl : r = .ok false := hasked
  rfl

theorem load_tells {path : Text} (hpath : path ≠ []) (ha : c.Available) (ht : c.Tells t) :
    (load (some path) c).1.map Loaded.catalog =
      ((loader path).result .numericVersion c.versionAgain).map fun _ => t := by
  rw [load_of_available hpath ha, loadFrom_tells (Compiler.tells_after.2 ht),
    Compiler.next_after_self]
  rfl

theorem load_silent {path : Text} (hpath : path ≠ []) (hc : c.Plain)
    (h : ¬ (c.Available ∧ ∃ t, c.Tells t)) :
    (load (some path) c).1.map Loaded.catalog = .ok builtin := by
  by_cases ha : c.Available
  · rw [load_of_available hpath ha]
    refine loadFrom_silent (hc.after _ _) fun ⟨t, ht⟩ => h ⟨ha, t, ?_⟩
    exact Compiler.tells_after.1 ht
  · rw [load_of_not_available hpath hc ha]
    rfl

theorem eq_error_iff_of_map {α β γ : Type} {x : Except Failure α} {y : Except Failure β}
    {g : α → γ} {g' : β → γ} (h : x.map g = y.map g') (f : Failure) :
    x = .error f ↔ y = .error f := by
  cases x <;> cases y <;> simp_all [Except.map]

/-- Whatever the runs come to, loading with a path ends with the tables that the compiler tells, or
with the built-in ones if it tells none; but it fails if the compiler tells tables and the version's
second run fails. -/
theorem load_eq_error_iff {path : Text} (hpath : path ≠ []) (hc : c.Plain) :
    let loaded := (load (some path) c).1
    (∀ f, loaded = .error f ↔ (c.Available ∧ ∃ t, c.Tells t) ∧
      (loader path).result .numericVersion c.versionAgain = .error f) ∧
      ∀ l, loaded = .ok l → (c.Available ∧ c.Tells l.catalog) ∨
        (¬ (c.Available ∧ ∃ t, c.Tells t) ∧ l.catalog = builtin) := by
  intro loaded
  by_cases h : c.Available ∧ ∃ t, c.Tells t
  · obtain ⟨ha, t, ht⟩ := h
    have htold : loaded.map Loaded.catalog = _ := load_tells hpath ha ht
    refine ⟨fun f => ?_, fun l hl => .inl ⟨ha, ?_⟩⟩
    · rw [and_iff_right ⟨ha, t, ht⟩]
      exact eq_error_iff_of_map htold f
    · rw [hl] at htold
      cases hr : (loader path).result .numericVersion c.versionAgain with
      | error f =>
        rw [hr] at htold
        cases htold
      | ok r =>
        rw [hr] at htold
        obtain rfl : l.catalog = t := Except.ok.inj htold
        exact ht
  · have hbuiltin : loaded.map Loaded.catalog = .ok builtin := load_silent hpath hc h
    cases hl : loaded with
    | error f => simp [hl, Except.map] at hbuiltin
    | ok l =>
      refine ⟨by simp [h], fun l' hl' => .inr ⟨h, ?_⟩⟩
      obtain rfl := Except.ok.inj hl'
      rw [hl] at hbuiltin
      exact Except.ok.inj hbuiltin

/-- A compiler whose second answer about its version does not come. -/
theorem load_version_timeout :
    let told (t : String) : Outcome := .finished ⟨t.toList, [], 0⟩
    let c : Compiler := ⟨true, fun
      | .numericVersion => [told "9.4.8\n", .timedOut]
      | .supportedExtensions => [told "GADTs\nNoGADTs\n"]
      | .showOptions => [told "-Wall\n"], []⟩
    c.Plain ∧ c.Tells ⟨["GADTs".toList], ["-Wall".toList]⟩ ∧
      (load (some ['g']) c).1 = .error (.timedOut [['g'], "--numeric-version".toList] 10) := by
  intro told c
  have hplain : c.Plain := by
    intro q
    cases q <;> decide
  exact ⟨hplain, ⟨⟨_, ⟨[], rfl⟩, rfl⟩, ⟨_, ⟨[], rfl⟩, rfl⟩, by decide, by decide⟩, rfl⟩

/-- A compiler that stops while it tells its options: the built-in tables are loaded. -/
theorem load_eq_error_iff_options_failed :
    let told (t : String) : Outcome := .finished ⟨t.toList, [], 0⟩
    let c : Compiler := ⟨true, fun
      | .numericVersion => [told "9.4.8\n", .timedOut]
      | .supportedExtensions => [told "GADTs\nNoGADTs\n"]
      | .showOptions => [.failed (.reported .system "Broken pipe".toList)], []⟩
    ['g'] ≠ [] ∧ c.Plain ∧ ∃ l, (load (some ['g']) c).1 = .ok l ∧ l.catalog = builtin := by
  intro told c
  have hpath : ['g'] ≠ [] := List.cons_ne_nil _ _
  have hplain : c.Plain := by
    intro q
    cases q <;> decide
  obtain ⟨l, hl⟩ : ∃ l, (load (some ['g']) c).1 = .ok l := ⟨_, rfl⟩
  refine ⟨hpath, hplain, l, hl, ?_⟩
  rcases (load_eq_error_iff hpath hplain).2 l hl with ⟨-, htells⟩ | ⟨-, hbuiltin⟩
  · obtain ⟨_, ⟨_, hnext⟩, -⟩ := htells.flags
    cases hnext
  · exact hbuiltin

end Catalog
end PragmaAssist
