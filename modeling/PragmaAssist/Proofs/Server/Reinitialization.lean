import PragmaAssist.Proofs.Server.StartUp

/-! A server that is initialized again. The cache is kept, so flags that were read by earlier rules
are answered until their entry is dropped or replaced; all others are read by the new rules. -/
namespace PragmaAssist
namespace Server

theorem run_cons (st : Step) (rest : List Step) (s : Server) :
    (run (st :: rest) s).2 = (run rest (step st s).2).2 := rfl

theorem run_append (earlier later : List Step) (s : Server) :
    (run (earlier ++ later) s).2 = (run later (run earlier s).2).2 := by
  induction earlier generalizing s with
  | nil => rfl
  | cons st rest ih => rw [List.cons_append, run_cons, ih, run_cons]

theorem run_rules {steps : List Step} (hsteps : ∀ st ∈ steps, st.initializes = false)
    (s : Server) : SameRules s (run steps s).2 := by
  induction steps generalizing s with
  | nil => exact .refl s
  | cons st rest ih =>
    rw [run_cons]
    have hst := step_rules (hsteps st List.mem_cons_self) s
    exact hst.trans (ih (fun t ht => hsteps t (List.mem_cons_of_mem st ht)) (step st s).2)

/-- Whether a step leaves flags that are kept for these contents: it does not drop the document's
and looks up no others for it. -/
def keepsEntry (u : Uri) (c : Text) (st : Step) (s : Server) : Bool :=
  dropped? st s ≠ some u && (lookedUp? st s).all fun e => e.1 ≠ u || e.2 = c

def keepsEntries (u : Uri) (c : Text) : List Step → Server → Bool
  | [], _ => true
  | st :: rest, s => keepsEntry u c st s && keepsEntries u c rest (step st s).2

theorem cachedLookup_step {st : Step} (hi : st.initializes = false) (u : Uri) (c : Text)
    (s : Server) :
    (cachedLookup u c (step st s).2).1 =
      if keepsEntry u c st s then (cachedLookup u c s).1 else s.parseFlags c := by
  rw [cachedLookup_getD, parseFlags_of_rules (step_rules hi s), kept?, get?_cache_step]
  by_cases hd : dropped? st s = some u
  · simp [keepsEntry, hd]
  rw [if_neg hd]
  cases hl : lookedUp? st s with
  | none => simp [keepsEntry, hd, hl, cachedLookup_getD, kept?]
  | some e =>
    obtain ⟨v, d⟩ := e
    by_cases hv : u = v
    · subst hv
      by_cases hc : d = c
      · simp [keepsEntry, hd, hl, hc]
      · simp [keepsEntry, hd, hl, hc]
    · have hv' : v ≠ u := fun h => hv h.symm
      simp [keepsEntry, hd, hl, hv, hv', cachedLookup_getD, kept?]

theorem cachedLookup_run {steps : List Step} (hsteps : ∀ st ∈ steps, st.initializes = false)
    (u : Uri) (c : Text) (s : Server) :
    (cachedLookup u c (run steps s).2).1 =
      if keepsEntries u c steps s then (cachedLookup u c s).1 else s.parseFlags c := by
  induction steps generalizing s with
  | nil => rfl
  | cons st rest ih =>
    have hi := hsteps st List.mem_cons_self
    rw [run_cons, ih (fun t ht => hsteps t (List.mem_cons_of_mem st ht)), cachedLookup_step hi,
      parseFlags_of_rules (step_rules hi s), keepsEntries]
    cases keepsEntry u c st s <;> cases keepsEntries u c rest (step st s).2 <;> rfl

/-- Flags that are kept were kept at the start or read on the way, by the rules of that time. -/
theorem kept?_run {steps : List Step} {s : Server} {u : Uri} {c : Text} {f : Option Flags}
    (h : (run steps s).2.kept? u c = some f) :
    s.kept? u c = some f ∨
      ∃ before after, steps = before ++ after ∧ f = (run before s).2.parseFlags c := by
  induction steps generalizing s with
  | nil => exact .inl h
  | cons st rest ih =>
    rw [run_cons] at h
    rcases ih h with h | ⟨before, after, rfl, hf⟩
    · -- The step dropped the entry, looked it up or left it alone.
      rw [kept?_eq_some, get?_cache_step] at h
      split at h
      · simp at h
      · split at h
        · rename_i v d hl
          split at h
          · rename_i huv
            subst huv
            obtain ⟨rfl, hf⟩ := by simpa using h
            rw [cachedLookup_getD] at hf
            cases hk : s.kept? u d with
            | none =>
              rw [hk, Option.getD_none] at hf
              exact .inr ⟨[], st :: rest, rfl, hf.symm⟩
            | some g =>
              rw [hk, Option.getD_some] at hf
              exact .inl (congrArg some hf)
          · exact .inl (kept?_eq_some.2 h)
        · exact .inl (kept?_eq_some.2 h)
    · exact .inr ⟨st :: before, after, rfl, hf⟩

theorem startUp_ok {options : Json} {env : Environment} {compiler : Compiler} {s : Server}
    {log : List LogEntry} (h : (startUp options env compiler s).1 = .ok log) :
    let t := (startUp options env compiler s).2
    Settings.resolve options env = .ok t.settings ∧
      (Catalog.load t.settings.compilerPath compiler).1.map (·.catalog) = .ok t.catalog := by
  have hends := startUp_ends options env compiler s
  rw [h] at hends
  exact hends

/-- After an initialization that succeeds, and up to the next one, flags are read by its settings
and its catalog. The exception are flags that were kept when it came: they are answered as long as
no step drops or replaces them, and were read by the rules of some earlier time. -/
theorem flags_after_initialization (earlier later : List Step)
    (hlater : ∀ st ∈ later, st.initializes = false) (id options : Json) (env : Environment)
    (compiler : Compiler) {log : List LogEntry}
    (hstart : (startUp options env compiler (run earlier fresh).2).1 = .ok log) :
    let again := Step.message (.initialization id options env compiler)
    let before := (run earlier fresh).2
    let now := (run (earlier ++ again :: later) fresh).2
    Settings.resolve options env = .ok now.settings ∧
      (Catalog.load now.settings.compilerPath compiler).1.map (·.catalog) = .ok now.catalog ∧
      ∀ u c,
        let read := Flags.parse? c now.catalog.extensions now.settings.defaultExtensions
        (flags cachedLookup u (some c) now).1 =
            .ok (if keepsEntries u c later (step again before).2 then
              (before.kept? u c).getD read else read) ∧
          ∀ f, before.kept? u c = some f → ∃ sooner rest,
            earlier = sooner ++ rest ∧ f = (run sooner fresh).2.parseFlags c := by
  intro again before now
  have hstarted : (step again before).2 = (startUp options env compiler before).2 :=
    initialization_state cachedLookup id options env compiler before
  have hnow : now = (run later (step again before).2).2 := run_append earlier (again :: later) fresh
  have hrules : SameRules (step again before).2 now := hnow ▸ run_rules hlater _
  obtain ⟨hsettings, hcatalog⟩ := startUp_ok hstart
  rw [← hstarted] at hsettings hcatalog
  rw [← hrules.2] at hsettings hcatalog
  rw [← hrules.1] at hcatalog
  refine ⟨hsettings, hcatalog, fun u c => ⟨?_, fun f hf => ?_⟩⟩
  · have hread : (step again before).2.parseFlags c =
        Flags.parse? c now.catalog.extensions now.settings.defaultExtensions :=
      (parseFlags_of_rules hrules c).symm
    have hkept : (step again before).2.kept? u c = before.kept? u c := by
      rw [kept?, step, initialization_cache, kept?]
    rw [flags_some, hnow, cachedLookup_run hlater, cachedLookup_getD, hkept, ← hnow, hread]
  · rcases kept?_run hf with h | h
    · simp [kept?, fresh] at h
    · exact h

/-- A second initialization with another default extension: the flags kept from before it are
answered still. -/
theorem stale_flags_after_initialization :
    let u := "file:///m.hs".toList
    let options := Json.obj [("defaultExtensions".toList, .arr [.str "A".toList])]
    let earlier := [Step.message (.initialization .null .null .empty .absent),
      .query (.flags u (some []))]
    let again := Step.message (.initialization .null options .empty .absent)
    let now := (run (earlier ++ [again]) fresh).2
    (∃ log, (startUp options .empty .absent (run earlier fresh).2).1 = .ok log) ∧
      (flags cachedLookup u (some []) now).1 ≠
        .ok (Flags.parse? [] now.catalog.extensions now.settings.defaultExtensions) := by
  intro u options earlier again now
  refine ⟨⟨_, rfl⟩, fun h => ?_⟩
  have hkept : (flags cachedLookup u (some []) now).1 = .ok (some ⟨.empty, .empty⟩) := rfl
  have hread : Flags.parse? [] now.catalog.extensions now.settings.defaultExtensions =
      some ⟨.ofList ["A".toList], .empty⟩ := rfl
  rw [hkept, hread] at h
  have henabled := congrArg (Option.map Flags.enabled) (Except.ok.inj h)
  exact absurd henabled (by decide)

theorem flags_after_initialization_saved :
    let u := "file:///m.hs".toList
    let v := "file:///n.hs".toList
    let c := "module M where".toList
    let options := Json.obj [("defaultExtensions".toList, .arr [.str "A".toList])]
    let earlier := [Step.message (.initialization .null .null .empty .absent),
      .query (.flags u (some c)), .query (.flags v (some c))]
    let again := Step.message (.initialization .null options .empty .absent)
    let later := [Step.message (.saved v), .query (.flags u none)]
    let now := (run (earlier ++ again :: later) fresh).2
    (∃ log, (startUp options .empty .absent (run earlier fresh).2).1 = .ok log) ∧
      (∀ st ∈ later, st.initializes = false) ∧
      (flags cachedLookup u (some c) now).1 = .ok (some ⟨.empty, .empty⟩) ∧
      (flags cachedLookup v (some c) now).1 = .ok (some ⟨.ofList ["A".toList], .empty⟩) := by
  intro u v c options earlier again later now
  have hstart : ∃ log, (startUp options .empty .absent (run earlier fresh).2).1 = .ok log :=
    ⟨_, rfl⟩
  have hlater : ∀ st ∈ later, st.initializes = false := by decide
  obtain ⟨log, hlog⟩ := hstart
  obtain ⟨-, -, hflags⟩ :=
    flags_after_initialization earlier later hlater .null options .empty .absent hlog
  exact ⟨⟨log, hlog⟩, hlater, (hflags u c).1, (hflags v c).1⟩

end Server
end PragmaAssist
