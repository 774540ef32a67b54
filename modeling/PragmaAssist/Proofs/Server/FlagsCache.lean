import PragmaAssist.Proofs.Server.CacheSteps

/-! The cache of flags cannot be seen. As long as the rules stay as they are, every entry is what
its contents give when they are read afresh, so a server without a cache answers the same. -/
namespace PragmaAssist
namespace Server

theorem get?_dropping (u? : Option Uri) (k : FlagsCache) (v : Uri) :
    (dropping u? k).get? v = if u? = some v then none else k.get? v := by
  cases u? with
  | none => simp [dropping]
  | some u =>
    by_cases h : u = v
    · simp [dropping, h]
    · simp [dropping, h, Table.get?_erase_of_ne k (Ne.symm h)]

def kept? (u : Uri) (c : Text) (s : Server) : Option (Option Flags) :=
  (s.cache.get? u).bind fun e => if e.1 = c then some e.2 else none

theorem kept?_eq_some {u : Uri} {c : Text} {s : Server} {f : Option Flags} :
    s.kept? u c = some f ↔ s.cache.get? u = some (c, f) := by
  simp only [kept?, Option.bind_eq_some_iff]
  constructor
  · rintro ⟨⟨d, g⟩, hd, h⟩
    obtain ⟨rfl, rfl⟩ := by simpa using h
    exact hd
  · intro h
    exact ⟨(c, f), h, by simp⟩

theorem cachedLookup_getD (u : Uri) (c : Text) (s : Server) :
    (cachedLookup u c s).1 = (s.kept? u c).getD (s.parseFlags c) := by
  unfold cachedLookup kept?
  cases s.cache.get? u with
  | none => rfl
  | some e =>
    obtain ⟨d, f⟩ := e
    by_cases h : d = c
    · simp [h]
    · simp [h]

/-- After a look-up the document's entry is what was asked for and what was answered. -/
theorem get?_cachedLookup (u : Uri) (c : Text) (s : Server) (v : Uri) :
    (cachedLookup u c s).2.cache.get? v =
      if v = u then some (c, (cachedLookup u c s).1) else s.cache.get? v := by
  have hread (f : Option Flags) : (s.cache.insert u (c, f)).get? v =
      if v = u then some (c, f) else s.cache.get? v := by
    by_cases h : v = u
    · simp [h]
    · simp [h, Table.get?_insert_of_ne _ _ h]
  unfold cachedLookup
  split
  · rename_i d f hd
    by_cases hdc : d = c
    · subst hdc
      by_cases h : v = u
      · simp [h, hd]
      · simp [h]
    · simpa [hdc] using hread (s.parseFlags c)
  · exact hread (s.parseFlags c)

theorem parseFlags_of_rules {s t : Server} (h : SameRules s t) (c : Text) :
    t.parseFlags c = s.parseFlags c := by
  rw [parseFlags, parseFlags, h.1, h.2]

theorem step_rules {st : Step} (hi : st.initializes = false) (s : Server) :
    SameRules s (step st s).2 := by
  cases hl : lookedUp? st s with
  | none =>
    obtain ⟨a, s', hs, h⟩ := step_plain hi hl
    have h' := (h cachedLookup s.cache).1
    rw [withCache_cache] at h'
    rw [step, h']
    exact hs
  | some e =>
    obtain ⟨u, c⟩ := e
    obtain ⟨-, h⟩ := step_lookup hl
    obtain ⟨k, hk⟩ := cachedLookup_onlyCache u c s
    have h' := h cachedLookup s.cache cachedLookup_onlyCache
    rw [withCache_cache] at h'
    rw [step, h', hk]
    exact .refl s

theorem startUp_cache (options : Json) (env : Environment) (compiler : Compiler) (s : Server) :
    (startUp options env compiler s).2.cache = s.cache := by
  unfold startUp
  split
  · rfl
  · simp only
    split <;> rfl

theorem initialization_state (look : FlagsLookup) (id options : Json) (env : Environment)
    (compiler : Compiler) (s : Server) :
    (stepWith look (.message (.initialization id options env compiler)) s).2 =
      (startUp options env compiler s).2 := by
  simp only [stepWith, receive]
  generalize startUp options env compiler s = started
  obtain ⟨_ | log, s'⟩ := started <;> rfl

theorem initialization_cache (look : FlagsLookup) (id options : Json) (env : Environment)
    (compiler : Compiler) (s : Server) :
    (stepWith look (.message (.initialization id options env compiler)) s).2.cache = s.cache := by
  rw [initialization_state, startUp_cache]

theorem get?_cache_step (st : Step) (s : Server) (v : Uri) :
    (step st s).2.cache.get? v =
      if dropped? st s = some v then none
      else match lookedUp? st s with
        | some (u, c) => if v = u then some (c, (cachedLookup u c s).1) else s.cache.get? v
        | none => s.cache.get? v := by
  by_cases hi : st.initializes = true
  · obtain ⟨id, options, env, compiler, rfl⟩ := Step.exists_of_initializes hi
    rw [step, initialization_cache]
    simp [dropped?, lookedUp?]
  rw [Bool.not_eq_true] at hi
  cases hl : lookedUp? st s with
  | none =>
    obtain ⟨a, s', -, h⟩ := step_plain hi hl
    have h' := (h cachedLookup s.cache).1
    rw [withCache_cache] at h'
    rw [step, h']
    exact get?_dropping (dropped? st s) s.cache v
  | some e =>
    obtain ⟨u, c⟩ := e
    obtain ⟨hd, h⟩ := step_lookup hl
    have h' := h cachedLookup s.cache cachedLookup_onlyCache
    rw [withCache_cache] at h'
    rw [step, h', hd]
    simpa using get?_cachedLookup u c s v

/-! ### Entries that agree with their contents -/

/-- Every entry holds what its contents give by the rules in force. -/
def Faithful (s : Server) : Prop :=
  ∀ u c f, s.cache.get? u = some (c, f) → f = s.parseFlags c

theorem Faithful.cachedLookup_eq {s : Server} (h : Faithful s) (u : Uri) (c : Text) :
    (cachedLookup u c s).1 = s.parseFlags c := by
  rw [cachedLookup_getD]
  cases hk : s.kept? u c with
  | none => rfl
  | some f => exact h u c f (kept?_eq_some.1 hk)

theorem Faithful.step {s : Server} (h : Faithful s) {st : Step} (hi : st.initializes = false) :
    Faithful (step st s).2 := by
  intro v c f hv
  rw [parseFlags_of_rules (step_rules hi s)]
  rw [get?_cache_step st s v] at hv
  split at hv
  · simp at hv
  · split at hv
    · rename_i u d hl
      split at hv
      · obtain ⟨rfl, rfl⟩ := by simpa using hv
        exact h.cachedLookup_eq u d
      · exact h v c f hv
    · exact h v c f hv

theorem step_eq_direct {s : Server} (h : Faithful s) {st : Step} (hi : st.initializes = false)
    (hc : st.showsCache = false) (k : FlagsCache) :
    ∃ k', stepWith directLookup st (s.withCache k) =
      ((step st s).1, (step st s).2.withCache k') := by
  cases hl : lookedUp? st s with
  | none =>
    obtain ⟨a, s', -, hp⟩ := step_plain hi hl
    obtain ⟨hs, ha⟩ := hp cachedLookup s.cache
    obtain ⟨hs', ha'⟩ := hp directLookup k
    rw [withCache_cache] at hs ha
    refine ⟨dropping (dropped? st s) k, Prod.ext ?_ ?_⟩
    · rw [ha' hc, Server.step, ha hc]
    · rw [hs', Server.step, hs, withCache_withCache]
  | some e =>
    obtain ⟨u, c⟩ := e
    obtain ⟨-, hr⟩ := step_lookup hl
    have hs := hr cachedLookup s.cache cachedLookup_onlyCache
    rw [withCache_cache, h.cachedLookup_eq] at hs
    obtain ⟨k', hk'⟩ := cachedLookup_onlyCache u c s
    refine ⟨k, ?_⟩
    rw [hr directLookup k directLookup_onlyCache, Server.step, hs, hk']
    rfl

theorem run_eq_direct_of_faithful (steps : List Step)
    (hsteps : ∀ st ∈ steps, st.initializes = false ∧ st.showsCache = false) {s : Server}
    (h : Faithful s) (k : FlagsCache) :
    (run steps s).1 = (runWith directLookup steps (s.withCache k)).1 ∧
      Faithful (run steps s).2 := by
  induction steps generalizing s k with
  | nil => exact ⟨rfl, h⟩
  | cons st rest ih =>
    obtain ⟨hi, hc⟩ := hsteps st List.mem_cons_self
    obtain ⟨k', hd⟩ := step_eq_direct h hi hc k
    obtain ⟨hrest, hf⟩ := ih (fun t ht => hsteps t (List.mem_cons_of_mem st ht)) (h.step hi) k'
    constructor
    · simp only [run, runWith] at hrest ⊢
      rw [hd]
      exact congrArg _ hrest
    · exact hf

theorem faithful_of_empty {s : Server} (h : s.cache = .empty) : Faithful s := by
  intro u c f hu
  simp [h] at hu

def directActions (catalog : Catalog) (settings : Settings) (r : CodeActionRequest)
    (contents : Except Failure (Option Text)) : List CodeAction × List LogEntry :=
  if r.diagnostics.isEmpty then ([], [])
  else match contents with
    | .error f => ([], [refusedEntry f])
    | .ok text =>
      let flags := text.bind (Flags.parse? · catalog.extensions settings.defaultExtensions)
      (actionsFor catalog settings r ⟨flags, text⟩, [])

theorem codeActions_eq_direct {s : Server} (h : Faithful s) (r : CodeActionRequest) :
    (codeActions cachedLookup r s).1 =
      if s.capable then directActions s.catalog s.settings r (s.contents? r.uri)
      else ([], []) := by
  cases hq : s.capable && !r.diagnostics.isEmpty with
  | false =>
    rw [codeActions_idle cachedLookup r s hq]
    cases hs : s.capable with
    | false => rfl
    | true =>
      have hd : r.diagnostics.isEmpty = true := by simpa [hs] using hq
      simp [directActions, hd]
  | true =>
    obtain ⟨hs, hd⟩ : s.capable = true ∧ r.diagnostics.isEmpty = false := by simpa using hq
    have hread (c : Text) := h.cachedLookup_eq r.uri c
    rw [codeActions_eq cachedLookup r s hs hd, snapshot_eq, if_pos hs]
    simp only [directActions, hd, Bool.false_eq_true, if_false]
    cases hc : s.contents? r.uri with
    | error f => rfl
    | ok contents =>
      cases contents with
      | none => rfl
      | some c =>
        obtain ⟨k, hk⟩ := cachedLookup_onlyCache r.uri c s
        simp only [hk, hread]
        rfl

def codeActionMessages (id : Json) (found : List CodeAction × List LogEntry) : List Outgoing :=
  found.2.map .log ++ [.response id (.codeActions found.1)]

/-- After one initialization the cache cannot be seen: all answers of a run are those of a server
that reads flags afresh each time, and code actions depend on the rules in force, the current text
of their document and the diagnostics alone. -/
theorem run_eq_direct (id options : Json) (env : Environment) (compiler : Compiler)
    (steps : List Step)
    (hsteps : ∀ st ∈ steps, st.initializes = false ∧ st.showsCache = false) :
    let all := Step.message (.initialization id options env compiler) :: steps
    let s := (run all fresh).2
    (run all fresh).1 = (runWith directLookup all fresh).1 ∧
      ∀ (id : Json) (r : CodeActionRequest),
        (step (.message (.codeAction id r)) s).1 = .ok (.sent (codeActionMessages id
          (if s.capable then directActions s.catalog s.settings r (s.contents? r.uri)
          else ([], [])))) := by
  intro all s
  let first := Step.message (.initialization id options env compiler)
  have hstarted : Faithful (step first fresh).2 :=
    faithful_of_empty (initialization_cache cachedLookup id options env compiler fresh)
  obtain ⟨hrun, hfaithful⟩ :=
    run_eq_direct_of_faithful steps hsteps hstarted (step first fresh).2.cache
  rw [withCache_cache] at hrun
  refine ⟨congrArg ((step first fresh).1 :: ·) hrun, fun id r => ?_⟩
  have hs : Faithful s := hfaithful
  rw [← codeActions_eq_direct hs r]
  rfl

/-- Flags of contents that are not the document's are kept and asked for again, before and after
the document is opened, changed and closed. -/
theorem run_eq_direct_foreign :
    let u := "file:///m.hs".toList
    let c := "{-# LANGUAGE Arrows #-}\n".toList
    let request := Step.message (.codeAction (.int 1) ⟨u, [⟨"use Arrows".toList, none⟩]⟩)
    let steps := [.query (.flags u (some c)), .message (.opened u []), request,
      .query (.flags u (some c)), request, .message (.changed u [c]), request,
      .message (.closed u), .query (.flags u (some [])), .query (.snapshot u)]
    let all := Step.message (.initialization .null .null .empty .absent) :: steps
    (∀ st ∈ steps, st.initializes = false ∧ st.showsCache = false) ∧
      (run all fresh).1 = (runWith directLookup all fresh).1 := by
  intro u c request steps all
  have hsteps : ∀ st ∈ steps, st.initializes = false ∧ st.showsCache = false := by decide
  exact ⟨hsteps, (run_eq_direct .null .null .empty .absent steps hsteps).1⟩

end Server
end PragmaAssist
