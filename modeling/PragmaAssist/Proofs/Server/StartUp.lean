import PragmaAssist.Proofs.Server.FlagsCache

/-! Where the settings and the catalog of a server come from. An initialization takes over its
settings before it loads their catalog, and does not take them back if that fails. -/
namespace PragmaAssist

def Step.resolves : Step → Bool
  | .message (.initialization _ options env _) => (Settings.resolve options env).toOption.isSome
  | _ => false

theorem Step.resolves_iff {st : Step} : st.resolves = true ↔
    ∃ id options env compiler settings, st = .message (.initialization id options env compiler) ∧
      Settings.resolve options env = .ok settings := by
  constructor
  · intro h
    unfold Step.resolves at h
    split at h
    · rename_i id options env compiler
      cases hr : Settings.resolve options env with
      | error f => simp [hr, Except.toOption] at h
      | ok settings => exact ⟨id, options, env, compiler, settings, rfl, hr⟩
    · cases h
  · rintro ⟨id, options, env, compiler, settings, rfl, hr⟩
    simp [Step.resolves, hr, Except.toOption]

namespace Server
variable {options : Json} {env : Environment}

def catalogOf (settings : Settings) (compiler : Compiler) : Except Failure Catalog :=
  (Catalog.load settings.compilerPath compiler).1.map (·.catalog)

/-- How an initialization ends: with its settings and their catalog, or with one of two failures. If
the options come to no settings nothing is taken over; if the catalog cannot be loaded, the new
settings stay in force beside the catalog from before. -/
def Ends (options : Json) (env : Environment) (compiler : Compiler) (s t : Server) :
    Except Failure (List LogEntry) → Prop
  | .ok _ =>
    Settings.resolve options env = .ok t.settings ∧ catalogOf t.settings compiler = .ok t.catalog
  | .error f => t.catalog = s.catalog ∧
    (Settings.resolve options env = .error f ∧ t.settings = s.settings ∨
      Settings.resolve options env = .ok t.settings ∧ catalogOf t.settings compiler = .error f)

/-- The last of the steps that came to settings decides: they are in force, with their catalog, or
if that could not be loaded with the one from before this step. -/
def FromLast (steps : List Step) (s : Server) : Prop :=
  let now := (run steps s).2
  (∀ st ∈ steps, st.resolves = false) ∧ SameRules s now ∨
    ∃ earlier id options env compiler later,
      steps = earlier ++ .message (.initialization id options env compiler) :: later ∧
        (∀ st ∈ later, st.resolves = false) ∧ Settings.resolve options env = .ok now.settings ∧
        now.catalog =
          (catalogOf now.settings compiler).toOption.getD (run earlier s).2.catalog

theorem startUp_refused {f : Failure} (h : Settings.resolve options env = .error f)
    (compiler : Compiler) (s : Server) :
    (startUp options env compiler s).1 = .error f ∧
      SameRules s (startUp options env compiler s).2 := by
  simp [startUp, h, SameRules]

theorem startUp_resolved {settings : Settings} (h : Settings.resolve options env = .ok settings)
    (compiler : Compiler) (s : Server) :
    let t := (startUp options env compiler s).2
    (startUp options env compiler s).1.map (fun _ => t.catalog) = catalogOf settings compiler ∧
      t.settings = settings ∧
      t.catalog = (catalogOf settings compiler).toOption.getD s.catalog := by
  unfold catalogOf
  cases hload : (Catalog.load settings.compilerPath compiler).1 <;>
    simp [startUp, h, hload, Except.map, Except.toOption]

theorem startUp_ends (options : Json) (env : Environment) (compiler : Compiler) (s : Server) :
    Ends options env compiler s (startUp options env compiler s).2
      (startUp options env compiler s).1 := by
  cases h : Settings.resolve options env with
  | error f =>
    obtain ⟨hf, hcatalog, hsettings⟩ := startUp_refused h compiler s
    rw [hf]
    exact ⟨hcatalog, .inl ⟨h, hsettings⟩⟩
  | ok settings =>
    obtain ⟨hload, hsettings, hcatalog⟩ := startUp_resolved h compiler s
    rw [← hsettings] at h hload hcatalog
    rw [← hload] at hcatalog
    cases hr : (startUp options env compiler s).1 with
    | ok log =>
      rw [hr] at hload
      exact ⟨h, hload.symm⟩
    | error f =>
      rw [hr] at hload hcatalog
      exact ⟨hcatalog, .inr ⟨h, hload.symm⟩⟩

theorem step_rules_of_not_resolves {st : Step} (h : st.resolves = false) (s : Server) :
    SameRules s (step st s).2 := by
  cases hi : st.initializes with
  | false => exact step_rules hi s
  | true =>
    cases st with
    | query q => cases hi
    | message m =>
      cases m with
      | initialization id options env compiler =>
        rw [step, initialization_state]
        cases hr : Settings.resolve options env with
        | error f => exact (startUp_refused hr compiler s).2
        | ok settings => simp [Step.resolves, hr, Except.toOption] at h
      | _ => cases hi

theorem run_fromLast (steps : List Step) (s : Server) : FromLast steps s := by
  induction steps generalizing s with
  | nil => exact .inl ⟨by simp, .refl s⟩
  | cons st rest ih =>
    rcases ih (step st s).2 with ⟨hrest, hrules⟩ | h
    · cases hst : st.resolves with
      | false =>
        refine .inl ⟨List.forall_mem_cons.2 ⟨hst, hrest⟩, ?_⟩
        exact (step_rules_of_not_resolves hst s).trans hrules
      | true =>
        -- No later step comes to settings, so this one decides.
        obtain ⟨id, options, env, compiler, settings, rfl, hr⟩ := Step.resolves_iff.1 hst
        obtain ⟨-, hsettings, hcatalog⟩ := startUp_resolved hr compiler s
        rw [← initialization_state cachedLookup id options env compiler s] at hsettings hcatalog
        obtain rfl := hrules.2.trans hsettings
        exact .inr ⟨[], id, options, env, compiler, rest, rfl, hrest, hr, hrules.1.trans hcatalog⟩
    · obtain ⟨earlier, id, options, env, compiler, later, rfl, h⟩ := h
      exact .inr ⟨st :: earlier, id, options, env, compiler, later, rfl, h⟩

/-- One initialization takes over its settings, its settings with their catalog, or nothing; so the
two are always from one initialization, but for a catalog that could not be loaded. -/
theorem rules_of_initializations (s : Server) :
    (∀ options env compiler, Ends options env compiler s (startUp options env compiler s).2
      (startUp options env compiler s).1) ∧ ∀ steps, FromLast steps s :=
  ⟨fun options env compiler => startUp_ends options env compiler s,
    fun steps => run_fromLast steps s⟩

theorem settings_beside_earlier_catalog :
    let path := ("ghcPath".toList, Json.str "ghc".toList)
    let told (t : String) : Outcome := .finished ⟨t.toList, [], 0⟩
    let telling : Compiler := ⟨true, fun
      | .numericVersion => [told "9.4.8\n"]
      | .supportedExtensions => [told "GADTs\nNoGADTs\n"]
      | .showOptions => [told "-Wall\n"], []⟩
    let fault := Failure.reported .value "x".toList
    let failing : Compiler := ⟨true, fun _ => [.failed fault], []⟩
    let options := Json.obj [("defaultExtensions".toList, .arr [.str "A".toList]), path]
    let s := (run [.message (.initialization .null (.obj [path]) .empty telling)] fresh).2
    let t := (startUp options .empty failing s).2
    (startUp options .empty failing s).1 = .error fault ∧
      t.catalog = ⟨["GADTs".toList], ["-Wall".toList]⟩ ∧
      t.settings.defaultExtensions = .ofList ["A".toList] ∧
      t.settings.defaultExtensions ≠ s.settings.defaultExtensions := by
  intro path told telling fault failing options s t
  exact ⟨rfl, rfl, rfl, by decide⟩

end Server
end PragmaAssist
