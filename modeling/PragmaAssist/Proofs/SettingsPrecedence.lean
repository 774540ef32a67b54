import PragmaAssist.Settings

/-! What the options of an initialization and the environment come to. A list of names is refused just
if it is a value without parts, and everything else comes to settings, in a fixed order of precedence. -/
namespace PragmaAssist

namespace Json
variable {j : Json} {x : Text}

inductive Falsy : Json → Prop
  | null : Falsy null
  | false : Falsy (bool false)
  | zero : Falsy (int 0)
  | floatZero {x : Binary64} (h : x.isZero = true) : Falsy (float x)
  | str : Falsy (str [])
  | arr : Falsy (arr [])
  | obj : Falsy (obj [])

inductive IsNumber : Json → Prop
  | int (n : Int) : IsNumber (int n)
  | float (x : Binary64) : IsNumber (float x)

/-- The parts of a value as texts: the elements of an array, the characters of a string or the keys of
an object. -/
inductive Lists : Json → Text → Prop
  | element {l : List Json} {e : Json} (h : e ∈ l) : Lists (arr l) e.plainText
  | character {s : Text} {c : Char} (h : c ∈ s) : Lists (str s) [c]
  | key {fields : List (Text × Json)} {k : Text} {v : Json} (h : (k, v) ∈ fields) :
    Lists (obj fields) k

theorem isTruthy_eq_false_iff : j.isTruthy = false ↔ j.Falsy := by
  constructor
  · intro h
    cases j with
    | null => exact .null
    | bool b =>
      obtain rfl : b = false := h
      exact .false
    | int n =>
      obtain rfl : n = 0 := by simpa [isTruthy] using h
      exact .zero
    | float x => exact .floatZero (by simpa [isTruthy] using h)
    | str s =>
      obtain rfl : s = [] := by simpa [isTruthy] using h
      exact .str
    | arr l =>
      obtain rfl : l = [] := by simpa [isTruthy] using h
      exact .arr
    | obj fields =>
      obtain rfl : fields = [] := by simpa [isTruthy] using h
      exact .obj
  · rintro (_ | _ | _ | h | _ | _ | _)
    case floatZero => simp [isTruthy, h]
    all_goals rfl

theorem lists_arr {l : List Json} : (arr l).Lists x ↔ ∃ e ∈ l, e.plainText = x := by
  constructor
  · intro h
    cases h with
    | element he => exact ⟨_, he, rfl⟩
  · rintro ⟨e, h, rfl⟩
    exact .element h

theorem lists_str {s : Text} : (str s).Lists x ↔ ∃ c ∈ s, [c] = x := by
  constructor
  · intro h
    cases h with
    | character hc => exact ⟨_, hc, rfl⟩
  · rintro ⟨c, h, rfl⟩
    exact .character h

theorem lists_obj {fields : List (Text × Json)} :
    (obj fields).Lists x ↔ ∃ f ∈ fields, f.1 = x := by
  constructor
  · intro h
    cases h with
    | key hk => exact ⟨_, hk, rfl⟩
  · rintro ⟨⟨k, v⟩, h, rfl⟩
    exact .key h

theorem Falsy.not_lists (h : j.Falsy) (x : Text) : ¬ j.Lists x := by
  cases h with
  | str => simp [lists_str]
  | arr => simp [lists_arr]
  | obj => simp [lists_obj]
  | _ => rintro ⟨⟩

theorem getD_of_not_obj (h : ∀ fields, j ≠ obj fields) (key : Text) : j.getD key = null := by
  cases j with
  | obj fields => exact absurd rfl (h fields)
  | _ => rfl

end Json

namespace Settings
variable {options given : Json} {env : Environment} {s s' : Settings}

inductive IsScalar : Json → Prop
  | null : IsScalar .null
  | bool (b : Bool) : IsScalar (.bool b)
  | number {j : Json} (h : j.IsNumber) : IsScalar j

/-- The result of a look for names: a failure by type just if it is refused, and else the names that
are listed. -/
def Answers (refused : Prop) (listed : Text → Prop) : Except Failure NameSet → Prop
  | .error f => refused ∧ f.category = .type
  | .ok names => ¬ refused ∧ ∀ x, x ∈ names ↔ listed x

theorem texts_answers (given : Json) :
    Answers (IsScalar given) given.Lists ((texts given).map .ofList) := by
  cases given with
  | null => exact ⟨.null, rfl⟩
  | bool b => exact ⟨.bool b, rfl⟩
  | int n => exact ⟨.number (.int n), rfl⟩
  | float x => exact ⟨.number (.float x), rfl⟩
  | str s =>
    refine ⟨by rintro (_ | _ | ⟨⟨⟩⟩), fun x => NameSet.mem_ofList.trans ?_⟩
    rw [List.mem_map, Json.lists_str]
  | arr l =>
    refine ⟨by rintro (_ | _ | ⟨⟨⟩⟩), fun x => NameSet.mem_ofList.trans ?_⟩
    rw [List.mem_map, Json.lists_arr]
  | obj fields =>
    refine ⟨by rintro (_ | _ | ⟨⟨⟩⟩), fun x => NameSet.mem_ofList.trans ?_⟩
    rw [List.mem_map, Json.lists_obj]

theorem Answers.congr {refused refused' : Prop} {listed listed' : Text → Prop}
    {r : Except Failure NameSet} (h : Answers refused listed r) (hr : refused ↔ refused')
    (hl : ∀ x, listed x ↔ listed' x) : Answers refused' listed' r := by
  cases r with
  | error f => exact ⟨hr.1 h.1, h.2⟩
  | ok names => exact ⟨mt hr.2 h.1, fun x => (h.2 x).trans (hl x)⟩

def RefusesExtensions (given : Json) : Prop := given.IsNumber ∧ ¬ given.Falsy ∨ given = .bool true

def RefusesWarnings (given : Json) : Prop := given.IsNumber ∨ ∃ b, given = .bool b

theorem resolveExtensions_answers (given : Json) :
    Answers (RefusesExtensions given) given.Lists (resolveExtensions given) := by
  rw [resolveExtensions]
  cases htruthy : given.isTruthy with
  | false =>
    have hfalsy : given.Falsy := Json.isTruthy_eq_false_iff.1 htruthy
    refine ⟨?_, fun x => iff_of_false (NameSet.not_mem_empty x) (hfalsy.not_lists x)⟩
    rintro (⟨-, h⟩ | rfl)
    · exact h hfalsy
    · cases htruthy
  | true =>
    have hnot : ¬ given.Falsy := fun h => by
      simp [Json.isTruthy_eq_false_iff.2 h] at htruthy
    refine (texts_answers given).congr ⟨?_, ?_⟩ fun _ => .rfl
    · rintro (_ | b | h)
      · cases htruthy
      · exact .inr (congrArg Json.bool htruthy)
      · exact .inl ⟨h, hnot⟩
    · rintro (⟨h, -⟩ | rfl)
      · exact .number h
      · exact .bool true

/-- The warnings that a value calls for: those that it lists, or the default ones if it is null. -/
def WarningListed (given : Json) (x : Text) : Prop :=
  given = .null ∧ x ∈ defaultBlacklist ∨ given ≠ .null ∧ given.Lists x

theorem resolveBlacklist_answers (given : Json) :
    Answers (RefusesWarnings given) (WarningListed given) (resolveBlacklist given) := by
  by_cases hnull : given = .null
  · subst hnull
    refine ⟨?_, fun x => ⟨fun h => .inl ⟨rfl, h⟩, ?_⟩⟩
    · rintro (h | ⟨b, h⟩) <;> cases h
    · rintro (⟨-, h⟩ | ⟨h, -⟩)
      · exact h
      · exact absurd rfl h
  · have hresolve : resolveBlacklist given = (texts given).map .ofList := by
      cases given with
      | null => exact absurd rfl hnull
      | _ => rfl
    rw [hresolve]
    refine (texts_answers given).congr ⟨?_, ?_⟩ fun x => by simp [WarningListed, hnull]
    · rintro (_ | b | h)
      · exact absurd rfl hnull
      · exact .inr ⟨b, rfl⟩
      · exact .inl h
    · rintro (h | ⟨b, rfl⟩)
      · exact .number h
      · exact .bool b

/-- What is given goes first, then a variable of the environment that is not empty. -/
inductive PathFrom (given : Json) (env : Environment) : Json → Prop
  | given (h : ¬ given.Falsy) : PathFrom given env given
  | environment {path : Text} (h : given.Falsy) (hpath : env.get? compilerVariable = some path)
      (hne : path ≠ []) : PathFrom given env (.str path)
  | neither (h : given.Falsy)
      (hnone : ∀ path, env.get? compilerVariable = some path → path = []) :
      PathFrom given env .null

theorem PathFrom.unique {j j' : Json} (h : PathFrom given env j) (h' : PathFrom given env j') :
    j = j' := by
  cases h with
  | given h =>
    cases h' with
    | given => rfl
    | environment hfalsy | neither hfalsy => exact absurd hfalsy h
  | environment h hpath hne =>
    cases h' with
    | given hnot => exact absurd h hnot
    | environment h' hpath' =>
      obtain rfl := Option.some.inj (hpath.symm.trans hpath')
      rfl
    | neither h' hnone => exact absurd (hnone _ hpath) hne
  | neither h hnone =>
    cases h' with
    | given hnot => exact absurd h hnot
    | environment h' hpath hne => exact absurd (hnone _ hpath) hne
    | neither => rfl

theorem pathFrom_resolvePath (given : Json) (env : Environment) :
    PathFrom given env (resolvePath given env) := by
  rw [resolvePath]
  cases htruthy : given.isTruthy with
  | true =>
    exact .given fun h => by simp [Json.isTruthy_eq_false_iff.2 h] at htruthy
  | false =>
    have hfalsy : given.Falsy := Json.isTruthy_eq_false_iff.1 htruthy
    cases hpath : env.get? compilerVariable with
    | none => exact .neither hfalsy fun path h => by simp [hpath] at h
    | some path =>
      cases path with
      | nil => exact .neither hfalsy fun path h => by simp_all
      | cons c path => exact .environment hfalsy hpath (List.cons_ne_nil c path)

def Refused (options : Json) : Prop :=
  (∃ fields, options = .obj fields) ∧
    (RefusesExtensions (options.getD "defaultExtensions".toList) ∨
      RefusesWarnings (options.getD "warningBlacklist".toList))

structure Resolved (options : Json) (env : Environment) (s : Settings) : Prop where
  path : PathFrom (options.getD "ghcPath".toList) env s.ghcPath
  extensions : ∀ x, x ∈ s.defaultExtensions ↔ (options.getD "defaultExtensions".toList).Lists x
  blacklist : ∀ x, x ∈ s.warningBlacklist ↔
    WarningListed (options.getD "warningBlacklist".toList) x

theorem Resolved.unique (h : Resolved options env s) (h' : Resolved options env s') : s = s' := by
  obtain ⟨path, extensions, blacklist⟩ := s
  obtain ⟨path', extensions', blacklist'⟩ := s'
  obtain rfl : path = path' := h.path.unique h'.path
  obtain rfl : extensions = extensions' :=
    NameSet.ext fun x => (h.extensions x).trans (h'.extensions x).symm
  obtain rfl : blacklist = blacklist' :=
    NameSet.ext fun x => (h.blacklist x).trans (h'.blacklist x).symm
  rfl

theorem Resolved.defaultExtensions_eq_empty (h : Resolved options env s)
    (hfalsy : (options.getD "defaultExtensions".toList).Falsy) : s.defaultExtensions = .empty :=
  NameSet.ext fun x =>
    (h.extensions x).trans (iff_of_false (hfalsy.not_lists x) (NameSet.not_mem_empty x))

theorem Resolved.warningBlacklist_eq_default (h : Resolved options env s)
    (hnull : options.getD "warningBlacklist".toList = .null) :
    s.warningBlacklist = defaultBlacklist := by
  refine NameSet.ext fun x => (h.blacklist x).trans ?_
  rw [WarningListed, or_iff_left fun hx => hx.1 hnull, and_iff_right hnull]

theorem Resolved.warningBlacklist_eq_empty (h : Resolved options env s)
    (hne : options.getD "warningBlacklist".toList ≠ .null)
    (hfalsy : (options.getD "warningBlacklist".toList).Falsy) : s.warningBlacklist = .empty := by
  refine NameSet.ext fun x => (h.blacklist x).trans (iff_of_false ?_ (NameSet.not_mem_empty x))
  rintro (⟨hnull, -⟩ | ⟨-, hx⟩)
  · exact hne hnull
  · exact hfalsy.not_lists x hx

theorem refused_iff : Refused options ↔
    RefusesExtensions (options.getD "defaultExtensions".toList) ∨
      RefusesWarnings (options.getD "warningBlacklist".toList) := by
  refine ⟨And.right, fun h => ⟨Classical.byContradiction fun hnot => ?_, h⟩⟩
  -- Options of another kind have null in both places, which is not refused.
  have hnull := Json.getD_of_not_obj fun fields hobj => hnot ⟨fields, hobj⟩
  rw [hnull, hnull] at h
  rcases h with (⟨h, -⟩ | h) | h | ⟨b, h⟩ <;> cases h

theorem resolve_cases (options : Json) (env : Environment) :
    (∃ f, resolve options env = .error f ∧ Refused options ∧ f.category = .type) ∨
      ∃ s, resolve options env = .ok s ∧ ¬ Refused options ∧ Resolved options env s := by
  have hextensions := resolveExtensions_answers (options.getD "defaultExtensions".toList)
  have hblacklist := resolveBlacklist_answers (options.getD "warningBlacklist".toList)
  rw [refused_iff, resolve]
  cases he : resolveExtensions (options.getD "defaultExtensions".toList) with
  | error f =>
    rw [he] at hextensions
    exact .inl ⟨f, rfl, .inl hextensions.1, hextensions.2⟩
  | ok extensions =>
    rw [he] at hextensions
    cases hb : resolveBlacklist (options.getD "warningBlacklist".toList) with
    | error f =>
      rw [hb] at hblacklist
      exact .inl ⟨f, rfl, .inr hblacklist.1, hblacklist.2⟩
    | ok blacklist =>
      rw [hb] at hblacklist
      exact .inr ⟨_, rfl, not_or.2 ⟨hextensions.1, hblacklist.1⟩, pathFrom_resolvePath _ _,
        hextensions.2, hblacklist.2⟩

theorem resolve_eq_error_iff :
    (∃ f, resolve options env = .error f) ↔ Refused options := by
  rcases resolve_cases options env with ⟨f, hf, hrefused, -⟩ | ⟨s, hs, haccepted, -⟩
  · exact iff_of_true ⟨f, hf⟩ hrefused
  · refine iff_of_false (fun ⟨f, hf⟩ => ?_) haccepted
    cases hs.symm.trans hf

theorem category_of_resolve {f : Failure} (h : resolve options env = .error f) :
    f.category = .type := by
  rcases resolve_cases options env with ⟨f', hf, -, htype⟩ | ⟨s, hs, -⟩
  · obtain rfl := Except.error.inj (hf.symm.trans h)
    exact htype
  · cases hs.symm.trans h

theorem resolve_eq_ok_iff :
    resolve options env = .ok s ↔ ¬ Refused options ∧ Resolved options env s := by
  rcases resolve_cases options env with ⟨f, hf, hrefused, -⟩ | ⟨s', hs, haccepted, hresolved⟩
  · refine iff_of_false (fun hs => ?_) fun h => h.1 hrefused
    cases hf.symm.trans hs
  · constructor
    · intro h
      obtain rfl := Except.ok.inj (hs.symm.trans h)
      exact ⟨haccepted, hresolved⟩
    · rintro ⟨-, h⟩
      rw [hs, hresolved.unique h]

theorem resolve_of_not_obj (h : ∀ fields, options ≠ .obj fields) (env : Environment) :
    resolve options env = resolve (.obj []) env := by
  simp only [resolve, Json.getD_of_not_obj h]
  rfl

/-- Options are refused, with a failure by type, just if a list of names in them has no parts: a number
but zero or true for the extensions, any number or truth value for the warnings. All other options come
to the settings they call for, and options that are no object to those of an empty one. -/
theorem resolve_precedence (options : Json) (env : Environment) :
    let extensions := options.getD "defaultExtensions".toList
    let warnings := options.getD "warningBlacklist".toList
    ((∃ f, resolve options env = .error f) ↔ Refused options) ∧
      (∀ f, resolve options env = .error f → f.category = .type) ∧
      (∀ s, resolve options env = .ok s ↔ ¬ Refused options ∧ Resolved options env s) ∧
      (∀ s, resolve options env = .ok s →
        (extensions.Falsy → s.defaultExtensions = .empty) ∧
          (warnings = .null → s.warningBlacklist = defaultBlacklist) ∧
          (warnings ≠ .null → warnings.Falsy → s.warningBlacklist = .empty)) ∧
      ((∀ fields, options ≠ .obj fields) → resolve options env = resolve (.obj []) env) := by
  intro extensions warnings
  refine ⟨resolve_eq_error_iff, fun f => category_of_resolve, fun s => resolve_eq_ok_iff,
    fun s hs => ?_, fun h => resolve_of_not_obj h env⟩
  have hresolved := (resolve_eq_ok_iff.1 hs).2
  exact ⟨hresolved.defaultExtensions_eq_empty, hresolved.warningBlacklist_eq_default,
    hresolved.warningBlacklist_eq_empty⟩

/-- A nested element is written out, an empty string lists nothing, and the environment names the
compiler where the options give an empty path. -/
theorem resolve_precedence_nested :
    let element : Json := .arr [.int 1, .null, .str "it's".toList]
    let options : Json := .obj
      [("ghcPath".toList, .str []), ("defaultExtensions".toList, .arr [element, .str ['X']]),
        ("warningBlacklist".toList, .str [])]
    let env : Environment := .ofList [(compilerVariable, "ghc".toList)]
    let s : Settings := ⟨.str "ghc".toList, .ofList ["[1, None, \"it's\"]".toList, ['X']], .empty⟩
    resolve options env = .ok s ∧ ¬ Refused options ∧ Resolved options env s := by
  intro element options env s
  have helement : element.plainText = "[1, None, \"it's\"]".toList := by decide +kernel
  have hs : resolve options env = .ok s := by
    change Except.ok (Settings.mk (.str "ghc".toList) (.ofList [element.plainText, ['X']]) .empty) = _
    rw [helement]
  obtain ⟨-, -, hok, -⟩ := resolve_precedence options env
  exact ⟨hs, (hok s).1 hs⟩

end Settings
end PragmaAssist
