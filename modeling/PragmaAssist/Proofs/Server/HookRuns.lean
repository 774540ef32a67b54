import PragmaAssist.Server.Hooks
import Mathlib.Data.List.Forall2

/-! Hooks under any order of registrations and firings. Nothing that a hook does, not even its
failure, changes which hooks a later firing finds. A firing calls all the hooks that were registered for
its event before it, and logs those that fail, just if each of these has a name; else it ends with
the first that has none. Calls are seen through hooks that note each of theirs. -/
namespace PragmaAssist

inductive HookStep (σ : Type) where
  | add (e : DocumentEvent) (h : Hook σ)
  | fire (e : DocumentEvent) (uri : Uri)

structure HookCall (σ : Type) where
  hook : Hook σ
  uri : Uri
  result : Except Failure Unit

/-- The registered hooks, the state that they work on, all that was logged, and the failures that
firings ended with. -/
structure HookRun (σ : Type) where
  hooks : Hooks σ
  state : σ
  log : List LogEntry
  raised : List Failure

variable {σ : Type}

namespace HookCall
variable {e : DocumentEvent} {k : HookCall σ} {ks rest : List (HookCall σ)}

def failed (k : HookCall σ) : Bool :=
  match k.result with
  | .ok _ => false
  | .error _ => true

/-- The call failed and its hook has no name. -/
def isLost (k : HookCall σ) : Bool := k.failed && k.hook.name.isNone

def logged? (e : DocumentEvent) (k : HookCall σ) : Option LogEntry :=
  match k.result with
  | .ok _ => none
  | .error f => k.hook.name.map fun name => Hooks.failureEntry e name f

/-- The calls up to the first that is lost, and this one. -/
def upToLost : List (HookCall σ) → List (HookCall σ)
  | [] => []
  | k :: ks => if k.isLost then [k] else k :: upToLost ks

/-- An error for a call, which names the event and, if it has a name, the hook. -/
structure ToldBy (e : DocumentEvent) (k : HookCall σ) (entry : LogEntry) : Prop where
  level : entry.level = .error
  event : e.name <:+: entry.text
  hook : ∀ name, k.hook.name = some name → name <:+: entry.text

theorem toldBy_failureEntry {name : Text} (h : k.hook.name = some name) (f : Failure) :
    k.ToldBy e (Hooks.failureEntry e name f) := by
  let tail : Text := ": ".toList ++ f.describe
  refine ⟨rfl, ⟨"Error in ".toList, " hook ".toList ++ name ++ tail, ?_⟩, fun name' h' => ?_⟩
  · simp only [Hooks.failureEntry, List.append_assoc, tail]
  · obtain rfl := Option.some.inj (h.symm.trans h')
    refine ⟨"Error in ".toList ++ e.name ++ " hook ".toList, tail, ?_⟩
    simp only [Hooks.failureEntry, List.append_assoc, tail]

theorem isLost_eq_false_iff : k.isLost = false ↔ (k.failed = true → k.hook.name ≠ none) := by
  simp [isLost, Option.isSome_iff_ne_none]

theorem logged?_of_isLost (h : k.isLost = true) (e : DocumentEvent) : k.logged? e = none := by
  have hname : k.hook.name = none := Option.isNone_iff_eq_none.1 (Bool.and_eq_true_iff.1 h).2
  unfold logged?
  split
  · rfl
  · rw [hname, Option.map_none]

theorem upToLost_of_forall (h : ∀ k ∈ ks, k.isLost = false) : upToLost ks = ks := by
  induction ks with
  | nil => rfl
  | cons k ks ih =>
    obtain ⟨hk, hks⟩ := List.forall_mem_cons.1 h
    rw [upToLost, hk, if_neg Bool.false_ne_true, ih hks]

theorem upToLost_append (h : ∀ j ∈ ks, j.isLost = false) (hk : k.isLost = true) :
    upToLost (ks ++ k :: rest) = ks ++ [k] := by
  induction ks with
  | nil => exact if_pos hk
  | cons j ks ih =>
    obtain ⟨hj, hks⟩ := List.forall_mem_cons.1 h
    rw [List.cons_append, upToLost, hj, if_neg Bool.false_ne_true, ih hks, List.cons_append]

theorem logged_upToLost_append (h : ∀ j ∈ ks, j.isLost = false) (hk : k.isLost = true)
    (e : DocumentEvent) :
    (upToLost (ks ++ k :: rest)).filterMap (logged? e) = ks.filterMap (logged? e) := by
  have hentry : [k].filterMap (logged? e) = [] :=
    List.filterMap_cons_none (logged?_of_isLost hk e)
  rw [upToLost_append h hk, List.filterMap_append, hentry, List.append_nil]

theorem find?_isLost (h : ∀ j ∈ ks, j.isLost = false) (hk : k.isLost = true) :
    (ks ++ k :: rest).find? isLost = some k := by
  have hnone : ks.find? isLost = none := List.find?_eq_none.2 fun j hj => Bool.eq_false_iff.1 (h j hj)
  rw [List.find?_append, hnone, Option.none_or, List.find?_cons_of_pos hk]

theorem forall₂_toldBy (e : DocumentEvent) (h : ∀ k ∈ ks, k.isLost = false) :
    List.Forall₂ (ToldBy e) (ks.filter failed) (ks.filterMap (logged? e)) := by
  induction ks with
  | nil => exact .nil
  | cons k ks ih =>
    obtain ⟨hk, hks⟩ := List.forall_mem_cons.1 h
    obtain ⟨⟨name?, run, typeName⟩, uri, result⟩ := k
    cases result with
    | ok _ => exact ih hks
    | error f =>
      cases name? with
      | none => cases hk
      | some name => exact .cons (toldBy_failureEntry rfl f) (ih hks)

end HookCall

theorem DocumentEvent.level_of_announcement {e : DocumentEvent} {uri : Uri} {entry : LogEntry}
    (h : entry ∈ e.announcement uri) : entry.level = .info := by
  cases e <;> simp_all [announcement]

/-- The same hook, which also notes each of its calls. -/
def Hook.noting (h : Hook σ) : Hook (List (HookCall σ) × σ) where
  name := h.name
  run uri := fun (calls, s) =>
    let (result, s') := h.run uri s
    (result, (calls ++ [⟨h, uri, result⟩], s'))
  typeName := h.typeName

namespace HookStep

def noting : HookStep σ → HookStep (List (HookCall σ) × σ)
  | add e h => add e h.noting
  | fire e uri => fire e uri

def added? (e : DocumentEvent) : HookStep σ → Option (Hook σ)
  | add e' h => if e' = e then some h else none
  | fire .. => none

def registered (e : DocumentEvent) (steps : List (HookStep σ)) : List (Hook σ) :=
  steps.filterMap (added? e)

end HookStep

namespace Hooks
variable {s : σ}

/-- The calls of all hooks one after the other, each in the state that the one before left. -/
def calls (uri : Uri) : List (Hook σ) → σ → List (HookCall σ)
  | [], _ => []
  | h :: hs, s =>
    let (result, s') := h.run uri s
    ⟨h, uri, result⟩ :: calls uri hs s'

theorem map_calls (uri : Uri) (hs : List (Hook σ)) (s : σ) :
    (calls uri hs s).map (fun k => (k.hook, k.uri)) = hs.map (·, uri) := by
  induction hs generalizing s with
  | nil => rfl
  | cons h hs ih => exact congrArg ((h, uri) :: ·) (ih _)

section
variable {e : DocumentEvent} {uri : Uri} {h : Hook σ} {s s' : σ} {f : Failure} {name : Text}

theorem runAll_cons_ok (hs : List (Hook σ)) (hrun : h.run uri s = (.ok (), s')) :
    runAll e uri (h :: hs) s = runAll e uri hs s' := by
  rw [runAll, hrun]

theorem runAll_cons_named (hs : List (Hook σ)) (hrun : h.run uri s = (.error f, s'))
    (hname : h.name = some name) :
    runAll e uri (h :: hs) s =
      (⟨failureEntry e name f :: (runAll e uri hs s').1.log, (runAll e uri hs s').1.escaped?⟩,
        (runAll e uri hs s').2) := by
  rw [runAll, hrun]
  simp only [hname]

theorem runAll_cons_nameless (hs : List (Hook σ)) (hrun : h.run uri s = (.error f, s'))
    (hname : h.name = none) :
    runAll e uri (h :: hs) s = (⟨[], some (.nameless h.typeName)⟩, s') := by
  rw [runAll, hrun]
  simp only [hname]

end

theorem runAll_fst (e : DocumentEvent) (uri : Uri) (hs : List (Hook σ)) (s : σ) :
    (runAll e uri hs s).1 =
      ⟨(HookCall.upToLost (calls uri hs s)).filterMap (HookCall.logged? e),
        ((calls uri hs s).find? HookCall.isLost).map fun k => .nameless k.hook.typeName⟩ := by
  induction hs generalizing s with
  | nil => rfl
  | cons h hs ih =>
    rcases hrun : h.run uri s with ⟨f | _, s'⟩
    · cases hname : h.name with
      | none =>
        rw [runAll_cons_nameless hs hrun hname, calls, hrun]
        simp [HookCall.upToLost, HookCall.isLost, HookCall.failed, HookCall.logged?, hname]
      | some name =>
        rw [runAll_cons_named hs hrun hname, calls, hrun, ih]
        simp [HookCall.upToLost, HookCall.isLost, HookCall.logged?, hname]
    · rw [runAll_cons_ok hs hrun, calls, hrun, ih]
      simp [HookCall.upToLost, HookCall.isLost, HookCall.failed, HookCall.logged?, List.filterMap_cons]

theorem runAll_noting (e : DocumentEvent) (uri : Uri) (hs : List (Hook σ))
    (noted : List (HookCall σ)) (s : σ) :
    runAll e uri (hs.map Hook.noting) (noted, s) =
      ((runAll e uri hs s).1,
        (noted ++ HookCall.upToLost (calls uri hs s), (runAll e uri hs s).2)) := by
  induction hs generalizing noted s with
  | nil => simp [runAll, calls, HookCall.upToLost]
  | cons h hs ih =>
    rcases hrun : h.run uri s with ⟨result, s'⟩
    have hnoting : h.noting.run uri (noted, s) = (result, (noted ++ [⟨h, uri, result⟩], s')) := by
      simp only [Hook.noting, hrun]
    rw [List.map_cons, calls, hrun]
    cases result with
    | error f =>
      cases hname : h.name with
      | none =>
        rw [runAll_cons_nameless _ hnoting hname, runAll_cons_nameless hs hrun hname]
        simp [HookCall.upToLost, HookCall.isLost, HookCall.failed, hname, Hook.noting]
      | some name =>
        rw [runAll_cons_named _ hnoting hname, runAll_cons_named hs hrun hname, ih]
        simp [HookCall.upToLost, HookCall.isLost, hname]
    | ok _ =>
      rw [runAll_cons_ok _ hnoting, runAll_cons_ok hs hrun, ih]
      simp [HookCall.upToLost, HookCall.isLost, HookCall.failed]

end Hooks

namespace HookRun

def start (s : σ) : HookRun σ := ⟨.empty, s, [], []⟩

/-- A firing that ends with a failure leaves what was done before it, and the run goes on. -/
def step (r : HookRun σ) : HookStep σ → HookRun σ
  | .add e h => { r with hooks := r.hooks.add e h }
  | .fire e uri =>
    let (fired, s) := r.hooks.fire e uri r.state
    { r with
      state := s
      log := r.log ++ fired.log
      raised := r.raised ++ fired.escaped?.toList }

def after (r : HookRun σ) (steps : List (HookStep σ)) : HookRun σ := steps.foldl step r

/-- A run whose hooks note their calls is the run of the hooks alone, with the notes beside it. -/
structure Follows (noted : HookRun (List (HookCall σ) × σ)) (plain : HookRun σ) : Prop where
  hooks : ∀ e, noted.hooks.on e = (plain.hooks.on e).map Hook.noting
  state : noted.state.2 = plain.state
  log : noted.log = plain.log
  raised : noted.raised = plain.raised

/-- A firing in such a pair of runs calls these hooks, each once, in order and with the document. It
logs the announcement and then one error for each call that failed, in the order of the calls. No failure
is left, and no hook is registered or taken away. -/
structure Isolates (noted : HookRun (List (HookCall σ) × σ)) (plain : HookRun σ)
    (e : DocumentEvent) (uri : Uri) (hs : List (Hook σ)) : Prop where
  called : ∃ calls : List (HookCall σ),
    (noted.step (.fire e uri)).state.1 = noted.state.1 ++ calls ∧
      calls.map (fun k => (k.hook, k.uri)) = hs.map (·, uri) ∧
      ∃ errors, List.Forall₂ (HookCall.ToldBy e) (calls.filter HookCall.failed) errors ∧
        (plain.step (.fire e uri)).log = plain.log ++ (e.announcement uri ++ errors)
  raised : (plain.step (.fire e uri)).raised = plain.raised
  hooks : ∀ e', (plain.step (.fire e uri)).hooks.on e' = plain.hooks.on e'

variable {plain : HookRun σ} {noted : HookRun (List (HookCall σ) × σ)}

/-- A step registers what it says and takes no hook away, whatever the hooks do. -/
theorem on_step (r : HookRun σ) (e : DocumentEvent) (t : HookStep σ) :
    (r.step t).hooks.on e = r.hooks.on e ++ HookStep.registered e [t] := by
  cases t with
  | add e' h =>
    simp only [step, Hooks.add, HookStep.registered, List.filterMap_cons, HookStep.added?]
    by_cases he : e = e'
    · simp [he]
    · simp [he, Ne.symm he]
  | fire e' uri => exact (List.append_nil _).symm

theorem on_after (r : HookRun σ) (e : DocumentEvent) (steps : List (HookStep σ)) :
    (r.after steps).hooks.on e = r.hooks.on e ++ HookStep.registered e steps := by
  induction steps generalizing r with
  | nil => exact (List.append_nil _).symm
  | cons t steps ih =>
    calc ((r.step t).after steps).hooks.on e
        = (r.step t).hooks.on e ++ HookStep.registered e steps := ih _
      _ = r.hooks.on e ++ (HookStep.registered e [t] ++ HookStep.registered e steps) := by
        rw [on_step, List.append_assoc]
      _ = r.hooks.on e ++ HookStep.registered e (t :: steps) := by
        rw [HookStep.registered, HookStep.registered, HookStep.registered, ← List.filterMap_append,
          List.singleton_append]

theorem step_fire (r : HookRun σ) (e : DocumentEvent) (uri : Uri) :
    r.step (.fire e uri) =
      { r with
        state := (Hooks.runAll e uri (r.hooks.on e) r.state).2
        log := r.log ++ (e.announcement uri ++ (Hooks.runAll e uri (r.hooks.on e) r.state).1.log)
        raised := r.raised ++ (Hooks.runAll e uri (r.hooks.on e) r.state).1.escaped?.toList } :=
  rfl

theorem Follows.fire (hf : Follows noted plain) (e : DocumentEvent) (uri : Uri) :
    Follows (noted.step (.fire e uri)) (plain.step (.fire e uri)) ∧
      (noted.step (.fire e uri)).state.1 =
        noted.state.1 ++ HookCall.upToLost (Hooks.calls uri (plain.hooks.on e) plain.state) := by
  have hstate : noted.state = (noted.state.1, plain.state) := by rw [← hf.state]
  have hnoted : Hooks.runAll e uri (noted.hooks.on e) noted.state =
      ((Hooks.runAll e uri (plain.hooks.on e) plain.state).1,
        (noted.state.1 ++ HookCall.upToLost (Hooks.calls uri (plain.hooks.on e) plain.state),
          (Hooks.runAll e uri (plain.hooks.on e) plain.state).2)) := by
    rw [hf.hooks, hstate, Hooks.runAll_noting]
  rw [step_fire, step_fire, hnoted]
  exact ⟨⟨hf.hooks, rfl, by rw [hf.log], by rw [hf.raised]⟩, rfl⟩

theorem Follows.step (hf : Follows noted plain) (t : HookStep σ) :
    Follows (noted.step t.noting) (plain.step t) := by
  cases t with
  | add e' h =>
    refine ⟨fun e => ?_, hf.state, hf.log, hf.raised⟩
    simp only [HookStep.noting, HookRun.step, Hooks.add, hf.hooks]
    split
    · rw [List.map_append, List.map_singleton]
    · rfl
  | fire e uri => exact (hf.fire e uri).1

theorem Follows.after (hf : Follows noted plain) (steps : List (HookStep σ)) :
    Follows (noted.after (steps.map HookStep.noting)) (plain.after steps) := by
  induction steps generalizing noted plain with
  | nil => exact hf
  | cons t steps ih => exact ih (hf.step t)

theorem fire_effect (r : HookRun σ) (e : DocumentEvent) (uri : Uri) :
    let calls := Hooks.calls uri (r.hooks.on e) r.state
    (r.step (.fire e uri)).log =
        r.log ++ (e.announcement uri ++ (HookCall.upToLost calls).filterMap (HookCall.logged? e)) ∧
      (r.step (.fire e uri)).raised =
        r.raised ++
          ((calls.find? HookCall.isLost).map fun k => .nameless k.hook.typeName).toList := by
  rw [step_fire, Hooks.runAll_fst]
  exact ⟨rfl, rfl⟩

theorem isolates_iff (hf : Follows noted plain) (e : DocumentEvent) (uri : Uri) :
    Isolates noted plain e uri (plain.hooks.on e) ↔
      ∀ k ∈ Hooks.calls uri (plain.hooks.on e) plain.state, k.isLost = false := by
  obtain ⟨hlog, hraised⟩ := fire_effect plain e uri
  obtain ⟨-, hnotes⟩ := hf.fire e uri
  constructor
  · intro h k hk
    rw [h.raised, List.self_eq_append_right, Option.toList_eq_nil_iff, Option.map_eq_none_iff,
      List.find?_eq_none] at hraised
    exact Bool.eq_false_iff.2 (hraised k hk)
  · intro h
    have hfind := List.find?_eq_none.2 fun k hk => Bool.eq_false_iff.1 (h k hk)
    rw [HookCall.upToLost_of_forall h] at hlog hnotes
    rw [hfind, Option.map_none, Option.toList_none, List.append_nil] at hraised
    exact ⟨⟨_, hnotes, Hooks.map_calls uri _ _, _, HookCall.forall₂_toldBy e h, hlog⟩, hraised,
      fun _ => rfl⟩

/-- A firing after any registrations and firings, those that ended with a failure among them. It does all
that its event asks for just if each hook of the event that fails has a name. Else it calls the hooks up
to the first that fails without one, logs the failures before it, and ends with a failure. -/
theorem fire_isolates_iff (before : List (HookStep σ)) (e : DocumentEvent) (uri : Uri) (s : σ) :
    let plain := (start s).after before
    let noted := (start (([] : List (HookCall σ)), s)).after (before.map HookStep.noting)
    let fired := plain.step (.fire e uri)
    let firedNoted := noted.step (.fire e uri)
    let calls := Hooks.calls uri (HookStep.registered e before) plain.state
    Follows noted plain ∧ Follows firedNoted fired ∧
      (∀ e', fired.hooks.on e' = HookStep.registered e' before) ∧
      (∀ entry ∈ e.announcement uri, entry.level = .info) ∧
      (Isolates noted plain e uri (HookStep.registered e before) ↔
        ∀ k ∈ calls, k.failed = true → k.hook.name ≠ none) ∧
      ((∀ k ∈ calls, k.failed = true → k.hook.name ≠ none) →
        firedNoted.state.1 = noted.state.1 ++ calls ∧
          fired.log = plain.log ++ (e.announcement uri ++ calls.filterMap (HookCall.logged? e)) ∧
          fired.raised = plain.raised) ∧
      ∀ above k below, calls = above ++ k :: below →
        (∀ j ∈ above, j.failed = true → j.hook.name ≠ none) → k.failed = true →
          k.hook.name = none →
          firedNoted.state.1 = noted.state.1 ++ (above ++ [k]) ∧
            fired.log = plain.log ++ (e.announcement uri ++ above.filterMap (HookCall.logged? e)) ∧
            fired.raised = plain.raised ++ [.nameless k.hook.typeName] := by
  intro plain noted fired firedNoted calls
  have hon : ∀ e', plain.hooks.on e' = HookStep.registered e' before :=
    fun e' => on_after (start s) e' before
  have hf : Follows noted plain := Follows.after ⟨fun _ => rfl, rfl, rfl, rfl⟩ before
  obtain ⟨hfired, hnotes⟩ := hf.fire e uri
  obtain ⟨hlog, hraised⟩ := fire_effect plain e uri
  have hiff := isolates_iff hf e uri
  rw [hon] at hnotes hlog hraised hiff
  refine ⟨hf, hfired, hon, fun _ => e.level_of_announcement, ?_, fun h => ?_,
    fun above k below hsplit habove hfailed hname => ?_⟩
  · exact hiff.trans (forall₂_congr fun k _ => HookCall.isLost_eq_false_iff)
  · have hkept := fun k hk => HookCall.isLost_eq_false_iff.2 (h k hk)
    rw [HookCall.upToLost_of_forall hkept] at hnotes hlog
    exact ⟨hnotes, hlog, (hiff.2 hkept).raised⟩
  · have hkept := fun j hj => HookCall.isLost_eq_false_iff.2 (habove j hj)
    have hlost : k.isLost = true := by simp [HookCall.isLost, hfailed, hname]
    have hmade : HookCall.upToLost calls = above ++ [k] := by
      rw [hsplit, HookCall.upToLost_append hkept hlost]
    have hentries : (HookCall.upToLost calls).filterMap (HookCall.logged? e) =
        above.filterMap (HookCall.logged? e) := by
      rw [hsplit, HookCall.logged_upToLost_append hkept hlost]
    have hfind : calls.find? HookCall.isLost = some k := by
      rw [hsplit, HookCall.find?_isLost hkept hlost]
    rw [hmade] at hnotes
    rw [hentries] at hlog
    rw [hfind] at hraised
    exact ⟨hnotes, hlog, hraised⟩

/-- A hook without a name that fails: the one behind it is not called, and its failure is not logged. -/
theorem not_isolates_nameless :
    let lost : Hook Unit :=
      { name := none
        run := fun _ => throw (.reported .value ['x'])
        typeName := "functools.partial".toList }
    let other : Hook Unit := { name := some ['h'], run := fun _ => pure () }
    let before : List (HookStep Unit) := [.add .saved lost, .add .saved other]
    let plain := (start ()).after before
    let noted := (start (([] : List (HookCall Unit)), ())).after (before.map HookStep.noting)
    ¬ Isolates noted plain .saved ['u'] (HookStep.registered .saved before) ∧
      (noted.step (.fire .saved ['u'])).state.1 =
        [⟨lost, ['u'], .error (.reported .value ['x'])⟩] ∧
      (plain.step (.fire .saved ['u'])).log = DocumentEvent.saved.announcement ['u'] ∧
      (plain.step (.fire .saved ['u'])).raised = [.nameless "functools.partial".toList] := by
  intro lost other before plain noted
  have hraised : (plain.step (.fire .saved ['u'])).raised =
      [.nameless "functools.partial".toList] := rfl
  refine ⟨fun h => ?_, rfl, rfl, hraised⟩
  have hquiet : (plain.step (.fire .saved ['u'])).raised = [] := h.raised
  exact List.cons_ne_nil _ _ (hraised.symm.trans hquiet)

end HookRun
end PragmaAssist
