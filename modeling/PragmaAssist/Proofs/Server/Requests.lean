import PragmaAssist.Proofs.Fallible
import PragmaAssist.Server.Step

/-! What the hooks, the open documents and the capabilities of the server come to, with any cache
and any way to get at flags. -/
namespace PragmaAssist
namespace Server

def withCache (k : FlagsCache) (s : Server) : Server := { s with cache := k }

@[simp] theorem withCache_cache (s : Server) : s.withCache s.cache = s := rfl

@[simp] theorem withCache_withCache (k k' : FlagsCache) (s : Server) :
    (s.withCache k).withCache k' = s.withCache k' := rfl

theorem contents?_withCache (k : FlagsCache) (s : Server) (uri : Uri) :
    (s.withCache k).contents? uri = s.contents? uri := rfl

theorem cursorWord?_withCache (k : FlagsCache) (s : Server) (uri : Uri) (p : Position) :
    (s.withCache k).cursorWord? uri p = s.cursorWord? uri p := rfl

theorem catalog_withCache (k : FlagsCache) (s : Server) : (s.withCache k).catalog = s.catalog :=
  rfl

/-! ### Hooks -/

theorem invalidate_invalidate (uri : Uri) (s : Server) :
    (s.invalidate uri).invalidate uri = s.invalidate uri := by
  simp [invalidate, Table.erase]

theorem run_forgetHook (e : DocumentEvent) (uri : Uri) (s : Server) :
    (forgetHook e).run uri s = (.ok (), s.invalidate uri) := rfl

theorem addHooks_on (hs : Hooks Server) (e : DocumentEvent) :
    (addHooks hs).on e = hs.on e ++ [forgetHook e] := by
  cases e <;> simp [addHooks, Hooks.add]

theorem hooks_on (s : Server) (e : DocumentEvent) :
    s.hooks.on e = List.replicate (s.hookRounds + 1) (forgetHook e) := by
  unfold hooks
  induction s.hookRounds + 1 with
  | zero => rfl
  | succ n ih => rw [Nat.repeat, addHooks_on, ih, List.replicate_succ']

theorem runAll_forgetHook (e : DocumentEvent) (uri : Uri) (n : Nat) (s : Server) :
    Hooks.runAll e uri (List.replicate (n + 1) (forgetHook e)) s =
      (⟨[], none⟩, s.invalidate uri) := by
  induction n generalizing s with
  | zero => rfl
  | succ n ih =>
    rw [List.replicate_succ, Hooks.runAll, run_forgetHook]
    simp only [ih, invalidate_invalidate]

/-- An event is announced once and drops the flags of its document, however often the hooks were
registered, and it never ends with a failure. -/
theorem fire_hooks (e : DocumentEvent) (uri : Uri) (s : Server) :
    s.hooks.fire e uri s = (⟨e.announcement uri, none⟩, s.invalidate uri) := by
  rw [Hooks.fire, hooks_on, runAll_forgetHook]
  simp only [List.append_nil]

theorem announce_eq (e : DocumentEvent) (uri : Uri) (s : Server) :
    announce e uri s = ((e.announcement uri).map .log, s.invalidate uri) := by
  rw [announce, fire_hooks]

/-! ### Open documents -/

theorem updateDocuments_withCache (f : Documents → Except Failure Documents) (k : FlagsCache)
    (s : Server) :
    updateDocuments f (s.withCache k) = (updateDocuments f s).map (withCache k) := by
  unfold updateDocuments
  change (s.openDocuments >>= fun ds => _) = _
  cases s.openDocuments with
  | error e => rfl
  | ok ds =>
    cases h : f ds <;> simp [h, bind, Except.bind, Except.map, pure, Except.pure, withCache]

theorem takeTexts_withCache (uri : Uri) (texts : List Text) (k : FlagsCache) (s : Server) :
    takeTexts uri texts (s.withCache k) = (takeTexts uri texts s).map (withCache k) := by
  unfold takeTexts
  induction texts generalizing s with
  | nil => rfl
  | cons text texts ih =>
    rw [List.foldlM_cons, List.foldlM_cons, updateDocuments_withCache]
    cases updateDocuments (·.changed uri text) s with
    | error e => rfl
    | ok s' => exact ih s'

def OnlyDocuments (s t : Server) : Prop :=
  ∃ ds?, ds?.isSome = s.documents.isSome ∧ t = { s with documents := ds? }

theorem OnlyDocuments.refl (s : Server) : OnlyDocuments s s := ⟨s.documents, rfl, rfl⟩

theorem OnlyDocuments.trans {s t u : Server} (h : OnlyDocuments s t) (h' : OnlyDocuments t u) :
    OnlyDocuments s u := by
  obtain ⟨ds?, hds, rfl⟩ := h
  obtain ⟨es?, hes, rfl⟩ := h'
  exact ⟨es?, hes.trans hds, rfl⟩

theorem updateDocuments_onlyDocuments {f : Documents → Except Failure Documents} {s s' : Server}
    (h : updateDocuments f s = .ok s') : OnlyDocuments s s' := by
  unfold updateDocuments openDocuments at h
  cases hds : s.documents with
  | none => simp [hds, bind, Except.bind] at h
  | some ds =>
    cases hf : f ds with
    | error e => simp [hds, hf, bind, Except.bind] at h
    | ok ds' =>
      simp only [hds, hf, bind, Except.bind, pure, Except.pure, Except.ok.injEq] at h
      exact ⟨some ds', by rw [hds]; rfl, h.symm⟩

theorem takeTexts_onlyDocuments {uri : Uri} {texts : List Text} {s s' : Server}
    (h : takeTexts uri texts s = .ok s') : OnlyDocuments s s' := by
  unfold takeTexts at h
  induction texts generalizing s with
  | nil =>
    obtain rfl := Except.ok.inj h
    exact .refl s
  | cons text texts ih =>
    rw [List.foldlM_cons] at h
    cases hu : updateDocuments (·.changed uri text) s with
    | error e => simp [hu, bind, Except.bind] at h
    | ok t =>
      simp only [hu, bind, Except.bind] at h
      exact (updateDocuments_onlyDocuments hu).trans (ih h)

/-! ### Code actions -/

def actionsFor (catalog : Catalog) (settings : Settings) (r : CodeActionRequest)
    (known : Snapshot) : List CodeAction :=
  (QuickFix.forAll catalog known.flags settings.warningBlacklist r.diagnostics).map
    (fixAction r.uri (Insertion.range known.contents))

theorem codeAction_providers (look : FlagsLookup) :
    (capabilities look).capabilities.values.filterMap Capability.codeAction? =
      [codeActionProvider look] := rfl

theorem flags_some (look : FlagsLookup) (uri : Uri) (c : Text) (s : Server) :
    flags look uri (some c) s = (.ok (look uri c s).1, (look uri c s).2) := rfl

theorem flags_none (look : FlagsLookup) (uri : Uri) (s : Server) :
    flags look uri none s =
      match s.contents? uri with
      | .error f => (.error f, s)
      | .ok none => (.ok none, s)
      | .ok (some c) => (.ok (look uri c s).1, (look uri c s).2) := rfl

theorem snapshot_eq (look : FlagsLookup) (uri : Uri) (s : Server) :
    snapshot look uri s =
      match s.contents? uri with
      | .error f => (.error f, s)
      | .ok none => (.ok ⟨none, none⟩, s)
      | .ok (some c) => (.ok ⟨(look uri c s).1, some c⟩, (look uri c s).2) := by
  simp only [snapshot, Fallible.bind_apply, Fallible.get_apply, Fallible.lift_apply]
  cases h : s.contents? uri with
  | error f => rfl
  | ok contents =>
    cases contents with
    | none => simp only [flags_none, h, Fallible.pure_apply]
    | some c => simp only [flags_some, Fallible.pure_apply]

theorem snapshot_state (look : FlagsLookup) (uri : Uri) (s : Server) :
    (snapshot look uri s).2 = (flags look uri none s).2 := by
  rw [snapshot_eq, flags_none]
  cases s.contents? uri with
  | error f => rfl
  | ok contents => cases contents <;> rfl

def refusedEntry (f : Failure) : LogEntry :=
  ⟨.error, "Code action error in pragmas_code_action: ".toList ++ f.message⟩

theorem ask_codeAction (look : FlagsLookup) (r : CodeActionRequest) (s : Server)
    (hd : r.diagnostics.isEmpty = false) :
    (codeActionProvider look).ask id r s =
      match snapshot look r.uri s with
      | (.error f, s') => (.error f, s')
      | (.ok known, s') => (.ok (actionsFor s'.catalog s'.settings r known), s') := by
  unfold Provider.ask codeActionProvider
  rw [Fallible.bind_apply]
  simp only [Fallible.pure_apply, hd, Bool.not_false, ↓reduceIte]
  rw [Fallible.bind_apply, Fallible.bind_apply]
  generalize snapshot look r.uri s = known
  obtain ⟨f | known, s'⟩ := known
  · simp only
  · simp only [Fallible.bind_apply, Fallible.get_apply, Fallible.pure_apply]
    rw [id_eq, actionsFor]

theorem ask_codeAction_idle (look : FlagsLookup) (r : CodeActionRequest) (s : Server)
    (hd : r.diagnostics.isEmpty = true) : (codeActionProvider look).ask id r s = (.ok [], s) := by
  unfold Provider.ask codeActionProvider
  rw [Fallible.bind_apply]
  simp only [Fallible.pure_apply, hd, Bool.not_true, Bool.false_eq_true, ↓reduceIte]

theorem codeActions_eq (look : FlagsLookup) (r : CodeActionRequest) (s : Server)
    (hs : s.capable = true) (hd : r.diagnostics.isEmpty = false) :
    codeActions look r s =
      match snapshot look r.uri s with
      | (.error f, s') => (([], [refusedEntry f]), s')
      | (.ok known, s') => ((actionsFor s'.catalog s'.settings r known, []), s') := by
  rw [codeActions, if_pos hs, Capabilities.codeActions, codeAction_providers]
  simp only [Provider.gather]
  rw [ask_codeAction look r s hd]
  generalize snapshot look r.uri s = known
  obtain ⟨f | known, s'⟩ := known
  · have htext : "Code action".toList ++ " error in ".toList ++ (codeActionProvider look).name ++
        ": ".toList = "Code action error in pragmas_code_action: ".toList := rfl
    simp only [refusedEntry]
    rw [htext]
  · simp only [List.append_nil]

theorem codeActions_idle (look : FlagsLookup) (r : CodeActionRequest) (s : Server)
    (h : (s.capable && !r.diagnostics.isEmpty) = false) :
    codeActions look r s = (([], []), s) := by
  cases hs : s.capable with
  | false => rw [codeActions, if_neg (by simp [hs])]
  | true =>
    have hd : r.diagnostics.isEmpty = true := by simpa [hs] using h
    rw [codeActions, if_pos hs, Capabilities.codeActions, codeAction_providers]
    simp only [Provider.gather]
    rw [ask_codeAction_idle look r s hd]
    simp only [List.append_nil]

/-! ### Completion -/

theorem completion_providers (look : FlagsLookup) :
    (capabilities look).capabilities.values.filterMap Capability.completion? =
      [completionProvider] := rfl

theorem ask_completion (r : CompletionRequest) (s : Server) :
    completionProvider.ask CompletionList.items r s =
      ((s.cursorWord? r.uri r.position).map fun w =>
        if w.any (·.line.startsWith Pragma.opener) then Completion.items s.catalog w else [],
          s) := by
  unfold Provider.ask completionProvider
  simp only [Fallible.bind_apply, Fallible.get_apply, Fallible.lift_apply]
  cases h : s.cursorWord? r.uri r.position with
  | error f => simp only [Except.map]
  | ok w =>
    simp only [Fallible.pure_apply, Except.map]
    split
    · simp only [Fallible.bind_apply, Fallible.get_apply, Fallible.lift_apply, h,
        Fallible.pure_apply]
    · simp only [Fallible.pure_apply]

/-- A completion request changes nothing, and its answer does not depend on the flags kept. -/
theorem complete_withCache (look look' : FlagsLookup) (r : CompletionRequest) (s : Server)
    (k : FlagsCache) :
    complete look r (s.withCache k) = ((complete look' r s).1, s.withCache k) := by
  cases hs : s.capable with
  | false =>
    have hs' : ¬ (s.withCache k).capable = true := by simp [withCache, hs]
    rw [complete, complete, if_neg hs', if_neg (by simp [hs])]
  | true =>
    have hs' : (s.withCache k).capable = true := hs
    rw [complete, complete, if_pos hs', if_pos hs, Capabilities.complete, Capabilities.complete,
      completion_providers, completion_providers]
    simp only [Provider.gather]
    rw [ask_completion, ask_completion, cursorWord?_withCache, catalog_withCache]
    cases s.cursorWord? r.uri r.position with
    | error f => simp only [Except.map]
    | ok w => simp only [Except.map]

end Server
end PragmaAssist
