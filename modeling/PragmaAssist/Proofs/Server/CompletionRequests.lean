import PragmaAssist.Proofs.Completion.Classes
import PragmaAssist.Proofs.Server.Reinitialization
import PragmaAssist.Proofs.Server.UnopenedDocuments

/-! The answer to a completion request after any run. It is what the cursor's line and word come to,
and an entry in the log just if they cannot be looked up. -/
namespace PragmaAssist

namespace Step

def dropsCapabilities : Step → Bool
  | .query .dropCapabilities => true
  | _ => false

theorem eq_of_dropsCapabilities {st : Step} (h : st.dropsCapabilities = true) :
    st = .query .dropCapabilities := by
  unfold dropsCapabilities at h
  split at h
  · rfl
  · cases h

end Step

namespace Server

def refusedCompletion (f : Failure) : LogEntry :=
  ⟨.error, "Completion error in pragmas_completion: ".toList ++ f.message⟩

theorem complete_eq (look : FlagsLookup) (r : CompletionRequest) (s : Server)
    (hs : s.capable = true) :
    complete look r s =
      match s.cursorWord? r.uri r.position with
      | .ok w => ((⟨false, Completion.items s.catalog w⟩, []), s)
      | .error f => ((⟨false, []⟩, [refusedCompletion f]), s) := by
  rw [complete, if_pos hs, Capabilities.complete, completion_providers]
  simp only [Provider.gather]
  rw [ask_completion]
  cases s.cursorWord? r.uri r.position with
  | error f => rfl
  | ok w => simp only [Except.map, Completion.items_of_gate, List.append_nil]

/-- The cursor is looked up in the document that is kept under the address as it is written. -/
theorem cursorWord?_eq (s : Server) (uri : Uri) (p : Position) :
    s.cursorWord? uri p =
      match Uri.address uri with
      | .error f => .error f
      | .ok _ =>
        if uri.namesFile then
          s.openDocuments.map fun ds => (ds.buffer? uri).bind (CursorWord.at? · p)
        else .ok none := by
  rw [cursorWord?]
  cases ha : Uri.address uri with
  | error f => rfl
  | ok a =>
    rw [← Uri.isFile_of_address ha]
    cases hfile : a.isFile with
    | false => simp [hfile, bind, Except.bind, pure, Except.pure]
    | true =>
      cases s.openDocuments <;> simp [hfile, bind, Except.bind, Except.map, pure, Except.pure]

theorem cursorWord?_eq_error_iff {s : Server} {uri : Uri} {p : Position} :
    (∃ f, s.cursorWord? uri p = .error f) ↔
      (∃ f, Uri.address uri = .error f) ∨ uri.namesFile = true ∧ s.documents = none := by
  rw [cursorWord?_eq, openDocuments]
  cases Uri.address uri with
  | error f => simp
  | ok a => cases uri.namesFile <;> cases s.documents <;> simp [Except.map]

/-! ### What a run leaves to answer with -/

/-- There is as much to answer a request with, and to look a cursor up in. -/
structure SameFooting (s t : Server) : Prop where
  capable : t.capable = s.capable
  initialized : t.documents.isSome = s.documents.isSome

theorem SameFooting.refl (s : Server) : SameFooting s s := ⟨rfl, rfl⟩

theorem OnlyDocuments.footing {s t : Server} (h : OnlyDocuments s t) : SameFooting s t := by
  obtain ⟨ds?, hds, rfl⟩ := h
  exact ⟨rfl, hds⟩

theorem handleEvent_footing {update : Server → Except Failure Server} {s : Server}
    (hupdate : ∀ s', update s = .ok s' → OnlyDocuments s s') (e : DocumentEvent) (uri : Uri) :
    SameFooting s (handleEvent e uri update s).2 := by
  rw [handleEvent]
  cases h : update s with
  | error f => exact .refl s
  | ok s' =>
    simp only [announce_eq]
    obtain ⟨hcapable, hinitialized⟩ := (hupdate s' h).footing
    exact ⟨hcapable, hinitialized⟩

theorem flags_footing (uri : Uri) (contents : Option Text) (s : Server) :
    SameFooting s (flags cachedLookup uri contents s).2 := by
  have hlook (c : Text) : SameFooting s (cachedLookup uri c s).2 := by
    obtain ⟨k, hk⟩ := cachedLookup_onlyCache uri c s
    rw [hk]
    exact ⟨rfl, rfl⟩
  cases contents with
  | some c => exact hlook c
  | none =>
    rw [flags_none]
    cases s.contents? uri with
    | error f => exact .refl s
    | ok contents =>
      cases contents with
      | none => exact .refl s
      | some c => exact hlook c

theorem codeActions_footing (r : CodeActionRequest) (s : Server) :
    SameFooting s (codeActions cachedLookup r s).2 := by
  cases hq : s.capable && !r.diagnostics.isEmpty with
  | false =>
    rw [codeActions_idle cachedLookup r s hq]
    exact .refl s
  | true =>
    obtain ⟨hs, hd⟩ : s.capable = true ∧ r.diagnostics.isEmpty = false := by simpa using hq
    have hflags := flags_footing r.uri none s
    rw [← snapshot_state] at hflags
    rw [codeActions_eq cachedLookup r s hs hd]
    generalize snapshot cachedLookup r.uri s = known at hflags ⊢
    obtain ⟨f | known, s'⟩ := known <;> exact hflags

theorem step_footing {st : Step} (hi : st.initializes = false)
    (hd : st.dropsCapabilities = false) (s : Server) : SameFooting s (step st s).2 := by
  cases st with
  | message m =>
    cases m with
    | initialization id options env compiler => simp [Step.initializes] at hi
    | opened uri text => exact handleEvent_footing (fun _ => updateDocuments_onlyDocuments) _ uri
    | changed uri texts => exact handleEvent_footing (fun _ => takeTexts_onlyDocuments) _ uri
    | saved uri =>
      simp only [step, stepWith, receive, announce_eq]
      exact ⟨rfl, rfl⟩
    | closed uri => exact handleEvent_footing (fun _ => updateDocuments_onlyDocuments) _ uri
    | completion id r =>
      have h := complete_withCache cachedLookup cachedLookup r s s.cache
      rw [withCache_cache] at h
      simp only [step, stepWith, receive]
      rw [h]
      exact .refl s
    | codeAction id r => exact codeActions_footing r s
  | query q =>
    cases q with
    | flags uri contents => exact flags_footing uri contents s
    | snapshot uri =>
      have hflags := flags_footing uri none s
      rwa [← snapshot_state] at hflags
    | registerHooks possible => cases possible <;> exact ⟨rfl, rfl⟩
    | dropCapabilities => simp [Step.dropsCapabilities] at hd
    | _ => exact ⟨rfl, rfl⟩

theorem startUp_footing (options : Json) (env : Environment) (compiler : Compiler) (s : Server) :
    (startUp options env compiler s).2.capable = s.capable ∧
      (startUp options env compiler s).2.documents.isSome = true := by
  unfold startUp
  split
  · exact ⟨rfl, rfl⟩
  · simp only
    split <;> exact ⟨rfl, rfl⟩

theorem step_capable (st : Step) (s : Server) :
    (step st s).2.capable = (s.capable && !st.dropsCapabilities) := by
  cases hd : st.dropsCapabilities with
  | true =>
    obtain rfl := Step.eq_of_dropsCapabilities hd
    rw [Bool.not_true, Bool.and_false]
    rfl
  | false =>
    rw [Bool.not_false, Bool.and_true]
    cases hi : st.initializes with
    | true =>
      obtain ⟨id, options, env, compiler, rfl⟩ := Step.exists_of_initializes hi
      rw [step, initialization_state]
      exact (startUp_footing options env compiler s).1
    | false => exact (step_footing hi hd s).capable

theorem step_initialized (st : Step) (s : Server) :
    (step st s).2.documents.isSome = (s.documents.isSome || st.initializes) := by
  cases hi : st.initializes with
  | true =>
    obtain ⟨id, options, env, compiler, rfl⟩ := Step.exists_of_initializes hi
    rw [step, initialization_state, Bool.or_true]
    exact (startUp_footing options env compiler s).2
  | false =>
    rw [Bool.or_false]
    cases hd : st.dropsCapabilities with
    | true =>
      obtain rfl := Step.eq_of_dropsCapabilities hd
      rfl
    | false => exact (step_footing hi hd s).initialized

theorem run_capable (steps : List Step) (s : Server) :
    (run steps s).2.capable = (s.capable && !steps.any Step.dropsCapabilities) := by
  induction steps generalizing s with
  | nil => simp [run, runWith]
  | cons st rest ih => rw [run_cons, ih, step_capable, List.any_cons, Bool.not_or, Bool.and_assoc]

theorem run_initialized (steps : List Step) (s : Server) :
    (run steps s).2.documents.isSome = (s.documents.isSome || steps.any Step.initializes) := by
  induction steps generalizing s with
  | nil => simp [run, runWith]
  | cons st rest ih => rw [run_cons, ih, step_initialized, List.any_cons, Bool.or_assoc]

/-- The cursor can be looked up under every well-formed address once an initialization has come, and
under that of something else than a file even before. -/
theorem exists_cursorWord? (steps : List Step) {uri : Uri} (p : Position)
    (hform : ∃ a, Uri.address uri = .ok a)
    (hstart : uri.namesFile = true → steps.any Step.initializes = true) :
    ∃ w, (run steps fresh).2.cursorWord? uri p = .ok w := by
  cases hword : (run steps fresh).2.cursorWord? uri p with
  | ok w => exact ⟨w, rfl⟩
  | error f =>
    rcases cursorWord?_eq_error_iff.1 ⟨f, hword⟩ with ⟨g, hg⟩ | ⟨hfile, hnone⟩
    · obtain ⟨a, ha⟩ := hform
      rw [ha] at hg
      cases hg
    · have hinitialized := run_initialized steps fresh
      rw [hnone, hstart hfile, Bool.or_true] at hinitialized
      cases hinitialized

/-! ### The answer -/

def itemsAnswer (id : Json) (items : List CompletionItem) : Outgoing :=
  .response id (.completion ⟨false, items⟩)

theorem receive_completion (look : FlagsLookup) (id : Json) (r : CompletionRequest) (s : Server) :
    receive look (.completion id r) s =
      (if s.capable then
        match s.cursorWord? r.uri r.position with
        | .ok w => [itemsAnswer id (Completion.items s.catalog w)]
        | .error f => [.log (refusedCompletion f), itemsAnswer id []]
      else [itemsAnswer id []], s) := by
  rw [receive]
  cases hs : s.capable with
  | false => rw [complete, if_neg (by simp [hs])]; rfl
  | true =>
    rw [complete_eq look r s hs]
    cases s.cursorWord? r.uri r.position <;> rfl

/-- After any run the items are those for the cursor's line and word, with nothing in the log. A
cursor that cannot be looked up gives none and one entry. How the line starts says what they are. -/
theorem completion_after_run (steps : List Step) (id : Json) (r : CompletionRequest) :
    let s := (run steps fresh).2
    let word := s.cursorWord? r.uri r.position
    step (.message (.completion id r)) s =
        (.ok (.sent (if steps.any Step.dropsCapabilities then [itemsAnswer id []]
          else match word with
            | .ok w => [itemsAnswer id (Completion.items s.catalog w)]
            | .error f => [.log (refusedCompletion f), itemsAnswer id []])), s) ∧
      ((∃ a, Uri.address r.uri = .ok a) →
        (r.uri.namesFile = true → steps.any Step.initializes = true) → ∃ w, word = .ok w) ∧
      ∀ line, Completion.Subject.ofLine line =
        if (line.take 12).map Char.toLower = "\x7b-# language".toList then .extensions
        else if (line.take 15).map Char.toLower = "\x7b-# options_ghc".toList then .options
        else if line.startsWith "\x7b-#".toList then .templates
        else .nothing := by
  intro s word
  refine ⟨?_, exists_cursorWord? steps r.position, Completion.Subject.ofLine_eq⟩
  have hcapable : s.capable = !steps.any Step.dropsCapabilities := run_capable steps fresh
  rw [step, stepWith, receive_completion, hcapable]
  cases steps.any Step.dropsCapabilities <;> rfl

/-- The host of the address does not end, so that the cursor's line is not looked for. -/
theorem completion_logged :
    let s := (run [.message (.initialization .null .null .empty .absent)] fresh).2
    let r : CompletionRequest := ⟨"file://[/m.hs".toList, ⟨0, 0⟩⟩
    ¬ ∃ items, (step (.message (.completion .null r)) s).1 = .ok (.sent [itemsAnswer .null items]) := by
  intro s r h
  obtain ⟨items, h⟩ := h
  have hsent : (step (.message (.completion .null r)) s).1 = .ok (.sent
      [.log (refusedCompletion (.badAuthority .brackets)), itemsAnswer .null []]) := rfl
  rw [hsent] at h
  injections

end Server
end PragmaAssist
