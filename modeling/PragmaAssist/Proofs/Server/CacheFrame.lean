import PragmaAssist.Proofs.Server.Reinitialization

/-! Which entries of the flags cache a step touches. Each step is about one document at most and
leaves the entries of all others alone: an event that the open documents take in drops the entry, a
look-up leaves the flags that it answered with, for their contents. -/
namespace PragmaAssist

namespace Step

def notified? : Step → Option Uri
  | .message (.opened uri _) => some uri
  | .message (.changed uri _) => some uri
  | .message (.saved uri) => some uri
  | .message (.closed uri) => some uri
  | _ => none

def asked? : Step → Option Uri
  | .message (.codeAction _ r) => some r.uri
  | .query (.flags uri _) => some uri
  | .query (.snapshot uri) => some uri
  | _ => none

def document? : Step → Option Uri
  | .query (.invalidate uri) => some uri
  | st => st.notified? <|> st.asked?

theorem document?_of_notified {st : Step} {u : Uri} (h : st.notified? = some u) :
    st.document? = some u := by
  unfold document?
  split
  · simp [notified?] at h
  · rw [h]
    rfl

theorem document?_of_asked {st : Step} {u : Uri} (h : st.asked? = some u) :
    st.document? = some u := by
  unfold asked? at h
  split at h <;> simp_all [document?, notified?, asked?]

end Step

namespace Server

def IsOpen (s : Server) (uri : Uri) : Prop :=
  ∃ ds, s.documents = some ds ∧ (ds.get? (Uri.decoded uri)).isSome

/-- The open documents take an event in. Before the first initialization there are none that could;
a document is opened under a well-formed address alone, and changes only while it is open. A change
without texts and a document that is saved ask nothing of them. -/
def TakesIn (s : Server) : Step → Prop
  | .message (.opened uri _) => s.documents.isSome ∧ ∃ a, Uri.address uri = .ok a
  | .message (.changed uri texts) => texts = [] ∨ s.IsOpen uri
  | .message (.saved _) => True
  | .message (.closed _) => s.documents.isSome
  | _ => False

theorem updateDocuments_isSome (f : Documents → Except Failure Documents) (s : Server) :
    (updateDocuments f s).toOption.isSome ↔
      ∃ ds, s.documents = some ds ∧ (f ds).toOption.isSome := by
  unfold updateDocuments openDocuments
  cases s.documents with
  | none => simp [bind, Except.bind, Except.toOption]
  | some ds => cases hf : f ds <;> simp [hf, bind, Except.bind, pure, Except.pure, Except.toOption]

theorem updateDocuments_changed (uri : Uri) (text : Text) (s : Server) :
    (∃ s', updateDocuments (·.changed uri text) s = .ok s' ∧ s.IsOpen uri ∧ s'.IsOpen uri) ∨
      ∃ f, updateDocuments (·.changed uri text) s = .error f ∧ ¬ s.IsOpen uri := by
  cases hds : s.documents with
  | none =>
    refine .inr ⟨.noWorkspace, ?_, ?_⟩
    · rw [updateDocuments, openDocuments, hds]
      rfl
    · rintro ⟨ds, h, -⟩
      cases hds.symm.trans h
  | some ds =>
    cases hold : ds.get? (Uri.decoded uri) with
    | none =>
      refine .inr ⟨.notOpen (Uri.decoded uri), ?_, ?_⟩
      · rw [updateDocuments, openDocuments, hds]
        simp only [bind, Except.bind, Documents.changed, hold]
      · rintro ⟨ds', h, hopen⟩
        obtain rfl := Option.some.inj (hds.symm.trans h)
        simp [hold] at hopen
    | some old =>
      refine .inl ⟨{ s with documents := some (ds.insert (Uri.decoded uri) text) }, ?_, ?_, ?_⟩
      · rw [updateDocuments, openDocuments, hds]
        simp only [bind, Except.bind, Documents.changed, hold]
        rfl
      · exact ⟨ds, hds, by simp [hold]⟩
      · exact ⟨_, rfl, by simp⟩

theorem takeTexts_isSome (uri : Uri) (texts : List Text) (s : Server) :
    (takeTexts uri texts s).toOption.isSome ↔ texts = [] ∨ s.IsOpen uri := by
  unfold takeTexts
  induction texts generalizing s with
  | nil => simp [pure, Except.pure, Except.toOption]
  | cons text texts ih =>
    rw [List.foldlM_cons]
    rcases updateDocuments_changed uri text s with ⟨s', hs', hopen, hopen'⟩ | ⟨f, hf, hclosed⟩
    · rw [hs']
      exact iff_of_true ((ih s').2 (.inr hopen')) (.inr hopen)
    · rw [hf]
      simp [hclosed, bind, Except.bind, Except.toOption]

/-- An event drops the entry of its document just if the open documents take it in. -/
theorem dropped?_of_notified {st : Step} {u : Uri} (h : st.notified? = some u) (s : Server) :
    (s.TakesIn st → dropped? st s = some u) ∧ (¬ s.TakesIn st → dropped? st s = none) := by
  have hmap {α : Type} (o : Option α) (p : Prop) (ho : o.isSome ↔ p) :
      (p → (o.map fun _ => u) = some u) ∧ (¬ p → (o.map fun _ => u) = none) := by
    cases o <;> simp_all
  cases st with
  | query q => cases h
  | message m =>
    cases m with
    | opened uri text =>
      obtain rfl := Option.some.inj h
      refine hmap _ _ ((updateDocuments_isSome _ s).trans ?_)
      cases hds : s.documents <;> cases ha : Uri.address uri <;>
        simp [TakesIn, Documents.opened, hds, ha, bind, Except.bind, pure, Except.pure,
          Except.toOption]
    | changed uri texts =>
      obtain rfl := Option.some.inj h
      exact hmap _ _ (takeTexts_isSome uri texts s)
    | saved uri =>
      obtain rfl := Option.some.inj h
      exact ⟨fun _ => rfl, fun h => absurd trivial h⟩
    | closed uri =>
      obtain rfl := Option.some.inj h
      refine hmap _ _ ((updateDocuments_isSome _ s).trans ?_)
      simp [TakesIn, Option.isSome_iff_exists, Except.toOption]
    | _ => cases h

theorem lookedUp?_of_notified {st : Step} {u : Uri} (h : st.notified? = some u) (s : Server) :
    lookedUp? st s = none := by
  unfold Step.notified? at h
  split at h <;> simp_all [lookedUp?]

theorem dropped?_of_asked {st : Step} {u : Uri} (h : st.asked? = some u) (s : Server) :
    dropped? st s = none := by
  unfold Step.asked? at h
  split at h <;> simp_all [dropped?]

theorem dropped?_document {st : Step} {s : Server} {u : Uri} (h : dropped? st s = some u) :
    st.document? = some u := by
  unfold dropped? at h
  split at h <;> simp_all [Step.document?, Step.notified?]

theorem lookedUp?_document {st : Step} {s : Server} {u : Uri} {c : Text}
    (h : lookedUp? st s = some (u, c)) : st.document? = some u := by
  unfold lookedUp? at h
  split at h
  · split at h
    · obtain ⟨rfl, -⟩ := readable?_eq_some h
      rfl
    · cases h
  · obtain ⟨rfl, -⟩ := Prod.mk.inj (Option.some.inj h)
    rfl
  · obtain ⟨rfl, -⟩ := readable?_eq_some h
    rfl
  · obtain ⟨rfl, -⟩ := readable?_eq_some h
    rfl
  · cases h

theorem get?_cache_step_of_ne {st : Step} {v : Uri} (h : st.document? ≠ some v) (s : Server) :
    (step st s).2.cache.get? v = s.cache.get? v := by
  rw [get?_cache_step, if_neg fun hd => h (dropped?_document hd)]
  split
  · rename_i u c hl
    rw [if_neg]
    rintro rfl
    exact h (lookedUp?_document hl)
  · rfl

theorem get?_cache_run {steps : List Step} {v : Uri}
    (h : ∀ st ∈ steps, st.document? ≠ some v) (s : Server) :
    (run steps s).2.cache.get? v = s.cache.get? v := by
  induction steps generalizing s with
  | nil => rfl
  | cons st rest ih =>
    obtain ⟨hst, hrest⟩ := List.forall_mem_cons.1 h
    rw [run_cons, ih hrest, get?_cache_step_of_ne hst]

theorem cache_step_of_idle {st : Step} {s : Server} (hd : dropped? st s = none)
    (hl : lookedUp? st s = none) : (step st s).2.cache = s.cache := by
  cases hi : st.initializes with
  | true =>
    obtain ⟨id, options, env, compiler, rfl⟩ := Step.exists_of_initializes hi
    rw [step, initialization_cache]
  | false =>
    obtain ⟨a, s', -, h⟩ := step_plain hi hl
    have hstate := (h cachedLookup s.cache).1
    rw [withCache_cache, hd] at hstate
    rw [step, hstate]
    rfl

theorem answer_step_of_lookedUp {st : Step} {s : Server} {u : Uri} {c : Text}
    (hl : lookedUp? st s = some (u, c)) :
    ∃ f, (step st s).1 = .ok (answerOf st s ⟨f, some c⟩) ∧
      (step st s).2.cache.get? u = some (c, f) := by
  obtain ⟨hd, h⟩ := step_lookup hl
  have hstep := h cachedLookup s.cache cachedLookup_onlyCache
  rw [withCache_cache] at hstep
  refine ⟨(cachedLookup u c s).1, congrArg Prod.fst hstep, ?_⟩
  rw [get?_cache_step, hd, if_neg (by simp), hl]
  exact if_pos rfl

/-- Every step touches no entry but that of its own document: an event that is taken in drops it, a
refused one leaves it, and a look-up leaves the flags that it answers with, for their contents. -/
theorem step_touches_own_entry (s : Server) (u : Uri) :
    (∀ st : Step, st.notified? = some u →
      (s.TakesIn st → (step st s).2.cache.get? u = none) ∧
        (∀ v, v ≠ u → (step st s).2.cache.get? v = s.cache.get? v) ∧
        (¬ s.TakesIn st → (step st s).2.cache = s.cache)) ∧
      (∀ st : Step, st.asked? = some u →
        (∀ v, v ≠ u → (step st s).2.cache.get? v = s.cache.get? v) ∧
          (∀ c, lookedUp? st s = some (u, c) →
            ∃ f, (step st s).1 = .ok (answerOf st s ⟨f, some c⟩) ∧
              (step st s).2.cache.get? u = some (c, f)) ∧
          (lookedUp? st s = none → (step st s).2.cache = s.cache)) ∧
      (∀ id, (step (.message (.codeAction id ⟨u, []⟩)) s).2.cache = s.cache) ∧
      (∀ id p, (step (.message (.completion id ⟨u, p⟩)) s).2.cache = s.cache) ∧
      (∀ p, (step (.query (.cursorWord u p)) s).2.cache = s.cache) ∧
      ∀ id options env compiler,
        (step (.message (.initialization id options env compiler)) s).2.cache = s.cache := by
  have hothers {st : Step} (h : st.document? = some u) (v : Uri) (hv : v ≠ u) :
      (step st s).2.cache.get? v = s.cache.get? v :=
    get?_cache_step_of_ne (fun h' => hv (Option.some.inj (h'.symm.trans h))) s
  refine ⟨fun st h => ⟨fun htaken => ?_, hothers (Step.document?_of_notified h), fun hnot => ?_⟩,
    fun st h => ⟨hothers (Step.document?_of_asked h), fun c hl => answer_step_of_lookedUp hl,
      fun hl => ?_⟩,
    fun id => cache_step_of_idle rfl (by simp [lookedUp?]),
    fun id p => cache_step_of_idle rfl rfl, fun p => cache_step_of_idle rfl rfl,
    fun id options env compiler => cache_step_of_idle rfl rfl⟩
  · rw [get?_cache_step, if_pos ((dropped?_of_notified h s).1 htaken)]
  · exact cache_step_of_idle ((dropped?_of_notified h s).2 hnot) (lookedUp?_of_notified h s)
  · exact cache_step_of_idle (dropped?_of_asked h s) hl

/-- A document that is refused under a malformed address: the flags that were kept for the address
stay. -/
theorem refused_event_keeps_entry :
    let u := "file://[/m.hs".toList
    let s := (run [.message (.initialization .null .null .empty .absent),
      .query (.flags u (some []))] fresh).2
    let event := Step.message (.opened u [])
    event.notified? = some u ∧
      (step event s).2.cache.get? u = some ([], some ⟨.empty, .empty⟩) :=
  ⟨rfl, rfl⟩

end Server
end PragmaAssist
