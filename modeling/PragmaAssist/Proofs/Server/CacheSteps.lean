import PragmaAssist.Proofs.Server.Requests

/-! What a step does to the flags that are kept: it drops those of one document, looks those of one
document up, or leaves them alone. All else that it does is the same with any cache. -/
namespace PragmaAssist

namespace Step

def initializes : Step → Bool
  | .message (.initialization ..) => true
  | _ => false

theorem exists_of_initializes {st : Step} (h : st.initializes = true) :
    ∃ id options env compiler, st = .message (.initialization id options env compiler) := by
  unfold initializes at h
  split at h
  · exact ⟨_, _, _, _, rfl⟩
  · cases h

def showsCache : Step → Bool
  | .query .cache => true
  | _ => false

end Step

namespace Server

def dropped? (st : Step) (s : Server) : Option Uri :=
  match st with
  | .message (.opened uri text) =>
    (updateDocuments (·.opened uri text) s).toOption.map fun _ => uri
  | .message (.changed uri texts) => (takeTexts uri texts s).toOption.map fun _ => uri
  | .message (.saved uri) => some uri
  | .message (.closed uri) =>
    (updateDocuments (fun ds => .ok (ds.closed uri)) s).toOption.map fun _ => uri
  | .query (.invalidate uri) => some uri
  | _ => none

def readable? (s : Server) (uri : Uri) : Option (Uri × Text) :=
  match s.contents? uri with
  | .ok (some c) => some (uri, c)
  | _ => none

def lookedUp? (st : Step) (s : Server) : Option (Uri × Text) :=
  match st with
  | .message (.codeAction _ r) =>
    if s.capable && !r.diagnostics.isEmpty then s.readable? r.uri else none
  | .query (.flags uri (some c)) => some (uri, c)
  | .query (.flags uri none) => s.readable? uri
  | .query (.snapshot uri) => s.readable? uri
  | _ => none

def dropping (uri? : Option Uri) (k : FlagsCache) : FlagsCache := uri?.elim k k.erase

/-- What counts for the flags of any contents is the same in both servers. -/
def SameRules (s t : Server) : Prop := t.catalog = s.catalog ∧ t.settings = s.settings

theorem SameRules.refl (s : Server) : SameRules s s := ⟨rfl, rfl⟩

theorem SameRules.trans {s t u : Server} (h : SameRules s t) (h' : SameRules t u) :
    SameRules s u :=
  ⟨h'.1.trans h.1, h'.2.trans h.2⟩

theorem OnlyDocuments.rules {s t : Server} (h : OnlyDocuments s t) : SameRules s t := by
  obtain ⟨ds?, -, rfl⟩ := h
  exact ⟨rfl, rfl⟩

theorem handleEvent_withCache {update : Server → Except Failure Server} {s : Server}
    (hcache : ∀ k, update (s.withCache k) = (update s).map (withCache k))
    (hupdate : ∀ s', update s = .ok s' → OnlyDocuments s s') (e : DocumentEvent) (uri : Uri) :
    ∃ sent s', SameRules s s' ∧ ∀ k, handleEvent e uri update (s.withCache k) =
      (sent, s'.withCache (dropping ((update s).toOption.map fun _ => uri) k)) := by
  cases h : update s with
  | error f =>
    refine ⟨[refusal f], s, ⟨rfl, rfl⟩, fun k => ?_⟩
    rw [handleEvent, hcache, h]
    rfl
  | ok s' =>
    refine ⟨(e.announcement uri).map .log, s', (hupdate s' h).rules, fun k => ?_⟩
    rw [handleEvent, hcache, h]
    exact announce_eq e uri (s'.withCache k)

theorem codeAction_plain {id : Json} {r : CodeActionRequest} {s : Server}
    (hl : lookedUp? (.message (.codeAction id r)) s = none) :
    ∃ answer, ∀ look k, codeActions look r (s.withCache k) = (answer, s.withCache k) := by
  cases hq : s.capable && !r.diagnostics.isEmpty with
  | false => exact ⟨([], []), fun look k => codeActions_idle look r (s.withCache k) hq⟩
  | true =>
    obtain ⟨hs, hd⟩ : s.capable = true ∧ r.diagnostics.isEmpty = false := by simpa using hq
    have h look k := codeActions_eq look r (s.withCache k) hs hd
    simp only [snapshot_eq, contents?_withCache] at h
    simp only [lookedUp?, hq, if_true, readable?] at hl
    cases hc : s.contents? r.uri with
    | error f => exact ⟨([], [refusedEntry f]), fun look k => by rw [h, hc]⟩
    | ok contents =>
      cases contents with
      | none => exact ⟨(actionsFor s.catalog s.settings r ⟨none, none⟩, []), fun look k => by
          rw [h, hc]; rfl⟩
      | some c => simp [hc] at hl

theorem query_plain {q : Query} {s : Server} (hl : lookedUp? (.query q) s = none) :
    ∃ a s', SameRules s s' ∧ ∀ look k,
      (query look q (s.withCache k)).2 = s'.withCache (dropping (dropped? (.query q) s) k) ∧
      ((Step.query q).showsCache = false → (query look q (s.withCache k)).1 = a) := by
  cases q with
  | flags uri contents =>
    cases contents with
    | some c => simp [lookedUp?] at hl
    | none =>
      simp only [query, flags_none, contents?_withCache]
      simp only [lookedUp?, readable?] at hl
      cases hc : s.contents? uri with
      | error f => exact ⟨_, s, .refl s, fun look k => ⟨rfl, fun _ => rfl⟩⟩
      | ok contents =>
        cases contents with
        | none => exact ⟨_, s, .refl s, fun look k => ⟨rfl, fun _ => rfl⟩⟩
        | some c => simp [hc] at hl
  | snapshot uri =>
    simp only [query, snapshot_eq, contents?_withCache]
    simp only [lookedUp?, readable?] at hl
    cases hc : s.contents? uri with
    | error f => exact ⟨_, s, .refl s, fun look k => ⟨rfl, fun _ => rfl⟩⟩
    | ok contents =>
      cases contents with
      | none => exact ⟨_, s, .refl s, fun look k => ⟨rfl, fun _ => rfl⟩⟩
      | some c => simp [hc] at hl
  | cursorWord uri p =>
    exact ⟨(s.cursorWord? uri p).map .cursorWord, s, .refl s, fun look k => ⟨rfl, fun _ => rfl⟩⟩
  | invalidate uri => exact ⟨.ok .done, s, .refl s, fun look k => ⟨rfl, fun _ => rfl⟩⟩
  | cache => exact ⟨.ok .done, s, .refl s, fun look k => ⟨rfl, by simp [Step.showsCache]⟩⟩
  | settings => exact ⟨.ok (.settings s.settings), s, .refl s, fun look k => ⟨rfl, fun _ => rfl⟩⟩
  | catalog => exact ⟨.ok (.catalog s.catalog), s, .refl s, fun look k => ⟨rfl, fun _ => rfl⟩⟩
  | registerHooks possible =>
    cases possible with
    | true => exact ⟨.ok .done, { s with hookRounds := s.hookRounds + 1 }, ⟨rfl, rfl⟩,
        fun look k => ⟨rfl, fun _ => rfl⟩⟩
    | false => exact ⟨.ok .done, s, .refl s, fun look k => ⟨rfl, fun _ => rfl⟩⟩
  | dropCapabilities =>
    exact ⟨.ok .done, { s with capable := false }, ⟨rfl, rfl⟩, fun look k => ⟨rfl, fun _ => rfl⟩⟩
  | place path entry =>
    exact ⟨.ok .done, { s with disk := s.disk.place path entry }, ⟨rfl, rfl⟩,
      fun look k => ⟨rfl, fun _ => rfl⟩⟩

/-- A step that looks no flags up: only what it drops of the cache depends on the cache, and
nothing on the way to get at flags. -/
theorem step_plain {st : Step} {s : Server} (hi : st.initializes = false)
    (hl : lookedUp? st s = none) :
    ∃ a s', SameRules s s' ∧ ∀ look k,
      (stepWith look st (s.withCache k)).2 = s'.withCache (dropping (dropped? st s) k) ∧
      (st.showsCache = false → (stepWith look st (s.withCache k)).1 = a) := by
  cases st with
  | message m =>
    cases m with
    | initialization id options env compiler => simp [Step.initializes] at hi
    | opened uri text =>
      obtain ⟨sent, s', hs, h⟩ := handleEvent_withCache
        (fun k => updateDocuments_withCache (·.opened uri text) k s)
        (fun _ => updateDocuments_onlyDocuments) .opened uri
      refine ⟨.ok (.sent sent), s', hs, fun look k => ?_⟩
      simp [stepWith, receive, h, dropped?]
    | changed uri texts =>
      obtain ⟨sent, s', hs, h⟩ := handleEvent_withCache
        (fun k => takeTexts_withCache uri texts k s) (fun _ => takeTexts_onlyDocuments) .changed uri
      refine ⟨.ok (.sent sent), s', hs, fun look k => ?_⟩
      simp [stepWith, receive, h, dropped?]
    | saved uri =>
      refine ⟨.ok (.sent ((DocumentEvent.saved.announcement uri).map .log)), s, .refl s,
        fun look k => ?_⟩
      simp only [stepWith, receive, announce_eq]
      exact ⟨rfl, fun _ => trivial⟩
    | closed uri =>
      obtain ⟨sent, s', hs, h⟩ := handleEvent_withCache
        (fun k => updateDocuments_withCache (fun ds => .ok (ds.closed uri)) k s)
        (fun _ => updateDocuments_onlyDocuments) .closed uri
      refine ⟨.ok (.sent sent), s', hs, fun look k => ?_⟩
      simp [stepWith, receive, h, dropped?]
    | completion id r =>
      refine ⟨(stepWith directLookup (.message (.completion id r)) s).1, s, .refl s,
        fun look k => ?_⟩
      simp only [stepWith, receive, complete_withCache look directLookup]
      exact ⟨rfl, fun _ => trivial⟩
    | codeAction id r =>
      obtain ⟨⟨actions, log⟩, h⟩ := codeAction_plain hl
      refine ⟨.ok (.sent (log.map .log ++ [.response id (.codeActions actions)])), s, .refl s,
        fun look k => ?_⟩
      simp only [stepWith, receive, h]
      exact ⟨rfl, fun _ => trivial⟩
  | query q => exact query_plain hl

/-- A way to get at flags that changes the cache at most. -/
def OnlyCache (look : FlagsLookup) : Prop := ∀ uri c s, ∃ k, (look uri c s).2 = s.withCache k

theorem directLookup_onlyCache : OnlyCache directLookup := fun _ _ s => ⟨s.cache, rfl⟩

theorem cachedLookup_onlyCache : OnlyCache cachedLookup := by
  intro uri c s
  unfold cachedLookup
  split
  · split
    · exact ⟨s.cache, rfl⟩
    · exact ⟨_, rfl⟩
  · exact ⟨_, rfl⟩

theorem readable?_eq_some {s : Server} {v u : Uri} {c : Text}
    (h : s.readable? v = some (u, c)) : v = u ∧ s.contents? v = .ok (some c) := by
  unfold readable? at h
  split at h
  · rename_i d hd
    obtain ⟨rfl, rfl⟩ := by simpa using h
    exact ⟨rfl, hd⟩
  · simp at h

def answerOf (st : Step) (s : Server) (known : Snapshot) : Answer :=
  match st with
  | .message (.codeAction id r) =>
    .sent [.response id (.codeActions (actionsFor s.catalog s.settings r known))]
  | .query (.snapshot _) => .snapshot known
  | _ => .flags known.flags

/-- A step that looks flags up: they are all that it takes from the cache. -/
theorem step_lookup {st : Step} {s : Server} {u : Uri} {c : Text}
    (hl : lookedUp? st s = some (u, c)) :
    dropped? st s = none ∧ ∀ look k, OnlyCache look → stepWith look st (s.withCache k) =
      (.ok (answerOf st s ⟨(look u c (s.withCache k)).1, some c⟩),
        (look u c (s.withCache k)).2) := by
  cases st with
  | message m =>
    cases m with
    | codeAction id r =>
      refine ⟨rfl, fun look k hlook => ?_⟩
      cases hq : s.capable && !r.diagnostics.isEmpty with
      | false => simp [lookedUp?, hq] at hl
      | true =>
        obtain ⟨hs, hd⟩ : s.capable = true ∧ r.diagnostics.isEmpty = false := by simpa using hq
        simp only [lookedUp?, hq, if_true] at hl
        obtain ⟨rfl, hc⟩ := readable?_eq_some hl
        have h := codeActions_eq look r (s.withCache k) hs hd
        rw [snapshot_eq, contents?_withCache, hc] at h
        obtain ⟨k', hk'⟩ := hlook r.uri c (s.withCache k)
        simp only [stepWith, receive, h, hk']
        rfl
    | _ => simp [lookedUp?] at hl
  | query q =>
    cases q with
    | flags uri contents =>
      refine ⟨rfl, fun look k _ => ?_⟩
      cases contents with
      | some d =>
        obtain ⟨rfl, rfl⟩ := by simpa [lookedUp?] using hl
        rfl
      | none =>
        obtain ⟨rfl, hc⟩ := readable?_eq_some (by simpa [lookedUp?] using hl)
        simp only [stepWith, query, flags_none, contents?_withCache, hc]
        rfl
    | snapshot uri =>
      refine ⟨rfl, fun look k _ => ?_⟩
      obtain ⟨rfl, hc⟩ := readable?_eq_some (by simpa [lookedUp?] using hl)
      simp only [stepWith, query, snapshot_eq, contents?_withCache, hc]
      rfl
    | _ => simp [lookedUp?] at hl

end Server
end PragmaAssist
