import PragmaAssist.Proofs.Fallible
import PragmaAssist.Proofs.TableOrder
import PragmaAssist.Server.Capabilities

/-! How capabilities answer together. Those of the requested kind are asked one after the other; the
answers of those that give one are put together in this order, and the failures of the others are
logged in it, each by one entry. -/
namespace PragmaAssist
variable {σ ρ β α : Type}

namespace Provider

inductive Contribution (β : Type) where
  | nothing
  | failure (f : Failure)
  | answer (b : β)

def Contribution.items (items : β → List α) : Contribution β → List α
  | answer b => items b
  | _ => []

def Contribution.logged? (what name : Text) : Contribution β → Option LogEntry
  | failure f => some ⟨.error, what ++ " error in ".toList ++ name ++ ": ".toList ++ f.message⟩
  | _ => none

/-- What a provider says about a request in a state, and the state that it leaves. It may fail when it
is to accept, and again when it is to answer. -/
inductive Contributes (p : Provider σ ρ β) (r : ρ) (s : σ) : Contribution β → σ → Prop
  | declines {t : σ} (h : p.accepts r s = (.ok false, t)) : Contributes p r s .nothing t
  | failsToAccept {f : Failure} {t : σ} (h : p.accepts r s = (.error f, t)) :
    Contributes p r s (.failure f) t
  | failsToAnswer {f : Failure} {t t' : σ} (h : p.accepts r s = (.ok true, t))
    (h' : p.answer r t = (.error f, t')) : Contributes p r s (.failure f) t'
  | answers {b : β} {t t' : σ} (h : p.accepts r s = (.ok true, t))
    (h' : p.answer r t = (.ok b, t')) : Contributes p r s (.answer b) t'

variable {p : Provider σ ρ β} {r : ρ} {s t : σ} {c : Contribution β}

theorem exists_contributes (p : Provider σ ρ β) (r : ρ) (s : σ) :
    ∃ c t, p.Contributes r s c t := by
  rcases h : p.accepts r s with ⟨f | accepted, t⟩
  · exact ⟨_, t, .failsToAccept h⟩
  · cases accepted with
    | false => exact ⟨_, t, .declines h⟩
    | true =>
      rcases h' : p.answer r t with ⟨f | b, t'⟩
      · exact ⟨_, t', .failsToAnswer h h'⟩
      · exact ⟨_, t', .answers h h'⟩

theorem ask_apply (items : β → List α) (h : p.Contributes r s c t) :
    p.ask items r s =
      (match c with
        | .failure f => .error f
        | c => .ok (c.items items), t) := by
  unfold ask
  rw [Fallible.bind_apply]
  cases h with
  | declines h => rw [h]; rfl
  | failsToAccept h => rw [h]
  | failsToAnswer h h' =>
    rw [h]
    simp only [if_true, Fallible.bind_apply, h']
  | answers h h' =>
    rw [h]
    simp only [if_true, Fallible.bind_apply, h']
    rfl

end Provider

namespace Capability
open Provider

/-- The capabilities of one kind are asked in order, each in the state that the one before left. Those
of the other kind are passed over. -/
inductive AskedInOrder (kind? : Capability σ → Option (Provider σ ρ β)) (r : ρ) :
    List (Capability σ) → σ → List (Text × Contribution β) → σ → Prop
  | none (s : σ) : AskedInOrder kind? r [] s [] s
  | other {k : Capability σ} {ks : List (Capability σ)} {s t : σ}
    {told : List (Text × Contribution β)} (hk : kind? k = .none)
    (h : AskedInOrder kind? r ks s told t) : AskedInOrder kind? r (k :: ks) s told t
  | next {k : Capability σ} {ks : List (Capability σ)} {p : Provider σ ρ β} {s t t' : σ}
    {c : Contribution β} {told : List (Text × Contribution β)} (hk : kind? k = some p)
    (hp : p.Contributes r s c t) (h : AskedInOrder kind? r ks t told t') :
    AskedInOrder kind? r (k :: ks) s ((p.name, c) :: told) t'

variable {kind? : Capability σ → Option (Provider σ ρ β)} {r : ρ} {ks : List (Capability σ)}
  {s t : σ} {told : List (Text × Contribution β)}

theorem exists_askedInOrder (kind? : Capability σ → Option (Provider σ ρ β)) (r : ρ)
    (ks : List (Capability σ)) (s : σ) : ∃ told t, AskedInOrder kind? r ks s told t := by
  induction ks generalizing s with
  | nil => exact ⟨[], s, .none s⟩
  | cons k ks ih =>
    cases hk : kind? k with
    | none =>
      obtain ⟨told, t, h⟩ := ih s
      exact ⟨told, t, .other hk h⟩
    | some p =>
      obtain ⟨c, t, hp⟩ := p.exists_contributes r s
      obtain ⟨told, t', h⟩ := ih t
      exact ⟨(p.name, c) :: told, t', .next hk hp h⟩

theorem AskedInOrder.gather_eq (h : AskedInOrder kind? r ks s told t) (what : Text)
    (items : β → List α) :
    Provider.gather what items r (ks.filterMap kind?) s =
      ((told.flatMap fun c => c.2.items items, told.filterMap fun c => c.2.logged? what c.1), t) := by
  induction h with
  | none s => rfl
  | other hk h ih => rw [List.filterMap_cons_none hk, ih]
  | @next k ks p s t t' c told hk hp h ih =>
    rw [List.filterMap_cons_some hk, Provider.gather, ask_apply items hp]
    simp only [ih]
    cases c <;> rfl

end Capability

namespace Capabilities
open Capability

/-- Of a list of capabilities under keys, each key counts once, at its first place and with its last
capability. A completion request gets the items of all completion capabilities that accept it and do not
fail, in this order and always as a complete list, and one error is logged for each that fails; those for
code actions have no part in it. With code action requests it is the other way round. -/
theorem complete_and_codeActions_aggregate (entries : List (Text × Capability σ))
    (registered : Bool) (s : σ) :
    let m : Capabilities σ := ⟨.ofList entries, registered⟩
    m.capabilities.Keeps entries ∧
      (∀ r, (∃ told t, AskedInOrder completion? r m.capabilities.values s told t) ∧
        ∀ told t, AskedInOrder completion? r m.capabilities.values s told t →
          m.complete r s =
            ((⟨false, told.flatMap fun c => c.2.items CompletionList.items⟩,
              told.filterMap fun c => c.2.logged? "Completion".toList c.1), t)) ∧
      ∀ r, (∃ told t, AskedInOrder codeAction? r m.capabilities.values s told t) ∧
        ∀ told t, AskedInOrder codeAction? r m.capabilities.values s told t →
          m.codeActions r s =
            ((told.flatMap fun c => c.2.items id,
              told.filterMap fun c => c.2.logged? "Code action".toList c.1), t) := by
  intro m
  refine ⟨Table.keeps_ofList entries, fun r => ⟨exists_askedInOrder _ r _ s, fun told t h => ?_⟩,
    fun r => ⟨exists_askedInOrder _ r _ s, fun told t h => ?_⟩⟩
  · rw [complete, h.gather_eq]
  · rw [codeActions, h.gather_eq]

/-- A capability that fails takes the place of one that answered, and another fails for a request that
is not its own. -/
theorem complete_and_codeActions_aggregate_failing :
    let giving : Provider Unit CompletionRequest CompletionList :=
      ⟨['g'], fun _ => pure true, fun _ => pure ⟨true, [.keyword ['x']]⟩⟩
    let failing : Provider Unit CompletionRequest CompletionList :=
      ⟨['f'], fun _ => pure true, fun _ => throw .noWorkspace⟩
    let fixing : Provider Unit CodeActionRequest (List CodeAction) :=
      ⟨['a'], fun _ => throw .noWorkspace, fun _ => pure []⟩
    let entries : List (Text × Capability Unit) :=
      [(['1'], .completion giving), (['2'], .codeAction fixing), (['3'], .completion giving),
        (['1'], .completion failing)]
    let m : Capabilities Unit := ⟨.ofList entries, false⟩
    let r : CompletionRequest := ⟨[], ⟨0, 0⟩⟩
    AskedInOrder completion? r m.capabilities.values ()
        [(['f'], .failure .noWorkspace), (['g'], .answer ⟨true, [.keyword ['x']]⟩)] () ∧
      m.complete r () =
        ((⟨false, [.keyword ['x']]⟩,
          [⟨.error, "Completion error in f: ".toList ++ Failure.noWorkspace.message⟩]), ()) := by
  intro giving failing fixing entries m r
  have hasked : AskedInOrder completion? r m.capabilities.values ()
      [(['f'], .failure .noWorkspace), (['g'], .answer ⟨true, [.keyword ['x']]⟩)] () :=
    .next (p := failing) rfl (.failsToAnswer rfl rfl)
      (.other rfl (.next (p := giving) rfl (.answers rfl rfl) (.none ())))
  obtain ⟨-, hcomplete, -⟩ := complete_and_codeActions_aggregate entries false ()
  exact ⟨hasked, (hcomplete r).2 _ _ hasked⟩

end Capabilities
end PragmaAssist
