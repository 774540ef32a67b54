import PragmaAssist.Header.Flags

/-! What the mentions of a header make of one name. The last mention of the name counts, and a name
that is not mentioned is left as it was. -/
namespace PragmaAssist
namespace Mention

def name : Mention → Text
  | on x => x
  | off x => x

def isOn : Mention → Bool
  | on _ => true
  | off _ => false

def IsLast (m : Mention) (ms : List Mention) : Prop :=
  ∃ above below, ms = above ++ m :: below ∧ ∀ n ∈ below, n.name ≠ m.name

end Mention

namespace Flags

def lastMention? (x : Text) : List Mention → Option Mention
  | [] => none
  | m :: r => (lastMention? x r).or (if m.name = x then some m else none)

theorem lastMention?_append (x : Text) (a b : List Mention) :
    lastMention? x (a ++ b) = (lastMention? x b).or (lastMention? x a) := by
  induction a with
  | nil => simp [lastMention?]
  | cons m a ih => rw [List.cons_append, lastMention?, lastMention?, ih, Option.or_assoc]

theorem lastMention?_mem {x : Text} {ms : List Mention} {m : Mention}
    (h : lastMention? x ms = some m) : m ∈ ms ∧ m.name = x := by
  induction ms with
  | nil => simp [lastMention?] at h
  | cons n r ih =>
    rw [lastMention?, Option.or_eq_some_iff] at h
    rcases h with h | ⟨-, h⟩
    · obtain ⟨hm, hx⟩ := ih h
      exact ⟨List.mem_cons_of_mem n hm, hx⟩
    · obtain ⟨hx, rfl⟩ := by simpa using h
      exact ⟨List.mem_cons_self, hx⟩

theorem lastMention?_eq_none {x : Text} {ms : List Mention} :
    lastMention? x ms = none ↔ ∀ m ∈ ms, m.name ≠ x := by
  induction ms with
  | nil => simp [lastMention?]
  | cons m r ih => simp [lastMention?, ih, and_comm]

theorem lastMention?_eq_some_iff {x : Text} {m : Mention} {ms : List Mention} :
    lastMention? x ms = some m ↔ m.name = x ∧ m.IsLast ms := by
  constructor
  · intro h
    induction ms with
    | nil => simp [lastMention?] at h
    | cons n ms ih =>
      rw [lastMention?, Option.or_eq_some_iff] at h
      rcases h with h | ⟨hnone, hhead⟩
      · obtain ⟨hname, above, below, rfl, hbelow⟩ := ih h
        exact ⟨hname, n :: above, below, rfl, hbelow⟩
      · obtain ⟨rfl, rfl⟩ := by simpa using hhead
        exact ⟨rfl, [], ms, rfl, lastMention?_eq_none.1 hnone⟩
  · rintro ⟨rfl, above, below, rfl, hbelow⟩
    rw [lastMention?_append, lastMention?, lastMention?_eq_none.2 hbelow, if_pos rfl]
    rfl

/-- Whether a name is switched on, and whether it is switched off. -/
def standing (f : Flags) (x : Text) : Bool × Bool := (x ∈ f.enabled, x ∈ f.disabled)

theorem standing_eq {f g : Flags} {x : Text} :
    f.standing x = g.standing x ↔
      (x ∈ f.enabled ↔ x ∈ g.enabled) ∧ (x ∈ f.disabled ↔ x ∈ g.disabled) := by
  simp [standing]

theorem standing_eq_on {f : Flags} {x : Text} :
    f.standing x = (true, false) ↔ x ∈ f.enabled ∧ x ∉ f.disabled := by
  simp [standing]

theorem standing_eq_off {f : Flags} {x : Text} :
    f.standing x = (false, true) ↔ x ∉ f.enabled ∧ x ∈ f.disabled := by
  simp [standing]

theorem standing_apply (f : Flags) (m : Mention) (x : Text) :
    (m.apply f).standing x = if m.name = x then (m.isOn, !m.isOn) else f.standing x := by
  cases m with
  | on y =>
    by_cases h : y = x
    · simp [standing, Mention.apply, Mention.name, Mention.isOn, h]
    · have h' : x ≠ y := fun e => h e.symm
      simp [standing, Mention.apply, Mention.name, h, h']
  | off y =>
    by_cases h : y = x
    · simp [standing, Mention.apply, Mention.name, Mention.isOn, h]
    · have h' : x ≠ y := fun e => h e.symm
      simp [standing, Mention.apply, Mention.name, h, h']

theorem standing_foldl (ms : List Mention) (f : Flags) (x : Text) :
    (ms.foldl Mention.apply f).standing x =
      (lastMention? x ms).elim (f.standing x) fun m => (m.isOn, !m.isOn) := by
  induction ms generalizing f with
  | nil => rfl
  | cons m r ih =>
    rw [List.foldl_cons, ih, lastMention?]
    cases lastMention? x r with
    | some n => rfl
    | none =>
      rw [Option.elim_none, standing_apply, Option.none_or]
      by_cases h : m.name = x
      · rw [if_pos h, if_pos h, Option.elim_some]
      · rw [if_neg h, if_neg h, Option.elim_none]

theorem eq_of_standing {f g : Flags} (h : ∀ x, f.standing x = g.standing x) : f = g := by
  obtain ⟨fe, fd⟩ := f
  obtain ⟨ge, gd⟩ := g
  have henabled : fe = ge := NameSet.ext fun x => (standing_eq.1 (h x)).1
  have hdisabled : fd = gd := NameSet.ext fun x => (standing_eq.1 (h x)).2
  rw [henabled, hdisabled]

/-- A mention above others does nothing if its name is mentioned again, or stands that way already. -/
theorem foldl_apply_eq_iff (m : Mention) (ms : List Mention) (f : Flags) :
    ms.foldl Mention.apply (m.apply f) = ms.foldl Mention.apply f ↔
      (∃ n ∈ ms, n.name = m.name) ∨ f.standing m.name = (m.isOn, !m.isOn) := by
  constructor
  · intro h
    cases hlast : lastMention? m.name ms with
    | some n => exact .inl ⟨n, lastMention?_mem hlast⟩
    | none =>
      have hstanding := congrArg (·.standing m.name) h
      simp only [standing_foldl, hlast, Option.elim_none, standing_apply, if_true] at hstanding
      exact .inr hstanding.symm
  · intro h
    refine eq_of_standing fun x => ?_
    rw [standing_foldl, standing_foldl]
    cases hlast : lastMention? x ms with
    | some n => rfl
    | none =>
      rw [Option.elim_none, Option.elim_none, standing_apply]
      split
      · rename_i hname
        subst hname
        rcases h with ⟨n, hn, hname⟩ | h
        · exact absurd hname (lastMention?_eq_none.1 hlast n hn)
        · exact h.symm
      · rfl

theorem standing_insert_of_ne (above below : List Mention) {m : Mention} {y : Text}
    (h : m.name ≠ y) (f : Flags) :
    ((above ++ m :: below).foldl Mention.apply f).standing y =
      ((above ++ below).foldl Mention.apply f).standing y := by
  have hm : lastMention? y (m :: below) = lastMention? y below := by
    rw [lastMention?, if_neg h, Option.or_none]
  rw [standing_foldl, standing_foldl, lastMention?_append, lastMention?_append, hm]

/-- A name that is not on is switched on by one more mention, unless it is switched off below. -/
theorem standing_insert_on {above below : List Mention} {x : Text} {f : Flags}
    (hx : x ∉ ((above ++ below).foldl Mention.apply f).enabled) :
    ((above ++ .on x :: below).foldl Mention.apply f).standing x =
      if .off x ∈ below then (false, true) else (true, false) := by
  have hname : (Mention.on x).name = x := rfl
  rw [standing_foldl, lastMention?_append, lastMention?, if_pos hname]
  cases hb : lastMention? x below with
  | none =>
    have hoff : .off x ∉ below := fun h => lastMention?_eq_none.1 hb _ h rfl
    rw [if_neg hoff]
    rfl
  | some m =>
    obtain ⟨hm, hname⟩ := lastMention?_mem hb
    cases m with
    | on y =>
      -- The name would be on already.
      have hon : x ∈ ((above ++ below).foldl Mention.apply f).enabled := by
        have h := standing_foldl (above ++ below) f x
        rw [lastMention?_append, hb, Option.some_or, Option.elim_some] at h
        simpa only [standing, Mention.isOn, decide_eq_true_eq] using congrArg Prod.fst h
      exact absurd hon hx
    | off y =>
      obtain rfl : y = x := hname
      rw [if_pos hm]
      rfl

end Flags
end PragmaAssist
