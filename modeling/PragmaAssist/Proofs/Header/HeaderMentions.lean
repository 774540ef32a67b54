import PragmaAssist.Proofs.Header.DefaultExtensions
import PragmaAssist.Proofs.Header.LastMention
import Mathlib.Data.List.Forall2

/-! What the mentions of a header come to. Its extension pragmas list names, each name switches an
extension on or off, and the last mention of an extension counts: none is both on and off. -/
namespace PragmaAssist
namespace Text

/-- `u` stands in front of the first place where the mark starts. -/
def IsBefore (t mark u : Text) : Prop :=
  u ++ mark <+: t ∧ ∀ v, v ++ mark <+: t → u.length ≤ v.length

theorem isBefore_cons_iff {c : Char} {t mark u : Text} (h : ¬ mark <+: c :: t) :
    IsBefore (c :: t) mark u ↔ ∃ v, IsBefore t mark v ∧ u = c :: v := by
  -- A mark that does not start at the first character starts behind it.
  have hbehind {v : Text} (hv : v ++ mark <+: c :: t) : ∃ w, v = c :: w ∧ w ++ mark <+: t := by
    cases v with
    | nil => exact absurd hv h
    | cons d w =>
      obtain ⟨rfl, hw⟩ := List.cons_prefix_cons.1 hv
      exact ⟨w, rfl, hw⟩
  constructor
  · rintro ⟨hu, hfirst⟩
    obtain ⟨v, rfl, hv⟩ := hbehind hu
    refine ⟨v, ⟨hv, fun w hw => ?_⟩, rfl⟩
    exact Nat.le_of_succ_le_succ (hfirst (c :: w) (List.cons_prefix_cons.2 ⟨rfl, hw⟩))
  · rintro ⟨v, ⟨hv, hfirst⟩, rfl⟩
    refine ⟨List.cons_prefix_cons.2 ⟨rfl, hv⟩, fun w hw => ?_⟩
    obtain ⟨x, rfl, hx⟩ := hbehind hw
    exact Nat.succ_le_succ (hfirst x hx)

theorem before?_eq_some_iff {t mark u : Text} : t.before? mark = some u ↔ t.IsBefore mark u := by
  induction t generalizing u with
  | nil => cases mark <;> cases u <;> simp [before?, IsBefore]
  | cons c t ih =>
    rw [before?]
    split
    · rename_i hstart
      have hmark : mark <+: c :: t := List.isPrefixOf_iff_prefix.1 hstart
      constructor
      · rintro ⟨⟩
        exact ⟨hmark, fun v _ => Nat.zero_le _⟩
      · intro h
        have hlength : u.length ≤ 0 := h.2 [] hmark
        rw [List.eq_nil_of_length_eq_zero (Nat.le_zero.1 hlength)]
    · rename_i hstart
      rw [isBefore_cons_iff (mt List.isPrefixOf_iff_prefix.2 hstart)]
      simp only [Option.map_eq_some_iff, ih, @eq_comm _ u]

end Text

namespace Header

/-- The text starts with an extension pragma. `body` stands between its keyword, where a word has to
end, and its first closer; what stands behind the closer does not count. -/
def IsExtensionPragma (p body : Text) : Prop :=
  ∃ gap rest : Text, gap.Blank ∧
    p = Pragma.opener ++ (gap ++ (PragmaKind.language.name ++ rest)) ∧
    rest.atWordEnd = true ∧ rest.IsBefore Pragma.closer body

def namesIn (body : Text) : List Text := ((body.splitOn ',').map Text.trim).filter (· ≠ [])

inductive Lists : (pragmas names : List Text) → Prop
  | nil : Lists [] []
  | extensions {p body : Text} {ps names : List Text} (h : IsExtensionPragma p body)
      (below : Lists ps names) : Lists (p :: ps) (namesIn body ++ names)
  | other {p : Text} {ps names : List Text} (h : ∀ body, ¬ IsExtensionPragma p body)
      (below : Lists ps names) : Lists (p :: ps) names

theorem languageBody?_eq_some_iff {p body : Text} :
    languageBody? p = some body ↔ IsExtensionPragma p body := by
  have hkeyword {r rest : Text} : r.trimStart.after? PragmaKind.language.name = some rest ↔
      ∃ gap : Text, gap.Blank ∧ r = gap ++ (PragmaKind.language.name ++ rest) :=
    Text.after?_eq_some_iff.trans (Text.trimStart_eq_append_iff (by decide) (by decide))
  simp only [languageBody?, Option.bind_eq_bind, Option.bind_eq_some_iff, Text.after?_eq_some_iff,
    hkeyword, Option.ite_none_right_eq_some, Text.before?_eq_some_iff]
  constructor
  · rintro ⟨_, rfl, rest, ⟨gap, hgap, rfl⟩, hword, hbody⟩
    exact ⟨gap, rest, hgap, rfl, hword, hbody⟩
  · rintro ⟨gap, rest, hgap, rfl, hword, hbody⟩
    exact ⟨_, rfl, rest, ⟨gap, hgap, rfl⟩, hword, hbody⟩

theorem languageNames_eq {p body : Text} (h : IsExtensionPragma p body) :
    languageNames p = namesIn body := by
  rw [languageNames, languageBody?_eq_some_iff.2 h, namesIn, ← Text.pieces_eq_splitOn]
  exact List.filter_congr fun x _ => by cases x <;> rfl

theorem languageNames_eq_nil {p : Text} (h : ∀ body, ¬ IsExtensionPragma p body) :
    languageNames p = [] := by
  rw [languageNames, Option.eq_none_iff_forall_ne_some.2 fun body hbody =>
    h body (languageBody?_eq_some_iff.1 hbody)]

theorem lists_iff {pragmas names : List Text} :
    Lists pragmas names ↔ names = pragmas.flatMap languageNames := by
  constructor
  · intro h
    induction h with
    | nil => rfl
    | extensions h below ih => rw [List.flatMap_cons, languageNames_eq h, ih]
    | other h below ih => rw [List.flatMap_cons, languageNames_eq_nil h, ih, List.nil_append]
  · rintro rfl
    induction pragmas with
    | nil => exact .nil
    | cons p ps ih =>
      rw [List.flatMap_cons]
      by_cases h : ∃ body, IsExtensionPragma p body
      · obtain ⟨body, h⟩ := h
        rw [languageNames_eq h]
        exact .extensions h ih
      · have hnone : ∀ body, ¬ IsExtensionPragma p body := not_exists.1 h
        rw [languageNames_eq_nil hnone]
        exact .other hnone ih

end Header

namespace Mention
variable {known : List Text}

/-- What a name says: the negation of a known extension switches it off, any other name is on. -/
def Means (known : List Text) (t : Text) : Mention → Prop
  | on x => x = t ∧ ¬ Negates known t
  | off y => t ∉ known ∧ y ∈ known ∧ t = Catalog.negate y

theorem means_iff (hknown : [] ∉ known) {t : Text} {m : Mention} :
    Means known t m ↔ m = ofName known t := by
  by_cases h : Negates known t
  · obtain ⟨ht, y, hy, rfl⟩ := id h
    rw [ofName_negate hy ht]
    cases m with
    | on x => simp [Means, h]
    | off z =>
      simp only [Means, Catalog.negate, List.append_cancel_left_eq, off.injEq]
      constructor
      · rintro ⟨-, -, rfl⟩
        rfl
      · rintro rfl
        exact ⟨ht, hy, rfl⟩
  · rw [ofName_of_not_negates hknown h]
    cases m with
    | on x => simp [Means, h]
    | off z =>
      simp only [Means, reduceCtorEq, iff_false]
      rintro ⟨ht, hz, hname⟩
      exact h ⟨ht, z, hz, hname⟩

end Mention

namespace Flags
open Mention
variable {known : List Text} {c x : Text} {pragmas : List Text}

theorem isLast_iff {m : Mention} {ms : List Mention} :
    m.IsLast ms ↔ lastMention? m.name ms = some m := by
  rw [lastMention?_eq_some_iff, eq_self, true_and]

theorem mem_foldl_apply_iff (ms : List Mention) (defaults : NameSet) (x : Text) :
    let f := ms.foldl apply (start defaults)
    (x ∈ f.enabled ↔ (on x).IsLast ms ∨ (∀ m ∈ ms, m.name ≠ x) ∧ x ∈ defaults) ∧
      (x ∈ f.disabled ↔ (off x).IsLast ms) := by
  intro f
  have hstanding : f.standing x = _ := standing_foldl ms (start defaults) x
  rw [isLast_iff, isLast_iff, ← lastMention?_eq_none]
  simp only [name]
  cases hlast : lastMention? x ms with
  | none =>
    rw [hlast, Option.elim_none, standing_eq] at hstanding
    simpa [start] using hstanding
  | some m =>
    obtain ⟨-, rfl⟩ := lastMention?_mem hlast
    rw [hlast, Option.elim_some] at hstanding
    cases m with
    | on y => simpa [name] using standing_eq_on.1 hstanding
    | off y => simpa [name] using standing_eq_off.1 hstanding

theorem exists_mention_iff {ms : List Mention} :
    (∃ m ∈ ms, m.name = x) ↔ (on x).IsLast ms ∨ (off x).IsLast ms := by
  rw [isLast_iff, isLast_iff]
  constructor
  · rintro ⟨n, hn, hname⟩
    cases hlast : lastMention? x ms with
    | none => exact absurd hname (lastMention?_eq_none.1 hlast n hn)
    | some m =>
      obtain ⟨-, rfl⟩ := lastMention?_mem hlast
      cases m with
      | on y => exact .inl hlast
      | off y => exact .inr hlast
  · rintro (hlast | hlast)
    · exact ⟨_, lastMention?_mem hlast⟩
    · exact ⟨_, lastMention?_mem hlast⟩

/-- The last mention of an extension counts, and without one its default. -/
theorem parse?_last_mention (hknown : [] ∉ known) (hc : Header.pragmas c.lines = .ok pragmas)
    (defaults : NameSet) :
    ∃ f names ms, parse? c known defaults = some f ∧ Header.Lists pragmas names ∧
      List.Forall₂ (Means known) names ms ∧ ∀ x,
        (x ∈ f.enabled ↔ (on x).IsLast ms ∨ (∀ m ∈ ms, m.name ≠ x) ∧ x ∈ defaults) ∧
        (x ∈ f.disabled ↔ (off x).IsLast ms) ∧ ¬ (x ∈ f.enabled ∧ x ∈ f.disabled) ∧
        (x ∈ f.enabled ∨ x ∈ f.disabled ↔ x ∈ defaults ∨ ∃ m ∈ ms, m.name = x) := by
  let ms := mentions known pragmas
  have hparse : parse? c known defaults = some (ms.foldl apply (start defaults)) := by
    rw [parse?, hc]
  have hmeans : List.Forall₂ (Means known) (pragmas.flatMap Header.languageNames) ms := by
    simp only [ms, mentions, List.forall₂_map_right_iff, List.forall₂_same]
    exact fun t _ => (means_iff hknown).2 rfl
  refine ⟨_, _, ms, hparse, Header.lists_iff.2 rfl, hmeans, fun x => ?_⟩
  obtain ⟨henabled, hdisabled⟩ := mem_foldl_apply_iff ms defaults x
  have hmentioned : (∃ m ∈ ms, m.name = x) ↔ _ := exists_mention_iff
  have hnever : (∀ m ∈ ms, m.name ≠ x) ↔ ¬ ((on x).IsLast ms ∨ (off x).IsLast ms) := by
    rw [← hmentioned]
    simp
  have hone : (on x).IsLast ms → ¬ (off x).IsLast ms := by
    rw [isLast_iff, isLast_iff]
    exact fun hon hoff => Mention.noConfusion (Option.some.inj (hon.symm.trans hoff))
  refine ⟨henabled, hdisabled, ?_, ?_⟩
  · rw [henabled, hdisabled, hnever]
    rintro ⟨hon | ⟨hnone, -⟩, hoff⟩
    · exact hone hon hoff
    · exact hnone (.inr hoff)
  · rw [henabled, hdisabled, hmentioned, hnever]
    by_cases hlast : (on x).IsLast ms ∨ (off x).IsLast ms
    · simp [hlast]
    · simp [not_or.1 hlast]

theorem parse?_last_mention_defaults :
    let known := ["A".toList, "NoA".toList, "B".toList]
    let defaults := NameSet.ofList ["A".toList, "B".toList]
    let c : Text := "\x7b-# LANGUAGE NoA, B,,\r\n  NoB #-\x7d C\n\x7b-# OPTIONS_GHC #-\x7d\n".toList
    let pragmas := ["{-# LANGUAGE NoA, B,, NoB #-} C".toList, "{-# OPTIONS_GHC #-}".toList]
    [] ∉ known ∧ Header.pragmas c.lines = .ok pragmas ∧
      parse? c known defaults = some ⟨.ofList ["A".toList, "NoA".toList], .ofList ["B".toList]⟩ ∧
      ∃ names ms, Header.Lists pragmas names ∧ List.Forall₂ (Means known) names ms ∧
        (on "NoA".toList).IsLast ms ∧ (off "B".toList).IsLast ms := by
  intro known defaults c pragmas
  have hknown : [] ∉ known := by decide
  have hpragmas : Header.pragmas c.lines = .ok pragmas := by decide +kernel
  have hparse : parse? c known defaults =
      some ⟨.ofList ["A".toList, "NoA".toList], .ofList ["B".toList]⟩ := by decide +kernel
  obtain ⟨f, names, ms, hf, hlists, hmeans, hlaw⟩ := parse?_last_mention hknown hpragmas defaults
  obtain rfl := Option.some.inj (hparse.symm.trans hf)
  have hon := (hlaw "NoA".toList).1.1 (by decide)
  have hoff := (hlaw "B".toList).2.1.1 (by decide)
  exact ⟨hknown, hpragmas, hparse, names, ms, hlists, hmeans,
    hon.resolve_right fun h => absurd h.2 (by decide), hoff⟩

end Flags
end PragmaAssist
