import PragmaAssist.Table
import Mathlib.Data.List.Induction

/-! What a table makes of a list of entries. Its keys stand in the order of their first arrival, and
each has the value that came last. -/
namespace PragmaAssist
namespace Table
variable {κ α : Type} [DecidableEq κ] {k : κ} {v : α} {l : List (κ × α)}

def keys (t : Table κ α) : List κ := t.entries.map Prod.fst

/-- The table has the keys of the list, each at the place of its first arrival and with the last value
that the list has for it. -/
def Keeps (t : Table κ α) (l : List (κ × α)) : Prop :=
  t.entries.map (fun e => (e.1, some e.2)) =
    (l.map Prod.fst).eraseDups.map fun k => (k, lookup k l.reverse)

theorem keys_insert (t : Table κ α) (k : κ) (v : α) :
    (t.insert k v).keys = if k ∈ t.keys then t.keys else t.keys ++ [k] := by
  obtain ⟨l⟩ := t
  induction l with
  | nil => rfl
  | cons e r ih =>
    obtain ⟨a, w⟩ := e
    simp only [insert, keys, write, List.map_cons, List.mem_cons] at ih ⊢
    by_cases ha : a = k
    · simp [ha]
    · rw [if_neg ha, List.map_cons, ih]
      by_cases hr : k ∈ r.map Prod.fst
      · simp [hr]
      · simp [hr, Ne.symm ha]

theorem ofList_concat (l : List (κ × α)) (e : κ × α) :
    ofList (l ++ [e]) = (ofList l).insert e.1 e.2 := by
  rw [ofList, List.foldl_append]
  rfl

theorem keys_ofList (l : List (κ × α)) : (ofList l).keys = (l.map Prod.fst).eraseDups := by
  induction l using List.reverseRecOn with
  | nil => rfl
  | append_singleton l e ih =>
    rw [ofList_concat, keys_insert, ih, List.map_append, List.eraseDups_append]
    by_cases h : e.1 ∈ l.map Prod.fst
    · simp [h, List.removeAll]
    · simp [h, List.removeAll, List.eraseDups_cons]

theorem nodup_keys_ofList (l : List (κ × α)) : (ofList l).keys.Nodup := by
  induction l using List.reverseRecOn with
  | nil => exact List.nodup_nil
  | append_singleton l e ih =>
    rw [ofList_concat, keys_insert]
    split
    · exact ih
    · rename_i h
      refine List.nodup_append.2 ⟨ih, List.pairwise_singleton _ e.1, fun a ha b hb hab => h ?_⟩
      rwa [← List.mem_singleton.1 hb, ← hab]

theorem get?_ofList (l : List (κ × α)) (k : κ) : (ofList l).get? k = lookup k l.reverse := by
  induction l using List.reverseRecOn with
  | nil => rfl
  | append_singleton l e ih =>
    rw [ofList_concat, List.reverse_concat, lookup]
    by_cases h : e.1 = k
    · rw [if_pos h, h, get?_insert_self]
    · rw [if_neg h, get?_insert_of_ne _ _ (Ne.symm h), ih]

theorem lookup_of_mem (hl : (l.map Prod.fst).Nodup) (h : (k, v) ∈ l) : lookup k l = some v := by
  induction l with
  | nil => cases h
  | cons e r ih =>
    obtain ⟨he, hr⟩ := List.nodup_cons.1 hl
    rcases List.mem_cons.1 h with rfl | h
    · exact if_pos rfl
    · have hne : e.1 ≠ k := fun hk => he (hk ▸ List.mem_map_of_mem (f := Prod.fst) h)
      exact (if_neg hne).trans (ih hr h)

theorem keeps_ofList (l : List (κ × α)) : (ofList l).Keeps l := by
  have hvalue (e : κ × α) (he : e ∈ (ofList l).entries) : some e.2 = lookup e.1 l.reverse := by
    rw [← get?_ofList]
    exact (lookup_of_mem (nodup_keys_ofList l) he).symm
  rw [Keeps, ← keys_ofList, keys, List.map_map]
  exact List.map_congr_left fun e he => by rw [hvalue e he]; rfl

end Table
end PragmaAssist
