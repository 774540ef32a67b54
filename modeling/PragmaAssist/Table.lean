/-! Tables that keep their keys in the order of first arrival: a key written again keeps its
place and takes the new value. -/
namespace PragmaAssist

structure Table (κ α : Type) where
  entries : List (κ × α)
  deriving DecidableEq

namespace Table
variable {κ α : Type} [DecidableEq κ]

def empty : Table κ α := ⟨[]⟩

instance : Inhabited (Table κ α) := ⟨⟨[]⟩⟩

def lookup (k : κ) : List (κ × α) → Option α
  | [] => none
  | (a, v) :: r => if a = k then some v else lookup k r

def write (k : κ) (v : α) : List (κ × α) → List (κ × α)
  | [] => [(k, v)]
  | (a, w) :: r => if a = k then (a, v) :: r else (a, w) :: write k v r

def get? (t : Table κ α) (k : κ) : Option α := lookup k t.entries

def insert (t : Table κ α) (k : κ) (v : α) : Table κ α := ⟨write k v t.entries⟩

def erase (t : Table κ α) (k : κ) : Table κ α := ⟨t.entries.filter fun e => e.1 ≠ k⟩

/-- The later value of a repeated key counts. -/
def ofList (l : List (κ × α)) : Table κ α := l.foldl (fun t e => t.insert e.1 e.2) empty

def values (t : Table κ α) : List α := t.entries.map (·.2)

@[simp] theorem get?_empty (k : κ) : (empty : Table κ α).get? k = none := rfl

@[simp] theorem get?_insert_self (t : Table κ α) (k : κ) (v : α) :
    (t.insert k v).get? k = some v := by
  obtain ⟨l⟩ := t
  induction l with
  | nil => simp [insert, get?, write, lookup]
  | cons e r ih =>
    by_cases h : e.1 = k <;> simp_all [insert, get?, write, lookup]

theorem get?_insert_of_ne (t : Table κ α) {k j : κ} (v : α) (h : j ≠ k) :
    (t.insert k v).get? j = t.get? j := by
  obtain ⟨l⟩ := t
  induction l with
  | nil => simp [insert, get?, write, lookup, Ne.symm h]
  | cons e r ih =>
    by_cases hk : e.1 = k
    · simp_all [insert, get?, write, lookup, Ne.symm h]
    · by_cases hj : e.1 = j <;> simp_all [insert, get?, write, lookup]

@[simp] theorem get?_erase_self (t : Table κ α) (k : κ) : (t.erase k).get? k = none := by
  obtain ⟨l⟩ := t
  induction l with
  | nil => rfl
  | cons e r ih =>
    by_cases h : e.1 = k <;> simp_all [erase, get?, lookup]

theorem get?_erase_of_ne (t : Table κ α) {k j : κ} (h : j ≠ k) :
    (t.erase k).get? j = t.get? j := by
  obtain ⟨l⟩ := t
  induction l with
  | nil => rfl
  | cons e r ih =>
    by_cases hk : e.1 = k
    · simp_all [erase, get?, lookup, Ne.symm h]
    · by_cases hj : e.1 = j <;> simp_all [erase, get?, lookup]

end Table
end PragmaAssist
