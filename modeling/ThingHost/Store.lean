import ThingHost.Value.Basic

/-! The values of a Thing's properties: the last one written to each. -/

namespace ThingHost

/-- One value per property at most; `ι` tells properties apart. -/
structure Store (ι : Type) where
  entries : List (ι × Value)

namespace Store

variable {ι : Type} [DecidableEq ι]

def empty : Store ι := ⟨[]⟩

def get? (s : Store ι) (i : ι) : Option Value := (s.entries.find? (·.1 = i)).map (·.2)

/-- The value of a property, undefined if it has none. -/
def get (s : Store ι) (i : ι) : Value := (s.get? i).getD .undefined

/-- Forgets the value of a property. -/
def erase (s : Store ι) (i : ι) : Store ι := ⟨s.entries.filter (·.1 ≠ i)⟩

def set (s : Store ι) (i : ι) (v : Value) : Store ι := ⟨(i, v) :: (s.erase i).entries⟩

theorem get?_of_absent {s : Store ι} {i : ι} (h : ∀ e ∈ s.entries, e.1 ≠ i) : s.get? i = none := by
  have hnone : s.entries.find? (·.1 = i) = none := by
    rw [List.find?_eq_none]
    intro e he
    simpa using h e he
  rw [get?, hnone]
  rfl

theorem get?_erase {s : Store ι} {i j : ι} (h : j ≠ i) : (s.erase i).get? j = s.get? j := by
  have hfind : (s.entries.filter (·.1 ≠ i)).find? (·.1 = j) = s.entries.find? (·.1 = j) := by
    rw [List.find?_filter]
    congr 1
    funext e
    by_cases he : e.1 = j
    · simp [he, h]
    · simp [he]
  rw [get?, erase, hfind]
  rfl

theorem get_set_self (s : Store ι) (i : ι) (v : Value) : (s.set i v).get i = v := by
  simp [set, get, get?]

theorem get_set_ne {s : Store ι} {i j : ι} (h : j ≠ i) (v : Value) : (s.set i v).get j = s.get j := by
  have hget : (s.set i v).get? j = (s.erase i).get? j := by simp [set, get?, Ne.symm h]
  rw [get, hget, get?_erase h]
  rfl

end Store
end ThingHost
