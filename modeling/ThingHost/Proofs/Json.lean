import Mathlib.Data.List.Basic
import ThingHost.Json.Writer

/-! The text of an object, member by member. -/

namespace ThingHost

namespace Json

/-- The text of a member of an object. -/
def member (key : String) (v : Value) : List Char := quote key ++ ':' :: chars v

theorem member_ne_nil (key : String) (v : Value) : member key v ≠ [] := by simp [member]

/-- The members of an object are those that are not undefined, one after another. -/
theorem memberChars_eq (members : Fields) : memberChars members =
    List.intercalate [','] ((members.filter fun m => !m.2.isUndefined).map fun m => member m.1 m.2) := by
  induction members with
  | nil => rfl
  | cons m rest ih =>
    obtain ⟨key, v⟩ := m
    cases hv : v.isUndefined with
    | true =>
      simp only [memberChars, hv, ↓reduceIte, List.filter_cons, Bool.not_true, Bool.false_eq_true]
      exact ih
    | false =>
      simp only [memberChars, hv, Bool.false_eq_true, ↓reduceIte, List.filter_cons, Bool.not_false, List.map_cons]
      generalize hparts : (rest.filter fun m => !m.2.isUndefined).map (fun m => member m.1 m.2) = parts at ih ⊢
      rcases parts with _ | ⟨next, more⟩
      · rw [ih]
        simp [List.intercalate, member]
      · have hnext : next ≠ [] := by
          have hmem : next ∈ (rest.filter fun m => !m.2.isUndefined).map fun m => member m.1 m.2 := by simp [hparts]
          obtain ⟨m, -, rfl⟩ := List.mem_map.mp hmem
          exact member_ne_nil m.1 m.2
        have hne : memberChars rest ≠ [] := by
          rw [ih]
          cases more <;> simp [List.intercalate, hnext]
        rcases hm : memberChars rest with _ | ⟨c, cs⟩
        · exact absurd hm hne
        · rw [hm] at ih
          simp [ih, member, List.intercalate]

/-- The text of an object whose members have the given texts. -/
def braced (members : List (List Char)) : List Char := '{' :: (List.intercalate [','] members ++ ['}'])

/-- An object without undefined members has the text of each. -/
theorem chars_object {members : Fields} (h : ∀ m ∈ members, m.2.isUndefined = false) :
    chars (.object members) = braced (members.map fun m => member m.1 m.2) := by
  have hall : members.filter (fun m => !m.2.isUndefined) = members :=
    List.filter_eq_self.mpr fun m hm => by simp [h m hm]
  rw [chars, memberChars_eq, hall, braced]

end Json

end ThingHost
