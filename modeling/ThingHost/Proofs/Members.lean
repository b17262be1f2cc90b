import Mathlib.Data.List.Nodup
import ThingHost.Value.Members

/-! Which members an object has: by their keys, and one by one. -/

namespace ThingHost.Members

variable {α : Type} {key : String} {members : List (String × α)}

theorem has_iff {key : String} {members : List (String × α)} : has key members = true ↔ key ∈ keys members := by
  unfold has keys
  induction members with
  | nil => simp [get?]
  | cons m rest ih =>
    obtain ⟨k, v⟩ := m
    by_cases hk : k = key
    · simp [get?, hk]
    · simpa [get?, hk, Ne.symm hk] using ih

theorem insert_perm (key : String) (value : α) (members : List (String × α)) :
    (insert key value members).Perm ((key, value) :: members) := by
  induction members with
  | nil => exact .refl _
  | cons m rest ih =>
    obtain ⟨k, v⟩ := m
    simp only [insert]
    split
    · exact .refl _
    · exact (ih.cons (k, v)).trans (.swap ..)

theorem insert_keys (key : String) (value : α) (members : List (String × α)) :
    (keys (insert key value members)).Perm (key :: keys members) :=
  (insert_perm key value members).map _

theorem putAll_perm {members new : List (String × α)} (h : (keys members ++ keys new).Nodup) :
    (putAll members new).Perm (members ++ new) := by
  induction new generalizing members with
  | nil => simp [putAll]
  | cons m rest ih =>
    obtain ⟨k, v⟩ := m
    have hfresh : has k members = false := by
      rw [Bool.eq_false_iff]
      intro hhas
      exact (List.nodup_append.mp h).2.2 k (has_iff.mp hhas) k (by simp [keys]) rfl
    have hput : put k v members = insert k v members := by simp [put, hfresh]
    have hperm : (insert k v members ++ rest).Perm (members ++ (k, v) :: rest) :=
      ((insert_perm k v members).append_right _).trans List.perm_middle.symm
    have hkeys : (keys (insert k v members) ++ keys rest).Perm (keys members ++ keys ((k, v) :: rest)) := by
      simpa [keys] using hperm.map (·.1)
    have hrest := ih (hkeys.nodup_iff.mpr h)
    show (putAll (put k v members) rest).Perm _
    rw [hput]
    exact hrest.trans hperm

/-- An object made of members under distinct keys is made of these and no others. -/
theorem ofList_perm {members : List (String × α)} (h : (keys members).Nodup) : (ofList members).Perm members := by
  have hall : (putAll [] members).Perm ([] ++ members) := putAll_perm h
  exact hall

theorem ofList_keys {members : List (String × α)} (h : (keys members).Nodup) :
    (keys (ofList members)).Perm (keys members) :=
  (ofList_perm h).map _

theorem replace_keys (key : String) (value : α) (members : List (String × α)) :
    keys (replace key value members) = keys members := by
  induction members with
  | nil => rfl
  | cons m rest ih =>
    obtain ⟨k, v⟩ := m
    simp only [replace]
    split
    · rfl
    · exact congrArg (k :: ·) ih

theorem nodup_put {members : List (String × α)} (h : (keys members).Nodup) (key : String) (value : α) :
    (keys (put key value members)).Nodup := by
  unfold put
  cases hhas : has key members with
  | true =>
    rw [if_pos rfl, replace_keys]
    exact h
  | false =>
    rw [if_neg Bool.false_ne_true, (insert_keys key value members).nodup_iff]
    refine List.nodup_cons.mpr ⟨fun hin => ?_, h⟩
    rw [has_iff.mpr hin] at hhas
    cases hhas

/-- Whatever is put, no key is there twice. -/
theorem nodup_putAll {members : List (String × α)} (h : (keys members).Nodup) (new : List (String × α)) :
    (keys (putAll members new)).Nodup := by
  induction new generalizing members with
  | nil => exact h
  | cons m rest ih => exact ih (nodup_put h m.1 m.2)

/-! ### Members one by one -/

theorem get?_eq_none_iff : get? key members = none ↔ key ∉ keys members := by
  rw [← has_iff, has, Bool.not_eq_true, Option.isSome_eq_false_iff, Option.isNone_iff_eq_none]

theorem mem_of_get? {v : α} (h : get? key members = some v) : (key, v) ∈ members := by
  induction members with
  | nil => cases h
  | cons m rest ih =>
    obtain ⟨k, w⟩ := m
    rw [get?] at h
    split at h
    · rename_i hk
      cases h
      exact hk ▸ List.mem_cons_self
    · exact List.mem_cons_of_mem _ (ih h)

theorem get?_of_mem {v : α} (hkeys : (keys members).Nodup) (h : (key, v) ∈ members) : get? key members = some v := by
  induction members with
  | nil => cases h
  | cons m rest ih =>
    obtain ⟨k, w⟩ := m
    obtain ⟨hk, hrest⟩ := List.nodup_cons.mp hkeys
    rcases List.mem_cons.mp h with heq | hmem
    · cases heq
      simp [get?]
    · have hne : k ≠ key := by
        rintro rfl
        exact hk (List.mem_map.mpr ⟨_, hmem, rfl⟩)
      rw [get?, if_neg hne]
      exact ih hrest hmem

theorem get?_append (key : String) (a b : List (String × α)) : get? key (a ++ b) = (get? key a).or (get? key b) := by
  induction a with
  | nil => simp [get?]
  | cons m rest ih =>
    obtain ⟨k, v⟩ := m
    by_cases hk : k = key <;> simp [get?, hk, ih]

theorem get?_put (key k : String) (v : α) (members : List (String × α)) :
    get? key (put k v members) = if key = k then some v else get? key members := by
  have hinsert : ∀ ms : List (String × α), k ∉ keys ms →
      get? key (insert k v ms) = if key = k then some v else get? key ms := by
    intro ms hms
    induction ms with
    | nil => simp [insert, get?, eq_comm]
    | cons m rest ih =>
      obtain ⟨k', v'⟩ := m
      obtain ⟨hne, hrest⟩ := not_or.mp (mt List.mem_cons.mpr hms)
      simp only [insert]
      split
      · simp [get?, eq_comm]
      · rw [get?, ih hrest, get?]
        by_cases hk : k' = key
        · have hkey : key ≠ k := fun h => hne (h ▸ hk.symm)
          simp [hk, hkey]
        · simp [hk]
  have hreplace : ∀ ms : List (String × α), k ∈ keys ms →
      get? key (replace k v ms) = if key = k then some v else get? key ms := by
    intro ms hms
    induction ms with
    | nil => cases hms
    | cons m rest ih =>
      obtain ⟨k', v'⟩ := m
      simp only [replace]
      by_cases hk : k' = k
      · subst hk
        by_cases hkey : k' = key
        · simp [get?, hkey]
        · simp [get?, hkey, Ne.symm hkey]
      · have hrest : k ∈ keys rest := (List.mem_cons.mp hms).resolve_left (Ne.symm hk)
        rw [if_neg hk, get?, ih hrest, get?]
        by_cases hkey : k' = key
        · have hne : key ≠ k := fun h => hk (hkey.trans h)
          simp [hkey, hne]
        · simp [hkey]
  unfold put
  cases hhas : has k members with
  | true => exact hreplace members (has_iff.mp hhas)
  | false =>
    refine hinsert members fun hmem => ?_
    rw [has_iff.mpr hmem] at hhas
    cases hhas

/-- Of members that are put one after another the last under a key counts. -/
theorem get?_putAll (key : String) (members new : List (String × α)) :
    get? key (putAll members new) = (get? key new.reverse).or (get? key members) := by
  induction new generalizing members with
  | nil => simp [putAll, get?]
  | cons m rest ih =>
    obtain ⟨k, v⟩ := m
    show get? key (putAll (put k v members) rest) = _
    rw [ih, get?_put, List.reverse_cons, get?_append, Option.or_assoc]
    congr 1
    by_cases hk : key = k
    · simp [get?, hk]
    · simp [get?, hk, Ne.symm hk]

/-- An object made of members under distinct keys has just these. -/
theorem get?_ofList (hkeys : (keys members).Nodup) (key : String) : get? key (ofList members) = get? key members := by
  have hreverse : (keys members.reverse).Nodup := by
    rw [keys, List.map_reverse]
    exact List.nodup_reverse.mpr hkeys
  rw [ofList, get?_putAll]
  cases h : get? key members with
  | none =>
    have hnone : get? key members.reverse = none := by
      rw [get?_eq_none_iff] at h ⊢
      simpa [keys] using h
    rw [hnone]
    rfl
  | some v =>
    rw [get?_of_mem hreverse (List.mem_reverse.mpr (mem_of_get? h))]
    rfl

end ThingHost.Members
