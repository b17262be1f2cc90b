import ThingHost.Proofs.Servient

/-! What was done on a servient tells all that it knows: which Things are registered, in which order, and which of them are
    enabled. What was done under an id before a Thing was registered under it plays no part. -/

namespace ThingHost

/-- What is done on a servient. -/
inductive Act where
  | registered (id : String) (thing : Nat)
  | enabled (id : String)
  | disabled (id : String)
  | removed (id : String)
  deriving DecidableEq

namespace Act

def id : Act → String
  | .registered id _ => id
  | .enabled id => id
  | .disabled id => id
  | .removed id => id

/-- What is registered, by what was done. -/
def standing : List Act → List (String × Nat)
  | [] => []
  | .registered id t :: log => if .removed id ∈ log then standing log else (id, t) :: standing log
  | _ :: log => standing log

/-- What was done since the Thing `t` was registered under an id, if it was not removed since. -/
def Since (log : List Act) (id : String) (t : Nat) (since : List Act) : Prop :=
  .registered id t :: since <:+ log ∧ .removed id ∉ since

/-- An id was enabled, and not disabled after that. -/
def EnabledIn (since : List Act) (id : String) : Prop := ∃ after, .enabled id :: after <:+ since ∧ .disabled id ∉ after

section Logs
variable {log since : List Act} {a : Act} {id : String} {t : Nat}

theorem standing_concat (log : List Act) (a : Act) : standing (log ++ [a]) = match a with
    | .registered id t => standing log ++ [(id, t)]
    | .removed id => (standing log).filter (·.1 ≠ id)
    | _ => standing log := by
  induction log with
  | nil => cases a <;> rfl
  | cons first log ih =>
    cases first with
    | registered id t =>
      rw [List.cons_append, standing, ih, standing]
      by_cases hgone : .removed id ∈ log
      · simp [hgone]
      · cases a with
        | removed other =>
          by_cases hid : id = other
          · subst hid
            simp [hgone]
          · simp [hgone, hid]
        | _ => simp [hgone]
    | _ => exact ih

theorem since_cons (first : Act) : Since (first :: log) id t since ↔
    (first = .registered id t ∧ since = log ∧ .removed id ∉ log) ∨ Since log id t since := by
  rw [Since, Since, List.suffix_cons_iff, List.cons.injEq, or_and_right]
  constructor
  · rintro (⟨⟨hfirst, hsame⟩, hgone⟩ | hlater)
    · exact .inl ⟨hfirst.symm, hsame, hsame ▸ hgone⟩
    · exact .inr hlater
  · rintro (⟨hfirst, hsame, hgone⟩ | hlater)
    · exact .inl ⟨⟨hfirst.symm, hsame⟩, hsame ▸ hgone⟩
    · exact .inr hlater

theorem mem_standing : (id, t) ∈ standing log ↔ ∃ since, Since log id t since := by
  induction log with
  | nil =>
    constructor
    · intro h
      cases h
    · rintro ⟨since, h, -⟩
      exact absurd (List.suffix_nil.mp h) (by simp)
  | cons first log ih =>
    simp only [since_cons, exists_or, ← ih]
    cases first with
    | registered id' t' =>
      rw [standing]
      by_cases hgone : .removed id' ∈ log
      · rw [if_pos hgone]
        refine (or_iff_right ?_).symm
        rintro ⟨since, hfirst, -, hkept⟩
        cases hfirst
        exact hkept hgone
      · rw [if_neg hgone, List.mem_cons]
        refine or_congr_left ?_
        constructor
        · intro h
          cases h
          exact ⟨log, rfl, rfl, hgone⟩
        · rintro ⟨since, hfirst, -, -⟩
          cases hfirst
          rfl
    | _ => simp [standing]

theorem since_concat : Since (log ++ [a]) id t since ↔ (a = .registered id t ∧ since = []) ∨
    ∃ earlier, since = earlier ++ [a] ∧ Since log id t earlier ∧ a ≠ .removed id := by
  rw [Since, List.suffix_concat_iff]
  constructor
  · rintro ⟨hnil | ⟨_ | ⟨first, earlier⟩, hsame, hlog⟩, hgone⟩
    · cases hnil
    · cases hsame
      exact .inl ⟨rfl, rfl⟩
    · rw [List.cons_append, List.cons.injEq] at hsame
      obtain ⟨rfl, rfl⟩ := hsame
      simp only [List.mem_append, List.mem_singleton, not_or] at hgone
      exact .inr ⟨earlier, rfl, ⟨hlog, hgone.1⟩, Ne.symm hgone.2⟩
  · rintro (⟨rfl, rfl⟩ | ⟨earlier, rfl, ⟨hlog, hkept⟩, hne⟩)
    · exact ⟨.inr ⟨[], rfl, List.nil_suffix⟩, by simp⟩
    · exact ⟨.inr ⟨_, rfl, hlog⟩, by simp [hkept, Ne.symm hne]⟩

theorem enabledIn_concat : EnabledIn (since ++ [a]) id ↔ a = .enabled id ∨ EnabledIn since id ∧ a ≠ .disabled id := by
  simp only [EnabledIn, List.suffix_concat_iff]
  constructor
  · rintro ⟨after, hnil | ⟨_ | ⟨first, earlier⟩, hsame, hsince⟩, hoff⟩
    · cases hnil
    · cases hsame
      exact .inl rfl
    · rw [List.cons_append, List.cons.injEq] at hsame
      obtain ⟨rfl, rfl⟩ := hsame
      simp only [List.mem_append, List.mem_singleton, not_or] at hoff
      exact .inr ⟨⟨earlier, hsince, hoff.1⟩, Ne.symm hoff.2⟩
  · rintro (rfl | ⟨⟨earlier, hsince, hoff⟩, hne⟩)
    · exact ⟨[], .inr ⟨[], rfl, List.nil_suffix⟩, by simp⟩
    · exact ⟨earlier ++ [a], .inr ⟨_, rfl, hsince⟩, by simp [hoff, Ne.symm hne]⟩

theorem not_enabledIn_nil : ¬EnabledIn [] id := by
  rintro ⟨after, h, -⟩
  exact absurd (List.suffix_nil.mp h) (by simp)

end Logs

end Act

namespace Servient

/-- Does something on a servient, or says why not. -/
def perform (s : Servient) : Act → Except ThingError Servient
  | .registered id t => s.register id t
  | .enabled id => s.enable (.string id)
  | .disabled id => s.disable (.string id)
  | .removed id => s.remove (.string id)

/-- What a servient knows is what was done. -/
structure Account (log : List Act) (s : Servient) : Prop where
  registered : s.registered = Act.standing log
  known : ∀ id, s.isEnabled id = true → ∃ t since, Act.Since log id t since
  enabled : ∀ {id t since}, Act.Since log id t since → (s.isEnabled id = true ↔ Act.EnabledIn since id)

section Accounts
variable {log : List Act} {s s' : Servient} {id : String}

theorem account_empty : Account [] .empty := by
  refine ⟨rfl, fun id h => (by cases h), ?_⟩
  rintro id t since ⟨h, -⟩
  exact absurd (List.suffix_nil.mp h) (by simp)

theorem Account.has (h : Account log s) (hhas : s.has id = true) : ∃ t since, Act.Since log id t since := by
  obtain ⟨t, ht⟩ := Option.isSome_iff_exists.mp hhas
  obtain ⟨e, he, rfl⟩ := Option.map_eq_some_iff.mp ht
  have hid : e.1 = id := by simpa using List.find?_some he
  have hmem : (id, e.2) ∈ Act.standing log := by
    rw [← h.registered, ← hid]
    exact List.mem_of_find?_eq_some he
  exact ⟨e.2, Act.mem_standing.mp hmem⟩

theorem isEnabled_of_sets {e : Option Nat × Bool} (h : s.Sets id e s') (i : String) :
    s'.isEnabled i = if i = id then e.2 else s.isEnabled i := by
  have hentry := congrArg Prod.snd (h i)
  split <;> rename_i hi
  · rw [if_pos hi] at hentry
    exact hentry
  · rw [if_neg hi] at hentry
    exact hentry

/-- A registration comes last, and starts disabled: nothing else is enabled than what was. -/
theorem Account.afterRegistered (h : Account log s) {t : Nat} (hs : s.register id t = .ok s') :
    Account (log ++ [.registered id t]) s' := by
  obtain ⟨hfree, hsets⟩ := register_sets hs
  have hon (i : String) : s'.isEnabled i = s.isEnabled i := by
    rw [isEnabled_of_sets hsets]
    split
    · rename_i hi
      rw [hi]
    · rfl
  have hoff : s.isEnabled id = false := by
    by_contra hne
    obtain ⟨u, since, hsince⟩ := h.known id (by simpa using hne)
    have hmem := Act.mem_standing.mpr ⟨since, hsince⟩
    rw [← h.registered] at hmem
    exact get?_eq_none.mp hfree (List.mem_map.mpr ⟨_, hmem, rfl⟩)
  refine ⟨?_, ?_, ?_⟩
  · have hreg : s'.registered = s.registered ++ [(id, t)] := by
      unfold register at hs
      split at hs <;> cases hs
      rfl
    rw [hreg, h.registered, Act.standing_concat]
  · intro i hi
    rw [hon] at hi
    obtain ⟨u, since, hsince⟩ := h.known i hi
    exact ⟨u, _, Act.since_concat.mpr (.inr ⟨since, rfl, hsince, by simp⟩)⟩
  · intro i u since hsince
    rw [hon]
    rcases Act.since_concat.mp hsince with ⟨hsame, rfl⟩ | ⟨earlier, rfl, hearlier, -⟩
    · cases hsame
      rw [hoff]
      exact ⟨fun hfalse => (by cases hfalse), fun hnil => absurd hnil Act.not_enabledIn_nil⟩
    · rw [h.enabled hearlier, Act.enabledIn_concat]
      simp

/-- What is done with an id that is registered, and stays so, changes at most whether it is enabled. -/
theorem Account.afterSwitched (h : Account log s) {a : Act} (on : Bool) (ha : a = if on then .enabled id else .disabled id)
    (hhas : s.has id = true) (hsets : s.Sets id (s.get? id, on) s') (hreg : s'.registered = s.registered) :
    Account (log ++ [a]) s' := by
  have hkeeps (i : String) : a ≠ .removed i := by
    rw [ha]
    cases on <;> simp
  have hnew (i : String) (u : Nat) : a ≠ .registered i u := by
    rw [ha]
    cases on <;> simp
  refine ⟨?_, ?_, ?_⟩
  · rw [hreg, h.registered, Act.standing_concat, ha]
    cases on <;> rfl
  · intro i hi
    have hthere : ∃ u since, Act.Since log i u since := by
      by_cases hid : i = id
      · exact hid ▸ h.has hhas
      · rw [isEnabled_of_sets hsets, if_neg hid] at hi
        exact h.known i hi
    obtain ⟨u, since, hsince⟩ := hthere
    exact ⟨u, _, Act.since_concat.mpr (.inr ⟨since, rfl, hsince, hkeeps i⟩)⟩
  · intro i u since hsince
    rcases Act.since_concat.mp hsince with ⟨hsame, -⟩ | ⟨earlier, rfl, hearlier, -⟩
    · exact absurd hsame (hnew i u)
    · rw [isEnabled_of_sets hsets, Act.enabledIn_concat, ← h.enabled hearlier, ha]
      by_cases hid : i = id
      · cases on <;> simp [hid]
      · cases on <;> simp [hid, Ne.symm hid]

theorem Account.afterRemoved (h : Account log s) (hs : s.remove (.string id) = .ok s') : Account (log ++ [.removed id]) s' := by
  obtain ⟨id', hid', -, hsets⟩ := remove_sets hs
  cases hid'
  have hreg : s'.registered = s.registered.filter (·.1 ≠ id) := by
    obtain ⟨i, hreq, hs'⟩ := ExposedThing.bind_eq_ok.mp hs
    obtain ⟨hi, -⟩ := of_require hreq
    cases hi
    cases hs'
    rfl
  refine ⟨?_, ?_, ?_⟩
  · rw [hreg, h.registered, Act.standing_concat]
  · intro i hi
    rw [isEnabled_of_sets hsets] at hi
    split at hi
    · cases hi
    · rename_i hid
      obtain ⟨u, since, hsince⟩ := h.known i hi
      exact ⟨u, _, Act.since_concat.mpr (.inr ⟨since, rfl, hsince, by simp [Ne.symm hid]⟩)⟩
  · intro i u since hsince
    rcases Act.since_concat.mp hsince with ⟨hsame, -⟩ | ⟨earlier, rfl, hearlier, hne⟩
    · cases hsame
    · have hid : i ≠ id := fun hid => hne (hid ▸ rfl)
      rw [isEnabled_of_sets hsets, if_neg hid, h.enabled hearlier, Act.enabledIn_concat]
      simp

theorem Account.perform (h : Account log s) {a : Act} (hs : s.perform a = .ok s') : Account (log ++ [a]) s' := by
  cases a with
  | registered id t => exact h.afterRegistered hs
  | enabled id =>
    obtain ⟨i, hi, hhas, hsets⟩ := enable_sets hs
    cases hi
    exact h.afterSwitched true rfl hhas hsets (enable_registered hs)
  | disabled id =>
    obtain ⟨i, hi, hhas, hsets⟩ := disable_sets hs
    cases hi
    exact h.afterSwitched false rfl hhas hsets (disable_registered hs)
  | removed id => exact h.afterRemoved hs

end Accounts

end Servient
end ThingHost
