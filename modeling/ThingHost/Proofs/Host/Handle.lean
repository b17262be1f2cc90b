import ThingHost.Proofs.Host.Registry

/-! Exposing and destroying a Thing. Both go by the Thing's id: what they change of its servient is the entry of
    that id, also if another Thing is registered under it. Of all other ids, and of all other Things, everything
    stays as it was. -/

namespace ThingHost
namespace Host

/-- What comes of it when the Thing `x`, of the number `t`, is exposed or destroyed after the run `earlier`. -/
structure ActsOnItsId (earlier : List Input) (t : Nat) (x : ExposedThing) (op : Operation) : Prop where
  /-- Every Thing is registered under its own id. -/
  named : ∀ n v u, (reached earlier).registered? n v = some u →
    ∃ y, (reached earlier).things[u]? = some y ∧ v = .string y.id
  others : ∀ n v, (n = x.servient → v ≠ .string x.id) →
    (reached (earlier ++ [.operate op])).entry n v = (reached earlier).entry n v
  things : ∀ u, u ≠ t → (reached (earlier ++ [.operate op])).things[u]? = (reached earlier).things[u]?
  /-- Exposing enables whatever Thing is registered under the id, -/
  exposed : op = .expose t → (reached (earlier ++ [.operate op])).entry x.servient (.string x.id) =
    ((reached earlier).registered? x.servient (.string x.id),
      ((reached earlier).registered? x.servient (.string x.id)).isSome)
  /-- and destroying removes it. -/
  destroyed : op = .destroy t → (reached (earlier ++ [.operate op])).entry x.servient (.string x.id) = (none, false)
  /-- So if this Thing is the one that is registered under its id, or none is, nothing changes of any other. -/
  apart : (∀ u, (reached earlier).registered? x.servient (.string x.id) = some u → u = t) →
    ∀ n v u, (reached earlier).registered? n v = some u → u ≠ t →
      (reached (earlier ++ [.operate op])).entry n v = (reached earlier).entry n v
  /-- When it goes on, after the code of those who are told of the destruction, no servient changes unless
      that code asks for it. -/
  goesOn : ∀ later, (∀ i ∈ later, ∀ asked, i ≠ .operate asked) →
    (reached (earlier ++ .operate op :: later)).entry = (reached (earlier ++ [.operate op])).entry

section Entries
variable {h h' : Host} {n : Nat} {s s' : Servient} {id : String} {e : Option Nat × Bool}

theorem entry_congr (hs : h'.servients = h.servients) : h'.entry = h.entry := by
  funext n v
  simp only [entry, registered?, isEnabled, hs]

theorem entry_string (hs : h.servients[n]? = some s) (id : String) : h.entry n (.string id) = s.entry id := by
  simp [entry, Servient.entry, registered?, isEnabled, Value.asText?, hs]

theorem entry_of_absent (hs : h.servients[n]? = none) (v : Value) : h.entry n v = (none, false) := by
  cases v <;> simp [entry, registered?, isEnabled, Value.asText?, hs]

/-- Setting an entry of a servient. -/
theorem entry_of_sets (there : h.servients[n]? = some s) (set : h'.servients = h.servients.set n s')
    (sets : s.Sets id e s') : h'.entry n (.string id) = e ∧
      ∀ m v, (m = n → v ≠ .string id) → h'.entry m v = h.entry m v := by
  obtain ⟨hlt, -⟩ := List.getElem?_eq_some_iff.mp there
  have hset : h'.servients[n]? = some s' := by simp [set, hlt]
  refine ⟨?_, fun m v hne => ?_⟩
  · rw [entry_string hset, sets id, if_pos rfl]
  · by_cases hm : m = n
    · subst hm
      cases v with
      | string i =>
        have hi : i ≠ id := fun hi => hne rfl (hi ▸ rfl)
        rw [entry_string hset, entry_string there, sets i, if_neg hi]
      | _ => rfl
    · have hsame : h'.servients[m]? = h.servients[m]? := by rw [set, List.getElem?_set_ne (Ne.symm hm)]
      simp only [entry, registered?, isEnabled, hsame]

theorem registered?_eq_some {v : Value} {u : Nat} (hu : h.registered? n v = some u) :
    ∃ id s, v = .string id ∧ h.servients[n]? = some s ∧ s.get? id = some u := by
  obtain ⟨id, hid, hu⟩ := Option.bind_eq_some_iff.mp hu
  obtain ⟨s, hs, hu⟩ := Option.bind_eq_some_iff.mp hu
  cases v with
  | string i =>
    obtain rfl : i = id := Option.some.inj hid
    exact ⟨i, s, rfl, hs, hu⟩
  | _ => cases hid

end Entries

section Steps
variable {h : Host} {t : Nat} {x : ExposedThing}

/-- What exposing does to the servients: nothing if no Thing is registered under the id. -/
theorem expose_entry (hx : h.things[t]? = some x) (hgood : ∀ s ∈ h.servients, Servient.Orderly h.things s) :
    (h.step (.operate (.expose t))).1.things = h.things ∧
    (h.step (.operate (.expose t))).1.entry x.servient (.string x.id) =
      (h.registered? x.servient (.string x.id), (h.registered? x.servient (.string x.id)).isSome) ∧
    ∀ n v, (n = x.servient → v ≠ .string x.id) → (h.step (.operate (.expose t))).1.entry n v = h.entry n v := by
  have hstep : h.step (.operate (.expose t)) =
      h.onServient x.servient (·.enable (.string x.id)) (.thingExposed x.id) := by
    simp [step, operate, withThing, hx]
  rw [hstep]
  refine ⟨onServient_things h _ _ _, ?_⟩
  unfold onServient
  cases hs : h.servients[x.servient]? with
  | none =>
    have hnone : h.registered? x.servient (.string x.id) = none := by simp [registered?, Value.asText?, hs]
    exact ⟨by rw [entry_of_absent hs, hnone]; rfl, fun n v _ => rfl⟩
  | some s =>
    dsimp only
    have hreg : h.registered? x.servient (.string x.id) = s.get? x.id := congrArg Prod.fst (entry_string hs x.id)
    cases hok : s.enable (.string x.id) with
    | error e =>
      have hfree : s.get? x.id = none := Servient.free_of_refused hok
      refine ⟨?_, fun n v _ => rfl⟩
      rw [hreg, hfree]
      exact (entry_string hs x.id).trans ((hgood s (List.mem_of_getElem? hs)).entry_of_free hfree)
    | ok s' =>
      obtain ⟨id, hid, hhas, hsets⟩ := Servient.enable_sets hok
      cases hid
      have hset : (h.setServient x.servient s').servients = h.servients.set x.servient s' := rfl
      obtain ⟨hself, hothers⟩ := entry_of_sets hs hset hsets
      refine ⟨?_, hothers⟩
      rw [hreg, show (s.get? x.id).isSome = true from hhas]
      exact hself

/-- What destroying does to the servients, and to other Things. -/
theorem destroy_entry (hx : h.things[t]? = some x) (hgood : ∀ s ∈ h.servients, Servient.Orderly h.things s) :
    (∀ u, u ≠ t → (h.step (.operate (.destroy t))).1.things[u]? = h.things[u]?) ∧
    (h.step (.operate (.destroy t))).1.entry x.servient (.string x.id) = (none, false) ∧
    ∀ n v, (n = x.servient → v ≠ .string x.id) → (h.step (.operate (.destroy t))).1.entry n v = h.entry n v := by
  have hstep : h.step (.operate (.destroy t)) = h.destroy t := rfl
  simp only [hstep, destroy, withThing, hx]
  cases hs : h.servients[x.servient]? with
  | none => exact ⟨fun u _ => rfl, entry_of_absent hs _, fun n v _ => rfl⟩
  | some s =>
    dsimp only
    cases hok : s.remove (.string x.id) with
    | error e =>
      have hfree : s.get? x.id = none := Servient.free_of_refused hok
      dsimp only
      rw [entry_congr (complete_servients h _ _)]
      refine ⟨fun u hu => complete_others h hu _, ?_, fun n v _ => rfl⟩
      rw [entry_string hs]
      exact (hgood s (List.mem_of_getElem? hs)).entry_of_free hfree
    | ok s' =>
      obtain ⟨id, hid, -, hsets⟩ := Servient.remove_sets hok
      cases hid
      have hset : (h.setServient x.servient s').servients = h.servients.set x.servient s' := rfl
      obtain ⟨hself, hothers⟩ := entry_of_sets hs hset hsets
      dsimp only [prepend]
      rw [entry_congr (complete_servients (h.setServient x.servient s') _ _)]
      exact ⟨fun u hu => complete_others (h.setServient x.servient s') hu _, hself, hothers⟩

end Steps

section Law
variable {earlier : List Input} {t : Nat} {x : ExposedThing} {op : Operation}

/-- Whatever happened before, to expose or to destroy a Thing is to act on its id. -/
theorem handle_law (hx : (reached earlier).things[t]? = some x) (hop : op = .expose t ∨ op = .destroy t) :
    ActsOnItsId earlier t x op := by
  have hgood := orderly_reached earlier
  have hafter : reached (earlier ++ [.operate op]) = ((reached earlier).step (.operate op)).1 := reached_snoc _ _
  have hothers : ∀ n v, (n = x.servient → v ≠ .string x.id) →
      (reached (earlier ++ [.operate op])).entry n v = (reached earlier).entry n v := by
    rw [hafter]
    rcases hop with rfl | rfl
    · exact (expose_entry hx hgood).2.2
    · exact (destroy_entry hx hgood).2.2
  refine ⟨fun n v u hu => ?_, hothers, fun u hu => ?_, fun hexpose => ?_, fun hdestroy => ?_, fun hown n v u hu hne => ?_,
    fun later hquiet => ?_⟩
  · obtain ⟨id, s, rfl, hs, hget⟩ := registered?_eq_some hu
    obtain ⟨y, hy, rfl⟩ := (hgood s (List.mem_of_getElem? hs)).named id u hget
    exact ⟨y, hy, rfl⟩
  · rw [hafter]
    rcases hop with rfl | rfl
    · rw [(expose_entry hx hgood).1]
    · exact (destroy_entry hx hgood).1 u hu
  · subst hexpose
    rw [hafter]
    exact (expose_entry hx hgood).2.1
  · subst hdestroy
    rw [hafter]
    exact (destroy_entry hx hgood).2.1
  · refine hothers n v ?_
    rintro rfl rfl
    exact hne (hown u hu)
  · rw [reached_cons]
    exact entry_congr (run_servients _ hquiet)

/-- Two lamps of one id, of which only the first is registered. -/
def lamps : List Input :=
  [ .operate (.newThing 0 "lamp" "Lamp" none),
    .operate (.newThing 0 "lamp" "Lamp" none),
    .operate (.register 0 0) ]

theorem lamps_act_on_their_id : ∃ x y, (reached lamps).things[0]? = some x ∧ (reached lamps).things[1]? = some y ∧
    ActsOnItsId lamps 0 x (.expose 0) ∧ ActsOnItsId lamps 1 y (.destroy 1) :=
  ⟨_, _, rfl, rfl, handle_law rfl (.inl rfl), handle_law rfl (.inr rfl)⟩

/-- What is done with the second lamp happens to the first. -/
theorem lamp_removed_by_other : (reached lamps).entry 0 (.string "lamp") = (some 0, false) ∧
    (reached (lamps ++ [.operate (.expose 1)])).entry 0 (.string "lamp") = (some 0, true) ∧
    (reached (lamps ++ [.operate (.destroy 1)])).entry 0 (.string "lamp") = (none, false) :=
  ⟨by rfl, by rfl, by rfl⟩

end Law

end Host
end ThingHost
