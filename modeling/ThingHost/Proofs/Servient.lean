import Mathlib.Data.List.Nodup
import ThingHost.Proofs.Exposed
import ThingHost.Servient

/-! What a servient knows of an id: the Thing that is registered under it, and whether it is enabled. Every change
    of a servient concerns one id and leaves the others alone. -/

namespace ThingHost.Servient

/-- What is known of an id. -/
def entry (s : Servient) (id : String) : Option Nat × Bool := (s.get? id, s.isEnabled id)

/-- What is known of an id is `e`, and what is known of the others is what `s` knows of them. -/
def Sets (s : Servient) (id : String) (e : Option Nat × Bool) (s' : Servient) : Prop :=
  ∀ i, s'.entry i = if i = id then e else s.entry i

section Entries
variable {s s' : Servient} {id : String} {v : Value} {t : Nat}

theorem of_require (h : s.require v = .ok id) : v = .string id ∧ s.has id = true := by
  cases v with
  | string i =>
    simp only [require] at h
    split at h
    · rename_i hhas
      cases h
      exact ⟨rfl, hhas⟩
    · cases h
  | _ => cases h

/-- A Thing is registered under an id that is not taken, behind the others. -/
theorem register_sets (h : s.register id t = .ok s') : s.get? id = none ∧ s.Sets id (some t, s.isEnabled id) s' := by
  unfold register at h
  cases hhas : s.has id with
  | true =>
    rw [hhas] at h
    cases h
  | false =>
    rw [hhas] at h
    cases h
    have hfree : s.get? id = none := by simpa [has] using hhas
    refine ⟨hfree, fun i => ?_⟩
    have hget : ({ s with registered := s.registered ++ [(id, t)] } : Servient).get? i =
        (s.get? i).or (if id = i then some t else none) := by
      simp only [get?, List.find?_append, List.find?_cons, List.find?_nil, Option.map_or]
      by_cases hi : id = i <;> simp [hi]
    simp only [entry, hget, isEnabled]
    by_cases hi : i = id
    · subst hi
      simp [hfree]
    · simp [hi, Ne.symm hi]

theorem enable_sets (h : s.enable v = .ok s') :
    ∃ id, v = .string id ∧ s.has id = true ∧ s.Sets id (s.get? id, true) s' := by
  obtain ⟨id, hreq, hs'⟩ := ExposedThing.bind_eq_ok.mp h
  obtain ⟨rfl, hhas⟩ := of_require hreq
  refine ⟨id, rfl, hhas, fun i => ?_⟩
  cases hs'
  cases hon : s.isEnabled id with
  | true =>
    by_cases hi : i = id
    · simp [entry, hi, hon]
    · simp [hi]
  | false => by_cases hi : i = id <;> simp [entry, get?, isEnabled, hi]

theorem disable_sets (h : s.disable v = .ok s') :
    ∃ id, v = .string id ∧ s.has id = true ∧ s.Sets id (s.get? id, false) s' := by
  obtain ⟨id, hreq, hs'⟩ := ExposedThing.bind_eq_ok.mp h
  obtain ⟨rfl, hhas⟩ := of_require hreq
  refine ⟨id, rfl, hhas, fun i => ?_⟩
  cases hs'
  by_cases hi : i = id <;> simp [entry, get?, isEnabled, hi]

theorem remove_sets (h : s.remove v = .ok s') :
    ∃ id, v = .string id ∧ s.has id = true ∧ s.Sets id (none, false) s' := by
  obtain ⟨id, hreq, hs'⟩ := ExposedThing.bind_eq_ok.mp h
  obtain ⟨rfl, hhas⟩ := of_require hreq
  refine ⟨id, rfl, hhas, fun i => ?_⟩
  cases hs'
  have hget : ({ registered := s.registered.filter (·.1 ≠ id), enabled := s.enabled.filter (· ≠ id) } : Servient).get? i =
      if i = id then none else s.get? i := by
    simp only [get?, List.find?_filter]
    by_cases hi : i = id
    · subst hi
      simp
    · rw [if_neg hi]
      congr 2
      funext p
      by_cases hp : p.1 = i <;> simp [hp, hi]
  simp only [entry, hget, isEnabled]
  by_cases hi : i = id <;> simp [hi]

/-- Enabling, disabling and removing are refused only if nothing is registered under the id. -/
theorem free_of_refused {f : String → Servient} {e : ThingError}
    (h : (s.require (.string id) >>= fun i => pure (f i)) = .error e) : s.get? id = none := by
  cases hget : s.get? id with
  | none => rfl
  | some t =>
    have hreq : s.require (.string id) = .ok id := if_pos (by simp [has, hget])
    rw [hreq] at h
    cases h

end Entries

/-! ### Good order -/

/-- The ids under which Things are registered, in the order of registration. -/
def ids (s : Servient) : List String := s.registered.map (·.1)

/-- What is registered are Things, each under its own id, and nothing else is enabled. -/
structure Orderly (things : List ExposedThing) (s : Servient) : Prop where
  named : ∀ id t, s.get? id = some t → ∃ x, things[t]? = some x ∧ x.id = id
  enabled : ∀ id, s.get? id = none → s.isEnabled id = false
  distinct : s.ids.Nodup

/-- One entry is set in good order: the Thing that is registered by it was registered before, or has the id. -/
def Alters (things : List ExposedThing) (s s' : Servient) : Prop :=
  (s.ids.Nodup → s'.ids.Nodup) ∧ ∃ id e, s.Sets id e s' ∧ (e.1 = none → e.2 = false) ∧
    ∀ t, e.1 = some t → s.get? id = some t ∨ ∃ x, things[t]? = some x ∧ x.id = id

section Order
variable {things : List ExposedThing} {s s' : Servient} {v : Value} {t : Nat} {x : ExposedThing}

theorem get?_eq_none {id : String} : s.get? id = none ↔ id ∉ s.ids := by
  rw [get?, Option.map_eq_none_iff, List.find?_eq_none, ids, List.mem_map]
  constructor
  · rintro hnone ⟨e, he, hid⟩
    exact hnone e he (by simpa using hid)
  · intro hnone e he hid
    exact hnone ⟨e, he, by simpa using hid⟩

theorem get?_of_mem {id : String} (hdistinct : s.ids.Nodup) (h : (id, t) ∈ s.registered) : s.get? id = some t := by
  cases hf : s.registered.find? (·.1 = id) with
  | none => simpa using List.find?_eq_none.mp hf _ h
  | some e =>
    have hid : e.1 = id := by simpa using List.find?_some hf
    have heq : e = (id, t) := List.inj_on_of_nodup_map hdistinct (List.mem_of_find?_eq_some hf) h hid
    rw [get?, hf, heq]
    rfl

theorem register_distinct {id : String} (h : s.register id t = .ok s') (hdistinct : s.ids.Nodup) : s'.ids.Nodup := by
  obtain ⟨hfree, -⟩ := register_sets h
  unfold register at h
  split at h
  · cases h
  · cases h
    simp only [ids, List.map_append, List.map_cons, List.map_nil]
    refine List.nodup_append.mpr ⟨hdistinct, List.nodup_singleton _, ?_⟩
    rintro i hi _ hid rfl
    obtain rfl := List.mem_singleton.mp hid
    exact get?_eq_none.mp hfree hi

theorem enable_registered (h : s.enable v = .ok s') : s'.registered = s.registered := by
  obtain ⟨id, -, hs'⟩ := ExposedThing.bind_eq_ok.mp h
  cases hs'
  split <;> rfl

theorem disable_registered (h : s.disable v = .ok s') : s'.registered = s.registered := by
  obtain ⟨id, -, hs'⟩ := ExposedThing.bind_eq_ok.mp h
  cases hs'
  rfl

theorem remove_registered (h : s.remove v = .ok s') : s'.registered.Sublist s.registered := by
  obtain ⟨id, -, hs'⟩ := ExposedThing.bind_eq_ok.mp h
  cases hs'
  exact List.filter_sublist

theorem register_alters (hx : things[t]? = some x) (h : s.register x.id t = .ok s') : s.Alters things s' := by
  obtain ⟨-, hsets⟩ := register_sets h
  refine ⟨register_distinct h, x.id, _, hsets, fun hnone => ?_, fun u hu => ?_⟩
  · cases hnone
  · cases hu
    exact .inr ⟨x, hx, rfl⟩

theorem enable_alters (h : s.enable v = .ok s') : s.Alters things s' := by
  have hids : s'.ids = s.ids := congrArg (List.map Prod.fst) (enable_registered h)
  obtain ⟨id, rfl, hhas, hsets⟩ := enable_sets h
  refine ⟨fun hd => hids ▸ hd, id, _, hsets, fun hnone => ?_, fun u hu => .inl hu⟩
  have hnone : s.get? id = none := hnone
  rw [has, hnone] at hhas
  cases hhas

theorem disable_alters (h : s.disable v = .ok s') : s.Alters things s' := by
  have hids : s'.ids = s.ids := congrArg (List.map Prod.fst) (disable_registered h)
  obtain ⟨id, rfl, -, hsets⟩ := disable_sets h
  exact ⟨fun hd => hids ▸ hd, id, _, hsets, fun _ => rfl, fun u hu => .inl hu⟩

theorem remove_alters (h : s.remove v = .ok s') : s.Alters things s' := by
  have hids : s'.ids.Sublist s.ids := (remove_registered h).map _
  obtain ⟨id, rfl, -, hsets⟩ := remove_sets h
  exact ⟨hids.nodup, id, _, hsets, fun _ => rfl, fun u hu => (by cases hu)⟩

theorem orderly_empty (things : List ExposedThing) : Orderly things .empty :=
  ⟨fun id t h => (by cases h), fun id _ => rfl, List.nodup_nil⟩

/-- Things keep their ids, so what is in order stays so. -/
theorem Orderly.kept {later : List ExposedThing} (h : Orderly things s)
    (hkept : ∀ (t : Nat) (x : ExposedThing), things[t]? = some x →
      ∃ y : ExposedThing, later[t]? = some y ∧ y.id = x.id) : Orderly later s := by
  refine ⟨fun id t ht => ?_, h.enabled, h.distinct⟩
  obtain ⟨x, hx, rfl⟩ := h.named id t ht
  exact hkept t x hx

theorem Orderly.entry_of_free {id : String} (h : Orderly things s) (hfree : s.get? id = none) :
    s.entry id = (none, false) := by
  rw [entry, h.enabled id hfree, hfree]

theorem Orderly.alters (h : Orderly things s) (ha : s.Alters things s') : Orderly things s' := by
  obtain ⟨hdistinct, id, e, hset, henabled, hnamed⟩ := ha
  have hget (i : String) : s'.get? i = (if i = id then e else s.entry i).1 := congrArg Prod.fst (hset i)
  have hon (i : String) : s'.isEnabled i = (if i = id then e else s.entry i).2 := congrArg Prod.snd (hset i)
  refine ⟨fun i t ht => ?_, fun i hi => ?_, hdistinct h.distinct⟩
  · rw [hget] at ht
    split at ht
    · rename_i hid
      rcases hnamed t ht with ht | hx
      · exact h.named i t (hid ▸ ht)
      · exact hid ▸ hx
    · exact h.named i t ht
  · rw [hget] at hi
    rw [hon]
    split at hi
    · rename_i hid
      rw [if_pos hid]
      exact henabled hi
    · rename_i hid
      rw [if_neg hid]
      exact h.enabled i hi

/-- The numbers of the enabled Things, in the order of registration. -/
def enabledNumbers (s : Servient) : List Nat := s.enabledThings.map (·.2)

theorem mem_enabledNumbers : t ∈ s.enabledNumbers ↔ ∃ id, (id, t) ∈ s.registered ∧ s.isEnabled id = true := by
  simp [enabledNumbers, enabledThings]

theorem Orderly.of_mem {id : String} (h : Orderly things s) (he : (id, t) ∈ s.registered) :
    ∃ x, things[t]? = some x ∧ x.id = id := h.named id t (get?_of_mem h.distinct he)

/-- No Thing is registered twice. -/
theorem Orderly.nodup (h : Orderly things s) : s.enabledNumbers.Nodup := by
  have hregistered : s.registered.Nodup := List.Nodup.of_map _ h.distinct
  refine List.Nodup.map_on ?_ (hregistered.filter _)
  rintro ⟨i, t⟩ hi ⟨j, u⟩ hj rfl
  obtain ⟨x, hx, rfl⟩ := h.of_mem (List.mem_of_mem_filter hi)
  obtain ⟨y, hy, rfl⟩ := h.of_mem (List.mem_of_mem_filter hj)
  rw [hx] at hy
  cases hy
  rfl

theorem Orderly.there (h : Orderly things s) (ht : t ∈ s.enabledNumbers) : ∃ x, things[t]? = some x := by
  obtain ⟨id, he, -⟩ := mem_enabledNumbers.mp ht
  obtain ⟨x, hx, -⟩ := h.of_mem he
  exact ⟨x, hx⟩

/-- A Thing that is disabled is not enabled under another id. -/
theorem Orderly.disabled {id : String} (h : Orderly things s) (hget : s.get? id = some t) (hoff : s.isEnabled id = false) :
    t ∉ s.enabledNumbers := by
  intro ht
  obtain ⟨j, hj, hon⟩ := mem_enabledNumbers.mp ht
  obtain ⟨x, hx, rfl⟩ := h.named id t hget
  obtain ⟨y, hy, rfl⟩ := h.of_mem hj
  rw [hx] at hy
  cases hy
  rw [hoff] at hon
  cases hon

end Order

end ThingHost.Servient
