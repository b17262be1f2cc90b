import ThingHost.Proofs.Host.Shedding

/-! The subscriptions that relays have made in the course of a run. They are known by their numbers, before they are made
    and after they are closed, and at any time of the run they are the ones to leave out. -/

namespace ThingHost

theorem Bus.Sound.early_of_next {κ : Type} {c : Chronicle κ} (h : Sound c) {d : Delivery κ}
    (hd : .next d ∈ c.live.running) : d.rest ⊆ c.early := by
  obtain ⟨above, base, hrun, hno, hdel, -⟩ := h.frames
  obtain rfl : base = some d := by
    rw [hrun] at hd
    rcases List.mem_append.mp hd with hd | hd
    · exact absurd hd (hno d)
    · cases base with
      | none => cases hd
      | some d' => simpa [eq_comm] using hd
  obtain ⟨past, r, hr, -, -, haud⟩ := hdel.last
  intro s hs
  exact (h.faithful.audience r (by rw [hr]; simp)).subset (haud ▸ List.mem_append_right _ hs)

namespace Host

/-- The numbers of the subscriptions that relays make on a bus in the course of a run. -/
def couriers (inputs : List Input) (ref : BusRef) : List Nat :=
  ((made ref inputs).filter (·.owner.isRelay)).map (·.id)

section Couriers
variable {inputs : List Input} {ref : BusRef} {s : Sink Listener}

theorem mem_couriers {id : Nat} : id ∈ couriers inputs ref ↔ ∃ s ∈ made ref inputs, s.owner.isRelay = true ∧ s.id = id := by
  simp [couriers, and_assoc]

theorem zero_not_courier : 0 ∉ couriers inputs ref := by
  intro hzero
  obtain ⟨s, hs, -, hid⟩ := mem_couriers.mp hzero
  have hmem : s.id ∈ (made ref inputs).map (·.id) := List.mem_map_of_mem hs
  rw [← record_attached, (record_sound ref inputs).numbered.ids, List.mem_range'_1, hid] at hmem
  omega

theorem staff_of_made (hs : s ∈ made ref inputs) : Staff (couriers inputs ref) s := by
  refine ⟨⟨fun hid => ?_, fun howner => mem_couriers.mpr ⟨s, hs, howner, rfl⟩⟩, fun howner => ?_⟩
  · obtain ⟨u, hu, howner, hid⟩ := mem_couriers.mp hid
    exact made_unique hu hs hid ▸ howner
  · cases attaches_of_mem hs with
    | client => cases howner
    | relay there => rfl

/-- At any time of a run the subscriptions of relays are the couriers. -/
theorem fits_reached (a b : List Input) : Fits (couriers (a ++ b)) (reached a) := by
  have staff : ∀ {ref s}, s ∈ (record ref a).early → Staff (couriers (a ++ b) ref) s :=
    fun hs => staff_of_made (made_append a b (made_of_early hs))
  have running : ∀ {ref f r}, f ∈ (reached a).stack → f.on? ref = some r → r ∈ (record ref a).live.running := by
    intro ref f r hf hon
    rw [record_live]
    exact List.mem_filterMap.mpr ⟨f, hf, hon⟩
  refine ⟨fun ref => zero_not_courier, fun ref b hb s hs => staff ?_, fun ref f hf d hon s hs => staff ?_,
    fun ref f hf c hon s hs => staff ?_⟩
  · refine (record_sound ref a).numbered.sinks.subset ?_
    rwa [record_bus, bus_of_bus? hb]
  · exact (record_sound ref a).early_of_next (running hf hon) hs
  · exact (record_sound ref a).early_of_remaining (List.mem_flatMap.mpr ⟨_, running hf hon, hs⟩)

/-- A subscription that an operation makes bears the next number of its bus. -/
theorem staff_of_asked {a b : List Input} {op : Operation} {screen : Event → Screening} {completes : Bool} {l : Listener}
    (ha : (reached a).asks? op = some (ref, .attach screen completes l)) {bus : Bus Listener}
    (hb : (reached a).bus? ref = some bus) :
    Staff (couriers (a ++ .operate op :: b) ref) ⟨bus.nextId, screen, completes, l⟩ := by
  have hmove : moveOn ref (reached a) (.operate op) = some (.attach screen completes l) := on_eq_some.mpr ha
  have hmade : made? ref (reached a) (.operate op) = some ⟨bus.nextId, screen, completes, l⟩ := by
    rw [made?, hmove, ← bus_of_bus? hb]
    rfl
  refine staff_of_made ?_
  rw [made, seen_cons, hmade]
  simp

end Couriers

end Host
end ThingHost
