import ThingHost.Proofs.Bus.Leaving

/-! What a bus keeps of its subscriptions and deliveries, read off its law. The subscriptions that it holds are the
    open ones, in the order in which they were made, and it is draining just as long as it delivers. -/

namespace ThingHost.Bus

variable {κ : Type} {c : Chronicle κ}

theorem Numbered.ids_ascending (h : Numbered c) : (c.attached.map (·.id)).Pairwise (· < ·) := by
  rw [h.ids]
  exact List.pairwise_lt_range'

/-- Subscriptions are held in the order of their numbers. -/
theorem Numbered.sinks_ascending (h : Numbered c) : (c.live.bus.sinks.map (·.id)).Pairwise (· < ·) :=
  h.ids_ascending.sublist ((h.sinks.trans (List.sublist_append_left _ _)).map _)

/-- A subscription is held as long as it is open, unless the completion has still to come to it. -/
theorem Sound.mem_sinks_iff (h : Sound c) (hover : remaining c.live.running = []) {s : Sink κ} (hs : s ∈ c.attached) :
    s ∈ c.live.bus.sinks ↔ s.id ∉ c.live.bus.closed := by
  cases hc : c.live.bus.completed with
  | false => simp [h.sinks_eq hc, hs]
  | true =>
    have t := h.telling hc
    have hclosed := (t.closed s hs).resolve_right (hover ▸ List.not_mem_nil)
    simp [t.sinks, hclosed]

/-- A bus is draining as long as it delivers, even if it is completed meanwhile. -/
theorem Sound.draining_iff (h : Sound c) : c.live.bus.draining = true ↔ ∃ d, .next d ∈ c.live.running := by
  obtain ⟨above, base, hrun, hno, hdel, -⟩ := h.frames
  rw [hrun]
  cases base with
  | none =>
    have hidle : c.live.bus.draining = false := hdel.draining
    simp [hidle, hno]
  | some d =>
    have hbusy : c.live.bus.draining = true := hdel.draining
    simp [hbusy]

end ThingHost.Bus
