import ThingHost.Proofs.Bus.Representation
import ThingHost.Proofs.Host.Delivery
import ThingHost.Proofs.Host.Leaving

/-! What every bus of a host looks like whenever code of a client starts or is done. However operations and callbacks
    are nested, the five fields of a bus fit each other: nobody is held who has left, and nothing is left waiting. -/

namespace ThingHost
namespace Host

/-- A bus after a run, as it is held. -/
structure Represents (ref : BusRef) (inputs : List Input) : Prop where
  /-- The subscriptions are held in the order in which they were made, -/
  order : ((reached inputs).bus ref).sinks.Sublist (made ref inputs)
  /-- which is that of their numbers; so no two of them are the same. -/
  ascending : (((reached inputs).bus ref).sinks.map (·.id)).Pairwise (· < ·)
  distinct : ((reached inputs).bus ref).sinks.Nodup
  below : ∀ s ∈ ((reached inputs).bus ref).sinks, s.id < ((reached inputs).bus ref).nextId
  /-- Unless owners are being told of the completion, just the open subscriptions are held. -/
  held : completing ref (reached inputs) = false → ∀ s ∈ made ref inputs,
    s ∈ ((reached inputs).bus ref).sinks ↔ (reached inputs).isClosed ⟨ref, s.id⟩ = false
  /-- Whatever is done, a subscription that is closed stays so. -/
  closed : ∀ id later, (reached inputs).isClosed ⟨ref, id⟩ = true → (reached (inputs ++ later)).isClosed ⟨ref, id⟩ = true
  completed : ((reached inputs).bus ref).completed = true → ((reached inputs).bus ref).sinks = []
  /-- The bus is draining just as long as an observer of it runs, or code that was called from there, -/
  draining : ((reached inputs).bus ref).draining = delivering ref (reached inputs)
  /-- and when none does any more, nothing waits, whatever put an end to it. -/
  pending : delivering ref (reached inputs) = false → ((reached inputs).bus ref).pending = []

section Runs
variable (ref : BusRef) (inputs : List Input)

theorem draining_reached : ((reached inputs).bus ref).draining = delivering ref (reached inputs) := by
  have hrunning : delivering ref (reached inputs) = true ↔ ∃ d, .next d ∈ (record ref inputs).live.running := by
    rw [delivering_eq, record_live, List.any_eq_true]
    constructor
    · rintro ⟨r, hr, hnext⟩
      cases r with
      | next d => exact ⟨d, hr⟩
      | _ => cases hnext
    · rintro ⟨d, hd⟩
      exact ⟨.next d, hd, rfl⟩
  rw [← record_bus, Bool.eq_iff_iff, (record_sound ref inputs).draining_iff, hrunning]

theorem isClosed_record (id : Nat) :
    (reached inputs).isClosed ⟨ref, id⟩ = true ↔ id ∈ (record ref inputs).live.bus.closed := by
  rw [isClosed_eq, record_bus]
  simp [Bus.isClosed]

/-- At any time of a run, each bus of a host is in order. -/
theorem representation_law : Represents ref inputs := by
  have law := record_sound ref inputs
  have hbus := record_bus ref inputs
  have hmade := record_attached ref inputs
  have hascending := hbus ▸ law.numbered.sinks_ascending
  have hsub : ((reached inputs).bus ref).sinks.Sublist (made ref inputs) :=
    hbus ▸ hmade ▸ law.numbered.sinks.trans (List.sublist_append_left _ _)
  refine ⟨hsub, hascending, ?_, fun s hs => ?_, fun hover s hs => ?_, fun id later hcl => ?_, fun hdone => ?_,
    draining_reached ref inputs, fun hidle => (at_rest hidle).pending⟩
  · exact List.Nodup.of_map _ (hascending.imp Nat.ne_of_lt)
  · exact hbus ▸ law.numbered.id_lt (hmade ▸ hsub.subset hs)
  · rw [← Bool.not_eq_true, isClosed_record, ← hbus]
    exact law.mem_sinks_iff (remaining_of_over hover) (hmade ▸ hs)
  · rw [isClosed_record] at hcl ⊢
    rw [record_append]
    exact Bus.closed_run hcl _
  · exact hbus ▸ (law.telling (hbus ▸ hdone)).sinks

end Runs

end Host
end ThingHost
