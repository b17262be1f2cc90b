import ThingHost.Proofs.Bus.Screening
import ThingHost.Proofs.Host.Registry

/-! Who is attached to the buses of a host: clients with a guard, and relays of a Thing. Whoever takes a turn was
    made once under a number of its own, and stays who it is, so what is noted in a turn says who took it. -/

namespace ThingHost

def Listener.isRelay : Listener → Bool
  | .relay .. => true
  | .client _ => false

namespace Host

/-! ### Who is made -/

section Made
variable {h : Host} {ref : BusRef} {s : Sink Listener}

/-- Who is attached to a bus: a client with a guard, or the relay of a Thing to its own bus. -/
inductive Attaches (h : Host) : BusRef → Sink Listener → Prop where
  | client {ref : BusRef} {id n : Nat} {guard : Event → Except Thrown Bool} {completes : Bool} :
      Attaches h ref ⟨id, ExposedThing.screenBy guard, completes, .client n⟩
  | relay {t id broker : Nat} {x : ExposedThing} (there : h.things[t]? = some x) :
      Attaches h (.own t) ⟨id, Relay.screen (.string x.id), false, .relay broker x.id⟩

theorem attaches_of_made {i : Input} (hm : made? ref h i = some s) : Attaches h ref s := by
  obtain ⟨m, hmove, hmade⟩ := Option.bind_eq_some_iff.mp hm
  cases asked_of_move hmove with
  | listening there offered =>
    obtain ⟨-, rfl⟩ := ExposedThing.screen_eq_ok.mp offered
    cases hmade
    exact .client
  | guarded there =>
    cases hmade
    exact .client
  | relayed there =>
    cases hmade
    exact .relay there
  | _ => cases hmade

/-- Whoever is made stays who it is. -/
theorem Attaches.step (hs : Attaches h ref s) (i : Input) : Attaches (h.step i).1 ref s := by
  cases hs with
  | client => exact .client
  | relay there =>
    obtain ⟨y, hy, hid⟩ := step_id there i
    rw [← hid]
    exact .relay hy

theorem attaches_of_mem {inputs : List Input} (hs : s ∈ made ref inputs) : Attaches (reached inputs) ref s := by
  induction inputs using List.reverseRecOn with
  | nil => cases hs
  | append_singleton inputs i ih =>
    rw [made, seen_snoc] at hs
    rw [reached_snoc]
    rcases List.mem_append.mp hs with hs | hs
    · exact (ih hs).step i
    · exact (attaches_of_made (Option.mem_toList.mp hs)).step i

/-- The notes of the turns so far and of a move, taken together, are those of the turns after it. -/
theorem dealt_snoc (ref : BusRef) (inputs : List Input) (i : Input) : (rounds ref (inputs ++ [i])).flatMap Bus.Round.dealt =
    (rounds ref inputs).flatMap Bus.Round.dealt ++ match moveOn ref (reached inputs) i with
      | some m => (((reached inputs).view ref).noted m).filter Note.relays
      | none => [] := by
  rw [rounds, record_snoc]
  cases moveOn ref (reached inputs) i with
  | none => exact (List.append_nil _).symm
  | some m =>
    rw [← record_live]
    exact (record_sound ref inputs).dealt_step m

/-- On a bus that stands alone nobody relays. -/
theorem dealt_alone (n : Nat) (inputs : List Input) : (rounds (.alone n) inputs).flatMap Bus.Round.dealt = [] := by
  rw [List.flatMap_eq_nil_iff]
  intro r hr
  refine List.filterMap_eq_nil_iff.mpr fun t ht => ?_
  rcases hs : t.1 with ⟨id, screen, completes, owner⟩
  have hatt := attaches_of_mem (made_of_turn hr ht)
  rw [hs] at hatt
  cases hatt with
  | client =>
    rename_i guard
    simp only [Bus.dealt, hs, ExposedThing.screenBy]
    rcases guard r.event with e | (_ | _) <;> rfl

end Made

/-! ### Who takes turns -/

section Turns
variable {ref : BusRef} {inputs : List Input} {u : Sink Listener}

/-- The code that runs in a delivery is that of a subscription that was made; if it is a client's, that client
    owns it. -/
theorem running_made {f : Frame} (hf : f ∈ (reached inputs).stack) {d : Delivery Listener}
    (hon : f.on? ref = some (.next d)) :
    d.current ∈ made ref inputs ∧ ∀ after, f = .next ref d after → d.current.owner.isRelay = false := by
  induction inputs using List.reverseRecOn with
  | nil => cases hf
  | append_singleton inputs i ih =>
    have hold : f ∈ (reached inputs).stack → d.current ∈ made ref (inputs ++ [i]) ∧
        ∀ after, f = .next ref d after → d.current.owner.isRelay = false := by
      intro hmem
      obtain ⟨hmade, howner⟩ := ih hmem
      exact ⟨made_append inputs [i] hmade, howner⟩
    obtain ⟨code, hs, hcalls, hcode⟩ := (step_effect (grounded_reached inputs) i).code
    rw [reached_snoc, hs] at hf
    rcases List.mem_append.mp hf with hf | hf
    · obtain rfl := Option.mem_toList.mp hf
      obtain ⟨before, o, -, hopens, -⟩ := hcalls
      obtain ⟨m, -, hstart⟩ := Option.bind_eq_some_iff.mp ((hcode ref).symm.trans hon)
      rw [← record_live] at hstart
      refine ⟨made_append inputs [i] (made_of_early ((record_sound ref inputs).early_of_started hstart)), ?_⟩
      rintro after rfl
      cases hopens with
      | next owner =>
        rw [owner]
        rfl
    · refine hold ?_
      cases i with
      | reply r => exact List.mem_of_mem_tail hf
      | _ => exact hf

/-- A subscription that takes a turn takes it once. -/
theorem turn_once {r : Bus.Round Listener} (hr : r ∈ rounds ref inputs) (id : Nat) :
    (r.turns.filter (·.1.id = id)).length ≤ 1 := by
  have law := record_sound ref inputs
  obtain ⟨above, base, -, -, hdel, -⟩ := law.frames
  have hnodup : (r.turns.map (·.1.id)).Nodup := by
    have hids : ((r.turns.map (·.1)).map (·.id)).Sublist (r.audience.map (·.id)) := (hdel.in_turn r hr).sublist.map _
    rw [List.map_map] at hids
    exact (hids.trans ((law.faithful.audience r hr).map _)).nodup law.numbered.early_ids_nodup
  have hcount := List.nodup_iff_count_le_one.mp hnodup id
  rw [List.count, List.countP_map, List.countP_eq_length_filter] at hcount
  refine le_of_eq_of_le (congrArg List.length (List.filter_congr fun u _ => ?_)) hcount
  simp [Bool.beq_eq_decide_eq]

end Turns

end Host
end ThingHost
