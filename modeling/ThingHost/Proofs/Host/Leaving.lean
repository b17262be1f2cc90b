import ThingHost.Proofs.Bus.Leaving
import ThingHost.Proofs.Host.Completion

/-! The law of leaving, for every bus of a host and everything that can be done with the host. Whoever leaves is
    handed no event any more, in the middle of a delivery or later; and is not told of the completion either, with
    one exception: a completion under way tells also those who leave before it comes to them. -/

namespace ThingHost
namespace Host

/-- Leaving a subscription. -/
def leave (ref : BusRef) (id : Nat) : Input := .operate (.unsubscribe ⟨ref, id⟩)

/-- A completion of a bus has still to come to the subscription of a number. -/
def awaits (ref : BusRef) (h : Host) (id : Nat) : Bool := h.stack.any fun f =>
  match f.on? ref with
  | some (.complete c) => c.rest.any (·.id = id)
  | _ => false

/-- What becomes of the subscription `s` of a bus when it leaves after the run `earlier`; `later` is what comes
    then. -/
structure Leaves (ref : BusRef) (s : Sink Listener) (earlier later : List Input) : Prop where
  /-- It is closed for good. -/
  closed : (reached (earlier ++ leave ref s.id :: later)).isClosed ⟨ref, s.id⟩ = true
  mute : seen (handed? ⟨ref, s.id⟩) (reached earlier) (leave ref s.id :: later) = []
  /-- It is told of the completion only if it wants to know and the completion had still to come to it, -/
  told : s.id ∈ seen (notified? ref) (reached earlier) (leave ref s.id :: later) →
    awaits ref (reached earlier) s.id = true ∧ s.completes = true
  /-- and then it has not been told yet, and it is told by the end of the completion. -/
  owed : awaits ref (reached earlier) s.id = true → s.completes = true →
    s.id ∉ seen (notified? ref) .new earlier ∧
      (completing ref (reached (earlier ++ leave ref s.id :: later)) = false →
        s.id ∈ seen (notified? ref) (reached earlier) (leave ref s.id :: later))

section Record
variable {ref : BusRef} {earlier later : List Input} {s : Sink Listener}

theorem awaits_eq (ref : BusRef) (h : Host) (id : Nat) :
    awaits ref h id = (Bus.remaining (h.view ref).running).any (·.id = id) := by
  simp only [awaits, Bus.remaining, view, List.any_flatMap, List.any_filterMap]
  congr 1
  funext f
  cases f.on? ref with
  | none => rfl
  | some r => cases r <;> rfl

theorem remaining_of_over {inputs : List Input} (hover : completing ref (reached inputs) = false) :
    Bus.remaining (record ref inputs).live.running = [] := by
  rw [completing_eq, ← record_live] at hover
  refine Bus.remaining_eq_nil fun c hmem => ?_
  have := List.any_eq_false.mp hover _ hmem
  simp at this

theorem moveOn_leave (hs : s ∈ made ref earlier) :
    moveOn ref (reached earlier) (leave ref s.id) = some (.unsubscribe s.id) := by
  obtain ⟨b, hb⟩ := Option.isSome_iff_exists.mp (there_of_made hs)
  simp [moveOn, on_eq_some, move?, asks?, leave, hb]

theorem record_of_leave (hs : s ∈ made ref earlier) (later : List Input) :
    record ref (earlier ++ leave ref s.id :: later) = ((record ref earlier).step (.unsubscribe s.id)).run
      (seen (moveOn ref) (reached (earlier ++ [leave ref s.id])) later) := by
  have hsplit : earlier ++ leave ref s.id :: later = earlier ++ [leave ref s.id] ++ later := by simp
  rw [hsplit, record_append, record_snoc, moveOn_leave hs]

theorem issued_of_made (hs : s ∈ made ref earlier) : s.id < (record ref earlier).live.bus.nextId :=
  (record_sound ref earlier).numbered.id_lt (record_attached ref earlier ▸ hs)

theorem closed_of_leave (hs : s ∈ made ref earlier) (later : List Input) :
    s.id ∈ (record ref (earlier ++ leave ref s.id :: later)).live.bus.closed := by
  rw [record_of_leave hs]
  exact Bus.closed_run (Bus.closed_of_unsubscribe (issued_of_made hs)) _

theorem mute_of_leave (hs : s ∈ made ref earlier) (later : List Input) :
    seen (handed? ⟨ref, s.id⟩) (reached earlier) (leave ref s.id :: later) = [] := by
  have hclosed : s.id ∈ ((record ref earlier).step (.unsubscribe s.id)).live.bus.closed :=
    Bus.closed_of_unsubscribe (issued_of_made hs)
  have hsound := record_sound ref earlier
  have hsame : received ⟨ref, s.id⟩ (earlier ++ leave ref s.id :: later) = received ⟨ref, s.id⟩ earlier := by
    rw [received_eq, received_eq, record_of_leave hs, Bus.received_of_closed (hsound.step _) hclosed]
    exact Bus.received_of_left hsound (.inl hclosed)
  rw [received, seen_append] at hsame
  exact List.append_right_eq_self.mp hsame

/-- Unless a completion has still to come to it, it is never told. -/
theorem untold_of_leave (hs : s ∈ made ref earlier) (hfree : awaits ref (reached earlier) s.id = false)
    (later : List Input) : s.id ∉ seen (notified? ref) (reached earlier) (leave ref s.id :: later) := by
  have hnone : ∀ x ∈ Bus.remaining (record ref earlier).live.running, x.id ≠ s.id := by
    rw [awaits_eq, ← record_live] at hfree
    simpa using hfree
  have hsound := record_sound ref earlier
  obtain ⟨more, hmore, hnot⟩ := (hsound.gone (issued_of_made hs) hnone).run (hsound.step _)
    (seen (moveOn ref) (reached (earlier ++ [leave ref s.id])) later)
  have hall : seen (notified? ref) .new (earlier ++ leave ref s.id :: later) =
      seen (notified? ref) .new earlier ++ more.filterMap Bus.Running.notified? := by
    rw [notified_eq, notified_eq, record_of_leave hs, hmore, List.filterMap_append]
    exact congrArg (fun l => List.filterMap _ l ++ _) (List.append_nil _)
  rw [seen_append] at hall
  exact List.append_cancel_left hall ▸ hnot

/-- Whoever is told was made, and wants to know. -/
theorem wants_of_notified {inputs : List Input} (hs : s ∈ made ref inputs)
    (htold : s.id ∈ seen (notified? ref) .new inputs) : s.completes = true := by
  have hsound := record_sound ref inputs
  obtain ⟨x, hx, hid, hwants⟩ := hsound.wants_of_told ((notified_perm ref inputs).mem_iff.mp htold)
  rw [record_attached] at hx
  have hnodup : ((made ref inputs).map (·.id)).Nodup := record_attached ref inputs ▸ hsound.numbered.ids_nodup
  exact List.inj_on_of_nodup_map hnodup hx hs hid ▸ hwants

theorem owed_of_leave (hs : s ∈ made ref earlier) (hawaits : awaits ref (reached earlier) s.id = true)
    (hwants : s.completes = true) : s.id ∉ seen (notified? ref) .new earlier ∧
      (completing ref (reached (earlier ++ leave ref s.id :: later)) = false →
        s.id ∈ seen (notified? ref) (reached earlier) (leave ref s.id :: later)) := by
  have hsound := record_sound ref earlier
  rw [awaits_eq, ← record_live, List.any_eq_true] at hawaits
  obtain ⟨x, hx, hid⟩ := hawaits
  -- No other subscription has the number.
  obtain rfl : x = s := by
    have hmade : x ∈ made ref earlier := record_attached ref earlier ▸ List.mem_append_left _ (hsound.early_of_remaining hx)
    exact List.inj_on_of_nodup_map (record_attached ref earlier ▸ hsound.numbered.ids_nodup) hmade hs (by simpa using hid)
  have hbefore : x.id ∉ seen (notified? ref) .new earlier := fun h =>
    hsound.untold_of_remaining hx ((notified_perm ref earlier).mem_iff.mp h)
  refine ⟨hbefore, fun hover => ?_⟩
  have hend : x.id ∈ (record ref (earlier ++ leave ref x.id :: later)).told := by
    have hover := remaining_of_over hover
    rw [record_of_leave hs] at hover ⊢
    exact hsound.told_of_remaining hx hwants (.unsubscribe x.id :: _) hover
  have hall : x.id ∈ seen (notified? ref) .new (earlier ++ leave ref x.id :: later) :=
    (notified_perm ref _).mem_iff.mpr (List.mem_append_left _ hend)
  rw [seen_append] at hall
  exact (List.mem_append.mp hall).resolve_left hbefore

theorem leaving_law (hs : s ∈ made ref earlier) (later : List Input) : Leaves ref s earlier later := by
  refine ⟨?_, mute_of_leave hs later, fun htold => ⟨?_, ?_⟩, fun hawaits hwants => owed_of_leave hs hawaits hwants⟩
  · rw [isClosed_eq, ← record_bus]
    simpa [Bus.isClosed] using closed_of_leave hs later
  · by_contra hfree
    exact untold_of_leave hs (by simpa using hfree) later htold
  · have hmade : s ∈ made ref (earlier ++ leave ref s.id :: later) := by
      rw [made, seen_append]
      exact List.mem_append_left _ hs
    refine wants_of_notified hmade ?_
    rw [seen_append]
    exact List.mem_append_right _ htold

end Record

/-- Two subscriptions of a bus that completes, while the first of them is being told. -/
def closingTime : List Input :=
  [ .operate .newBus,
    .operate (.subscribe (.bus 0 fun _ => .ok true) 1 true),
    .operate (.subscribe (.bus 0 fun _ => .ok true) 2 true),
    .operate (.complete 0) ]

theorem leaves_at_closing_time : let s : Sink Listener := ⟨2, ExposedThing.screenBy fun _ => .ok true, true, .client 2⟩
    Leaves (.alone 0) s closingTime [.reply (.done .undefined)] ∧
      awaits (.alone 0) (reached (closingTime.take 3)) 2 = false ∧ awaits (.alone 0) (reached closingTime) 2 = true := by
  intro s
  have hmade : made (.alone 0) closingTime =
      [⟨1, ExposedThing.screenBy fun _ => .ok true, true, .client 1⟩, s] := by rfl
  exact ⟨leaving_law (hmade ▸ List.mem_cons_of_mem _ List.mem_cons_self) _, by rfl, by rfl⟩

/-- The second subscription leaves before it is told, and is told all the same. -/
theorem told_after_leaving : (reached closingTime).isClosed ⟨.alone 0, 2⟩ = false ∧
    2 ∉ seen (notified? (.alone 0)) .new closingTime ∧
    ((reached closingTime).step (leave (.alone 0) 2)).2 = [.returned (.ok .none)] ∧
    seen (notified? (.alone 0)) (reached (closingTime ++ [leave (.alone 0) 2])) [.reply (.done .undefined)] = [2] :=
  ⟨by rfl, by decide, by rfl, by rfl⟩

end Host
end ThingHost
