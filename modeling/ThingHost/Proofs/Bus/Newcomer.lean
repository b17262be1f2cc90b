import ThingHost.Proofs.Bus.Progress

/-! A subscription that is made while nothing is being delivered. All deliveries before it are over, so from
    then on the record is that of a bus which has delivered nothing yet: the subscription receives what it
    wants of what is published, in order, as long as it stays, and nothing more when it has left. -/

namespace ThingHost.Bus

variable {κ : Type} {c : Chronicle κ} {s : Sink κ} {m : Move κ}

/-! ### The record from some point on -/

/-- The record without what was published and delivered so far. -/
def Chronicle.onward (c : Chronicle κ) : Chronicle κ := { c with published := [], rounds := [], started := [] }

theorem Sound.onward (h : Sound c) (hopen : c.live.bus.completed = false)
    (hrest : AtRest c.live.bus c.rounds c.published) : Sound c.onward := by
  obtain ⟨above, base, hrun, hno, hdel, hcomp⟩ := h.frames
  obtain ⟨rfl, -⟩ := hdel.at_rest hrest.draining
  have u := hcomp.before hopen
  have hcompleting : Completing c.onward above := by
    refine ⟨fun _ => ⟨u.above, u.latecomers, u.leaving, rfl, rfl, u.closed⟩, fun hdone => ?_⟩
    exact absurd (hopen.symm.trans hdone) (by simp)
  have hdelivering : Delivering c.live.bus ([] : List (Round κ)) [] none :=
    ⟨hrest.draining, hrest.pending, by simp, fun _ => rfl, List.prefix_rfl⟩
  exact ⟨⟨h.numbered.ids, h.numbered.nextId, h.numbered.sinks, h.numbered.opened, h.numbered.closed⟩,
    ⟨by simp [Chronicle.onward], fun _ => rfl⟩, above, none, hrun, hno, hdelivering, hcompleting⟩

/-- A run goes on with the record as if it had begun there. -/
structure GoesOn (c f c' : Chronicle κ) : Prop where
  live : c'.live = f.live
  published : c'.published = c.published ++ f.published
  rounds : c'.rounds = c.rounds ++ f.rounds
  started : c'.started = c.started ++ f.started

theorem GoesOn.step {f c' : Chronicle κ} (h : GoesOn c f c') (hf : Sound f) (m : Move κ) :
    GoesOn c (f.step m) (c'.step m) := by
  refine ⟨congrArg (·.step m) h.live, ?_, ?_, ?_⟩
  · simp only [Chronicle.step, h.live, h.published, List.append_assoc]
  · show c'.live.rounds c'.rounds m = c.rounds ++ f.live.rounds f.rounds m
    rw [h.live, h.rounds]
    cases m with
    | publish e =>
      simp only [Live.rounds]
      split
      · rfl
      · exact List.append_assoc _ _ _
    | done thrown =>
      simp only [Live.rounds]
      split
      · rename_i d rest hrun
        -- The delivery that goes on is one of those since then.
        obtain ⟨-, hund, -⟩ := hf.of_next hrun
        obtain ⟨past, r, hlast, -⟩ := hund.last
        have hne : f.rounds ≠ [] := by simp [hlast]
        rw [roundsAfter, roundsAfter, extend_new _ _ hne, List.append_assoc]
      · rfl
    | _ => rfl
  · simp only [Chronicle.step, h.live, h.started, List.append_assoc]

theorem goesOn_run (h : Sound c) (hopen : c.live.bus.completed = false)
    (hrest : AtRest c.live.bus c.rounds c.published) (moves : List (Move κ)) :
    GoesOn c (c.onward.run moves) (c.run moves) := by
  induction moves using List.reverseRecOn with
  | nil => exact ⟨rfl, (List.append_nil _).symm, (List.append_nil _).symm, (List.append_nil _).symm⟩
  | append_singleton moves m ih =>
    have hrun : ∀ x : Chronicle κ, x.run (moves ++ [m]) = (x.run moves).step m := fun x => List.foldl_append
    rw [hrun, hrun]
    exact ih.step ((h.onward hopen hrest).run moves) m

/-! ### What it receives -/

/-- Nobody has received anything under a number that was not given out yet. -/
theorem Sound.unheard (h : Sound c) : c.received c.live.bus.nextId = [] := by
  obtain ⟨above, base, -, -, hdel, -⟩ := h.frames
  rw [h.faithful.received, List.map_eq_nil_iff, List.filter_eq_nil_iff]
  intro r hr hreach
  obtain ⟨t, ht, hid⟩ := List.any_eq_true.mp hreach
  simp only [Bool.and_eq_true, decide_eq_true_eq] at hid
  have haud : t.1 ∈ r.audience := (hdel.in_turn r hr).subset (List.mem_map_of_mem ht)
  have hmade : t.1 ∈ c.attached := List.mem_append_left _ ((h.faithful.audience r hr).subset haud)
  exact Nat.ne_of_lt (h.numbered.id_lt hmade) hid.1

theorem Stops.not_closed {closed : List Nat} {sinks passed : List (Sink κ)} {d : Delivery κ}
    (h : Stops closed sinks passed d) : d.current.id ∉ closed := by
  intro hmem
  have hcalled := h.called
  simp [Bus.calls, hmem] at hcalled

theorem open_of_drained {b : Bus κ} {queue : List Event} {d : Delivery κ}
    (h : code? (b.drain queue).2.2 = some (.next d)) : d.current.id ∉ b.closed := by
  cases hc : b.completed with
  | true => simp [drain_of_completed hc, code?] at h
  | false =>
    rcases drain_cases hc queue with ⟨-, ht, -⟩ | ⟨_, d', _, _, -, -, ht, -, hstop⟩ <;> rw [ht] at h
    · cases h
    · cases h
      exact hstop.not_closed

/-- A subscription that is called is open. -/
theorem open_of_called {l : Live κ} {d : Delivery κ} (h : l.started m = some (.next d)) :
    d.current.id ∉ (l.react m).1.closed := by
  cases starts_of_started h with
  | @publish e _ _ opened drains =>
    have halike : Alike l.bus (l.react (.publish e)).1 := publish_alike l.bus e
    rw [halike.closed]
    exact open_of_drained drains
  | handed top goes =>
    rw [(next_alike top _).closed]
    rcases goes with hdrains | ⟨passed, hstop⟩
    · exact open_of_drained hdrains
    · exact hstop.not_closed

/-- In a step after which a subscription is closed, or the bus completed, it receives nothing. -/
theorem received_of_left (h : Sound c) {id : Nat}
    (hleft : id ∈ (c.step m).live.bus.closed ∨ (c.step m).live.bus.completed = true) :
    (c.step m).received id = c.received id := by
  rw [received_step]
  cases hs : c.live.started m with
  | none => exact List.append_nil _
  | some r =>
    cases r with
    | next d =>
      rcases hleft with hclosed | hdone
      · have hid : d.current.id ≠ id := fun heq => open_of_called hs (heq ▸ hclosed)
        simp [Running.for?, hid]
      · rcases (step_completed c.live m).mp hdone with hdone | rfl
        · exact absurd hs (h.mute hdone m d)
        · cases hc : c.live.bus.completed with
          | true => exact absurd hs (h.mute hc _ d)
          | false =>
            obtain ⟨gone, k⟩ := complete_closes hc
            exact absurd hs (k.not_next d)
    | _ => exact List.append_nil _

/-- Attending from the first delivery, a subscription receives what it wants of what is published, up to the
    point where it leaves. -/
theorem Attends.received_run (h : Sound c) (ha : Attends s c) (moves : List (Move κ)) :
    (c.run moves).received s.id <+: (c.run moves).published.filter (wants s) := by
  induction moves using List.reverseRecOn with
  | nil => exact ha.received_wanted h
  | append_singleton moves m ih =>
    have hrun : c.run (moves ++ [m]) = (c.run moves).step m := List.foldl_append
    by_cases hleft : s.id ∈ (c.run (moves ++ [m])).live.bus.closed ∨
        (c.run (moves ++ [m])).live.bus.completed = true
    · rw [hrun] at hleft ⊢
      rw [received_of_left (h.run moves) hleft]
      refine ih.trans ?_
      simp only [Chronicle.step, List.filter_append]
      exact List.prefix_append _ _
    · obtain ⟨hstays, hopen⟩ := not_or.mp hleft
      have hopen : (c.run (moves ++ [m])).live.bus.completed = false := by simpa using hopen
      exact (ha.run h hopen hstays).received_wanted (h.run _)

/-! ### The law -/

theorem AtRest.attach (hrest : AtRest c.live.bus c.rounds c.published) (hopen : c.live.bus.completed = false)
    (screen : Event → Screening) (completes : Bool) (owner : κ) :
    AtRest (c.step (.attach screen completes owner)).live.bus (c.step (.attach screen completes owner)).rounds
      (c.step (.attach screen completes owner)).published := by
  have hreact : (c.step (.attach screen completes owner)).live.bus =
      (c.live.bus.attach screen completes owner).1 := rfl
  have hpub : (c.step (.attach screen completes owner)).published = c.published := step_published rfl
  rw [attach_open hopen] at hreact
  rw [hreact, hpub]
  exact ⟨hrest.draining, hrest.pending, hrest.finished, fun _ => hrest.all hopen, hrest.ordered⟩

/-- From the moment it is made, a subscription attends what is delivered. -/
theorem Sound.attends_onward (h : Sound c) (screen : Event → Screening) (completes : Bool) (owner : κ) :
    Attends ⟨c.live.bus.nextId, screen, completes, owner⟩ (c.step (.attach screen completes owner)).onward := by
  refine ⟨?_, by simp [Chronicle.onward], by simp [Chronicle.onward]⟩
  show _ ∈ (c.step (.attach screen completes owner)).attached
  rw [h.attached_step]
  exact List.mem_append_right _ (by simp [Live.made])

/-- What a subscription that is made while nothing is being delivered has received after some moves. -/
theorem received_of_newcomer (h : Sound c) (hopen : c.live.bus.completed = false)
    (hrest : AtRest c.live.bus c.rounds c.published) {screen : Event → Screening} {completes : Bool} {owner : κ}
    (hs : s = ⟨c.live.bus.nextId, screen, completes, owner⟩) (moves : List (Move κ)) {c' : Chronicle κ}
    (hc' : c' = (c.step (.attach screen completes owner)).run moves) :
    ∃ more, c'.published = c.published ++ more ∧ c'.received s.id <+: more.filter (wants s) ∧
      (c'.live.bus.draining = false → c'.live.bus.completed = false → s.id ∉ c'.live.bus.closed →
        c'.received s.id = more.filter (wants s)) := by
  subst hs hc'
  have hopen' : (c.step (.attach screen completes owner)).live.bus.completed = false := by
    show (c.live.bus.attach screen completes owner).1.completed = false
    rw [attach_open hopen]
    exact hopen
  have hrest' := hrest.attach hopen screen completes owner
  have hpub : (c.step (.attach screen completes owner)).published = c.published := step_published rfl
  have hfirst : (c.step (.attach screen completes owner)).received c.live.bus.nextId = [] := by
    rw [received_of_quiet (by simp [started_open hopen])]
    exact h.unheard
  have hattends := h.attends_onward screen completes owner
  have hsound : Sound (c.step (.attach screen completes owner)).onward := (h.step _).onward hopen' hrest'
  have hgo := goesOn_run (h.step _) hopen' hrest' moves
  have hreceived : ((c.step (.attach screen completes owner)).run moves).received c.live.bus.nextId =
      ((c.step (.attach screen completes owner)).onward.run moves).received c.live.bus.nextId := by
    rw [Chronicle.received, hgo.started, List.filterMap_append]
    exact congrArg (· ++ _) hfirst
  refine ⟨((c.step (.attach screen completes owner)).onward.run moves).published, ?_, ?_, fun hidle hopen'' hstays => ?_⟩
  · rw [hgo.published, hpub]
  · rw [hreceived]
    exact hattends.received_run hsound moves
  · rw [hgo.live] at hidle hopen'' hstays
    obtain ⟨above, base, -, -, hdel, -⟩ := (hsound.run moves).frames
    rw [hreceived]
    exact (hattends.run hsound hopen'' hstays).received (hsound.run moves) (hdel.at_rest hidle).2 hopen''

end ThingHost.Bus
