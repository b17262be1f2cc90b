import ThingHost.Proofs.Bus.Newcomer

/-! What a bus notes. A subscription that deals with an event on the spot leaves its note in the turn that it
    takes, so what is noted about relaying can be read off the deliveries; and a bus says that a subscription
    threw only if its code or its screen did. -/

namespace ThingHost

/-- The note says how an event was relayed. -/
def Note.relays : Note → Bool
  | .relayed .. => true
  | .relayFailed .. => true
  | _ => false

/-- The note says that the subscription of a number threw. -/
def Note.blames (id : Nat) : Note → Bool
  | .observerThrew _ _ s => s = id
  | _ => false

namespace Bus

variable {κ : Type}

/-- What is noted about relaying when a turn is taken. -/
def dealt (e : Event) (t : Sink κ × Bool) : Option Note :=
  match t.1.screen e with
  | .handled note => if t.2 && note.relays then some note else none
  | _ => none

namespace Round

/-- What is noted about relaying in a delivery. -/
def dealt (r : Round κ) : List Note := r.turns.filterMap (Bus.dealt r.event)

/-- The subscription of a number is open when its turn comes. -/
def opens (r : Round κ) (id : Nat) : Bool := r.turns.any fun t => t.1.id = id && t.2

end Round

/-- What is noted in a move. -/
def Live.noted (l : Live κ) : Move κ → List Note
  | .publish e => (l.bus.publish e).2.1
  | .complete => l.bus.complete.2.1
  | .done thrown =>
    match l.running with
    | .next d :: _ => (l.bus.afterNext d thrown).2.1
    | .complete c :: _ => (l.bus.afterComplete c thrown).2.1
    | _ => []
  | _ => []

/-! ### Notes of a delivery -/

theorem fanOut_dealt (closed : List Nat) (e : Event) (taken : Nat) (sinks : List (Sink κ)) :
    (fanOut closed e taken sinks).1.filter Note.relays = (turns closed e sinks).filterMap (dealt e) := by
  induction sinks generalizing taken with
  | nil => rfl
  | cons s rest ih =>
    cases hc : closed.contains s.id with
    | true =>
      have hnone : dealt e (turn closed s) = none := by
        simp only [dealt, turn, hc]
        split <;> rfl
      simp only [fanOut, hc, ↓reduceIte, turns, calls, Bool.not_true, Bool.false_and, Bool.false_eq_true,
        List.filterMap_cons_none hnone]
      exact ih taken
    | false =>
      cases hs : s.screen e with
      | unwanted =>
        have hnone : dealt e (turn closed s) = none := by simp only [dealt, turn, hs]
        simp only [fanOut, hc, hs, turns, calls, wants, Bool.and_false, Bool.false_eq_true, ↓reduceIte,
          List.filterMap_cons_none hnone]
        exact ih (taken + 1)
      | faulty t =>
        have hnone : dealt e (turn closed s) = none := by simp only [dealt, turn, hs]
        simp only [fanOut, hc, hs, turns, calls, wants, Bool.and_false, Bool.false_eq_true, ↓reduceIte,
          List.filterMap_cons_none hnone]
        exact ih taken
      | handled note =>
        have hdealt : dealt e (turn closed s) = if note.relays then some note else none := by
          simp [dealt, turn, hs, show s.id ∉ closed by simpa using hc]
        simp only [fanOut, hc, hs, turns, calls, wants, Bool.and_false, Bool.false_eq_true, ↓reduceIte,
          List.filterMap_cons, List.filter_cons, hdealt, ih (taken + 1)]
        cases note.relays <;> rfl
      | wanted =>
        have hnone : dealt e (turn closed s) = none := by simp only [dealt, turn, hs]
        simp only [fanOut, hc, hs, turns, calls, wants, Bool.not_false, Bool.and_self, Bool.false_eq_true, ↓reduceIte,
          List.filterMap_cons_none hnone]
        rfl

theorem drain_dealt (b : Bus κ) (queue : List Event) :
    (b.drain queue).2.1.filter Note.relays = (roundsOf b queue).flatMap Round.dealt := by
  induction queue with
  | nil => rfl
  | cons e queue ih =>
    cases hc : b.completed with
    | true =>
      rw [drain_of_completed hc, roundsOf_of_completed hc]
      rfl
    | false =>
      have hnotes := fanOut_dealt b.closed e 0 b.sinks
      rcases hf : fanOut b.closed e 0 b.sinks with ⟨notes, reached⟩
      rw [hf] at hnotes
      have hcases := fanOut_cases b.closed e 0 b.sinks
      rw [hf] at hcases
      rcases hcases with ⟨n, rfl, hq⟩ | ⟨d, passed, rfl, rfl, hstop⟩
      · simp only [drain, roundsOf, hc, hf, any_calls_of_quiet hq, Bool.false_eq_true, ↓reduceIte, List.filter_append,
          List.filter_cons, Note.relays, hnotes, ih, List.flatMap_cons]
        rfl
      · simp only [drain, roundsOf, hc, hf, hstop.any_calls, Bool.false_eq_true, ↓reduceIte, hnotes, List.flatMap_cons,
          List.flatMap_nil, List.append_nil]
        rfl

theorem afterNext_dealt (b : Bus κ) (d : Delivery κ) (thrown : Option Thrown) :
    (b.afterNext d thrown).2.1.filter Note.relays = (turns b.closed d.event d.rest).filterMap (dealt d.event) ++
      (if d.rest.any (calls b.closed d.event) then [] else roundsOf b b.pending).flatMap Round.dealt := by
  have hnotes := fanOut_dealt b.closed d.event (if thrown.isSome then d.taken else d.taken + 1) d.rest
  rcases hf : fanOut b.closed d.event (if thrown.isSome then d.taken else d.taken + 1) d.rest with ⟨notes, reached⟩
  rw [hf] at hnotes
  have hcases := fanOut_cases b.closed d.event (if thrown.isSome then d.taken else d.taken + 1) d.rest
  rw [hf] at hcases
  rcases hcases with ⟨n, rfl, hq⟩ | ⟨d', passed, rfl, hde, hstop⟩
  · simp only [afterNext, hf, List.append_assoc, List.filter_append, List.filter_cons, Note.relays, hnotes, drain_dealt,
      any_calls_of_quiet hq, Bool.false_eq_true, ↓reduceIte]
    cases thrown <;> rfl
  · have hany := hstop.any_calls
    rw [hde] at hany
    simp only [afterNext, hf, List.filter_append, hnotes, hany, ↓reduceIte, List.flatMap_nil, List.append_nil]
    cases thrown <;> rfl

theorem closeAll_dealt (b : Bus κ) (total : Nat) (sinks : List (Sink κ)) :
    (b.closeAll total sinks).2.1.filter Note.relays = [] := by
  induction sinks generalizing b with
  | nil => rfl
  | cons s rest ih =>
    simp only [closeAll]
    split
    · rfl
    · exact ih _

/-- What is noted about relaying in a move is what is noted in the turns that it takes. -/
theorem Sound.dealt_step {c : Chronicle κ} (h : Sound c) (m : Move κ) : (c.step m).rounds.flatMap Round.dealt =
    c.rounds.flatMap Round.dealt ++ (c.live.noted m).filter Note.relays := by
  show (c.live.rounds c.rounds m).flatMap Round.dealt = _
  cases m with
  | publish e =>
    simp only [Live.rounds, Live.noted, Bus.publish]
    cases hc : c.live.bus.completed with
    | true => exact (List.append_nil _).symm
    | false =>
      cases c.live.bus.draining with
      | true => exact (List.append_nil _).symm
      | false =>
        simp only [Bool.or_self, Bool.false_eq_true, ↓reduceIte, List.flatMap_append]
        rw [drain_dealt]
  | complete =>
    simp only [Live.rounds, Live.noted, Bus.complete]
    split
    · exact (List.append_nil _).symm
    · rw [closeAll_dealt, List.append_nil]
  | done thrown =>
    simp only [Live.rounds, Live.noted]
    rcases hrun : c.live.running with _ | ⟨r, rest⟩
    · exact (List.append_nil _).symm
    · cases r with
      | next d =>
        obtain ⟨-, hund, -⟩ := h.of_next hrun
        obtain ⟨past, r, hrounds, -, hevent, -⟩ := hund.last
        simp only [roundsAfter, hrounds, extend_append, List.flatMap_append, afterNext_dealt, List.flatMap_singleton,
          Round.dealt, List.filterMap_append, hevent, List.append_assoc]
      | complete t =>
        simp only [afterComplete, List.filter_append, closeAll_dealt]
        cases thrown <;> exact (List.append_nil _).symm
      | late id => exact (List.append_nil _).symm
  | _ => exact (List.append_nil _).symm

/-! ### Turns of a closed subscription -/

theorem turn_of_closed {closed : List Nat} {s : Sink κ} (hid : s.id ∈ closed) : (turn closed s).2 = false := by
  simp [turn, hid]

theorem not_open_of_closed {closed : List Nat} {e : Event} {sinks : List (Sink κ)} {id : Nat} (hid : id ∈ closed) :
    (turns closed e sinks).any (fun t => t.1.id = id && t.2) = false := by
  rw [List.any_eq_false]
  intro t ht
  obtain ⟨s, -, rfl⟩ := List.mem_map.mp (turns_subset ht)
  intro hopen
  obtain ⟨hs, hfree⟩ := (Bool.and_eq_true _ _).mp hopen
  obtain rfl := of_decide_eq_true hs
  exact absurd hfree (Bool.eq_false_iff.mp (turn_of_closed hid))

theorem roundsOf_not_open {b : Bus κ} {queue : List Event} {id : Nat} (hid : id ∈ b.closed) :
    (roundsOf b queue).filter (·.opens id) = [] := by
  rw [List.filter_eq_nil_iff]
  intro r hr hopen
  obtain ⟨t, ht, hit⟩ := List.any_eq_true.mp hopen
  obtain ⟨s, -, rfl⟩ := List.mem_map.mp (roundsOf_turns hr ht)
  obtain ⟨hs, hfree⟩ := (Bool.and_eq_true _ _).mp hit
  obtain rfl := of_decide_eq_true hs
  exact absurd hfree (Bool.eq_false_iff.mp (turn_of_closed hid))

/-- Turns that are not open for a subscription do not reach it. -/
theorem extend_not_open {more : List (Sink κ × Bool)} {rounds : List (Round κ)} {id : Nat}
    (hmore : more.any (fun t => t.1.id = id && t.2) = false) :
    ((extend more rounds).filter (·.opens id)).map (·.event) = (rounds.filter (·.opens id)).map (·.event) := by
  rcases List.eq_nil_or_concat rounds with rfl | ⟨past, r, rfl⟩
  · rfl
  · rw [List.concat_eq_append, extend_append, List.filter_append, List.filter_append, List.map_append, List.map_append]
    have hsame : Round.opens { r with turns := r.turns ++ more } id = r.opens id := by
      simp only [Round.opens, List.any_append, hmore, Bool.or_false]
    simp only [List.filter_cons, hsame, List.filter_nil]
    cases r.opens id <;> rfl

section Step
variable {c : Chronicle κ} {id : Nat}

theorem Sound.rest_early (h : Sound c) {d : Delivery κ} {rest : List (Running κ)}
    (hrun : c.live.running = .next d :: rest) : d.rest ⊆ c.early := by
  obtain ⟨-, hund, -⟩ := h.of_next hrun
  obtain ⟨past, r, hr, -, -, haud⟩ := hund.last
  intro s hs
  have hsr : s ∈ r.audience := haud ▸ List.mem_append_right _ hs
  exact (h.faithful.audience r (by rw [hr]; simp)).subset hsr

/-- On a completed bus the rest of the audience of a delivery is closed. -/
theorem Sound.rest_closed (h : Sound c) {d : Delivery κ} {rest : List (Running κ)}
    (hrun : c.live.running = .next d :: rest) (hdone : c.live.bus.completed = true) :
    ∀ s ∈ d.rest, s.id ∈ c.live.bus.closed := by
  obtain ⟨-, -, hcomp⟩ := h.of_next hrun
  intro s hs
  rcases (hcomp.after hdone).closed s (List.mem_append_left _ (h.rest_early hrun hs)) with hcl | hrem
  · exact hcl
  · cases hrem

/-- A subscription that is closed, or that is on a completed bus, has no open turn any more. -/
theorem Sound.opens_step (h : Sound c) (hid : id ∈ c.live.bus.closed ∨ c.live.bus.completed = true) (m : Move κ) :
    ((c.step m).rounds.filter (·.opens id)).map (·.event) = (c.rounds.filter (·.opens id)).map (·.event) := by
  show ((c.live.rounds c.rounds m).filter (·.opens id)).map (·.event) = _
  have hnone : ∀ queue, (roundsOf c.live.bus queue).filter (·.opens id) = [] := by
    intro queue
    rcases hid with hid | hdone
    · exact roundsOf_not_open hid
    · rw [roundsOf_of_completed hdone]
      rfl
  cases m with
  | publish e =>
    simp only [Live.rounds]
    split
    · rfl
    · rw [List.filter_append, hnone, List.append_nil]
  | done thrown =>
    simp only [Live.rounds]
    rcases hrun : c.live.running with _ | ⟨r, rest⟩
    · rfl
    · cases r with
      | next d =>
        have hturns : (turns c.live.bus.closed d.event d.rest).any (fun t => t.1.id = id && t.2) = false := by
          rcases hid with hid | hdone
          · exact not_open_of_closed hid
          · rw [List.any_eq_false]
            intro t ht
            obtain ⟨s, hs, rfl⟩ := List.mem_map.mp (turns_subset ht)
            simp [turn_of_closed (h.rest_closed hrun hdone s hs)]
        simp only [roundsAfter, List.filter_append, List.map_append, extend_not_open hturns]
        split
        · exact List.append_nil _
        · rw [hnone]
          exact List.append_nil _
      | complete t => rfl
      | late other => rfl
  | _ => rfl

theorem left_step (hid : id ∈ c.live.bus.closed ∨ c.live.bus.completed = true) (m : Move κ) :
    id ∈ (c.step m).live.bus.closed ∨ (c.step m).live.bus.completed = true :=
  hid.imp (step_closed c.live m) fun hdone => (step_completed c.live m).mpr (.inl hdone)

theorem opens_run (h : Sound c) (hid : id ∈ c.live.bus.closed ∨ c.live.bus.completed = true) (moves : List (Move κ)) :
    ((c.run moves).rounds.filter (·.opens id)).map (·.event) = (c.rounds.filter (·.opens id)).map (·.event) := by
  induction moves generalizing c with
  | nil => rfl
  | cons m moves ih => exact (ih (h.step m) (left_step hid m)).trans (h.opens_step hid m)

/-- And it receives nothing any more. -/
theorem received_run (h : Sound c) (hid : id ∈ c.live.bus.closed ∨ c.live.bus.completed = true)
    (moves : List (Move κ)) : (c.run moves).received id = c.received id := by
  induction moves generalizing c with
  | nil => rfl
  | cons m moves ih => exact (ih (h.step m) (left_step hid m)).trans (received_of_left h (left_step hid m))

end Step

/-! ### What a step does for whoever is there -/

theorem extend_nil (rounds : List (Round κ)) : extend [] rounds = rounds := by
  rcases List.eq_nil_or_concat rounds with rfl | ⟨past, r, rfl⟩
  · rfl
  · rw [List.concat_eq_append, extend_append, List.append_nil]

/-- A turn that is taken by an early subscription, as it is open or closed on the bus; on a completed bus it is closed. -/
structure Chronicle.Takes (c : Chronicle κ) (t : Sink κ × Bool) : Prop where
  early : t.1 ∈ c.early
  turn : t = turn c.live.bus.closed t.1
  done : c.live.bus.completed = true → t.2 = false

/-- A move goes on with the last delivery at most, and starts others for those who are attached. -/
theorem Sound.rounds_step {c : Chronicle κ} (h : Sound c) (m : Move κ) : ∃ more begun,
    (c.step m).rounds = extend more c.rounds ++ begun ∧ (∀ r ∈ begun, r.audience = c.live.bus.sinks) ∧
      ∀ t ∈ more ++ begun.flatMap (·.turns), c.Takes t := by
  have still : ∃ more begun, c.rounds = extend more c.rounds ++ begun ∧
      (∀ r ∈ begun, r.audience = c.live.bus.sinks) ∧ ∀ t ∈ more ++ begun.flatMap (·.turns), c.Takes t :=
    ⟨[], [], by rw [extend_nil, List.append_nil], by simp, by simp⟩
  have started : ∀ queue, ∀ t ∈ (roundsOf c.live.bus queue).flatMap (·.turns), c.Takes t := by
    intro queue t ht
    obtain ⟨r, hr, ht⟩ := List.mem_flatMap.mp ht
    obtain ⟨s, hs, rfl⟩ := List.mem_map.mp (roundsOf_turns hr ht)
    refine ⟨h.numbered.sinks.subset hs, rfl, fun hdone => ?_⟩
    rw [roundsOf_of_completed hdone] at hr
    cases hr
  show ∃ more begun, c.live.rounds c.rounds m = _ ∧ _
  cases m with
  | publish e =>
    simp only [Live.rounds]
    split
    · exact still
    · refine ⟨[], roundsOf c.live.bus (c.live.bus.pending ++ [e]), ?_, fun r hr => roundsOf_audience hr, started _⟩
      rw [extend_nil]
  | done thrown =>
    simp only [Live.rounds]
    rcases hrun : c.live.running with _ | ⟨r, rest⟩
    · exact still
    · cases r with
      | next d =>
        refine ⟨_, _, rfl, fun r hr => ?_, fun t ht => ?_⟩
        · split at hr
          · cases hr
          · exact roundsOf_audience hr
        · rcases List.mem_append.mp ht with ht | ht
          · obtain ⟨s, hs, rfl⟩ := List.mem_map.mp (turns_subset ht)
            exact ⟨h.rest_early hrun hs, rfl, fun hdone => turn_of_closed (h.rest_closed hrun hdone s hs)⟩
          · split at ht
            · cases ht
            · exact started _ t ht
      | _ => exact still
  | _ => exact still

/-- On a bus that goes on, only leaving closes a subscription. -/
theorem Sound.closed_step {c : Chronicle κ} (h : Sound c) {m : Move κ} (hopen : (c.step m).live.bus.completed = false)
    {id : Nat} (hid : id < c.live.bus.nextId) :
    id ∈ (c.step m).live.bus.closed ↔ id ∈ c.live.bus.closed ∨ m = .unsubscribe id := by
  have hopen' := open_of_step c.live m hopen
  show id ∈ (c.live.react m).1.closed ↔ _
  cases m with
  | publish e =>
    rw [show (c.live.react (.publish e)).1.closed = _ from (publish_alike c.live.bus e).closed]
    simp
  | attach screen completes owner =>
    rw [show (c.live.react (.attach screen completes owner)).1 = _ from attach_open hopen' screen completes owner]
    simp
  | unsubscribe other =>
    refine ⟨fun hcl => ?_, fun hcl => hcl.elim (step_closed c.live (.unsubscribe other)) fun hm => ?_⟩
    · rcases unsubscribe_cases c.live.bus other with heq | ⟨-, heq⟩
      · exact .inl (heq ▸ hcl)
      · rw [show (c.live.react (.unsubscribe other)).1 = _ from heq] at hcl
        exact (List.mem_cons.mp hcl).symm.imp_right fun hother => congrArg Move.unsubscribe hother.symm
    · cases hm
      exact closed_of_unsubscribe hid
  | complete => exact absurd (hopen.symm.trans ((step_completed c.live .complete).mpr (.inr rfl))) (by simp)
  | done thrown =>
    rcases hrun : c.live.running with _ | ⟨r, rest⟩
    · simp [Live.react, hrun]
    · cases r with
      | next d =>
        rw [(next_alike hrun thrown).closed]
        simp
      | _ =>
        obtain ⟨-, -, -, -, -, hdone, -⟩ := h.of_other hrun (by simp)
        exact absurd (hopen'.symm.trans hdone) (by simp)

/-! ### Whose code is called -/

theorem mem_of_drain {b : Bus κ} {queue : List Event} {d : Delivery κ} (hs : code? (b.drain queue).2.2 = some (.next d)) :
    d.current ∈ b.sinks := by
  cases hc : b.completed with
  | true =>
    rw [drain_of_completed hc] at hs
    cases hs
  | false =>
    rcases drain_cases hc queue with ⟨-, ht, -⟩ | ⟨through, d', passed, later, -, -, ht, -, hstop⟩
    · rw [ht] at hs
      cases hs
    · rw [ht] at hs
      cases hs
      rw [hstop.split]
      exact List.mem_append_right _ List.mem_cons_self

/-- Whoever is handed an event was made before. -/
theorem Sound.early_of_started {c : Chronicle κ} (h : Sound c) {m : Move κ} {d : Delivery κ}
    (hs : c.live.started m = some (.next d)) : d.current ∈ c.early := by
  cases starts_of_started hs with
  | publish opened drains => exact h.numbered.sinks.subset (mem_of_drain drains)
  | handed top goes =>
    rcases goes with hdrains | ⟨passed, hstop⟩
    · exact h.numbered.sinks.subset (mem_of_drain hdrains)
    · refine h.rest_early top ?_
      rw [hstop.split]
      exact List.mem_append_right _ List.mem_cons_self

/-! ### Whom a bus blames -/

/-- The screen of a subscription never fails under the number, nor says that somebody did. -/
def Blameless (id : Nat) (s : Sink κ) : Prop :=
  ∀ e, (∀ t, s.screen e = .faulty t → s.id ≠ id) ∧ ∀ note, s.screen e = .handled note → note.blames id = false

section Blame
variable {id : Nat}

theorem fanOut_blameless (closed : List Nat) (e : Event) (taken : Nat) {sinks : List (Sink κ)}
    (hs : ∀ s ∈ sinks, Blameless id s) : ∀ note ∈ (fanOut closed e taken sinks).1, note.blames id = false := by
  induction sinks generalizing taken with
  | nil => exact fun note hnote => absurd hnote List.not_mem_nil
  | cons s rest ih =>
    have hrest : ∀ x ∈ rest, Blameless id x := fun x hx => hs x (List.mem_cons_of_mem _ hx)
    obtain ⟨hfaulty, hhandled⟩ := hs s List.mem_cons_self e
    intro note hnote
    simp only [fanOut] at hnote
    split at hnote
    · exact ih _ hrest note hnote
    · split at hnote
      · exact ih _ hrest note hnote
      · rename_i t ht
        rcases List.mem_cons.mp hnote with rfl | hnote
        · simpa [Note.blames] using hfaulty t ht
        · exact ih _ hrest note hnote
      · rename_i n hn
        rcases List.mem_cons.mp hnote with rfl | hnote
        · exact hhandled _ hn
        · exact ih _ hrest note hnote
      · cases hnote

theorem drain_blameless {b : Bus κ} (hs : ∀ s ∈ b.sinks, Blameless id s) (queue : List Event) :
    ∀ note ∈ (b.drain queue).2.1, note.blames id = false := by
  induction queue with
  | nil => exact fun note hnote => absurd hnote List.not_mem_nil
  | cons e queue ih =>
    intro note hnote
    simp only [drain] at hnote
    have hfan := fanOut_blameless b.closed e 0 hs
    split at hnote
    · cases hnote
    · split at hnote
      · rename_i hf
        rw [hf] at hfan
        exact hfan note hnote
      · rename_i hf
        rw [hf] at hfan
        rcases List.mem_append.mp hnote with hnote | hnote
        · exact hfan note hnote
        · rcases List.mem_cons.mp hnote with rfl | hnote
          · rfl
          · exact ih note hnote

theorem afterNext_blameless {b : Bus κ} {d : Delivery κ} {thrown : Option Thrown} (hs : ∀ s ∈ b.sinks, Blameless id s)
    (hrest : ∀ s ∈ d.rest, Blameless id s) (hcode : thrown.isSome → d.current.id ≠ id) :
    ∀ note ∈ (b.afterNext d thrown).2.1, note.blames id = false := by
  have hthrew : ∀ t, thrown = some t → (Note.observerThrew t d.event.name d.current.id).blames id = false := by
    rintro t rfl
    simpa [Note.blames] using hcode rfl
  have hfan := fanOut_blameless b.closed d.event (if thrown.isSome then d.taken else d.taken + 1) hrest
  intro note hnote
  simp only [afterNext] at hnote
  split at hnote
  · rename_i hf
    rw [hf] at hfan
    rcases List.mem_append.mp hnote with hnote | hnote
    · split at hnote
      · obtain rfl := List.mem_singleton.mp hnote
        exact hthrew _ rfl
      · cases hnote
    · exact hfan note hnote
  · rename_i hf
    rw [hf] at hfan
    rcases List.mem_append.mp hnote with hnote | hnote
    · rcases List.mem_append.mp hnote with hnote | hnote
      · split at hnote
        · obtain rfl := List.mem_singleton.mp hnote
          exact hthrew _ rfl
        · cases hnote
      · exact hfan note hnote
    · rcases List.mem_cons.mp hnote with rfl | hnote
      · rfl
      · exact drain_blameless hs _ note hnote

theorem closeAll_blameless (b : Bus κ) (total : Nat) (sinks : List (Sink κ)) :
    ∀ note ∈ (b.closeAll total sinks).2.1, note.blames id = false := by
  induction sinks generalizing b with
  | nil =>
    intro note hnote
    obtain rfl := List.mem_singleton.mp hnote
    rfl
  | cons s rest ih =>
    intro note hnote
    simp only [closeAll] at hnote
    split at hnote
    · cases hnote
    · exact ih _ note hnote

/-- A bus says that a subscription threw only if its code did, or a screen says so. -/
theorem Live.blameless {l : Live κ} (hs : ∀ s ∈ l.bus.sinks, Blameless id s)
    (hrest : ∀ d rest, l.running = .next d :: rest → ∀ s ∈ d.rest, Blameless id s) {m : Move κ}
    (hcode : ∀ d rest t, l.running = .next d :: rest → m = .done (some t) → d.current.id ≠ id) :
    ∀ note ∈ l.noted m, note.blames id = false := by
  intro note hnote
  cases m with
  | publish e =>
    simp only [Live.noted, Bus.publish] at hnote
    split at hnote
    · obtain rfl := List.mem_singleton.mp hnote
      rfl
    · split at hnote
      · cases hnote
      · exact drain_blameless hs _ note hnote
  | complete =>
    simp only [Live.noted, Bus.complete] at hnote
    split at hnote
    · cases hnote
    · exact closeAll_blameless _ _ _ note hnote
  | done thrown =>
    simp only [Live.noted] at hnote
    split at hnote
    · rename_i d rest hrun
      refine afterNext_blameless hs (hrest d rest hrun) (fun hsome => ?_) note hnote
      obtain ⟨t, rfl⟩ := Option.isSome_iff_exists.mp hsome
      exact hcode d rest t hrun rfl
    · simp only [afterComplete] at hnote
      rcases List.mem_append.mp hnote with hnote | hnote
      · cases thrown with
        | none => cases hnote
        | some t =>
          obtain rfl := List.mem_singleton.mp hnote
          rfl
      · exact closeAll_blameless _ _ _ note hnote
    · cases hnote
  | _ => cases hnote

end Blame

end Bus
end ThingHost
