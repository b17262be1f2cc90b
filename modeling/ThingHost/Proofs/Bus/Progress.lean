import Mathlib.Data.List.Induction
import ThingHost.Proofs.Bus.Law

/-! How deliveries go on. A delivery that has started keeps its event and its audience, one that is finished
    stays as it is, and an event that is published while nothing is being delivered is delivered at once. -/

namespace ThingHost.Bus

variable {κ : Type} {c : Chronicle κ}

/-- What a delivery is of, and for whom. -/
def Round.head (r : Round κ) : Event × List (Sink κ) := (r.event, r.audience)

theorem extend_heads (more : List (Sink κ × Bool)) (rounds : List (Round κ)) :
    (extend more rounds).map Round.head = rounds.map Round.head := by
  rcases List.eq_nil_or_concat rounds with rfl | ⟨past, r, rfl⟩
  · rfl
  · rw [List.concat_eq_append, extend_append]
    simp [Round.head]

/-- A delivery that starts is for those who are attached when it does; whoever comes later is not in the audience. -/
theorem step_begun (c : Chronicle κ) (m : Move κ) : ∃ begun : List (Round κ), (c.step m).rounds.map Round.head =
    c.rounds.map Round.head ++ begun.map Round.head ∧ ∀ r ∈ begun, r.audience = c.live.bus.sinks := by
  have still : ∃ begun : List (Round κ), c.rounds.map Round.head = c.rounds.map Round.head ++ begun.map Round.head ∧
      ∀ r ∈ begun, r.audience = c.live.bus.sinks := ⟨[], by simp, by simp⟩
  show ∃ begun : List (Round κ), (c.live.rounds c.rounds m).map Round.head = _ ∧ _
  cases m with
  | publish e =>
    simp only [Live.rounds]
    split
    · exact still
    · exact ⟨roundsOf c.live.bus (c.live.bus.pending ++ [e]), List.map_append, fun r hr => roundsOf_audience hr⟩
  | done thrown =>
    simp only [Live.rounds]
    split
    · rename_i d rest _
      rw [roundsAfter, List.map_append, extend_heads]
      split
      · exact ⟨[], rfl, by simp⟩
      · exact ⟨roundsOf c.live.bus c.live.bus.pending, rfl, fun r hr => roundsOf_audience hr⟩
    · exact still
  | _ => exact still

theorem step_heads (c : Chronicle κ) (m : Move κ) : c.rounds.map Round.head <+: (c.step m).rounds.map Round.head := by
  obtain ⟨begun, hbegun, -⟩ := step_begun c m
  exact hbegun ▸ List.prefix_append _ _

theorem run_heads (c : Chronicle κ) (moves : List (Move κ)) :
    c.rounds.map Round.head <+: (c.run moves).rounds.map Round.head := by
  induction moves generalizing c with
  | nil => exact List.prefix_rfl
  | cons m moves ih => exact (step_heads c m).trans (ih (c.step m))

theorem extend_new (more : List (Sink κ × Bool)) (old : List (Round κ)) {new : List (Round κ)} (h : new ≠ []) :
    extend more (old ++ new) = old ++ extend more new := by
  rcases List.eq_nil_or_concat new with rfl | ⟨past, r, rfl⟩
  · exact absurd rfl h
  · rw [List.concat_eq_append, ← List.append_assoc, extend_append, extend_append, List.append_assoc]

theorem extend_ne_nil {more : List (Sink κ × Bool)} {rounds : List (Round κ)} (h : rounds ≠ []) :
    extend more rounds ≠ [] := by
  rcases List.eq_nil_or_concat rounds with rfl | ⟨past, r, rfl⟩
  · exact absurd rfl h
  · rw [List.concat_eq_append, extend_append]
    simp

/-- The deliveries from some point on; while one is under way, it is one of them. -/
def Since (old : List (Round κ)) (c : Chronicle κ) : Prop :=
  ∃ new, c.rounds = old ++ new ∧ (c.live.bus.draining = true → new ≠ [])

theorem Since.step {old : List (Round κ)} (h : Sound c) (hs : Since old c) (m : Move κ) : Since old (c.step m) := by
  obtain ⟨new, hnew, hdr⟩ := hs
  -- Without a new delivery it is enough that nothing has changed about the flag.
  have same : (c.step m).rounds = c.rounds → (c.live.react m).1.draining = c.live.bus.draining → Since old (c.step m) :=
    fun hr hd => ⟨new, hr.trans hnew, fun hd' => hdr (hd.symm.trans hd')⟩
  cases m with
  | publish e =>
    rcases publish_cases c.live.bus e with ⟨hc, hb, -⟩ | ⟨-, hd, hb, -⟩ | ⟨hc, hd, -⟩
    · exact same (by simp [Chronicle.step, Live.rounds, hc]) (by simp only [Live.react, hb])
    · exact same (by simp [Chronicle.step, Live.rounds, hd]) (by simp only [Live.react, hb])
    · refine ⟨new ++ roundsOf c.live.bus (c.live.bus.pending ++ [e]), ?_, fun _ => ?_⟩
      · simp [Chronicle.step, Live.rounds, hc, hd, hnew]
      · cases hp : c.live.bus.pending <;> simp [roundsOf, hc]
  | attach screen completes owner =>
    refine same rfl ?_
    simp only [Live.react, Bus.attach]
    split <;> rfl
  | unsubscribe id =>
    refine same rfl ?_
    simp only [Live.react, Bus.unsubscribe]
    split <;> rfl
  | complete =>
    refine same rfl ?_
    cases hc : c.live.bus.completed with
    | true => rw [react_complete hc]
    | false =>
      obtain ⟨gone, k⟩ := complete_closes hc
      rw [k.bus]
      rfl
  | done thrown =>
    rcases hrun : c.live.running with _ | ⟨r, rest⟩
    · exact same (by simp only [Chronicle.step, Live.rounds, hrun]) (by simp only [Live.react, hrun])
    · cases r with
      | next d =>
        obtain ⟨-, hund, -⟩ := h.of_next hrun
        have hne := hdr hund.draining
        refine ⟨extend (turns c.live.bus.closed d.event d.rest) new ++
          if d.rest.any (calls c.live.bus.closed d.event) then [] else roundsOf c.live.bus c.live.bus.pending, ?_, ?_⟩
        · simp only [Chronicle.step, Live.rounds, hrun, roundsAfter, hnew, extend_new _ _ hne, List.append_assoc]
        · exact fun _ => List.append_ne_nil_of_left_ne_nil (extend_ne_nil hne) _
      | complete t =>
        refine same (by simp only [Chronicle.step, Live.rounds, hrun]) ?_
        obtain ⟨gone, go⟩ := done_closes hrun thrown
        rw [go.bus]
        rfl
      | late id => exact same (by simp only [Chronicle.step, Live.rounds, hrun]) (by simp only [Live.react, hrun])

/-- What was delivered before a bus came to rest is delivered. -/
theorem Sound.since (h : Sound c) (hrest : c.live.bus.draining = false) (moves : List (Move κ)) :
    Since c.rounds (c.run moves) := by
  suffices hs : ∀ x : Chronicle κ, Sound x → Since c.rounds x → Since c.rounds (x.run moves) from
    hs c h ⟨[], by simp, by simp [hrest]⟩
  induction moves with
  | nil => exact fun x _ hx => hx
  | cons m moves ih => exact fun x hx hs => ih (x.step m) (hx.step m) (hs.step hx m)

theorem rounds_of_publish (hopen : c.live.bus.completed = false) (hrest : c.live.bus.draining = false)
    (hpending : c.live.bus.pending = []) (e : Event) : (c.step (.publish e)).rounds =
      c.rounds ++ [⟨e, c.live.bus.sinks, turns c.live.bus.closed e c.live.bus.sinks⟩] := by
  simp [Chronicle.step, Live.rounds, hopen, hrest, hpending, roundsOf]

/-! ### A subscription that stays -/

theorem open_of_step (l : Live κ) (m : Move κ) (h : (l.step m).bus.completed = false) : l.bus.completed = false := by
  cases hc : l.bus.completed with
  | false => rfl
  | true => exact absurd (h.symm.trans ((step_completed l m).mpr (.inl hc))) (by simp)

theorem step_closed (l : Live κ) (m : Move κ) {id : Nat} (h : id ∈ l.bus.closed) : id ∈ (l.step m).bus.closed := by
  show id ∈ (l.react m).1.closed
  cases m with
  | publish e => exact (publish_alike l.bus e).closed ▸ h
  | attach screen completes owner =>
    simp only [Live.react, Bus.attach]
    split
    · exact List.mem_cons_of_mem _ h
    · exact h
  | unsubscribe other =>
    simp only [Live.react, Bus.unsubscribe]
    split
    · exact h
    · exact List.mem_cons_of_mem _ h
  | complete =>
    cases hc : l.bus.completed with
    | true => exact react_complete hc ▸ h
    | false =>
      obtain ⟨gone, k⟩ := complete_closes hc
      exact k.still_closed h
  | done thrown =>
    rcases hrun : l.running with _ | ⟨r, rest⟩
    · simpa only [Live.react, hrun] using h
    · cases r with
      | next d => exact (next_alike hrun thrown).closed ▸ h
      | complete t =>
        obtain ⟨gone, go⟩ := done_closes hrun thrown
        exact go.still_closed h
      | late other => simpa only [Live.react, hrun] using h

theorem open_of_run (c : Chronicle κ) {moves : List (Move κ)} (h : (c.run moves).live.bus.completed = false) :
    c.live.bus.completed = false := by
  induction moves generalizing c with
  | nil => exact h
  | cons m moves ih => exact open_of_step c.live m (ih (c.step m) h)

/-- A delivery that reaches a subscription is of an event that it wants. -/
theorem Sound.wants_of_reaches {s : Sink κ} (h : Sound c) (hs : s ∈ c.attached) {r : Round κ} (hr : r ∈ c.rounds)
    (hreach : r.reaches s.id = true) : wants s r.event = true := by
  obtain ⟨above, base, -, -, hdel, -⟩ := h.frames
  obtain ⟨t, ht, hcond⟩ := List.any_eq_true.mp hreach
  simp only [Bool.and_eq_true, decide_eq_true_eq] at hcond
  -- No other subscription has the number.
  have hmem : t.1 ∈ r.audience := (hdel.in_turn r hr).subset (List.mem_map_of_mem ht)
  have hmade : t.1 ∈ c.attached := List.mem_append_left _ ((h.faithful.audience r hr).subset hmem)
  have hself : t.1 = s := List.inj_on_of_nodup_map h.numbered.ids_nodup hmade hs hcond.1
  exact hself ▸ hcond.2.2

/-- A subscription that was made before the first delivery, and was open at all its turns. -/
structure Attends (s : Sink κ) (c : Chronicle κ) : Prop where
  made : s ∈ c.attached
  audience : ∀ r ∈ c.rounds, s ∈ r.audience
  opened : ∀ r ∈ c.rounds, (s, false) ∉ r.turns

namespace Attends
variable {s : Sink κ}

theorem step (h : Sound c) (ha : Attends s c) {m : Move κ} (hopen : (c.step m).live.bus.completed = false)
    (hstays : s.id ∉ (c.step m).live.bus.closed) : Attends s (c.step m) := by
  have hopen' : c.live.bus.completed = false := open_of_step c.live m hopen
  have hstays' : s.id ∉ c.live.bus.closed := fun hcl => hstays (step_closed c.live m hcl)
  have hsink : s ∈ c.live.bus.sinks := by
    rw [h.sinks_eq hopen']
    exact List.mem_filter.mpr ⟨ha.made, by simpa using hstays'⟩
  have hturn : ∀ sinks : List (Sink κ), (s, false) ∉ sinks.map (turn c.live.bus.closed) := by
    intro sinks hmem
    obtain ⟨x, -, hx⟩ := List.mem_map.mp hmem
    simp only [turn, Prod.mk.injEq, Bool.not_eq_false', List.contains_iff_mem] at hx
    exact hstays' (hx.1 ▸ hx.2)
  have hmade : s ∈ (c.step m).attached := by
    rw [h.attached_step]
    exact List.mem_append_left _ ha.made
  -- The deliveries that a move starts are for those attached now.
  have started : ∀ queue, ∀ r ∈ roundsOf c.live.bus queue, s ∈ r.audience ∧ (s, false) ∉ r.turns := fun queue r hr =>
    ⟨roundsOf_audience hr ▸ hsink, fun ht => hturn _ (roundsOf_turns hr ht)⟩
  suffices hrounds : ∀ r ∈ (c.step m).rounds, s ∈ r.audience ∧ (s, false) ∉ r.turns from
    ⟨hmade, fun r hr => (hrounds r hr).1, fun r hr => (hrounds r hr).2⟩
  have old : ∀ r ∈ c.rounds, s ∈ r.audience ∧ (s, false) ∉ r.turns := fun r hr => ⟨ha.audience r hr, ha.opened r hr⟩
  show ∀ r ∈ c.live.rounds c.rounds m, _
  cases m with
  | publish e =>
    simp only [Live.rounds]
    split
    · exact old
    · intro r hr
      exact (List.mem_append.mp hr).elim (old r) (started _ r)
  | done thrown =>
    simp only [Live.rounds]
    split
    · rename_i d rest _
      intro r hr
      rcases List.mem_append.mp hr with hr | hr
      · obtain ⟨x, hx, haud, hturns⟩ := mem_extend hr
        refine ⟨haud ▸ ha.audience x hx, fun ht => ?_⟩
        rcases List.mem_append.mp (hturns ht) with ht | ht
        · exact ha.opened x hx ht
        · exact hturn _ (turns_subset ht)
      · split at hr
        · cases hr
        · exact started _ r hr
    · exact old
  | _ => exact old

theorem run (h : Sound c) (ha : Attends s c) {moves : List (Move κ)} (hopen : (c.run moves).live.bus.completed = false)
    (hstays : s.id ∉ (c.run moves).live.bus.closed) : Attends s (c.run moves) := by
  induction moves using List.reverseRecOn with
  | nil => exact ha
  | append_singleton moves m ih =>
    have hrun : c.run (moves ++ [m]) = (c.run moves).step m := List.foldl_append
    rw [hrun] at hopen hstays ⊢
    have hbefore := ih (open_of_step _ m hopen) fun hcl => hstays (step_closed _ m hcl)
    exact step (h.run moves) hbefore hopen hstays

/-- A delivery that is finished has reached the subscription, if it wants the event. -/
theorem reaches_of_finished (ha : Attends s c) {r : Round κ} (hr : r ∈ c.rounds) (hfin : r.Finished)
    (hw : wants s r.event = true) : r.reaches s.id = true := by
  have hmem : s ∈ r.turns.map (·.1) := by
    rw [hfin]
    exact ha.audience r hr
  obtain ⟨⟨s', opened⟩, ht, rfl⟩ := List.mem_map.mp hmem
  cases opened with
  | true => exact List.any_eq_true.mpr ⟨_, ht, by simpa using hw⟩
  | false => exact absurd ht (ha.opened r hr)

theorem reaches_iff (h : Sound c) (ha : Attends s c) {r : Round κ} (hr : r ∈ c.rounds) (hfin : r.Finished) :
    r.reaches s.id = wants s r.event :=
  Bool.eq_iff_iff.mpr ⟨h.wants_of_reaches ha.made hr, reaches_of_finished ha hr hfin⟩

/-- At rest the subscription has received everything that it wants of what was published. -/
theorem received (h : Sound c) (ha : Attends s c) (hrest : AtRest c.live.bus c.rounds c.published)
    (hopen : c.live.bus.completed = false) : c.received s.id = c.published.filter (wants s) := by
  rw [h.faithful.received, ← hrest.all hopen, List.filter_map]
  congr 1
  exact List.filter_congr fun r hr => reaches_iff h ha hr (hrest.finished r hr)

/-- In the middle of a delivery it has received that up to some event. -/
theorem received_wanted (h : Sound c) (ha : Attends s c) : c.received s.id <+: c.published.filter (wants s) := by
  obtain ⟨above, base, -, -, hdel, -⟩ := h.frames
  obtain ⟨later, hlater⟩ := hdel.ordered
  have hsingle := hdel.single
  rw [h.faithful.received, ← hlater, List.filter_append]
  rcases List.eq_nil_or_concat c.rounds with hnil | ⟨past, r, hlast⟩
  · rw [hnil]
    exact List.nil_prefix
  · rw [List.concat_eq_append] at hlast
    rw [hlast, List.dropLast_concat] at hsingle
    have hpast : (past.filter (·.reaches s.id)).map (·.event) = (past.map (·.event)).filter (wants s) := by
      rw [List.filter_map]
      congr 1
      exact List.filter_congr fun x hx => reaches_iff h ha (by simp [hlast, hx]) (hsingle x hx)
    rw [hlast, List.filter_append, List.map_append, hpast, List.map_append, List.filter_append, List.append_assoc]
    refine (List.prefix_append_right_inj _).mpr ?_
    -- Only the last delivery may not have come to the subscription yet.
    cases hreach : r.reaches s.id with
    | false => simp [hreach]
    | true =>
      have hw := h.wants_of_reaches ha.made (by simp [hlast]) hreach
      simp [hreach, hw]

end Attends

end ThingHost.Bus
