import ThingHost.Proofs.Bus.Chronicle

/-! The law of delivery. The deliveries of a bus are those of the events it took, one at a time and in
    their order, and a subscription receives the events of the deliveries that reach it. What is still to
    be delivered waits in the queue, and the queue is only kept while an event is being delivered. -/

namespace ThingHost.Bus

variable {κ : Type}

/-! ### The deliveries of a drain -/

theorem Stops.any_calls {closed : List Nat} {sinks passed : List (Sink κ)} {d : Delivery κ}
    (h : Stops closed sinks passed d) : sinks.any (calls closed d.event) = true := by
  rw [h.split]
  simp [h.called]

theorem Stops.turns {closed : List Nat} {sinks passed : List (Sink κ)} {d : Delivery κ}
    (h : Stops closed sinks passed d) : turns closed d.event sinks = (passed ++ [d.current]).map (turn closed) := by
  rw [h.split]
  exact turns_of_call h.called h.quiet

theorem any_calls_of_quiet {closed : List Nat} {e : Event} {sinks : List (Sink κ)}
    (h : ∀ s ∈ sinks, calls closed e s = false) : sinks.any (calls closed e) = false := by
  simpa using h

theorem roundsOf_of_completed {b : Bus κ} (h : b.completed = true) (queue : List Event) : roundsOf b queue = [] := by
  cases queue <;> simp [roundsOf, h]

/-- The delivery at which a drain stops. -/
def stoppedRound (b : Bus κ) (passed : List (Sink κ)) (d : Delivery κ) : Round κ :=
  ⟨d.event, b.sinks, (passed ++ [d.current]).map (turn b.closed)⟩

@[simp] theorem stoppedRound_event (b : Bus κ) (passed : List (Sink κ)) (d : Delivery κ) :
    (b.stoppedRound passed d).event = d.event := rfl

theorem roundsOf_of_quiet {b : Bus κ} (hopen : b.completed = false) :
    ∀ {queue : List Event}, (∀ e ∈ queue, b.Quiet e) → roundsOf b queue = queue.map b.wholeRound
  | [], _ => rfl
  | e :: queue, h => by
    have he : b.Quiet e := h e List.mem_cons_self
    have ih : roundsOf b queue = queue.map b.wholeRound :=
      roundsOf_of_quiet hopen fun x hx => h x (List.mem_cons_of_mem _ hx)
    simp only [roundsOf, hopen, any_calls_of_quiet he, Bool.false_eq_true, ↓reduceIte, turns_of_quiet he, ih,
      List.map_cons, wholeRound]

theorem roundsOf_of_stop {b : Bus κ} (hopen : b.completed = false) {d : Delivery κ} {passed : List (Sink κ)}
    {later : List Event} (hstop : Stops b.closed b.sinks passed d) :
    ∀ {through : List Event}, (∀ e ∈ through, b.Quiet e) →
      roundsOf b (through ++ d.event :: later) = through.map b.wholeRound ++ [b.stoppedRound passed d]
  | [], _ => by
    simp only [List.nil_append, roundsOf, hopen, hstop.any_calls, hstop.turns, Bool.false_eq_true, ↓reduceIte,
      List.map_nil, stoppedRound]
  | e :: through, h => by
    have he : b.Quiet e := h e List.mem_cons_self
    have ih : roundsOf b (through ++ d.event :: later) = through.map b.wholeRound ++ [b.stoppedRound passed d] :=
      roundsOf_of_stop hopen hstop fun x hx => h x (List.mem_cons_of_mem _ hx)
    simp only [List.cons_append, roundsOf, hopen, any_calls_of_quiet he, Bool.false_eq_true, ↓reduceIte,
      turns_of_quiet he, ih, List.map_cons, wholeRound]

theorem wholeRound_finished (b : Bus κ) (e : Event) : (b.wholeRound e).Finished := by
  simp [Round.Finished, wholeRound, turn, Function.comp_def]

theorem extend_append (more : List (Sink κ × Bool)) (past : List (Round κ)) (r : Round κ) :
    extend more (past ++ [r]) = past ++ [{ r with turns := r.turns ++ more }] := by
  induction past with
  | nil => rfl
  | cons x past ih =>
    cases past with
    | nil => rfl
    | cons y past => simpa [extend] using ih

theorem roundsOf_audience {b : Bus κ} {queue : List Event} {r : Round κ} (h : r ∈ roundsOf b queue) :
    r.audience = b.sinks := by
  induction queue with
  | nil => cases h
  | cons e queue ih =>
    simp only [roundsOf] at h
    split at h
    · cases h
    · rcases List.mem_cons.mp h with rfl | h
      · rfl
      · split at h
        · cases h
        · exact ih h

theorem turns_subset {closed : List Nat} {e : Event} {sinks : List (Sink κ)} :
    turns closed e sinks ⊆ sinks.map (turn closed) := by
  induction sinks with
  | nil => exact List.Subset.refl _
  | cons s sinks ih =>
    rw [turns, List.map_cons]
    refine List.cons_subset_cons _ ?_
    split
    · exact List.nil_subset _
    · exact ih

theorem roundsOf_turns {b : Bus κ} {queue : List Event} {r : Round κ} (h : r ∈ roundsOf b queue) :
    r.turns ⊆ b.sinks.map (turn b.closed) := by
  induction queue with
  | nil => cases h
  | cons e queue ih =>
    simp only [roundsOf] at h
    split at h
    · cases h
    · rcases List.mem_cons.mp h with rfl | h
      · exact turns_subset
      · split at h
        · cases h
        · exact ih h

/-- A delivery that may have been extended is for the same audience, and has no turns but old and new ones. -/
theorem mem_extend {more : List (Sink κ × Bool)} {rounds : List (Round κ)} {r : Round κ}
    (h : r ∈ extend more rounds) : ∃ x ∈ rounds, r.audience = x.audience ∧ r.turns ⊆ x.turns ++ more := by
  rcases List.eq_nil_or_concat rounds with rfl | ⟨past, x, rfl⟩
  · cases h
  · rw [List.concat_eq_append] at h ⊢
    rw [extend_append] at h
    rcases List.mem_append.mp h with h | h
    · exact ⟨r, by simp [h], rfl, List.subset_append_left _ _⟩
    · obtain rfl := List.mem_singleton.mp h
      exact ⟨x, by simp, rfl, List.Subset.refl _⟩

/-! ### Where a bus is in its deliveries -/

/-- Nothing is being delivered, and nothing waits. -/
structure AtRest (b : Bus κ) (rounds : List (Round κ)) (published : List Event) : Prop where
  draining : b.draining = false
  pending : b.pending = []
  finished : ∀ r ∈ rounds, r.Finished
  all : b.completed = false → rounds.map (·.event) = published
  ordered : rounds.map (·.event) <+: published

/-- The last delivery has come to the subscription `d.current`, and what waits comes after it. -/
structure Underway (b : Bus κ) (rounds : List (Round κ)) (published : List Event) (d : Delivery κ) : Prop where
  draining : b.draining = true
  last : ∃ past r, rounds = past ++ [r] ∧ (∀ x ∈ past, x.Finished) ∧ r.event = d.event ∧
    r.turns.map (·.1) ++ d.rest = r.audience
  all : rounds.map (·.event) ++ b.pending = published

/-- Where a bus is in its deliveries: at rest, or at a subscription whose code runs. -/
def Delivering (b : Bus κ) (rounds : List (Round κ)) (published : List Event) : Option (Delivery κ) → Prop
  | none => AtRest b rounds published
  | some d => Underway b rounds published d

namespace Delivering
variable {b b' : Bus κ} {rounds : List (Round κ)} {published : List Event} {base : Option (Delivery κ)}

theorem ordered (h : Delivering b rounds published base) : rounds.map (·.event) <+: published := by
  cases base with
  | none => exact h.ordered
  | some d => exact ⟨b.pending, h.all⟩

theorem single (h : Delivering b rounds published base) : ∀ r ∈ rounds.dropLast, r.Finished := by
  cases base with
  | none => exact fun r hr => h.finished r (List.dropLast_subset _ hr)
  | some d =>
    obtain ⟨past, r, rfl, hpast, -⟩ := h.last
    rw [List.dropLast_concat]
    exact hpast

theorem in_turn (h : Delivering b rounds published base) : ∀ r ∈ rounds, r.turns.map (·.1) <+: r.audience := by
  have of_finished : ∀ r : Round κ, r.Finished → r.turns.map (·.1) <+: r.audience := fun r hr =>
    hr ▸ List.prefix_rfl
  cases base with
  | none => exact fun r hr => of_finished r (h.finished r hr)
  | some d =>
    obtain ⟨past, r, rfl, hpast, -, haud⟩ := h.last
    intro x hx
    rcases List.mem_append.mp hx with hx | hx
    · exact of_finished x (hpast x hx)
    · obtain rfl := List.mem_singleton.mp hx
      exact ⟨d.rest, haud⟩

/-- Only the queue and the two flags of a bus matter. -/
theorem congr (h : Delivering b rounds published base) (hd : b'.draining = b.draining)
    (hp : b'.pending = b.pending) (hc : b'.completed = false → b.completed = false) :
    Delivering b' rounds published base := by
  cases base with
  | none => exact ⟨hd.trans h.draining, hp.trans h.pending, h.finished, fun hc' => h.all (hc hc'), h.ordered⟩
  | some d => exact ⟨hd.trans h.draining, h.last, hp ▸ h.all⟩

theorem at_rest (h : Delivering b rounds published base) (hd : b.draining = false) :
    base = none ∧ AtRest b rounds published := by
  cases base with
  | none => exact ⟨rfl, h⟩
  | some d => exact absurd (hd.symm.trans h.draining) (by simp)

theorem wait (h : Delivering b rounds published base) (hd : b.draining = true) (e : Event) :
    Delivering { b with pending := b.pending ++ [e] } rounds (published ++ [e]) base := by
  cases base with
  | none => exact absurd (hd.symm.trans h.draining) (by simp)
  | some d => exact ⟨hd, h.last, by rw [← List.append_assoc, h.all]⟩

theorem drain (hopen : b.completed = false) (hfin : ∀ r ∈ rounds, r.Finished) {queue : List Event}
    (hall : rounds.map (·.event) ++ queue = published) :
    ∃ base, code? (b.drain queue).2.2 = base.map .next ∧
      Delivering (b.drain queue).1 (rounds ++ roundsOf b queue) published base := by
  rcases drain_cases hopen queue with ⟨hb, ht, hq⟩ | ⟨through, d, passed, later, rfl, hb, ht, hq, hstop⟩
  · have hrounds : (rounds ++ roundsOf b queue).map (·.event) = published := by
      rw [roundsOf_of_quiet hopen hq, ← hall]
      simp [wholeRound, Function.comp_def]
    refine ⟨none, by rw [ht]; rfl, ?_⟩
    rw [hb]
    refine ⟨rfl, rfl, fun r hr => ?_, fun _ => hrounds, hrounds ▸ List.prefix_rfl⟩
    rw [roundsOf_of_quiet hopen hq] at hr
    rcases List.mem_append.mp hr with hr | hr
    · exact hfin r hr
    · obtain ⟨e, -, rfl⟩ := List.mem_map.mp hr
      exact wholeRound_finished b e
  · refine ⟨some d, by rw [ht]; rfl, ?_⟩
    rw [hb]
    refine ⟨rfl, ⟨rounds ++ through.map b.wholeRound, b.stoppedRound passed d, ?_, fun r hr => ?_, rfl, ?_⟩, ?_⟩
    · rw [roundsOf_of_stop hopen hstop hq, List.append_assoc]
    · rcases List.mem_append.mp hr with hr | hr
      · exact hfin r hr
      · obtain ⟨e, -, rfl⟩ := List.mem_map.mp hr
        exact wholeRound_finished b e
    · simp [stoppedRound, turn, Function.comp_def, hstop.split]
    · rw [roundsOf_of_stop hopen hstop hq, ← hall]
      simp [wholeRound, stoppedRound, delivering, Function.comp_def]

theorem finished_extend {d : Delivery κ} (h : Underway b rounds published d)
    (hq : ∀ s ∈ d.rest, calls b.closed d.event s = false) :
    (∀ r ∈ extend (turns b.closed d.event d.rest) rounds, r.Finished) ∧
      (extend (turns b.closed d.event d.rest) rounds).map (·.event) = rounds.map (·.event) := by
  obtain ⟨past, r, rfl, hpast, -, haud⟩ := h.last
  rw [extend_append, turns_of_quiet hq]
  refine ⟨fun x hx => ?_, by simp⟩
  rcases List.mem_append.mp hx with hx | hx
  · exact hpast x hx
  · obtain rfl := List.mem_singleton.mp hx
    simpa [Round.Finished, turn, Function.comp_def] using haud

theorem afterNext {d : Delivery κ} (hopen : b.completed = false) (h : Underway b rounds published d)
    (thrown : Option Thrown) :
    ∃ base, code? (b.afterNext d thrown).2.2 = base.map .next ∧
      Delivering (b.afterNext d thrown).1 (b.roundsAfter d rounds) published base := by
  rcases afterNext_cases b d thrown with ⟨hq, hb, ht⟩ | ⟨d', passed, hb, ht, hde, hstop⟩
  · obtain ⟨hfin, hev⟩ := finished_extend h hq
    rw [hb, ht, roundsAfter, any_calls_of_quiet hq]
    exact Delivering.drain hopen hfin (hev ▸ h.all)
  · refine ⟨some d', by rw [ht]; rfl, ?_⟩
    obtain ⟨past, r, rfl, hpast, hre, haud⟩ := h.last
    rw [hb, roundsAfter, extend_append, ← hde, hstop.any_calls, hstop.turns]
    refine ⟨h.draining, ⟨past, { r with turns := r.turns ++ (passed ++ [d'.current]).map (turn b.closed) },
      by simp, hpast, hre.trans hde.symm, ?_⟩, ?_⟩
    · rw [← haud, hstop.split]
      simp [turn, Function.comp_def]
    · simpa using h.all

/-- On a completed bus the delivery ends, if everybody left is closed, and the queue is dropped. -/
theorem afterNext_of_completed {d : Delivery κ} (hdone : b.completed = true) (h : Underway b rounds published d)
    (hq : ∀ s ∈ d.rest, calls b.closed d.event s = false) (thrown : Option Thrown) :
    code? (b.afterNext d thrown).2.2 = none ∧
      Delivering (b.afterNext d thrown).1 (b.roundsAfter d rounds) published none := by
  rcases afterNext_cases b d thrown with ⟨-, hb, ht⟩ | ⟨d', passed, -, -, hde, hstop⟩
  · obtain ⟨hfin, hev⟩ := finished_extend h hq
    rw [hb, ht, drain_of_completed hdone, roundsAfter, any_calls_of_quiet hq, roundsOf_of_completed hdone]
    refine ⟨rfl, rfl, rfl, by simpa using hfin, fun hc => ?_, ?_⟩
    · exact absurd (hdone.symm.trans hc) (by simp)
    · refine ⟨b.pending, ?_⟩
      simpa [hev] using h.all
  · have := hstop.any_calls
    rw [hde, any_calls_of_quiet hq] at this
    cases this

end Delivering

/-! ### Whom a delivery reaches -/

theorem any_turn (closed : List Nat) (e : Event) (id : Nat) (sinks : List (Sink κ)) :
    ((sinks.map (turn closed)).any fun t => t.1.id = id && (t.2 && wants t.1 e)) =
      sinks.any fun s => s.id = id && calls closed e s := by
  simp [turn, calls, Function.comp_def]

theorem any_turn_of_quiet {closed : List Nat} {e : Event} {sinks : List (Sink κ)}
    (h : ∀ s ∈ sinks, calls closed e s = false) (id : Nat) :
    ((sinks.map (turn closed)).any fun t => t.1.id = id && (t.2 && wants t.1 e)) = false := by
  rw [any_turn, List.any_eq_false]
  intro s hs
  simp [h s hs]

theorem any_turn_of_stop {closed : List Nat} {sinks passed : List (Sink κ)} {d : Delivery κ}
    (h : Stops closed sinks passed d) (id : Nat) :
    (((passed ++ [d.current]).map (turn closed)).any fun t => t.1.id = id && (t.2 && wants t.1 d.event)) =
      decide (d.current.id = id) := by
  rw [any_turn, List.any_append, ← any_turn, any_turn_of_quiet h.quiet]
  simp [h.called]

theorem wholeRound_reaches {b : Bus κ} {e : Event} (h : b.Quiet e) (id : Nat) :
    (b.wholeRound e).reaches id = false := any_turn_of_quiet h id

theorem stoppedRound_reaches {b : Bus κ} {passed : List (Sink κ)} {d : Delivery κ}
    (h : Stops b.closed b.sinks passed d) (id : Nat) :
    (b.stoppedRound passed d).reaches id = decide (d.current.id = id) := any_turn_of_stop h id

/-- The deliveries of a drain reach exactly the subscription whose code the drain calls. -/
theorem roundsOf_reaches (b : Bus κ) (queue : List Event) (id : Nat) :
    ((roundsOf b queue).filter (·.reaches id)).map (·.event) =
      (code? (b.drain queue).2.2).toList.filterMap (Running.for? id) := by
  cases hc : b.completed with
  | true =>
    rw [roundsOf_of_completed hc, drain_of_completed hc]
    rfl
  | false =>
    have quiet : ∀ {es : List Event}, (∀ e ∈ es, b.Quiet e) → (es.map b.wholeRound).filter (·.reaches id) = [] := by
      intro es hes
      rw [List.filter_eq_nil_iff]
      intro r hr
      obtain ⟨e, he, rfl⟩ := List.mem_map.mp hr
      simp [wholeRound_reaches (hes e he)]
    rcases drain_cases hc queue with ⟨-, ht, hq⟩ | ⟨through, d, passed, later, rfl, -, ht, hq, hstop⟩
    · rw [roundsOf_of_quiet hc hq, ht, quiet hq]
      rfl
    · rw [roundsOf_of_stop hc hstop hq, ht, List.filter_append, quiet hq, List.nil_append]
      have hr := stoppedRound_reaches hstop id
      by_cases hid : d.current.id = id <;> simp [hid] at hr <;> simp [hr, hid, code?, Running.for?]

/-- Going on with the last delivery reaches exactly the subscription whose code is called: nobody has two
    turns in a delivery, for the numbers of an audience are distinct. -/
theorem roundsAfter_reaches {b : Bus κ} {rounds : List (Round κ)} {published : List Event} {d : Delivery κ}
    (h : Underway b rounds published d) (hnodup : ∀ r ∈ rounds, (r.audience.map (·.id)).Nodup)
    (thrown : Option Thrown) (id : Nat) :
    ((b.roundsAfter d rounds).filter (·.reaches id)).map (·.event) =
      (rounds.filter (·.reaches id)).map (·.event) ++
        (code? (b.afterNext d thrown).2.2).toList.filterMap (Running.for? id) := by
  obtain ⟨past, r, rfl, -, hre, haud⟩ := h.last
  rw [roundsAfter, extend_append]
  simp only [List.filter_append, List.map_append, List.append_assoc]
  congr 1
  rcases afterNext_cases b d thrown with ⟨hq, -, ht⟩ | ⟨d', passed, -, ht, hde, hstop⟩
  · rw [ht, any_calls_of_quiet hq, turns_of_quiet hq, ← roundsOf_reaches]
    congr 1
    have hsame : Round.reaches { r with turns := r.turns ++ d.rest.map (turn b.closed) } id = r.reaches id := by
      simp only [Round.reaches, List.any_append, hre, any_turn_of_quiet hq, Bool.or_false]
    simp only [List.filter_cons, hsame, List.filter_nil]
    cases r.reaches id <;> rfl
  · rw [ht, ← hde, hstop.any_calls, hstop.turns]
    have hr : Round.reaches { r with turns := r.turns ++ (passed ++ [d'.current]).map (turn b.closed) } id =
        (r.reaches id || decide (d'.current.id = id)) := by
      simp only [Round.reaches, List.any_append, hre, ← hde, any_turn_of_stop hstop]
    -- The subscription called now had no turn in this delivery before.
    have hbefore : d'.current.id = id → r.reaches id = false := by
      intro hid
      have hnd := hnodup r (by simp)
      rw [← haud, hstop.split, List.map_append] at hnd
      simp only [Round.reaches, List.any_eq_false]
      intro t ht hreach
      have hmem : t.1.id ∈ (r.turns.map (·.1)).map (·.id) :=
        List.mem_map.mpr ⟨t.1, List.mem_map.mpr ⟨t, ht, rfl⟩, rfl⟩
      have hne := (List.nodup_append.mp hnd).2.2 t.1.id hmem d'.current.id (by simp)
      simp only [Bool.and_eq_true, decide_eq_true_eq] at hreach
      exact hne (hreach.1.trans hid.symm)
    generalize hx : ({ r with turns := r.turns ++ (passed ++ [d'.current]).map (turn b.closed) } : Round κ) = x at hr ⊢
    have hxe : x.event = d'.event := by rw [← hx, hde, ← hre]
    by_cases hid : d'.current.id = id
    · simp [hr, hbefore hid, hid, code?, Running.for?, hxe]
    · cases hrr : r.reaches id <;>
        simp [hr, hrr, hid, code?, Running.for?, hxe, hre, hde]

end ThingHost.Bus
