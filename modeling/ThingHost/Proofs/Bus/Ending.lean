import Mathlib.Data.Prod.Lex
import ThingHost.Proofs.Bus.Representation

/-! How far a bus still has to go that is draining. Its queue grows while it is worked off, and so does the set of its
    subscriptions; but what is added to the queue was to be published, and whoever is added to the set waits for
    the next event. So if only so many events are published in all, the bus comes nearer to its end with every
    observer that is done, and nothing that the observers do takes it farther away. -/

namespace ThingHost.Bus

variable {κ : Type} {c : Chronicle κ} {d : Delivery κ} {m : Move κ} {most : ℕ}

/-- The turns that are left in the delivery under way. Its code runs below everything else. -/
def turnsLeft (running : List (Running κ)) : ℕ :=
  match running.getLast? with
  | some (.next d) => d.rest.length
  | _ => 0

/-- What is ahead of a bus that takes no more than `most` events in all: first the events that may still be published
    and those that wait, then the turns that are left. -/
def Chronicle.ahead (c : Chronicle κ) (most : ℕ) : ℕ ×ₗ ℕ :=
  toLex (most - c.published.length + c.live.bus.pending.length, turnsLeft c.live.running)

theorem turnsLeft_append (above : List (Running κ)) {running : List (Running κ)} (h : running ≠ []) :
    turnsLeft (above ++ running) = turnsLeft running := by
  rw [turnsLeft, List.getLast?_append_of_ne_nil _ h]
  rfl

/-! ### While an observer runs -/

/-- As long as no observer is done, a bus that is draining goes on so, and what it takes waits. -/
theorem react_busy {l : Live κ} (hbusy : l.bus.draining = true)
    (hm : ∀ thrown, m = .done thrown → ∀ d rest, l.running ≠ .next d :: rest) :
    (l.react m).1.draining = true ∧ (l.react m).1.pending = l.bus.pending ++ (l.taken m).toList := by
  have still : ∀ {b : Bus κ}, b.draining = l.bus.draining → b.pending = l.bus.pending →
      b.draining = true ∧ b.pending = l.bus.pending ++ [] := fun hd hp => ⟨hd.trans hbusy, by rw [hp, List.append_nil]⟩
  cases m with
  | publish e =>
    rcases publish_cases l.bus e with ⟨hdone, hb, -⟩ | ⟨hopen, -, hb, -⟩ | ⟨-, hidle, -⟩
    · simp only [Live.react, Live.taken, hb, hdone, ↓reduceIte]
      exact still rfl rfl
    · simp only [Live.react, Live.taken, hb, hopen, Bool.false_eq_true, ↓reduceIte]
      exact ⟨hbusy, rfl⟩
    · cases hbusy.symm.trans hidle
  | attach screen completes owner =>
    simp only [Live.react, Bus.attach]
    split <;> exact still rfl rfl
  | unsubscribe id =>
    simp only [Live.react, Bus.unsubscribe]
    split <;> exact still rfl rfl
  | complete =>
    cases hc : l.bus.completed with
    | true =>
      rw [react_complete hc]
      exact still rfl rfl
    | false =>
      obtain ⟨gone, k⟩ := complete_closes hc
      rw [k.bus]
      exact still rfl rfl
  | done thrown =>
    rcases hrun : l.running with _ | ⟨r, rest⟩
    · simp only [Live.react, hrun]
      exact still rfl rfl
    · cases r with
      | next d => exact absurd hrun (hm thrown rfl d rest)
      | complete t =>
        obtain ⟨gone, go⟩ := done_closes hrun thrown
        rw [go.bus]
        exact still rfl rfl
      | late id =>
        simp only [Live.react, hrun]
        exact still rfl rfl

/-- Meanwhile the bus comes no nearer to its end, and no farther from it. -/
theorem Sound.ahead_busy (h : Sound c) (hbusy : c.live.bus.draining = true)
    (hm : ∀ thrown, m = .done thrown → ∀ d rest, c.live.running ≠ .next d :: rest)
    (hmost : (c.step m).published.length ≤ most) : (c.step m).ahead most = c.ahead most := by
  have hpending : (c.step m).live.bus.pending = c.live.bus.pending ++ (c.live.taken m).toList := (react_busy hbusy hm).2
  have hrest : c.live.rest m ≠ [] ∧ turnsLeft (c.live.rest m) = turnsLeft c.live.running := by
    obtain ⟨d, hd⟩ := h.draining_iff.mp hbusy
    have hne : c.live.running ≠ [] := List.ne_nil_of_mem hd
    cases m with
    | done thrown =>
      -- The code that is done is not the last one: this is an observer's.
      rcases hrun : c.live.running with _ | ⟨r, rest⟩
      · exact absurd hrun hne
      · have hin : .next d ∈ rest := by
          rcases List.mem_cons.mp (hrun ▸ hd) with rfl | hin
          · exact absurd hrun (hm thrown rfl d rest)
          · exact hin
        have hne' : rest ≠ [] := List.ne_nil_of_mem hin
        simp only [Live.rest, hrun, List.tail_cons]
        exact ⟨hne', (turnsLeft_append [r] hne').symm⟩
    | _ => exact ⟨hne, rfl⟩
  have hturns : turnsLeft (c.step m).live.running = turnsLeft c.live.running :=
    (turnsLeft_append _ hrest.1).trans hrest.2
  have hpublished : (c.step m).published.length = c.published.length + (c.live.taken m).toList.length :=
    List.length_append
  rw [Chronicle.ahead, Chronicle.ahead, hturns, hpending, List.length_append]
  congr 2
  omega

/-! ### When an observer is done -/

/-- Then its delivery goes on to a later turn, or that of an event which has waited starts, or nothing is left. -/
theorem Sound.after_observer (h : Sound c) {rest : List (Running κ)} (hrun : c.live.running = .next d :: rest)
    (thrown : Option Thrown) (hbusy : (c.step (.done thrown)).live.bus.draining = true) :
    ∃ d', (c.step (.done thrown)).live.running = [.next d'] ∧
      ((c.step (.done thrown)).live.bus.pending.length < c.live.bus.pending.length ∨
        (c.step (.done thrown)).live.bus.pending = c.live.bus.pending ∧ d'.rest.length < d.rest.length) := by
  obtain ⟨rfl, -, -⟩ := h.of_next hrun
  have hbus : (c.step (.done thrown)).live.bus = (c.live.bus.afterNext d thrown).1 := by
    show (c.live.react _).1 = _
    rw [react_next hrun]
  have hrunning : (c.step (.done thrown)).live.running = (code? (c.live.bus.afterNext d thrown).2.2).toList := by
    show (c.live.react _).2.toList ++ c.live.running.tail = _
    rw [react_next hrun, hrun]
    exact List.append_nil _
  rw [hrunning]
  rw [hbus] at hbusy ⊢
  rcases afterNext_cases c.live.bus d thrown with ⟨-, hb, ht⟩ | ⟨d', passed, hb, ht, -, hstop⟩
  · rw [hb] at hbusy ⊢
    rw [ht]
    cases hc : c.live.bus.completed with
    | true =>
      rw [drain_of_completed hc] at hbusy
      cases hbusy
    | false =>
      rcases drain_cases hc c.live.bus.pending with ⟨hb, -, -⟩ | ⟨through, d', passed, later, hqueue, hb, ht, -, -⟩
      · rw [hb] at hbusy
        cases hbusy
      · refine ⟨d', by rw [ht]; rfl, .inl ?_⟩
        have hlength := congrArg List.length hqueue
        rw [List.length_append, List.length_cons] at hlength
        rw [hb]
        show later.length < _
        omega
  · refine ⟨d', by rw [ht]; rfl, .inr ⟨by rw [hb], ?_⟩⟩
    rw [hstop.split, List.length_append, List.length_cons]
    omega

/-- Whatever an observer ends with, the bus has come nearer to its end. -/
theorem Sound.ahead_done (h : Sound c) {rest : List (Running κ)} (hrun : c.live.running = .next d :: rest)
    (thrown : Option Thrown) (hbusy : (c.step (.done thrown)).live.bus.draining = true) (most : ℕ) :
    (c.step (.done thrown)).ahead most < c.ahead most := by
  obtain ⟨rfl, -, -⟩ := h.of_next hrun
  obtain ⟨d', hrun', hless⟩ := h.after_observer hrun thrown hbusy
  have hpublished : (c.step (.done thrown)).published = c.published := step_published rfl
  rw [Chronicle.ahead, Chronicle.ahead, hpublished, hrun, hrun', Prod.Lex.toLex_lt_toLex]
  rcases hless with hfewer | ⟨hsame, hturns⟩
  · exact .inl (Nat.add_lt_add_left hfewer _)
  · exact .inr ⟨by rw [hsame], hturns⟩

/-- As long as a bus is draining, nothing takes it farther from its end. -/
theorem Sound.ahead_step (h : Sound c) (hbusy : c.live.bus.draining = true) (hbusy' : (c.step m).live.bus.draining = true)
    (hmost : (c.step m).published.length ≤ most) : (c.step m).ahead most ≤ c.ahead most := by
  by_cases hm : ∀ thrown, m = .done thrown → ∀ d rest, c.live.running ≠ .next d :: rest
  · exact le_of_eq (h.ahead_busy hbusy hm hmost)
  · push Not at hm
    obtain ⟨thrown, rfl, d, rest, hrun⟩ := hm
    exact le_of_lt (h.ahead_done hrun thrown hbusy' most)

end ThingHost.Bus
