import ThingHost.Proofs.Bus.Chronicle

/-! What the code of a subscription throws matters to nobody else. A bus notes it, and does not count the subscription
    among those that took the event; where it goes on, and with what, does not depend on it. -/

namespace ThingHost

variable {κ : Type}

/-- A note without the number of those that took an event. -/
def Note.uncounted : Note → Note
  | .eventPublished event _ => .eventPublished event 0
  | note => note

/-- A delivery without the number of those that took the event so far. -/
def Delivery.uncounted (d : Delivery κ) : Delivery κ := { d with taken := 0 }

def Turn.uncounted : Turn κ → Turn κ
  | .next d => .next d.uncounted
  | turn => turn

namespace Bus

/-- Two outcomes of an operation on a bus that differ in numbers only. -/
structure Level (x y : Bus κ × List Note × Turn κ) : Prop where
  bus : x.1 = y.1
  notes : x.2.1.map Note.uncounted = y.2.1.map Note.uncounted
  turn : x.2.2.uncounted = y.2.2.uncounted

/-- An outcome with something noted before. -/
def noting (notes : List Note) (x : Bus κ × List Note × Turn κ) : Bus κ × List Note × Turn κ := (x.1, notes ++ x.2.1, x.2.2)

/-- Whom a delivery reaches and what is noted on the way does not depend on the count. -/
theorem fanOut_level (closed : List Nat) (e : Event) (n m : Nat) (sinks : List (Sink κ)) :
    (fanOut closed e n sinks).1 = (fanOut closed e m sinks).1 ∧
      (fanOut closed e n sinks).2.map Delivery.uncounted (fun _ => 0) =
        (fanOut closed e m sinks).2.map Delivery.uncounted fun _ => 0 := by
  induction sinks generalizing n m with
  | nil => exact ⟨rfl, rfl⟩
  | cons s rest ih =>
    cases hc : closed.contains s.id with
    | true =>
      simp only [fanOut, hc, ↓reduceIte]
      exact ih n m
    | false =>
      cases hs : s.screen e with
      | unwanted =>
        simp only [fanOut, hc, hs, Bool.false_eq_true, ↓reduceIte]
        exact ih (n + 1) (m + 1)
      | faulty t =>
        simp only [fanOut, hc, hs, Bool.false_eq_true, ↓reduceIte]
        exact ⟨congrArg _ (ih n m).1, (ih n m).2⟩
      | handled note =>
        simp only [fanOut, hc, hs, Bool.false_eq_true, ↓reduceIte]
        exact ⟨congrArg _ (ih (n + 1) (m + 1)).1, (ih (n + 1) (m + 1)).2⟩
      | wanted =>
        refine ⟨?_, ?_⟩ <;> simp only [fanOut, hc, hs, Bool.false_eq_true, ↓reduceIte]
        rfl

/-- What is noted of what the code of a delivery ended with. -/
def complaint (d : Delivery κ) : Option Thrown → List Note
  | some t => [.observerThrew t d.event.name d.current.id]
  | none => []

/-- After the complaint, a delivery goes on as if nothing had been thrown. -/
theorem afterNext_level (b : Bus κ) (d : Delivery κ) (thrown : Option Thrown) :
    ∃ x, b.afterNext d thrown = noting (complaint d thrown) x ∧ Level x (b.afterNext d.uncounted none) := by
  have hlevel := fanOut_level b.closed d.event (if thrown.isSome then d.taken else d.taken + 1) 1 d.rest
  rcases hf : fanOut b.closed d.event (if thrown.isSome then d.taken else d.taken + 1) d.rest with ⟨notes, stop⟩
  rcases hf' : fanOut b.closed d.event 1 d.rest with ⟨notes', stop'⟩
  rw [hf, hf'] at hlevel
  obtain ⟨rfl, hstop⟩ := hlevel
  let goOn : Delivery κ ⊕ Nat → Bus κ × List Note × Turn κ := Sum.elim (fun d' => (b, notes, .next d'))
    fun taken => ((b.drain b.pending).1, notes ++ .eventPublished d.event.name taken :: (b.drain b.pending).2.1,
      (b.drain b.pending).2.2)
  have hcalm : b.afterNext d.uncounted none = goOn stop' := by
    simp only [afterNext, Delivery.uncounted, Option.isSome_none, Bool.false_eq_true, ↓reduceIte, Nat.zero_add, hf',
      List.nil_append]
    cases stop' <;> rfl
  have hafter : b.afterNext d thrown = noting (complaint d thrown) (goOn stop) := by
    simp only [afterNext, hf]
    cases stop <;> cases thrown <;> simp [noting, complaint, goOn]
  refine ⟨_, hafter, ?_⟩
  rw [hcalm]
  cases stop with
  | inl d₁ =>
    cases stop' with
    | inl d₂ => exact ⟨rfl, rfl, congrArg Turn.next (Sum.inl.inj hstop)⟩
    | inr n => cases hstop
  | inr n =>
    cases stop' with
    | inl d₂ => cases hstop
    | inr m => exact ⟨rfl, by simp [goOn, Note.uncounted], rfl⟩

/-- So does a completion, which counts nothing. -/
theorem afterComplete_level (b : Bus κ) (c : Completion κ) (thrown : Option Thrown) :
    b.afterComplete c thrown = noting (match thrown with
      | some t => [.completionThrew t c.current.id]
      | none => []) (b.afterComplete c none) := by
  cases thrown <;> simp [afterComplete, noting]

/-! ### Deliveries -/

def Running.uncounted : Running κ → Running κ
  | .next d => .next d.uncounted
  | r => r

/-- The turns that are taken after the code of a subscription is done are the same, whatever it ended with. -/
theorem rounds_level {l l' : Live κ} (hbus : l.bus = l'.bus)
    (hrunning : l.running.map Running.uncounted = l'.running.map Running.uncounted) (before : List (Round κ))
    (thrown thrown' : Option Thrown) : l.rounds before (.done thrown) = l'.rounds before (.done thrown') := by
  rcases l with ⟨b, running⟩
  rcases l' with ⟨b', running'⟩
  obtain rfl : b = b' := hbus
  rcases running with _ | ⟨r, running⟩ <;> rcases running' with _ | ⟨r', running'⟩
  · rfl
  · cases hrunning
  · cases hrunning
  · obtain ⟨hr, -⟩ := List.cons.inj hrunning
    cases r <;> cases r' <;> simp only [Running.uncounted, Running.next.injEq, Running.complete.injEq,
      Running.late.injEq, reduceCtorEq] at hr <;> try rfl
    rename_i d d'
    have hevent : d.event = d'.event := show d.uncounted.event = d'.uncounted.event by rw [hr]
    have hrest : d.rest = d'.rest := show d.uncounted.rest = d'.uncounted.rest by rw [hr]
    simp only [Live.rounds, roundsAfter, hevent, hrest]

end Bus
end ThingHost
