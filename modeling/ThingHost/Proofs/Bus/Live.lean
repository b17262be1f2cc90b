import ThingHost.Bus

/-! A bus in use. Each operation of a bus stops where the code of a subscription has to run. Here the
    operations are put together with the code that runs: whatever is published, attached, closed or
    completed, from outside or from that code at any depth, is a list of moves. -/

namespace ThingHost.Bus

variable {κ : Type}

/-- Code of a subscription that runs, and where the bus goes on when it is done. -/
inductive Running (κ : Type) where
  | next (d : Delivery κ)
  | complete (c : Completion κ)
  /-- A subscription made on a completed bus is told so. -/
  | late (id : Nat)

/-- What is asked of a bus; `done` says that the code called last is done. -/
inductive Move (κ : Type) where
  | publish (e : Event)
  | attach (screen : Event → Screening) (completes : Bool) (owner : κ)
  | unsubscribe (id : Nat)
  | complete
  | done (thrown : Option Thrown)

/-- A bus, and the code that runs on it, last called first. -/
structure Live (κ : Type) where
  bus : Bus κ
  running : List (Running κ)

/-- The code that a turn starts. -/
def code? : Turn κ → Option (Running κ)
  | .over => none
  | .next d => some (.next d)
  | .complete c => some (.complete c)

namespace Live

def new : Live κ := ⟨.new, []⟩

/-- The bus after a move, and the code that the move starts. -/
def react (l : Live κ) : Move κ → Bus κ × Option (Running κ)
  | .publish e => ((l.bus.publish e).1, code? (l.bus.publish e).2.2)
  | .attach screen completes owner =>
    ((l.bus.attach screen completes owner).1,
      if l.bus.completed && completes then some (.late (l.bus.attach screen completes owner).2.id) else none)
  | .unsubscribe id => (l.bus.unsubscribe id, none)
  | .complete => (l.bus.complete.1, code? l.bus.complete.2.2)
  | .done thrown =>
    match l.running with
    | .next d :: _ => ((l.bus.afterNext d thrown).1, code? (l.bus.afterNext d thrown).2.2)
    | .complete c :: _ => ((l.bus.afterComplete c thrown).1, code? (l.bus.afterComplete c thrown).2.2)
    | _ => (l.bus, none)

/-- The code that runs on whatever a move starts. -/
def rest (l : Live κ) : Move κ → List (Running κ)
  | .done _ => l.running.tail
  | _ => l.running

def step (l : Live κ) (m : Move κ) : Live κ := ⟨(l.react m).1, (l.react m).2.toList ++ l.rest m⟩

/-- The code that a move starts. -/
def started (l : Live κ) (m : Move κ) : Option (Running κ) := (l.react m).2

end Live

/-! ### Turns -/

/-- The event is for the subscription's owner. -/
def wants (s : Sink κ) (e : Event) : Bool :=
  match s.screen e with
  | .wanted => true
  | _ => false

/-- The subscription's owner is called when its turn comes. -/
def calls (closed : List Nat) (e : Event) (s : Sink κ) : Bool := !closed.contains s.id && wants s e

/-- A turn: the subscription, and whether it is open. -/
def turn (closed : List Nat) (s : Sink κ) : Sink κ × Bool := (s, !closed.contains s.id)

/-- The turns that are taken until code has to run. -/
def turns (closed : List Nat) (e : Event) : List (Sink κ) → List (Sink κ × Bool)
  | [] => []
  | s :: rest => turn closed s :: if calls closed e s then [] else turns closed e rest

theorem turns_of_quiet {closed : List Nat} {e : Event} :
    ∀ {sinks : List (Sink κ)}, (∀ s ∈ sinks, calls closed e s = false) →
      turns closed e sinks = sinks.map (turn closed)
  | [], _ => rfl
  | s :: rest, h => by
    have ih : turns closed e rest = rest.map (turn closed) :=
      turns_of_quiet fun x hx => h x (List.mem_cons_of_mem _ hx)
    simp [turns, h s List.mem_cons_self, ih]

theorem turns_of_call {closed : List Nat} {e : Event} {s : Sink κ} {rest : List (Sink κ)}
    (hs : calls closed e s = true) :
    ∀ {passed : List (Sink κ)}, (∀ x ∈ passed, calls closed e x = false) →
      turns closed e (passed ++ s :: rest) = (passed ++ [s]).map (turn closed)
  | [], _ => by simp [turns, hs]
  | x :: passed, h => by
    have ih : turns closed e (passed ++ s :: rest) = (passed ++ [s]).map (turn closed) :=
      turns_of_call hs fun y hy => h y (List.mem_cons_of_mem _ hy)
    simpa [turns, h x List.mem_cons_self] using ih

/-- A delivery stops at the subscription `d.current`: the ones before it, `passed`, call nobody. -/
structure Stops (closed : List Nat) (sinks passed : List (Sink κ)) (d : Delivery κ) : Prop where
  split : sinks = passed ++ d.current :: d.rest
  called : calls closed d.event d.current = true
  quiet : ∀ s ∈ passed, calls closed d.event s = false

/-- Where fanning out stops: at the end, or at the first subscription whose owner is called. -/
theorem fanOut_cases (closed : List Nat) (e : Event) (taken : Nat) (sinks : List (Sink κ)) :
    (∃ n, (fanOut closed e taken sinks).2 = .inr n ∧ ∀ s ∈ sinks, calls closed e s = false) ∨
    (∃ d passed, (fanOut closed e taken sinks).2 = .inl d ∧ d.event = e ∧ Stops closed sinks passed d) := by
  induction sinks generalizing taken with
  | nil => exact Or.inl ⟨taken, rfl, by simp⟩
  | cons s rest ih =>
    -- A subscription that calls nobody is passed, whatever is counted and noted for it.
    have pass : ∀ n, calls closed e s = false →
        (fanOut closed e taken (s :: rest)).2 = (fanOut closed e n rest).2 →
        (∃ n, (fanOut closed e taken (s :: rest)).2 = .inr n ∧ ∀ x ∈ s :: rest, calls closed e x = false) ∨
        (∃ d passed, (fanOut closed e taken (s :: rest)).2 = .inl d ∧ d.event = e ∧
          Stops closed (s :: rest) passed d) := by
      intro n hs heq
      rw [heq]
      rcases ih n with ⟨m, hm, hq⟩ | ⟨d, passed, hd, rfl, hsplit, hcall, hq⟩
      · exact Or.inl ⟨m, hm, by simpa [hs] using hq⟩
      · exact Or.inr ⟨d, s :: passed, hd, rfl, by simp [hsplit], hcall, by simpa [hs] using hq⟩
    by_cases hc : closed.contains s.id = true
    · exact pass taken (by simp only [calls, hc, Bool.not_true, Bool.false_and]) (by simp only [fanOut, hc, ↓reduceIte])
    · have hc : closed.contains s.id = false := by simpa using hc
      cases hs : s.screen e with
      | unwanted =>
        exact pass (taken + 1) (by simp [calls, wants, hs]) (by simp only [fanOut, hc, hs, Bool.false_eq_true, ↓reduceIte])
      | faulty t =>
        exact pass taken (by simp [calls, wants, hs]) (by simp only [fanOut, hc, hs, Bool.false_eq_true, ↓reduceIte])
      | handled note =>
        exact pass (taken + 1) (by simp [calls, wants, hs]) (by simp only [fanOut, hc, hs, Bool.false_eq_true, ↓reduceIte])
      | wanted =>
        refine Or.inr ⟨⟨e, s, rest, taken⟩, [], ?_, rfl, rfl, ?_, by simp⟩
        · simp only [fanOut, hc, hs, Bool.false_eq_true, ↓reduceIte]
        · simp only [calls, wants, hc, hs, Bool.not_false, Bool.and_self]

/-! ### Queues -/

/-- The event calls nobody, given who is attached and who is closed. -/
def Quiet (b : Bus κ) (e : Event) : Prop := ∀ s ∈ b.sinks, calls b.closed e s = false

/-- The bus in the middle of a delivery, with the events that wait. -/
def delivering (b : Bus κ) (queue : List Event) : Bus κ := { b with draining := true, pending := queue }

/-- Where draining a queue stops: at the end, or at the first event that calls somebody. -/
theorem drain_cases {b : Bus κ} (hopen : b.completed = false) (queue : List Event) :
    ((b.drain queue).1 = b.idle ∧ (b.drain queue).2.2 = .over ∧ ∀ e ∈ queue, b.Quiet e) ∨
    (∃ through d passed later, queue = through ++ d.event :: later ∧ (b.drain queue).1 = b.delivering later ∧
      (b.drain queue).2.2 = .next d ∧ (∀ e ∈ through, b.Quiet e) ∧ Stops b.closed b.sinks passed d) := by
  induction queue with
  | nil => exact Or.inl ⟨rfl, rfl, by simp⟩
  | cons e queue ih =>
    rcases hf : fanOut b.closed e 0 b.sinks with ⟨notes, reached⟩
    have hcases := fanOut_cases b.closed e 0 b.sinks
    rw [hf] at hcases
    rcases hcases with ⟨n, rfl, hq⟩ | ⟨d, passed, rfl, rfl, hstop⟩
    · have hdrain : b.drain (e :: queue) =
          ((b.drain queue).1, notes ++ .eventPublished e.name n :: (b.drain queue).2.1, (b.drain queue).2.2) := by
        simp only [drain, hopen, Bool.false_eq_true, ↓reduceIte, hf]
      rw [hdrain]
      rcases ih with ⟨hb, ht, hall⟩ | ⟨through, d, passed, later, rfl, hb, ht, hall, hstop⟩
      · exact Or.inl ⟨hb, ht, List.forall_mem_cons.mpr ⟨hq, hall⟩⟩
      · exact Or.inr ⟨e :: through, d, passed, later, rfl, hb, ht, List.forall_mem_cons.mpr ⟨hq, hall⟩, hstop⟩
    · have hdrain : b.drain (d.event :: queue) = (b.delivering queue, notes, .next d) := by
        simp only [drain, hopen, Bool.false_eq_true, ↓reduceIte, hf, delivering]
      rw [hdrain]
      exact Or.inr ⟨[], d, passed, queue, rfl, rfl, rfl, by simp, hstop⟩

theorem drain_of_completed {b : Bus κ} (h : b.completed = true) (queue : List Event) :
    b.drain queue = (b.idle, [], .over) := by
  cases queue with
  | nil => rfl
  | cons e queue => simp only [drain, h, ↓reduceIte]

/-- Going on after the code of a subscription: to the next one of the same delivery whose owner is called,
    or through the queue. -/
theorem afterNext_cases (b : Bus κ) (d : Delivery κ) (thrown : Option Thrown) :
    ((∀ s ∈ d.rest, calls b.closed d.event s = false) ∧ (b.afterNext d thrown).1 = (b.drain b.pending).1 ∧
      (b.afterNext d thrown).2.2 = (b.drain b.pending).2.2) ∨
    (∃ d' passed, (b.afterNext d thrown).1 = b ∧ (b.afterNext d thrown).2.2 = .next d' ∧ d'.event = d.event ∧
      Stops b.closed d.rest passed d') := by
  rcases hf : fanOut b.closed d.event (if thrown.isSome then d.taken else d.taken + 1) d.rest with ⟨notes, reached⟩
  have hcases := fanOut_cases b.closed d.event (if thrown.isSome then d.taken else d.taken + 1) d.rest
  rw [hf] at hcases
  rcases hcases with ⟨n, rfl, hq⟩ | ⟨d', passed, rfl, hde, hstop⟩
  · refine Or.inl ⟨hq, ?_, ?_⟩ <;> simp only [afterNext, hf]
  · refine Or.inr ⟨d', passed, ?_, ?_, hde, hstop⟩ <;> simp only [afterNext, hf]

/-! ### Closing -/

/-- The bus after subscriptions have been closed, one after another. -/
def closing (b : Bus κ) (sinks : List (Sink κ)) : Bus κ :=
  { b with closed := (sinks.map (·.id)).reverse ++ b.closed }

/-- Where closing subscriptions stops: at the end, or at the first whose owner is told. -/
theorem closeAll_cases (b : Bus κ) (total : Nat) (sinks : List (Sink κ)) :
    ((b.closeAll total sinks).1 = b.closing sinks ∧ (b.closeAll total sinks).2.2 = .over ∧
      ∀ s ∈ sinks, s.completes = false) ∨
    (∃ c passed, sinks = passed ++ c.current :: c.rest ∧
      (b.closeAll total sinks).1 = b.closing (passed ++ [c.current]) ∧
      (b.closeAll total sinks).2.2 = .complete c ∧ c.current.completes = true ∧
      ∀ s ∈ passed, s.completes = false) := by
  induction sinks generalizing b with
  | nil => exact Or.inl ⟨rfl, rfl, by simp⟩
  | cons s rest ih =>
    cases hs : s.completes with
    | true =>
      refine Or.inr ⟨⟨s, rest, total⟩, [], rfl, ?_, ?_, hs, by simp⟩
      · simp only [closeAll, hs, ↓reduceIte]
        rfl
      · simp only [closeAll, hs, ↓reduceIte]
    | false =>
      have hstep : b.closeAll total (s :: rest) = (b.closing [s]).closeAll total rest := by
        simp only [closeAll, hs, Bool.false_eq_true, ↓reduceIte]
        rfl
      rw [hstep]
      rcases ih (b.closing [s]) with ⟨hb, ht, hall⟩ | ⟨c, passed, rfl, hb, ht, hc, hall⟩
      · refine Or.inl ⟨hb.trans ?_, ht, List.forall_mem_cons.mpr ⟨hs, hall⟩⟩
        simp [closing]
      · refine Or.inr ⟨c, s :: passed, rfl, hb.trans ?_, ht, hc, List.forall_mem_cons.mpr ⟨hs, hall⟩⟩
        simp [closing]

end ThingHost.Bus
