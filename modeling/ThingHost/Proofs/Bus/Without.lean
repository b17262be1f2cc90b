import Mathlib.Data.Nat.Count
import ThingHost.Proofs.Bus.Leaving
import ThingHost.Proofs.Bus.Throwing

/-! A bus without some of its subscriptions. Whoever is left out takes no turn, and the others move up to the numbers that
    are free. A bus that is used in the same way goes on without them as it does with them, turn by turn: where it stops
    at a subscription that is left out, the other is already past it. -/

namespace ThingHost

variable {κ : Type} {gone : List Nat} {id : Nat}

/-- The number of a subscription where some are left out. -/
def renumber (gone : List Nat) (id : Nat) : Nat := Nat.count (· ∉ gone) id

theorem renumber_inj {other : Nat} (hid : id ∉ gone) (hother : other ∉ gone) (h : renumber gone id = renumber gone other) :
    id = other := Nat.count_injective hid hother h

theorem renumber_lt {next : Nat} (hid : id ∉ gone) : renumber gone id < renumber gone next ↔ id < next :=
  ⟨fun h => Nat.lt_of_not_le fun hle => absurd h (Nat.not_lt.mpr (Nat.count_monotone _ hle)), Nat.count_strict_mono hid⟩

theorem renumber_succ_of_gone (hid : id ∈ gone) : renumber gone (id + 1) = renumber gone id :=
  Nat.count_succ_eq_count_iff.mpr fun h => h hid

theorem renumber_succ_of_kept (hid : id ∉ gone) : renumber gone (id + 1) = renumber gone id + 1 :=
  Nat.count_succ_eq_succ_count_iff.mpr hid

def Sink.renumber (gone : List Nat) (s : Sink κ) : Sink κ := { s with id := ThingHost.renumber gone s.id }

/-- The subscriptions that stay, under their new numbers. -/
def kept (gone : List Nat) (sinks : List (Sink κ)) : List (Sink κ) := (sinks.filter (·.id ∉ gone)).map (Sink.renumber gone)

section Kept
variable {s : Sink κ} {rest : List (Sink κ)}

theorem kept_cons_of_gone (hs : s.id ∈ gone) : kept gone (s :: rest) = kept gone rest := by
  simp [kept, List.filter_cons_of_neg, hs]

theorem kept_cons_of_kept (hs : s.id ∉ gone) : kept gone (s :: rest) = s.renumber gone :: kept gone rest := by
  simp [kept, List.filter_cons_of_pos, hs]

end Kept

/-! ### Counts

How many took an event and how many were told is noted, and makes no difference to anybody. -/

def Completion.uncounted (c : Completion κ) : Completion κ := { c with total := 0 }

def Turn.countless : Turn κ → Turn κ
  | .over => .over
  | .next d => .next d.uncounted
  | .complete c => .complete c.uncounted

def Delivery.without (gone : List Nat) (d : Delivery κ) : Delivery κ :=
  ⟨d.event, d.current.renumber gone, kept gone d.rest, 0⟩

def Completion.without (gone : List Nat) (c : Completion κ) : Completion κ := ⟨c.current.renumber gone, kept gone c.rest, 0⟩

namespace Bus

/-- What an operation on a bus comes to, apart from what is noted. -/
def outcome (x : Bus κ × List Note × Turn κ) : Bus κ × Turn κ := (x.1, x.2.2.countless)

def without (gone : List Nat) (b : Bus κ) : Bus κ where
  sinks := kept gone b.sinks
  pending := b.pending
  draining := b.draining
  completed := b.completed
  nextId := renumber gone b.nextId
  closed := (b.closed.filter (· ∉ gone)).map (renumber gone)

/-- Where a bus goes on with an event at some subscriptions: to the first whose owner is called, else with what waits. -/
def onward (b : Bus κ) (e : Event) : List (Sink κ) → Bus κ × Turn κ
  | [] => outcome (b.drain b.pending)
  | s :: rest => if calls b.closed e s then (b, .next ⟨e, s, rest, 0⟩) else onward b e rest

/-- Where a bus is without some subscriptions when it is at a turn with them: past the turns of those. -/
def catchUp (gone : List Nat) (x : Bus κ × Turn κ) : Bus κ × Turn κ :=
  match x.2 with
  | .over => (x.1.without gone, .over)
  | .next d => if d.current.id ∈ gone then (x.1.without gone).onward d.event (kept gone d.rest)
      else (x.1.without gone, .next (d.without gone))
  | .complete c => (x.1.without gone, .complete (c.without gone))

/-! ### Going on -/

section Onward
variable {b : Bus κ}

/-- Fanning out stops where the bus goes on, whatever it counts. -/
theorem outcome_fanOut (b : Bus κ) (e : Event) (n : Nat) (sinks : List (Sink κ)) :
    (match (fanOut b.closed e n sinks).2 with
      | .inl d => (b, .next d.uncounted)
      | .inr _ => outcome (b.drain b.pending)) = b.onward e sinks := by
  induction sinks generalizing n with
  | nil => rfl
  | cons s rest ih =>
    cases hc : b.closed.contains s.id with
    | true =>
      simp only [fanOut, onward, calls, hc, ↓reduceIte, Bool.not_true, Bool.false_and, Bool.false_eq_true]
      exact ih n
    | false =>
      cases hs : s.screen e with
      | wanted =>
        simp only [fanOut, onward, calls, wants, hc, hs, Bool.false_eq_true, ↓reduceIte, Bool.not_false, Bool.and_self]
        rfl
      | unwanted =>
        simp only [fanOut, onward, calls, wants, hc, hs, Bool.false_eq_true, ↓reduceIte, Bool.and_false]
        exact ih (n + 1)
      | faulty t =>
        simp only [fanOut, onward, calls, wants, hc, hs, Bool.false_eq_true, ↓reduceIte, Bool.and_false]
        exact ih n
      | handled note =>
        simp only [fanOut, onward, calls, wants, hc, hs, Bool.false_eq_true, ↓reduceIte, Bool.and_false]
        exact ih (n + 1)

theorem outcome_afterNext (b : Bus κ) (d : Delivery κ) (thrown : Option Thrown) :
    outcome (b.afterNext d thrown) = b.onward d.event d.rest := by
  rw [← outcome_fanOut b d.event (if thrown.isSome then d.taken else d.taken + 1) d.rest]
  simp only [afterNext]
  split <;> rename_i hf <;> rw [hf] <;> rfl

/-- Draining does not look at what waits, nor at whether something is being delivered. -/
theorem drain_delivering (b : Bus κ) (queue later : List Event) : (b.delivering later).drain queue = b.drain queue := by
  induction queue with
  | nil => rfl
  | cons e queue ih =>
    simp only [drain, ih]
    rfl

theorem outcome_drain_cons (hopen : b.completed = false) (e : Event) (queue : List Event) :
    outcome (b.drain (e :: queue)) = (b.delivering queue).onward e b.sinks := by
  have hclosed : (b.delivering queue).closed = b.closed := rfl
  have hpending : (b.delivering queue).pending = queue := rfl
  rw [← outcome_fanOut (b.delivering queue) e 0 b.sinks, hclosed, hpending, drain_delivering, drain, if_neg (by simp [hopen])]
  split <;> rename_i hf <;> rw [hf] <;> rfl

end Onward

/-! ### Without some -/

section Without
variable {b : Bus κ}

theorem without_new (hgone : 0 ∉ gone) : (Bus.new : Bus κ).without gone = .new := by
  simp [without, Bus.new, kept, renumber, Nat.count_succ, hgone]

theorem mem_without_closed (hid : id ∉ gone) : renumber gone id ∈ (b.without gone).closed ↔ id ∈ b.closed := by
  simp only [without, List.mem_map, List.mem_filter, decide_eq_true_eq]
  constructor
  · rintro ⟨other, ⟨hother, hkept⟩, heq⟩
    exact renumber_inj hkept hid heq ▸ hother
  · exact fun h => ⟨id, ⟨h, hid⟩, rfl⟩

theorem isClosed_without (hid : id ∉ gone) : (b.without gone).isClosed (renumber gone id) = b.isClosed id := by
  rw [isClosed, isClosed, Bool.eq_iff_iff]
  simpa using mem_without_closed hid

theorem calls_without {s : Sink κ} (hs : s.id ∉ gone) (e : Event) :
    calls (b.without gone).closed e (s.renumber gone) = calls b.closed e s := by
  have hclosed : (b.without gone).closed.contains (renumber gone s.id) = b.closed.contains s.id := isClosed_without hs
  show (!(b.without gone).closed.contains (renumber gone s.id) && wants s e) = _
  rw [hclosed, calls]

/-- An event goes on without some as it goes on with them, if the queue does. -/
theorem onward_without (hdrain : outcome ((b.without gone).drain b.pending) = catchUp gone (outcome (b.drain b.pending)))
    (e : Event) (sinks : List (Sink κ)) :
    (b.without gone).onward e (kept gone sinks) = catchUp gone (b.onward e sinks) := by
  induction sinks with
  | nil => exact hdrain
  | cons s rest ih =>
    by_cases hs : s.id ∈ gone
    · rw [kept_cons_of_gone hs, onward]
      split
      · simp only [catchUp, hs, ↓reduceIte]
      · exact ih
    · rw [kept_cons_of_kept hs, onward, onward, calls_without hs]
      split
      · simp only [catchUp, hs, ↓reduceIte]
        rfl
      · exact ih

theorem drain_without (queue : List Event) : outcome ((b.without gone).drain queue) = catchUp gone (outcome (b.drain queue)) := by
  induction queue with
  | nil => rfl
  | cons e queue ih =>
    cases hopen : b.completed with
    | true =>
      rw [drain_of_completed hopen, drain_of_completed (show (b.without gone).completed = true from hopen)]
      rfl
    | false =>
      rw [outcome_drain_cons hopen, outcome_drain_cons (show (b.without gone).completed = false from hopen)]
      refine onward_without (b := b.delivering queue) ?_ e b.sinks
      rw [drain_delivering]
      exact (congrArg outcome (drain_delivering (b.without gone) queue queue)).trans ih

theorem publish_without (b : Bus κ) (e : Event) : outcome ((b.without gone).publish e) = catchUp gone (outcome (b.publish e)) := by
  have hcompleted : (b.without gone).completed = b.completed := rfl
  have hdraining : (b.without gone).draining = b.draining := rfl
  simp only [publish, hcompleted, hdraining]
  cases b.completed with
  | true => rfl
  | false =>
    cases b.draining with
    | true => rfl
    | false => exact drain_without (b.pending ++ [e])

theorem afterNext_without (b : Bus κ) (d : Delivery κ) (thrown : Option Thrown) :
    (b.without gone).onward d.event (kept gone d.rest) = catchUp gone (outcome (b.afterNext d thrown)) := by
  rw [outcome_afterNext]
  exact onward_without (drain_without b.pending) d.event d.rest

/-- Nobody who is left out is told of a completion. -/
theorem closeAll_without (n m : Nat) {sinks : List (Sink κ)} (hsilent : ∀ s ∈ sinks, s.id ∈ gone → s.completes = false) :
    outcome ((b.without gone).closeAll n (kept gone sinks)) = catchUp gone (outcome (b.closeAll m sinks)) := by
  induction sinks generalizing b with
  | nil => rfl
  | cons s rest ih =>
    have hrest : ∀ x ∈ rest, x.id ∈ gone → x.completes = false := fun x hx => hsilent x (List.mem_cons_of_mem _ hx)
    by_cases hs : s.id ∈ gone
    · have hb : ({ b with closed := s.id :: b.closed } : Bus κ).without gone = b.without gone := by
        simp [without, List.filter_cons_of_neg, hs]
      have hquiet := hsilent s List.mem_cons_self hs
      rw [kept_cons_of_gone hs, closeAll, if_neg (by simp [hquiet]), ← ih hrest, hb]
    · have hb : ({ b with closed := s.id :: b.closed } : Bus κ).without gone =
          { b.without gone with closed := renumber gone s.id :: (b.without gone).closed } := by
        simp [without, List.filter_cons_of_pos, hs]
      rw [kept_cons_of_kept hs, closeAll, closeAll]
      cases hwants : s.completes with
      | true =>
        rw [if_pos (show (s.renumber gone).completes = true from hwants), if_pos rfl]
        exact congrArg (·, Turn.complete (Completion.without gone ⟨s, rest, 0⟩)) hb.symm
      | false =>
        rw [if_neg (by simp [Sink.renumber, hwants]), if_neg (by simp), ← ih hrest, hb]
        rfl

theorem complete_without (hsilent : ∀ s ∈ b.sinks, s.id ∈ gone → s.completes = false) :
    outcome (b.without gone).complete = catchUp gone (outcome b.complete) := by
  have hcompleted : (b.without gone).completed = b.completed := rfl
  simp only [complete, hcompleted]
  cases b.completed with
  | true => rfl
  | false => exact closeAll_without (b := { b with completed := true, sinks := [] }) _ _ hsilent

theorem outcome_afterComplete (b : Bus κ) (c : Completion κ) (thrown : Option Thrown) :
    outcome (b.afterComplete c thrown) = outcome (b.closeAll c.total c.rest) := rfl

/-! ### Subscribing -/

theorem attach_without (hid : b.nextId ∉ gone) (screen : Event → Screening) (completes : Bool) (owner : κ) :
    (b.without gone).attach screen completes owner =
      ((b.attach screen completes owner).1.without gone, (b.attach screen completes owner).2.renumber gone) := by
  have hnext := renumber_succ_of_kept hid
  have hcompleted : (b.without gone).completed = b.completed := rfl
  simp only [attach, hcompleted]
  cases b.completed with
  | true => simp [without, hid, hnext, Sink.renumber]
  | false => simp [without, kept, hid, hnext, Sink.renumber]

/-- One that is left out may come, -/
theorem attach_of_gone (hid : b.nextId ∈ gone) (screen : Event → Screening) (completes : Bool) (owner : κ) :
    (b.attach screen completes owner).1.without gone = b.without gone := by
  have hnext := renumber_succ_of_gone hid
  cases hc : b.completed with
  | true =>
    rw [attach_late hc]
    simp [without, hid, hnext]
  | false =>
    rw [attach_open hc]
    simp [without, kept, hid, hnext]

/-- and go. -/
theorem unsubscribe_of_gone (hid : id ∈ gone) : (b.unsubscribe id).without gone = b.without gone := by
  rcases unsubscribe_cases b id with heq | ⟨-, heq⟩ <;> rw [heq]
  have hsinks : kept gone (b.sinks.filter (·.id ≠ id)) = kept gone b.sinks := by
    rw [kept, kept, List.filter_filter]
    refine congrArg _ (List.filter_congr fun s _ => ?_)
    by_cases hs : s.id = id <;> simp [hs, hid]
  simp only [without, hsinks, List.filter_cons_of_neg (p := (decide <| · ∉ gone)) (by simpa using hid)]

theorem unsubscribe_without (hid : id ∉ gone) : (b.without gone).unsubscribe (renumber gone id) = (b.unsubscribe id).without gone := by
  have hmade : (b.without gone).nextId ≤ renumber gone id ↔ b.nextId ≤ id := by
    rw [← Nat.not_lt, ← Nat.not_lt]
    exact not_congr (renumber_lt hid)
  simp only [Bus.unsubscribe, isClosed_without hid, hmade]
  split
  · rfl
  · have hsinks : (kept gone b.sinks).filter (·.id ≠ renumber gone id) = kept gone (b.sinks.filter (·.id ≠ id)) := by
      rw [kept, kept, List.filter_map, List.filter_filter, List.filter_filter]
      refine congrArg _ (List.filter_congr fun s _ => ?_)
      by_cases hs : s.id ∈ gone
      · simp [hs]
      · have hne : renumber gone s.id = renumber gone id ↔ s.id = id :=
          ⟨renumber_inj hs hid, fun h => congrArg _ h⟩
        simp [hs, Sink.renumber, hne]
    simp only [without, hsinks, List.filter_cons_of_pos (p := (decide <| · ∉ gone)) (decide_eq_true hid), List.map_cons]

end Without

/-! ### Whose turn it is -/

/-- The subscription that a turn is at holds `P`; one that is told of the completion wants to know. -/
def Meets (P : Sink κ → Prop) : Turn κ → Prop
  | .over => True
  | .next d => P d.current
  | .complete c => P c.current ∧ c.current.completes = true

section Meets
variable {P : Sink κ → Prop} {b : Bus κ}

theorem drain_meets (hs : ∀ s ∈ b.sinks, P s) (queue : List Event) : Meets P (b.drain queue).2.2 := by
  cases hopen : b.completed with
  | true =>
    rw [drain_of_completed hopen]
    trivial
  | false =>
    rcases drain_cases hopen queue with ⟨-, ht, -⟩ | ⟨_, d, _, _, -, -, ht, -, hstop⟩ <;> rw [ht]
    · trivial
    · exact hs d.current (by rw [hstop.split]; simp)

theorem publish_meets (hs : ∀ s ∈ b.sinks, P s) (e : Event) : Meets P (b.publish e).2.2 := by
  rcases publish_cases b e with ⟨-, -, ht⟩ | ⟨-, -, -, ht⟩ | ⟨-, -, hb⟩
  · rw [ht]
    trivial
  · rw [ht]
    trivial
  · rw [hb]
    exact drain_meets hs _

theorem afterNext_meets (hs : ∀ s ∈ b.sinks, P s) {d : Delivery κ} (hrest : ∀ s ∈ d.rest, P s) (thrown : Option Thrown) :
    Meets P (b.afterNext d thrown).2.2 := by
  rcases afterNext_cases b d thrown with ⟨-, -, ht⟩ | ⟨d', _, -, ht, -, hstop⟩ <;> rw [ht]
  · exact drain_meets hs _
  · exact hrest d'.current (by rw [hstop.split]; simp)

theorem closeAll_meets (b : Bus κ) (total : Nat) {sinks : List (Sink κ)} (hs : ∀ s ∈ sinks, P s) :
    Meets P (b.closeAll total sinks).2.2 := by
  rcases closeAll_cases b total sinks with ⟨-, ht, -⟩ | ⟨c, _, hsplit, -, ht, hwants, -⟩ <;> rw [ht]
  · trivial
  · exact ⟨hs c.current (by rw [hsplit]; simp), hwants⟩

theorem complete_meets (hs : ∀ s ∈ b.sinks, P s) : Meets P b.complete.2.2 := by
  rw [complete]
  split
  · trivial
  · exact closeAll_meets _ _ hs

end Meets

end Bus
end ThingHost
