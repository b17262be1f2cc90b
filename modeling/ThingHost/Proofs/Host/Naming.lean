import Mathlib.Data.List.Nodup
import ThingHost.Host.Step

/-! Other numbers for the same things. A host knows Things, calls and postings by numbers, and only ever uses a number
    to find what bears it. So a host may be a part of a larger one, under other numbers. -/

namespace ThingHost

/-- New numbers for Things, calls and postings. -/
structure Naming where
  thing : Nat → Nat
  call : Nat → Nat
  posting : Nat → Nat

/-- Some given numbers, and then those from `next` on. -/
def Naming.counting (given : List Nat) (next k : Nat) : Nat := given[k]?.getD (next + (k - given.length))

theorem Naming.counting_lt {given : List Nat} {next k : Nat} (hk : k < given.length) :
    counting given next k = given[k] := by rw [counting, List.getElem?_eq_getElem hk, Option.getD_some]

theorem Naming.counting_ge {given : List Nat} {next k : Nat} (hk : given.length ≤ k) :
    counting given next k = next + (k - given.length) := by rw [counting, List.getElem?_eq_none hk, Option.getD_none]

/-! ### Renaming -/

section Rename
variable (ρ : Naming)

def BusRef.rename : BusRef → BusRef
  | .own t => .own (ρ.thing t)
  | .alone n => .alone n

def SubscriptionRef.rename (s : SubscriptionRef) : SubscriptionRef := ⟨s.bus.rename ρ, s.id⟩

def Call.rename (c : Call) : Call := { c with thing := ρ.thing c.thing }

def Job.rename : Job → Job
  | .resume n answer => .resume (ρ.call n) answer
  | .posted n failure => .posted (ρ.posting n) failure
  | .wake token => .wake token

def Result.rename : Result → Result
  | .none => .none
  | .servient n => .servient n
  | .thing n => .thing (ρ.thing n)
  | .bus n => .bus n
  | .subscription s => .subscription (s.rename ρ)
  | .call n => .call (ρ.call n)
  | .posting n => .posting (ρ.posting n)

def After.rename : After → After
  | .returned r => .returned (r.map (Result.rename ρ))
  | .settled n outcome => .settled (ρ.call n) outcome

def Frame.rename : Frame → Frame
  | .next ref d after => .next (ref.rename ρ) d (after.rename ρ)
  | .complete ref c after => .complete (ref.rename ρ) c (after.rename ρ)
  | .late s => .late (s.rename ρ)
  | .handler n => .handler (ρ.call n)
  | .relaying n ref d after => .relaying (ρ.posting n) (ref.rename ρ) d (after.rename ρ)
  | .posting n => .posting (ρ.posting n)
  | .woken => .woken

def Source.rename : Source → Source
  | .topic t heard => .topic (ρ.thing t) heard
  | .bus n guard => .bus n guard

def Operation.rename : Operation → Operation
  | .register servient t => .register servient (ρ.thing t)
  | .expose t => .expose (ρ.thing t)
  | .destroy t => .destroy (ρ.thing t)
  | .add t kind name definition handler => .add (ρ.thing t) kind name definition handler
  | .remove t kind name => .remove (ρ.thing t) kind name
  | .setHandler t kind handler name => .setHandler (ρ.thing t) kind handler name
  | .emit t name payload => .emit (ρ.thing t) name payload
  | .call t ask => .call (ρ.thing t) ask
  | .subscribe source client completes => .subscribe (source.rename ρ) client completes
  | .unsubscribe s => .unsubscribe (s.rename ρ)
  | .relay t broker => .relay (ρ.thing t) broker
  | op => op

def Input.rename : Input → Input
  | .operate op => .operate (op.rename ρ)
  | .answer n outcome => .answer (ρ.call n) outcome
  | .acknowledge n failure => .acknowledge (ρ.posting n) failure
  | i => i

def Output.rename : Output → Output
  | .returned r => .returned (r.map (Result.rename ρ))
  | .settled n outcome => .settled (ρ.call n) outcome
  | .answered n => .answered (ρ.posting n)
  | .callHandler client n arguments => .callHandler client (ρ.call n) arguments
  | .callBroker broker n channel text => .callBroker broker (ρ.posting n) channel text
  | o => o

end Rename

namespace Host

/-! ### A list within a list -/

/-- The entries of `xs` stand in `ys` under other numbers, and new entries go on to do so. Under numbers that are not
    used stands what stood there in `old`. -/
structure Carries {α β : Type} (f : Nat → Nat) (g : α → β) (old : List β) (xs : List α) (ys : List β) : Prop where
  injective : Function.Injective f
  same : ∀ k, ys[f k]? = xs[k]?.map g
  onward : ∀ j, f (xs.length + j) = ys.length + j
  apart : ∀ m, (∀ k, f k ≠ m) → ys[m]? = old[m]?

namespace Carries
variable {α β : Type} {f : Nat → Nat} {g : α → β} {old : List β} {xs : List α} {ys : List β}

/-- `xs` stands in `ys` under the numbers `given`, if it is what is found there. -/
theorem start {given : List Nat} (hnodup : given.Nodup) (hgiven : given.map (ys[·]?) = xs.map fun x => some (g x)) :
    Carries (Naming.counting given ys.length) g ys xs ys := by
  have hlen : given.length = xs.length := by simpa using congrArg List.length hgiven
  have hat : ∀ k (hk : k < given.length), ys[given[k]]? = xs[k]?.map g := fun k hk => by
    have hk' := congrArg (·[k]?) hgiven
    have hx : k < xs.length := hlen ▸ hk
    simp only [List.getElem?_map, List.getElem?_eq_getElem hk, List.getElem?_eq_getElem hx, Option.map_some] at hk' ⊢
    exact Option.some.inj hk'
  have hlt : ∀ k (hk : k < given.length), given[k] < ys.length := fun k hk => by
    have hx : k < xs.length := hlen ▸ hk
    have hk' := hat k hk
    rw [List.getElem?_eq_getElem hx] at hk'
    exact (List.getElem?_eq_some_iff.mp hk').1
  refine ⟨fun j k heq => ?_, fun k => ?_, fun j => ?_, fun m _ => rfl⟩
  -- The given numbers are in use and those that follow are not, so none comes twice.
  · rcases Nat.lt_or_ge j given.length with hj | hj <;> rcases Nat.lt_or_ge k given.length with hk | hk
    · rw [Naming.counting_lt hj, Naming.counting_lt hk] at heq
      exact hnodup.getElem_inj_iff.mp heq
    · rw [Naming.counting_lt hj, Naming.counting_ge hk] at heq
      have := hlt j hj
      omega
    · rw [Naming.counting_ge hj, Naming.counting_lt hk] at heq
      have := hlt k hk
      omega
    · rw [Naming.counting_ge hj, Naming.counting_ge hk] at heq
      omega
  · rcases Nat.lt_or_ge k given.length with hk | hk
    · rw [Naming.counting_lt hk, hat k hk]
    · rw [Naming.counting_ge hk, List.getElem?_eq_none (by omega), List.getElem?_eq_none (hlen ▸ hk)]
      rfl
  · rw [Naming.counting_ge (by omega), hlen, Nat.add_sub_cancel_left]

theorem next (h : Carries f g old xs ys) : f xs.length = ys.length := h.onward 0

theorem append (h : Carries f g old xs ys) (x : α) : Carries f g old (xs ++ [x]) (ys ++ [g x]) := by
  refine ⟨h.injective, fun k => ?_, fun j => ?_, fun m hm => ?_⟩
  · rcases Nat.lt_trichotomy k xs.length with hlt | rfl | hgt
    · have hsome : ys[f k]? = some (g xs[k]) := by rw [h.same, List.getElem?_eq_getElem hlt, Option.map_some]
      rw [List.getElem?_append_left hlt, List.getElem?_append_left (List.getElem?_eq_some_iff.mp hsome).1, h.same]
    · rw [h.next, List.getElem?_concat_length, List.getElem?_concat_length]
      rfl
    -- Behind the new entry there is nothing, in either list.
    · obtain ⟨j, rfl⟩ := Nat.exists_eq_add_of_lt hgt
      have hnone : (ys ++ [g x])[f (xs.length + j + 1)]? = none := by
        rw [List.getElem?_eq_none_iff, Nat.add_assoc, h.onward]
        simp
      rw [hnone, List.getElem?_eq_none (by simp)]
      rfl
  · have hnext := h.onward (j + 1)
    simp only [List.length_append, List.length_cons, List.length_nil]
    rw [Nat.add_assoc, Nat.add_comm 0 1, Nat.add_comm 1 j, hnext]
    omega
  · have hne : m ≠ ys.length := fun heq => hm xs.length (h.next.trans heq.symm)
    rw [← h.apart m hm, List.getElem?_append]
    split
    · rfl
    · rename_i hge
      rw [List.getElem?_eq_none (by simp; omega), List.getElem?_eq_none (by omega)]

theorem set (h : Carries f g old xs ys) (k : Nat) (x : α) : Carries f g old (xs.set k x) (ys.set (f k) (g x)) := by
  refine ⟨h.injective, fun j => ?_, fun j => ?_, fun m hm => ?_⟩
  · by_cases hk : k = j
    · subst hk
      rw [List.getElem?_set_self', List.getElem?_set_self', h.same]
      cases xs[k]? <;> rfl
    · have hne : f k ≠ f j := fun heq => hk (h.injective heq)
      rw [List.getElem?_set_ne hne, List.getElem?_set_ne hk, h.same]
  · rw [List.length_set, List.length_set, h.onward]
  · rw [List.getElem?_set_ne (hm k), h.apart m hm]

end Carries

/-! ### A host within a host -/

/-- The host `p` is part of the host `h` under other numbers. What bears none of them is in `h` as it was in `b`. -/
structure Embeds (ρ : Naming) (b p h : Host) : Prop where
  things : Carries ρ.thing id b.things p.things h.things
  calls : Carries ρ.call (Call.rename ρ) b.calls p.calls h.calls
  postings : Carries ρ.posting id b.postings p.postings h.postings
  buses : h.buses = p.buses
  queue : h.queue = p.queue.map (Job.rename ρ)
  stack : h.stack = p.stack.map (Frame.rename ρ)
  clock : h.clock = p.clock

namespace Embeds
variable {ρ : Naming} {b p h : Host}

theorem thing (e : Embeds ρ b p h) (t : Nat) : h.things[ρ.thing t]? = p.things[t]? := by
  rw [e.things.same, Option.map_id_fun, id]

theorem posting (e : Embeds ρ b p h) (n : Nat) : h.postings[ρ.posting n]? = p.postings[n]? := by
  rw [e.postings.same, Option.map_id_fun, id]

theorem call (e : Embeds ρ b p h) (n : Nat) : h.calls[ρ.call n]? = p.calls[n]?.map (Call.rename ρ) := e.calls.same n

theorem bus? (e : Embeds ρ b p h) (ref : BusRef) : h.bus? (ref.rename ρ) = p.bus? ref := by
  cases ref with
  | own t => exact congrArg (Option.map (·.bus)) (e.thing t)
  | alone n => exact congrArg (·[n]?) e.buses

theorem busThing (e : Embeds ρ b p h) (ref : BusRef) : h.busThing (ref.rename ρ) = p.busThing ref := by
  cases ref with
  | own t => exact congrArg (Option.map (·.id)) (e.thing t)
  | alone n => rfl

theorem setThing (e : Embeds ρ b p h) (t : Nat) (x : ExposedThing) :
    Embeds ρ b (p.setThing t x) (h.setThing (ρ.thing t) x) :=
  { e with things := e.things.set t x }

theorem setBus (e : Embeds ρ b p h) (ref : BusRef) (bus : Bus Listener) :
    Embeds ρ b (p.setBus ref bus) (h.setBus (ref.rename ρ) bus) := by
  cases ref with
  | own t =>
    simp only [Host.setBus, BusRef.rename, e.thing]
    cases p.things[t]? with
    | none => exact e
    | some x => exact e.setThing t { x with bus }
  | alone n => exact { e with buses := congrArg (·.set n bus) e.buses }

theorem push (e : Embeds ρ b p h) (f : Frame) : Embeds ρ b (p.push f) (h.push (f.rename ρ)) :=
  { e with stack := congrArg (f.rename ρ :: ·) e.stack }

theorem enqueue (e : Embeds ρ b p h) (j : Job) : Embeds ρ b (p.enqueue j) (h.enqueue (j.rename ρ)) := by
  refine { e with queue := ?_ }
  rw [Host.enqueue, Host.enqueue, e.queue, List.map_append]
  rfl

theorem setProgress (e : Embeds ρ b p h) (n : Nat) (progress : Progress) :
    Embeds ρ b (p.setProgress n progress) (h.setProgress (ρ.call n) progress) := by
  simp only [Host.setProgress, e.call]
  cases p.calls[n]? with
  | none => exact e
  | some c => exact { e with calls := e.calls.set n { c with progress } }

theorem setStage (e : Embeds ρ b p h) (n : Nat) (stage : Stage) :
    Embeds ρ b (p.setStage n stage) (h.setStage (ρ.posting n) stage) := by
  simp only [Host.setStage, e.posting]
  cases p.postings[n]? with
  | none => exact e
  | some m => exact { e with postings := e.postings.set n { m with stage } }

theorem startCall (e : Embeds ρ b p h) (c : Call) : Embeds ρ b (p.startCall c) (h.startCall (c.rename ρ)) :=
  { e with calls := e.calls.append c }

theorem startPosting (e : Embeds ρ b p h) (thing : Value) (event : Event) :
    Embeds ρ b (p.startPosting thing event).1 (h.startPosting thing event).1 ∧
      (h.startPosting thing event).2 = ρ.posting (p.startPosting thing event).2 :=
  ⟨{ e with postings := e.postings.append _ }, e.postings.next.symm⟩

theorem answered (e : Embeds ρ b p h) (n : Nat) (answer : Outcome) :
    Embeds ρ b (p.answered n answer) (h.answered (ρ.call n) answer) :=
  (e.setProgress n .answered).enqueue (.resume n answer)

end Embeds

end Host
end ThingHost
