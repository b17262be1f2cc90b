import Mathlib.Data.List.Induction
import ThingHost.Proofs.Bus.Law
import ThingHost.Proofs.Host.Effect

/-! What can be seen of a run: the code that is called in each step and whose it is. Together with the
    moves that the inputs make on a bus it is what the bus's own record says. -/

namespace ThingHost
namespace Host

/-! ### Runs -/

/-- The host that some inputs lead to. -/
def reached (inputs : List Input) : Host := (Host.new.run inputs).1

/-- What is seen in the steps of a run, one after another. -/
def seen {α : Type} (look : Host → Input → Option α) (h : Host) : List Input → List α
  | [] => []
  | i :: rest => (look h i).toList ++ seen look (h.step i).1 rest

section Runs
variable {α : Type} (look : Host → Input → Option α)

theorem run_append (h : Host) (a b : List Input) : (h.run (a ++ b)).1 = ((h.run a).1.run b).1 := by
  induction a generalizing h with
  | nil => rfl
  | cons i a ih => exact ih (h.step i).1

theorem seen_append (h : Host) (a b : List Input) : seen look h (a ++ b) = seen look h a ++ seen look (h.run a).1 b := by
  induction a generalizing h with
  | nil => rfl
  | cons i a ih =>
    simp only [List.cons_append, seen, List.append_assoc]
    exact congrArg _ (ih (h.step i).1)

theorem reached_append (a b : List Input) : reached (a ++ b) = ((reached a).run b).1 := run_append _ a b

theorem reached_snoc (a : List Input) (i : Input) : reached (a ++ [i]) = ((reached a).step i).1 := run_append _ a [i]

/-- What comes to hold in the course of a run comes to hold at one of its steps. -/
theorem exists_turn {P : List Input → Prop} {a b : List Input} (ha : ¬P a) (hb : P (a ++ b)) :
    ∃ before i after, b = before ++ i :: after ∧ ¬P (a ++ before) ∧ P (a ++ (before ++ [i])) := by
  induction b using List.reverseRecOn with
  | nil => exact absurd (List.append_nil a ▸ hb) ha
  | append_singleton b i ih =>
    by_cases hP : P (a ++ b)
    · obtain ⟨before, j, after, rfl, hbefore, hj⟩ := ih hP
      exact ⟨before, j, after ++ [i], by simp, hbefore, hj⟩
    · exact ⟨b, i, [], rfl, hP, hb⟩

theorem reached_cons (a : List Input) (i : Input) (b : List Input) :
    reached (a ++ i :: b) = ((reached (a ++ [i])).run b).1 := by
  rw [← reached_append, List.append_assoc, List.singleton_append]

theorem seen_concat (h : Host) (a : List Input) (i : Input) :
    seen look h (a ++ [i]) = seen look h a ++ (look (h.run a).1 i).toList := by
  rw [seen_append]
  exact congrArg _ (List.append_nil _)

theorem seen_eq_nil {h : Host} {inputs : List Input}
    (hn : ∀ a i b, inputs = a ++ i :: b → look (h.run a).1 i = none) : seen look h inputs = [] := by
  induction inputs generalizing h with
  | nil => rfl
  | cons i rest ih =>
    have hi : look h i = none := hn [] i rest rfl
    have hrest : seen look (h.step i).1 rest = [] := ih fun a j b hs => hn (i :: a) j b (by rw [hs]; rfl)
    rw [seen, hi, hrest]
    rfl

/-- What is part of something else at every step is part of it over the whole run. -/
theorem seen_flatMap {β : Type} {look' : Host → Input → Option β} {f : β → List α} {h : Host} {inputs : List Input}
    (hpart : ∀ a i b, inputs = a ++ i :: b → (look (h.run a).1 i).toList = (look' (h.run a).1 i).toList.flatMap f) :
    seen look h inputs = (seen look' h inputs).flatMap f := by
  induction inputs generalizing h with
  | nil => rfl
  | cons i rest ih =>
    have hi : (look h i).toList = (look' h i).toList.flatMap f := hpart [] i rest rfl
    have hrest : seen look (h.step i).1 rest = (seen look' (h.step i).1 rest).flatMap f :=
      ih fun a j b hs => hpart (i :: a) j b (by rw [hs]; rfl)
    rw [seen, seen, List.flatMap_append, hi, hrest]

theorem seen_snoc (a : List Input) (i : Input) :
    seen look Host.new (a ++ [i]) = seen look Host.new a ++ (look (reached a) i).toList := seen_concat look _ a i

theorem seen_cons (a : List Input) (i : Input) (b : List Input) : seen look Host.new (a ++ i :: b) =
    seen look Host.new a ++ ((look (reached a) i).toList ++ seen look (reached (a ++ [i])) b) := by
  rw [seen_append, reached_snoc]
  rfl

theorem mem_seen {x : α} {inputs : List Input} : x ∈ seen look Host.new inputs ↔
    ∃ a i b, inputs = a ++ i :: b ∧ look (reached a) i = some x := by
  constructor
  · induction inputs using List.reverseRecOn with
    | nil => exact fun h => absurd h List.not_mem_nil
    | append_singleton inputs i ih =>
      intro h
      rw [seen_snoc] at h
      rcases List.mem_append.mp h with h | h
      · obtain ⟨a, j, b, rfl, hj⟩ := ih h
        exact ⟨a, j, b ++ [i], by simp, hj⟩
      · exact ⟨inputs, i, [], rfl, Option.mem_toList.mp h⟩
  · rintro ⟨a, i, b, rfl, hi⟩
    rw [seen_cons, hi]
    exact List.mem_append_right _ (List.mem_append_left _ (by simp))

end Runs

theorem grounded_reached (inputs : List Input) : Grounded (reached inputs) := by
  induction inputs using List.reverseRecOn with
  | nil => exact grounded_new
  | append_singleton inputs i ih => exact reached_snoc inputs i ▸ ih.step i

theorem bus_kept (a b : List Input) {ref : BusRef} (hb : ((reached a).bus? ref).isSome) :
    ((reached (a ++ b)).bus? ref).isSome := by
  induction b using List.reverseRecOn with
  | nil => simpa using hb
  | append_singleton b i ih =>
    rw [← List.append_assoc, reached_snoc]
    exact (step_effect (grounded_reached (a ++ b)) i).kept ref ih

/-! ### What is seen -/

/-- What is seen of the last output of a step and of the code that is then on top of the stack. -/
def top? {α : Type} (look : Output → Frame → Option α) (h : Host) (i : Input) : Option α :=
  match (h.step i).2.getLast?, (h.step i).1.stack with
  | some o, f :: _ => look o f
  | _, _ => none

/-- The event that a step hands to the owner of a subscription. -/
def handed? (s : SubscriptionRef) : Host → Input → Option Event := top? fun
  | .callNext _ e, .next ref d _ => if ref = s.bus ∧ d.current.id = s.id then some e else none
  | .callBroker .., .relaying _ ref d _ => if ref = s.bus ∧ d.current.id = s.id then some d.event else none
  | _, _ => none

/-- The subscription that the completion of a bus tells in a step. -/
def told? (ref : BusRef) : Host → Input → Option Nat := top? fun
  | .callComplete _, .complete r c _ => if r = ref then some c.current.id else none
  | _, _ => none

/-- The subscription of a completed bus that is told in the step which makes it. -/
def greeted? (ref : BusRef) : Host → Input → Option Nat := top? fun
  | .callComplete _, .late s => if s.bus = ref then some s.id else none
  | _, _ => none

/-- The subscription whose owner is told of the completion in a step. -/
def notified? (ref : BusRef) (h : Host) (i : Input) : Option Nat := (told? ref h i).or (greeted? ref h i)

/-- The code that an input starts on a bus. -/
def startedOn (ref : BusRef) (h : Host) (i : Input) : Option (Bus.Running Listener) :=
  (moveOn ref h i).bind ((h.view ref).started ·)

/-- The events that a subscription is handed in the course of a run. -/
def received (s : SubscriptionRef) (inputs : List Input) : List Event := seen (handed? s) .new inputs

/-- The event that an input makes a bus take: it is published while the bus is not completed. -/
def taken? (ref : BusRef) (h : Host) (i : Input) : Option Event :=
  match moveOn ref h i with
  | some (.publish e) => if (h.bus ref).completed then none else some e
  | _ => none

/-- The events that a bus takes in the course of a run. -/
def published (ref : BusRef) (inputs : List Input) : List Event := seen (taken? ref) .new inputs

/-- The subscription that an input makes on a bus. -/
def made? (ref : BusRef) (h : Host) (i : Input) : Option (Sink Listener) := (moveOn ref h i).bind (h.view ref).made

/-- The subscriptions that are made on a bus in the course of a run. -/
def made (ref : BusRef) (inputs : List Input) : List (Sink Listener) := seen (made? ref) .new inputs

/-- The record of a bus after a run. -/
def record (ref : BusRef) (inputs : List Input) : Bus.Chronicle Listener :=
  Bus.Chronicle.new.run (seen (moveOn ref) .new inputs)

/-- The deliveries of a bus in the course of a run. -/
def rounds (ref : BusRef) (inputs : List Input) : List (Bus.Round Listener) := (record ref inputs).rounds

/-- An event is being handed to the owner of a subscription of a bus. -/
def delivering (ref : BusRef) (h : Host) : Bool := h.stack.any fun f =>
  match f.on? ref with
  | some (.next _) => true
  | _ => false

/-! ### The record of a bus -/

section Record
variable (ref : BusRef) (inputs : List Input)

theorem record_snoc (i : Input) : record ref (inputs ++ [i]) =
    match moveOn ref (reached inputs) i with
    | some m => (record ref inputs).step m
    | none => record ref inputs := by
  rw [record, seen_snoc]
  cases moveOn ref (reached inputs) i with
  | none => exact congrArg _ (List.append_nil _)
  | some m => exact List.foldl_append

theorem record_append (more : List Input) : record ref (inputs ++ more) =
    (record ref inputs).run (seen (moveOn ref) (reached inputs) more) := by
  rw [record, seen_append]
  exact List.foldl_append

theorem record_live : (record ref inputs).live = (reached inputs).view ref := by
  induction inputs using List.reverseRecOn with
  | nil => cases ref <;> rfl
  | append_singleton inputs i ih =>
    rw [record_snoc, reached_snoc, step_view (grounded_reached inputs)]
    cases moveOn ref (reached inputs) i with
    | none => exact ih
    | some m => exact congrArg (·.step m) ih

theorem record_bus : (record ref inputs).live.bus = (reached inputs).bus ref := by
  rw [record_live]
  rfl

theorem record_of_absent {ref : BusRef} {inputs : List Input} (h : (reached inputs).bus? ref = none) :
    record ref inputs = Bus.Chronicle.new := by
  have hnone : seen (moveOn ref) .new inputs = [] := by
    refine seen_eq_nil _ fun a i b hs => ?_
    cases hm : moveOn ref (reached a) i with
    | none => exact hm
    | some m =>
      have hthere := bus_kept a (i :: b) (move?_there (grounded_reached a) (on_eq_some.mp hm))
      rw [← hs, h] at hthere
      cases hthere
  rw [record, hnone]
  rfl

theorem record_sound : Bus.Sound (record ref inputs) := Bus.sound_new.run _

theorem record_started : (record ref inputs).started = seen (startedOn ref) .new inputs := by
  induction inputs using List.reverseRecOn with
  | nil => rfl
  | append_singleton inputs i ih =>
    rw [record_snoc, seen_snoc, startedOn]
    cases moveOn ref (reached inputs) i with
    | none => simpa using ih
    | some m =>
      show (record ref inputs).started ++ ((record ref inputs).live.started m).toList = _
      rw [ih, record_live]
      rfl

theorem record_published : (record ref inputs).published = published ref inputs := by
  rw [published]
  induction inputs using List.reverseRecOn with
  | nil => rfl
  | append_singleton inputs i ih =>
    rw [record_snoc, seen_snoc, taken?]
    cases moveOn ref (reached inputs) i with
    | none => simpa using ih
    | some m =>
      show (record ref inputs).published ++ ((record ref inputs).live.taken m).toList = _
      rw [ih, record_live]
      cases m <;> rfl

theorem record_attached : (record ref inputs).attached = made ref inputs := by
  rw [made]
  induction inputs using List.reverseRecOn with
  | nil => rfl
  | append_singleton inputs i ih =>
    rw [record_snoc, seen_snoc, made?]
    cases moveOn ref (reached inputs) i with
    | none => simpa using ih
    | some m =>
      rw [(record_sound ref inputs).attached_step, ih, record_live]
      rfl

end Record

/-! ### Who is made -/

section Made
variable {ref : BusRef} {inputs : List Input} {u : Sink Listener}

theorem made_append (a b : List Input) (hu : u ∈ made ref a) : u ∈ made ref (a ++ b) := by
  rw [made, seen_append]
  exact List.mem_append_left _ hu

theorem made_of_early (hu : u ∈ (record ref inputs).early) : u ∈ made ref inputs :=
  record_attached ref inputs ▸ List.mem_append_left _ hu

theorem there_of_made (hu : u ∈ made ref inputs) : ((reached inputs).bus? ref).isSome := by
  cases hb : (reached inputs).bus? ref with
  | some b => rfl
  | none =>
    rw [← record_attached, record_of_absent hb] at hu
    cases hu

theorem made_nodup (ref : BusRef) (inputs : List Input) : ((made ref inputs).map (·.id)).Nodup :=
  record_attached ref inputs ▸ (record_sound ref inputs).numbered.ids_nodup

/-- Nobody else has the number of a subscription. -/
theorem made_unique {v : Sink Listener} (hu : u ∈ made ref inputs) (hv : v ∈ made ref inputs) (hid : u.id = v.id) : u = v :=
  List.inj_on_of_nodup_map (made_nodup ref inputs) hu hv hid

/-- Turns are taken by subscriptions that were made. -/
theorem made_of_turn {r : Bus.Round Listener} (hr : r ∈ rounds ref inputs) {t : Sink Listener × Bool}
    (ht : t ∈ r.turns) : t.1 ∈ made ref inputs := by
  have law := record_sound ref inputs
  obtain ⟨above, base, -, -, hdel, -⟩ := law.frames
  have hin : t.1 ∈ r.audience := (hdel.in_turn r hr).subset (List.mem_map_of_mem ht)
  exact made_of_early ((law.faithful.audience r hr).subset hin)

end Made

/-! ### What is seen is what is recorded -/

/-- Either the last output of a step calls no code, or it calls that of the frame on top of the stack. -/
theorem step_code {h : Host} (g : Grounded h) (i : Input) :
    ((∀ o, (h.step i).2.getLast? = some o → o.calls = false) ∧ ∀ ref, startedOn ref h i = none) ∨
    ∃ f before o, (h.step i).1.stack = f :: h.base i ∧ (h.step i).2 = before ++ [o] ∧ f.Opens o ∧
      (∀ x ∈ before, x.calls = false) ∧ ∀ ref, startedOn ref h i = f.on? ref := by
  obtain ⟨f, hs, hc, hf⟩ := (step_effect g i).code
  cases f with
  | none => exact .inl ⟨fun o ho => hc o (List.mem_of_getLast? ho), fun ref => (hf ref).symm⟩
  | some f =>
    obtain ⟨before, o, hout, hopens, hquiet⟩ := hc
    exact .inr ⟨f, before, o, hs, hout, hopens, hquiet, fun ref => (hf ref).symm⟩

/-- Looking at the call that ends a step is looking at the code that it starts on a bus. -/
theorem top?_eq {α : Type} {look : Output → Frame → Option α} {ref : BusRef} {f : Bus.Running Listener → Option α}
    (hcall : ∀ {x : Frame} {o : Output}, x.Opens o → look o x = (x.on? ref).bind f)
    (hquiet : ∀ {x : Frame} {o : Output}, o.calls = false → look o x = none) {h : Host} (g : Grounded h) (i : Input) :
    top? look h i = (startedOn ref h i).bind f := by
  rcases step_code g i with ⟨hlast, hnone⟩ | ⟨x, before, o, hstack, hout, hopens, -, hon⟩
  · rw [hnone, top?]
    split
    · rename_i o x _ hout _
      exact hquiet (hlast o hout)
    · rfl
  · rw [hon, top?, hstack, hout, List.getLast?_concat]
    exact hcall hopens

theorem handed?_eq {h : Host} (g : Grounded h) (s : SubscriptionRef) (i : Input) :
    handed? s h i = (startedOn s.bus h i).bind (Bus.Running.for? s.id) := by
  refine top?_eq (fun {x o} hopens => ?_) (fun {x o} ho => by cases o <;> first | rfl | cases ho) g i
  cases hopens with
  | @next ref d after n _ => by_cases hr : ref = s.bus <;> simp [Frame.on?, Bus.Running.for?, hr]
  | @relaying broker posting thing ref d after channel text _ => by_cases hr : ref = s.bus <;> simp [Frame.on?, Bus.Running.for?, hr]
  | @complete ref c after n _ => by_cases hr : ref = s.bus <;> simp [Frame.on?, Bus.Running.for?, hr]
  | @late s' n => by_cases hr : s'.bus = s.bus <;> simp [Frame.on?, Bus.Running.for?, hr]
  | _ => rfl

theorem told?_eq {h : Host} (g : Grounded h) (ref : BusRef) (i : Input) :
    told? ref h i = (startedOn ref h i).bind Bus.Running.told? := by
  refine top?_eq (fun {x o} hopens => ?_) (fun {x o} ho => by cases o <;> first | rfl | cases ho) g i
  cases hopens with
  | @next r d after n _ => by_cases hr : r = ref <;> simp [Frame.on?, Bus.Running.told?, hr]
  | @relaying broker posting thing r d after channel text _ => by_cases hr : r = ref <;> simp [Frame.on?, Bus.Running.told?, hr]
  | @complete r c after n _ => by_cases hr : r = ref <;> simp [Frame.on?, Bus.Running.told?, hr]
  | @late s n => by_cases hr : s.bus = ref <;> simp [Frame.on?, Bus.Running.told?, hr]
  | _ => rfl

theorem greeted?_eq {h : Host} (g : Grounded h) (ref : BusRef) (i : Input) :
    greeted? ref h i = (startedOn ref h i).bind Bus.Running.greeted? := by
  refine top?_eq (fun {x o} hopens => ?_) (fun {x o} ho => by cases o <;> first | rfl | cases ho) g i
  cases hopens with
  | @next r d after n _ => by_cases hr : r = ref <;> simp [Frame.on?, Bus.Running.greeted?, hr]
  | @relaying broker posting thing r d after channel text _ => by_cases hr : r = ref <;> simp [Frame.on?, Bus.Running.greeted?, hr]
  | @complete r c after n _ => by_cases hr : r = ref <;> simp [Frame.on?, Bus.Running.greeted?, hr]
  | @late s n => by_cases hr : s.bus = ref <;> simp [Frame.on?, Bus.Running.greeted?, hr]
  | _ => rfl

section Seen
variable {α β : Type} {look look' : Host → Input → Option α}

theorem seen_filterMap (f : α → Option β) (h : Host) (inputs : List Input) :
    (seen look h inputs).filterMap f = seen (fun h i => (look h i).bind f) h inputs := by
  induction inputs generalizing h with
  | nil => rfl
  | cons i inputs ih =>
    simp only [seen, List.filterMap_append, ih]
    cases look h i with
    | none => rfl
    | some a => cases hfa : f a <;> simp [hfa]

theorem seen_congr (hl : ∀ h, Grounded h → ∀ i, look h i = look' h i) {h : Host} (g : Grounded h)
    (inputs : List Input) : seen look h inputs = seen look' h inputs := by
  induction inputs generalizing h with
  | nil => rfl
  | cons i inputs ih => rw [seen, seen, hl h g i, ih (g.step i)]

end Seen

/-- What a subscription is handed is what the record of its bus says. -/
theorem received_eq (s : SubscriptionRef) (inputs : List Input) :
    received s inputs = (record s.bus inputs).received s.id := by
  rw [Bus.Chronicle.received, record_started, seen_filterMap]
  exact seen_congr (fun h g i => handed?_eq g s i) grounded_new inputs

theorem told_eq (ref : BusRef) (inputs : List Input) : seen (told? ref) .new inputs = (record ref inputs).told := by
  rw [Bus.Chronicle.told, record_started, seen_filterMap]
  exact seen_congr (fun h g i => told?_eq g ref i) grounded_new inputs

theorem greeted_eq (ref : BusRef) (inputs : List Input) :
    seen (greeted? ref) .new inputs = (record ref inputs).greeted := by
  rw [Bus.Chronicle.greeted, record_started, seen_filterMap]
  exact seen_congr (fun h g i => greeted?_eq g ref i) grounded_new inputs

end Host
end ThingHost
