import ThingHost.Proofs.Host.Outline

/-! Relays and their broker disturb nobody. Two runs that differ only in which relays are attached and in how the broker
    answers have one outline. So all who are not relays see the same, in the same order: what their calls come to, what
    Things are like, what is registered, and which events their subscriptions are handed. -/

namespace ThingHost

/-- What the owner of a subscription is called for: an event, or the completion. -/
def Output.callback? (s : SubscriptionRef) (whose : Option SubscriptionRef) : Output → Option (Option Event)
  | .callNext _ e => if whose = some s then some (some e) else none
  | .callComplete _ => if whose = some s then some none else none
  | _ => none

theorem Frame.Opens.open_eq {f : Frame} {o : Output} (hopens : f.Opens o) : o.open = !f.brokers := by cases hopens <;> rfl

def Sign.callback? (s : SubscriptionRef) (x : Sign) : Option (Option Event) := x.output.callback? s x.whose

namespace Host

def callback? (s : SubscriptionRef) : Host → Input → Option (Option Event) := top? fun o f => o.callback? s f.whose?

/-- What the owner of a subscription is called for in the course of a run: events, and the completion. -/
def callbacks (s : SubscriptionRef) (inputs : List Input) : List (Option Event) := seen (callback? s) .new inputs

/-! ### Subscriptions of others -/

section Calls
variable {gone : BusRef → List Nat} {h : Host} {i : Input} {s : SubscriptionRef}

theorem Stands.top {p : Host} {owed : List Sign} (stands : Stands gone h p owed) {f : Frame} {stack : List Frame}
    (hs : h.stack = f :: stack) : f.Stays gone ∨
      f.brokers = true ∧ ∀ ref d, f.on? ref = some (.next d) → d.current.id ∈ gone ref := by
  cases stands with
  | level e => exact .inl (e.stays f (hs ▸ List.mem_cons_self))
  | behind top turn =>
    subst top
    obtain rfl := (List.cons.inj hs).1
    refine .inr ⟨rfl, fun ref d hon => ?_⟩
    simp only [Frame.on?] at hon
    split at hon <;> cases hon
    rename_i href
    exact href ▸ turn
  | posting top =>
    subst top
    obtain rfl := (List.cons.inj hs).1
    exact .inr ⟨rfl, by simp [Frame.on?]⟩

theorem renumber_eq_iff {t : SubscriptionRef} (hs : s.id ∉ gone s.bus) (ht : t.id ∉ gone t.bus) :
    t.renumber gone = s.renumber gone ↔ t = s := by
  refine ⟨fun heq => ?_, fun heq => heq ▸ rfl⟩
  obtain ⟨ref, id⟩ := s
  obtain ⟨ref', id'⟩ := t
  obtain ⟨hbus, hid⟩ := SubscriptionRef.mk.inj heq
  obtain rfl : ref' = ref := hbus
  exact congrArg _ (renumber_inj ht hs hid)

/-- An input that concerns relays alone starts no code on a bus. -/
theorem errand_started (hi : h.errand gone i = true) (ref : BusRef) : startedOn ref h i = none := by
  cases i with
  | operate op =>
    rcases hm : moveOn ref h (.operate op) with _ | m
    · rw [startedOn, hm]
      rfl
    · have ha := on_eq_some.mp hm
      rw [startedOn, hm, Option.bind_some]
      cases op with
      | relay t broker =>
        obtain ⟨x, -, hr⟩ := Option.bind_eq_some_iff.mp ha
        cases hr
        simp [Bus.Live.started, Bus.Live.react]
      | unsubscribe s =>
        obtain ⟨b, -, hr⟩ := Option.bind_eq_some_iff.mp ha
        cases hr
        rfl
      | post broker thing e => cases ha
      | _ => cases hi
  | reply r =>
    simp only [errand] at hi
    split at hi
    · rename_i hs
      simp [startedOn, moveOn, move?, hs, on]
    · cases hi
  | acknowledge n failure => rfl
  | tick =>
    simp only [errand, Bool.and_eq_true] at hi
    have hnone : h.resumed? = none := by
      rw [resumed?]
      rcases hq : h.queue with _ | ⟨job, queue⟩
      · rfl
      · cases job with
        | posted n failure => rfl
        | _ => simp [hq, Job.isPosted] at hi
    simp [startedOn, moveOn, move?, hi.1, hnone, on]
  | _ => cases hi

theorem callback?_quiet {o : Output} (ho : o.calls = false) (whose : Option SubscriptionRef) : o.callback? s whose = none := by
  cases o <;> first | rfl | cases ho

theorem callback?_elsewhere {f : Frame} {o : Output} (hopens : f.Opens o) (hon : f.on? s.bus = none) :
    o.callback? s f.whose? = none := by
  cases hopens with
  | @next ref d after n owner =>
    refine if_neg fun hw => ?_
    simp [Frame.on?, ← Option.some.inj hw] at hon
  | @complete ref c after n owner =>
    refine if_neg fun hw => ?_
    simp [Frame.on?, ← Option.some.inj hw] at hon
  | @late t n =>
    refine if_neg fun hw => ?_
    simp [Frame.on?, ← Option.some.inj hw] at hon
  | _ => rfl

theorem callback?_renumber (hs : s.id ∉ gone s.bus) {whose : Option SubscriptionRef}
    (hwhose : ∀ t, whose = some t → t.id ∉ gone t.bus) (o : Output) :
    (Sign.renumber gone ⟨o, whose⟩).callback? (s.renumber gone) = o.callback? s whose := by
  have hiff : whose.map (·.renumber gone) = some (s.renumber gone) ↔ whose = some s := by
    cases whose with
    | none => simp
    | some t => simpa using renumber_eq_iff hs (hwhose t rfl)
  cases o <;> simp [Sign.callback?, Sign.renumber, Output.renumber, Output.callback?, hiff]

/-- What a subscription's owner is called for is said by the last output of a step and the code that it calls. -/
theorem callback?_code (g : Grounded h) (s : SubscriptionRef) (i : Input) : ∃ f : Option Frame,
    (h.step i).1.stack = f.toList ++ h.base i ∧ Calls f (h.step i).2 ∧ (∀ ref, f.bind (Frame.on? ref) = startedOn ref h i) ∧
      callback? s h i = f.bind fun f => (h.step i).2.getLast?.bind (Output.callback? s f.whose?) := by
  obtain ⟨f, hstack, hcalls, hcode⟩ := (step_effect g i).code
  refine ⟨f, hstack, hcalls, hcode, ?_⟩
  rw [callback?, top?]
  cases f with
  | none =>
    split
    · rename_i o _ _ hlast _
      exact callback?_quiet (hcalls o (List.mem_of_getLast? hlast)) _
    · rfl
  | some f =>
    rw [hstack]
    cases (h.step i).2.getLast? <;> rfl

/-- Of the signs of a step the last at most is for a subscription. -/
theorem signs_callback {p : Host} {owed : List Sign} (g : Grounded h) (stands : Stands gone (h.step i).1 p owed)
    (hs : s.id ∉ gone s.bus) :
    ((h.step i).signs.map (Sign.renumber gone)).filterMap (Sign.callback? (s.renumber gone)) = (callback? s h i).toList := by
  obtain ⟨f, hstack, hcalls, -, hcallback⟩ := callback?_code g s i
  rw [List.filterMap_map, Step.signs, List.filterMap_map, hcallback]
  have quiet : ∀ {out : List Output}, (∀ o ∈ out, o.calls = false) → (out.filter Output.open).filterMap
      ((Sign.callback? (s.renumber gone) ∘ Sign.renumber gone) ∘ fun o =>
        ⟨o, if o.calls then (h.step i).1.stack.head?.bind Frame.whose? else none⟩) = [] := by
    intro out hout
    refine List.filterMap_eq_nil_iff.mpr fun o ho => ?_
    have hq := hout o (List.mem_filter.mp ho).1
    exact callback?_quiet (o := o.renumber gone) (by cases o <;> first | rfl | cases hq) _
  cases f with
  | none => exact quiet hcalls
  | some f =>
    obtain ⟨before, o, hout, hopens, hbefore⟩ := hcalls
    rw [hout, List.filter_append, List.filterMap_append, quiet hbefore, hstack, List.getLast?_concat]
    -- The code that is called is that of somebody who stays, or the broker's, which does not show.
    rcases stands.top hstack with hstays | ⟨hbroker, -⟩
    · have hopen : o.open = true := by rw [hopens.open_eq, hstays.calm]; rfl
      have hcode : o.calls = true := by cases hopens <;> rfl
      have hsign := callback?_renumber hs hstays.whose o
      rcases hc : o.callback? s f.whose? with _ | c <;> simp [hopen, hcode, hsign, hc]
    · have hopen : o.open = false := by rw [hopens.open_eq, hbroker]; rfl
      have hnone : o.callback? s f.whose? = none := by cases hopens <;> first | rfl | cases hbroker
      simp [hopen, hnone]

theorem shows_callback {p : Host} {owed : List Sign} (g : Grounded h) (stands : Stands gone (h.step i).1 p owed)
    (hs : s.id ∉ gone s.bus) :
    (h.shows gone i).filterMap (Sign.callback? (s.renumber gone)) = (callback? s h i).toList := by
  rw [shows]
  cases hi : h.errand gone i with
  | false => exact signs_callback g stands hs
  | true =>
    obtain ⟨f, -, hcalls, hcode, hcallback⟩ := callback?_code g s i
    have hon := (hcode s.bus).trans (errand_started hi s.bus)
    rw [hcallback]
    cases f with
    | none => rfl
    | some f =>
      obtain ⟨before, o, hout, hopens, -⟩ := hcalls
      rw [hout, List.getLast?_concat, Option.bind_some, Option.bind_some, callback?_elsewhere hopens hon]
      rfl

/-- Among these calls are the events that the subscription is handed. -/
theorem handed?_callback {p : Host} {owed : List Sign} (g : Grounded h) (stands : Stands gone (h.step i).1 p owed)
    (hs : s.id ∉ gone s.bus) : handed? s h i = (callback? s h i).bind id := by
  obtain ⟨f, hstack, hcalls, hcode, hcallback⟩ := callback?_code g s i
  rw [handed?_eq g, ← hcode, hcallback]
  cases f with
  | none => rfl
  | some f =>
    obtain ⟨before, o, hout, hopens, -⟩ := hcalls
    rw [hout, List.getLast?_concat, Option.bind_some, Option.bind_some, Option.bind_some]
    cases hopens with
    | @next ref d after n owner =>
      obtain ⟨ref', id⟩ := s
      by_cases href : ref = ref' <;> by_cases hid : d.current.id = id <;>
        simp [Frame.on?, Bus.Running.for?, Output.callback?, Frame.whose?, href, hid]
    | complete =>
      simp only [Frame.on?, Output.callback?]
      split <;> split <;> rfl
    | late =>
      simp only [Frame.on?, Output.callback?]
      split <;> split <;> rfl
    | @relaying broker n thing ref d after channel text owner =>
      -- It is a relay that is handed the event.
      rcases stands.top hstack with hstays | ⟨-, hgone⟩
      · cases hstays.calm
      · by_cases href : ref = s.bus
        · have hne : d.current.id ≠ s.id := fun hid => hs (hid ▸ href ▸ hgone ref d (by simp [Frame.on?]))
          simp [Frame.on?, Bus.Running.for?, Output.callback?, href, hne]
        · simp [Frame.on?, Output.callback?, href]
    | _ => rfl

end Calls

/-! ### The law -/

/-- Two subscriptions that no relay has made are the same one, each in its run. -/
structure Matches (first second : List Input) (s s' : SubscriptionRef) : Prop where
  left : s.id ∉ couriers first s.bus
  right : s'.id ∉ couriers second s'.bus
  same : s.renumber (couriers first) = s'.renumber (couriers second)

/-- Two runs in which all who are not relays see the same. -/
structure Undisturbed (first second : List Input) : Prop where
  /-- What operations return, what calls come to and what code is called, in the order in which it happens, -/
  shown : shown first = shown second
  /-- the calls so far and what is to be done later, -/
  calls : (reached first).calls = (reached second).calls
  queue : (reached first).queue.filter (!·.isPosted) = (reached second).queue.filter (!·.isPosted)
  /-- all that Things declare, with values and handlers, and all that is registered is the same, -/
  things : (reached first).bare = (reached second).bare
  servients : (reached first).servients = (reached second).servients
  /-- and so are the buses, apart from the relays. -/
  buses : ∀ ref, ((reached first).bus? ref).map (·.without (couriers first ref)) =
    ((reached second).bus? ref).map (·.without (couriers second ref))
  /-- Every other subscription is handed the same events, told of the same completion at the same place among them, and
      closed in both runs or in neither. -/
  callbacks : ∀ s s', Matches first second s s' → callbacks s first = callbacks s' second
  received : ∀ s s', Matches first second s s' → received s first = received s' second
  closed : ∀ s s', Matches first second s s' → (reached first).isClosed s = (reached second).isClosed s'

section Runs
variable {inputs first second : List Input} {s s' : SubscriptionRef}

theorem stands_after (hheard : Host.new.heardOut inputs = true) {a b : List Input} {i : Input} (hsplit : inputs = a ++ i :: b) :
    ∃ p owed, Stands (couriers inputs) ((reached a).step i).1 p owed := by
  obtain ⟨owed, hstands, -⟩ := stands_outline hheard (a ++ [i]) b (by rw [hsplit]; simp)
  rw [reached_snoc] at hstands
  exact ⟨_, owed, hstands⟩

theorem callbacks_shown (hheard : Host.new.heardOut inputs = true) (hs : s.id ∉ couriers inputs s.bus) :
    callbacks s inputs = (shown inputs).filterMap (Sign.callback? (s.renumber (couriers inputs))) := by
  rw [shown, List.filterMap_flatten, ← List.flatMap_def, callbacks]
  refine seen_flatMap _ fun a i b hsplit => ?_
  obtain ⟨p, owed, hstands⟩ := stands_after hheard hsplit
  exact (shows_callback (grounded_reached a) hstands hs).symm.trans (List.append_nil _).symm

theorem received_callbacks (hheard : Host.new.heardOut inputs = true) (hs : s.id ∉ couriers inputs s.bus) :
    received s inputs = (callbacks s inputs).filterMap id := by
  rw [List.filterMap_eq_flatMap_toList, received, callbacks]
  refine seen_flatMap _ fun a i b hsplit => ?_
  obtain ⟨p, owed, hstands⟩ := stands_after hheard hsplit
  have hhanded := handed?_callback (grounded_reached a) hstands hs
  rw [← reached, hhanded]
  rcases callback? s (reached a) i with _ | _ | e <;> rfl

theorem closed_outline (hheard : Host.new.heardOut inputs = true) (hs : s.id ∉ couriers inputs s.bus) :
    (reached inputs).isClosed s = (reached (outline inputs)).isClosed (s.renumber (couriers inputs)) := by
  rw [isClosed, isClosed, SubscriptionRef.renumber, (outline_sheds hheard).1.bus?, Option.any_map]
  refine congrArg (Option.any · _) (funext fun b => ?_)
  exact (Bus.isClosed_without hs).symm

theorem bare_outline (hheard : Host.new.heardOut inputs = true) : (reached inputs).bare = (reached (outline inputs)).bare := by
  rw [bare, bare, (outline_sheds hheard).1.things]
  refine List.ext_getElem? fun t => ?_
  simp only [List.getElem?_map, List.getElem?_mapIdx, Option.map_map]
  rfl

/-- Relays and their broker disturb nobody: two runs that differ only in which relays are attached and in how the broker
    answers are the same to all others. -/
theorem undisturbed_law (hfirst : Host.new.heardOut first = true) (hsecond : Host.new.heardOut second = true)
    (hsame : outline first = outline second) : Undisturbed first second := by
  obtain ⟨e, hshown⟩ := outline_sheds hfirst
  obtain ⟨e', hshown'⟩ := outline_sheds hsecond
  have hshows : shown first = shown second := by rw [hshown, hshown', hsame]
  have hcallback : ∀ s s', Matches first second s s' → callbacks s first = callbacks s' second := fun s s' m => by
    rw [callbacks_shown hfirst m.left, callbacks_shown hsecond m.right, hshows, m.same]
  rw [hsame] at e
  refine ⟨hshows, e.calls.symm.trans e'.calls, e.queue.symm.trans e'.queue, ?_, e.servients.symm.trans e'.servients,
    fun ref => (e.bus? ref).symm.trans (e'.bus? ref), hcallback, fun s s' m => ?_, fun s s' m => ?_⟩
  · rw [bare_outline hfirst, hsame, ← bare_outline hsecond]
  · rw [received_callbacks hfirst m.left, received_callbacks hsecond m.right, hcallback s s' m]
  · rw [closed_outline hfirst m.left, closed_outline hsecond m.right, hsame, m.same]

/-- A bell is rung twice, and somebody listens. -/
def bell : List Input :=
  [ .operate (.newThing 0 "bell" "Bell" none),
    .operate (.add 0 .event (.string "ring") .undefined none),
    .operate (.subscribe (.topic 0 (.all fun _ => .ok true)) 3 true),
    .operate (.emit 0 (.string "ring") .null),
    .reply (.done .undefined),
    .operate (.emit 0 (.string "ring") (.bool true)),
    .reply (.done .undefined) ]

/-- The same, while two relays come and one of them goes; the broker refuses the second message, rejects the first and
    never answers the third. -/
def relayedBell : List Input :=
  [ .operate (.newThing 0 "bell" "Bell" none),
    .operate (.add 0 .event (.string "ring") .undefined none),
    .operate (.relay 0 9),
    .operate (.relay 0 8),
    .operate (.subscribe (.topic 0 (.all fun _ => .ok true)) 3 true),
    .operate (.emit 0 (.string "ring") .null),
    .reply .promised,
    .reply (.threw (.failure "Error" "gone")),
    .reply (.done .undefined),
    .operate (.unsubscribe ⟨.own 0, 2⟩),
    .operate (.emit 0 (.string "ring") (.bool true)),
    .reply .promised,
    .reply (.done .undefined),
    .acknowledge 0 (some (.failure "Error" "gone")),
    .tick ]

theorem bell_undisturbed : Host.new.heardOut relayedBell = true ∧ Host.new.heardOut bell = true ∧
    outline relayedBell = outline bell ∧ Undisturbed relayedBell bell ∧ couriers relayedBell (.own 0) = [1, 2] ∧
    Matches relayedBell bell ⟨.own 0, 3⟩ ⟨.own 0, 1⟩ ∧
    received ⟨.own 0, 3⟩ relayedBell = [.user (.string "ring") .null, .user (.string "ring") (.bool true)] := by
  have hrelayed : Host.new.heardOut relayedBell = true := by decide +kernel
  have hbell : Host.new.heardOut bell = true := by decide +kernel
  have hsame : outline relayedBell = outline bell := by
    have houtline : outline bell = bell := by rfl
    rw [houtline]
    rfl
  have hcouriers : couriers relayedBell (.own 0) = [1, 2] := by decide +kernel
  have hnone : couriers bell (.own 0) = [] := by decide +kernel
  have hmatch : Matches relayedBell bell ⟨.own 0, 3⟩ ⟨.own 0, 1⟩ :=
    ⟨by simp [hcouriers], by simp [hnone], by rw [SubscriptionRef.renumber, SubscriptionRef.renumber, hcouriers, hnone]; rfl⟩
  have hundisturbed := undisturbed_law hrelayed hbell hsame
  exact ⟨hrelayed, hbell, hsame, hundisturbed, hcouriers, hmatch, (hundisturbed.received _ _ hmatch).trans (by rfl)⟩

end Runs

end Host
end ThingHost
