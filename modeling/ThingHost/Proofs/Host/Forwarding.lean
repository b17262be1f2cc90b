import ThingHost.Proofs.Host.Leaving
import ThingHost.Proofs.Host.Postings
import ThingHost.Proofs.Relay

/-! The law of relaying. Whatever is done with a host and however its brokers answer, a relay forwards the events
    that are delivered to its subscription, each of them once, in their order and in the moment of its delivery;
    one that has no text leaves a warning in its place. What a broker makes of a message is noted once and
    reaches nobody else, and when the subscription is closed or the Thing destroyed nothing is forwarded. -/

namespace ThingHost

/-- A line about relaying that the logger of a Thing writes. -/
def Output.warning? : Output → Option LogLine := Output.logged? fun line => line.thing.isSome && line.note.relays

namespace Host

section Statement

/-- Relaying a Thing. -/
def relay (t broker : Nat) : Input := .operate (.relay t broker)

/-- The events that are delivered to a subscription: it is open when its turn comes. -/
def delivered (s : SubscriptionRef) (inputs : List Input) : List Event :=
  ((rounds s.bus inputs).filter (·.opens s.id)).map (·.event)

/-- What stands in the log in place of a message that has no text. -/
def unwritten (thing : String) (e : Event) : LogLine :=
  ⟨some thing, .relayFailed (.fault .unwritableNumber) (.string thing) e.name⟩

/-- The warnings that the bus of a Thing writes about relaying in the course of a run. -/
def warnings (t : Nat) (inputs : List Input) : List LogLine :=
  (seen (fun h i => (moveOn (.own t) h i).map fun _ => (h.step i).2.filterMap Output.warning?) .new inputs).flatten

/-- Nothing is delivered to a subscription or handed to its owner any more. -/
def Silent (s : SubscriptionRef) (before after : List Input) : Prop :=
  delivered s (before ++ after) = delivered s before ∧ seen (handed? s) (reached before) after = []

/-- What comes of an event of a Thing that is handed to a relay by the input `i`, after the inputs `a` and before
    `b`. Its posting is the next one. -/
structure Forwards (broker : Nat) (thing : String) (a : List Input) (i : Input) (b : List Input) (e : Event) : Prop where
  /-- One message is handed to the broker, and that is the last thing the step does. -/
  message : ∃ before, ((reached a).step i).2 = before ++
      [.callBroker broker (reached a).postings.length "thing_events" (Relay.text thing e (reached a).clock)] ∧
    ∀ o ∈ before, o.calls = false
  writes : Json.write? (Relay.message (.string thing) e (reached a).clock) = some (Relay.text thing e (reached a).clock)
  posting : (reached (a ++ [i])).postings[(reached a).postings.length]? = some ⟨.string thing, e.name, .running⟩
  /-- The broker answers once at most, -/
  answered : (verdicts (reached a).postings.length (a ++ i :: b)).length ≤ 1
  /-- and its answer is noted once, when the queue comes to it. -/
  noted : receipts (reached a).postings.length (a ++ i :: b) <+:
    (verdicts (reached a).postings.length (a ++ i :: b)).map (receipt (.string thing) e.name)
  /-- With an empty queue nothing is left to note. -/
  settled : (reached (a ++ i :: b)).queue = [] → receipts (reached a).postings.length (a ++ i :: b) =
    (verdicts (reached a).postings.length (a ++ i :: b)).map (receipt (.string thing) e.name)

variable (t broker : Nat) (x : ExposedThing) (earlier : List Input) (s : SubscriptionRef) (inputs : List Input)

/-- What a relay of the Thing number `t` does in a run if it is made after the inputs `earlier`, with the
    subscription `s`. -/
structure Relays : Prop where
  subscribed : ((reached earlier).step (relay t broker)).2 = [.returned (.ok (.subscription s))]
  /-- The bus delivers its events to it in their order, each of them once. -/
  ordered : (delivered s inputs).Sublist (published (.own t) inputs) ∧
    ∀ r ∈ rounds (.own t) inputs, (r.turns.filter (·.1.id = s.id)).length ≤ 1
  /-- Of the events that are delivered it is handed those that can be written, -/
  handed : received s inputs = (delivered s inputs).filter Relay.writable
  /-- and forwards each of them in the step in which it is handed it. -/
  forwards : ∀ a i b e, inputs = a ++ i :: b → handed? s (reached a) i = some e → Forwards broker x.id a i b e
  /-- In the delivery of another event every open turn of a relay leaves one warning; -/
  warned : warnings t inputs = (rounds (.own t) inputs).flatMap fun r =>
    if Relay.writable r.event then []
    else (r.turns.filter fun u => u.2 && u.1.owner.isRelay).map fun _ => unwritten x.id r.event
  /-- so if no other relay is made, these are the events that are delivered and not forwarded. -/
  alone : (∀ u ∈ made (.own t) inputs, u.owner.isRelay = true → u.id = s.id) →
    warnings t inputs = ((delivered s inputs).filter fun e => !Relay.writable e).map (unwritten x.id)
  /-- There is a line of a posting's own for each answer that is noted, and for nothing else. -/
  paired : ((outputs inputs).filterMap Output.answered?).length = ((outputs inputs).filterMap Output.receipt?).length
  levels : (∀ name, (receipt (.string x.id) name none).note.level = .debug) ∧
    (∀ name thrown, (receipt (.string x.id) name (some thrown)).note.level = .warn) ∧
    ∀ e, (unwritten x.id e).note.level = .warn
  /-- The bus never finds that the subscription threw. -/
  unharmed : ∀ a i b m line, inputs = a ++ i :: b → moveOn (.own t) (reached a) i = some m →
    .log line ∈ ((reached a).step i).2 → line.note.blames s.id = false
  closed : ∀ a b, inputs = a ++ b → (reached a).isClosed s = true → Silent s a b
  left : ∀ a b, inputs = a ++ leave (.own t) s.id :: b → earlier.length < a.length →
    (reached (a ++ [leave (.own t) s.id])).isClosed s = true ∧ Silent s (a ++ [leave (.own t) s.id]) b
  destroyed : ∀ a b y, inputs = a ++ .operate (.destroy t) :: b → (reached a).things[t]? = some y →
    y.servient < (reached a).servients.length → Silent s (a ++ [.operate (.destroy t)]) b

end Statement

/-! ### Silence -/

section Silence
variable {s : SubscriptionRef}

theorem delivered_append (a b : List Input)
    (hid : s.id ∈ ((reached a).bus s.bus).closed ∨ ((reached a).bus s.bus).completed = true) :
    delivered s (a ++ b) = delivered s a := by
  rw [← record_bus] at hid
  rw [delivered, delivered, rounds, rounds, record_append]
  exact Bus.opens_run (record_sound s.bus a) hid _

theorem received_append (a b : List Input)
    (hid : s.id ∈ ((reached a).bus s.bus).closed ∨ ((reached a).bus s.bus).completed = true) :
    received s (a ++ b) = received s a := by
  rw [← record_bus] at hid
  rw [received_eq, received_eq, record_append]
  exact Bus.received_run (record_sound s.bus a) hid _

theorem silent_of (a b : List Input)
    (hid : s.id ∈ ((reached a).bus s.bus).closed ∨ ((reached a).bus s.bus).completed = true) : Silent s a b := by
  have hsame := received_append a b hid
  rw [received, seen_append] at hsame
  exact ⟨delivered_append a b hid, List.append_right_eq_self.mp hsame⟩

end Silence

/-! ### The subscription of a relay -/

/-- The subscription that relaying a Thing makes. -/
def relaySink (h : Host) (t broker : Nat) (x : ExposedThing) : Sink Listener :=
  ⟨(h.bus (.own t)).nextId, Relay.screen (.string x.id), false, .relay broker x.id⟩

section Subscription
variable {h : Host} {t broker : Nat} {x : ExposedThing}

theorem moveOn_relay (hx : h.things[t]? = some x) (broker : Nat) :
    moveOn (.own t) h (relay t broker) = some (.attach (Relay.screen (.string x.id)) false (.relay broker x.id)) := by
  simp [moveOn, on, move?, asks?, relay, hx]

theorem relay_returns (hx : h.things[t]? = some x) (broker : Nat) :
    (h.step (relay t broker)).2 = [.returned (.ok (.subscription ⟨.own t, (relaySink h t broker x).id⟩))] := by
  have hb : h.bus? (.own t) = some x.bus := by simp [bus?, hx]
  simp [step, relay, operate, withThing, hx, attach, hb, returns, relaySink, bus, Bus.attach_id]

theorem made_relay {earlier : List Input} (hx : (reached earlier).things[t]? = some x) (broker : Nat) (later : List Input) :
    relaySink (reached earlier) t broker x ∈ made (.own t) (earlier ++ relay t broker :: later) := by
  have hmade : made? (.own t) (reached earlier) (relay t broker) = some (relaySink (reached earlier) t broker x) := by
    rw [made?, moveOn_relay hx]
    rfl
  rw [made, seen_cons, hmade]
  exact List.mem_append_right _ (List.mem_append_left _ List.mem_cons_self)

theorem relaySink_wants (h : Host) (t broker : Nat) (x : ExposedThing) (e : Event) :
    Bus.wants (relaySink h t broker x) e = Relay.writable e := by
  simp only [Bus.wants, relaySink, Relay.screen]
  cases Relay.writable e <;> rfl

/-- A Thing that is there stays there, under its id. -/
theorem thing_kept {a : List Input} (hx : (reached a).things[t]? = some x) (b : List Input) :
    ∃ y, (reached (a ++ b)).things[t]? = some y ∧ y.id = x.id := by
  induction b using List.reverseRecOn with
  | nil => exact ⟨x, by simpa using hx, rfl⟩
  | append_singleton b i ih =>
    obtain ⟨y, hy, hid⟩ := ih
    obtain ⟨z, hz, hzid⟩ := step_id hy i
    rw [← List.append_assoc, reached_snoc]
    exact ⟨z, hz, hzid.trans hid⟩

/-- At two points of a run a Thing has one id. -/
theorem same_id {a b c d : List Input} {y : ExposedThing} (hruns : a ++ b = c ++ d)
    (hx : (reached a).things[t]? = some x) (hy : (reached c).things[t]? = some y) : y.id = x.id := by
  obtain ⟨z, hz, hzx⟩ := thing_kept hx b
  obtain ⟨w, hw, hwy⟩ := thing_kept hy d
  rw [hruns, hw] at hz
  obtain rfl := Option.some.inj hz
  exact hwy.symm.trans hzx

end Subscription

/-! ### What a relay is handed -/

section Handed
variable {s : Sink Listener} {t : Nat} {inputs : List Input} {thing : String} {broker : Nat}

theorem delivered_sublist (ref : BusRef) (id : Nat) (inputs : List Input) :
    (delivered ⟨ref, id⟩ inputs).Sublist (published ref inputs) := by
  obtain ⟨above, base, -, -, hdel, -⟩ := (record_sound ref inputs).frames
  rw [← record_published]
  exact ((List.filter_sublist).map _).trans hdel.ordered.sublist

/-- Of the events that are delivered to a subscription, it is handed those that it wants. -/
theorem received_wanted {ref : BusRef} (hs : s ∈ made ref inputs) :
    received ⟨ref, s.id⟩ inputs = (delivered ⟨ref, s.id⟩ inputs).filter (Bus.wants s) := by
  rw [received_rounds, delivered, List.filter_map, List.filter_filter]
  refine congrArg (List.map _) (List.filter_congr fun r hr => ?_)
  rw [Bool.eq_iff_iff]
  simp only [Bus.Round.reaches, Bus.Round.opens, Function.comp_apply, Bool.and_eq_true, List.any_eq_true,
    decide_eq_true_eq]
  constructor
  · rintro ⟨u, hu, hid, hopen, hwants⟩
    exact ⟨made_unique (made_of_turn hr hu) hs hid ▸ hwants, u, hu, hid, hopen⟩
  · rintro ⟨hwants, u, hu, hid, hopen⟩
    exact ⟨u, hu, hid, hopen, (made_unique (made_of_turn hr hu) hs hid).symm ▸ hwants⟩

theorem named_of_delivered {id : Nat} {e : Event} (he : e ∈ delivered ⟨.own t, id⟩ inputs) :
    ∃ name, e.name = .string name := by
  obtain ⟨a, i, b, -, htaken⟩ := (mem_seen _).mp ((delivered_sublist (.own t) id inputs).subset he)
  simp only [taken?] at htaken
  split at htaken
  · rename_i e' hmove
    split at htaken
    · cases htaken
    · cases htaken
      exact named_of_publish hmove
  · cases htaken

end Handed

/-! ### What a relay makes of it -/

section Message
variable {t broker : Nat} {thing : String} {s : Sink Listener} {a b : List Input} {i : Input} {e : Event}

/-- What moves a bus on starts no posting itself. -/
theorem after_mail_length {h : Host} (hm : h.move? i ≠ none) :
    (h.outbox.after (h.mail? i)).postings.length = h.postings.length := by
  cases i with
  | operate op => cases op <;> first | rfl | exact absurd rfl hm
  | reply r =>
    cases hs : h.stack with
    | nil => simp [mail?, hs, Outbox.after, outbox]
    | cons f stack =>
      cases hf : f.posting? with
      | none => simp [mail?, hs, hf, Outbox.after, outbox]
      | some n => cases r <;> simp [mail?, hs, hf, Outbox.after, outbox, Outbox.step, Outbox.setStage]
  | tick =>
    simp only [mail?]
    split
    · simp only [Outbox.after, Outbox.step]
      split <;> simp [Outbox.setStage, outbox]
    · rfl
  | _ => exact absurd rfl hm

/-- A step in which a relay is handed an event ends with a call of its broker's code. -/
theorem code_of_handed (hs : s ∈ made (.own t) (a ++ i :: b)) (howner : s.owner = .relay broker thing)
    (hh : handed? ⟨.own t, s.id⟩ (reached a) i = some e) : ∃ n ref d after before o,
      Hands (.own t) s e (reached a) i (.relaying n ref d after) before o d := by
  obtain ⟨f, before, o, d, hands⟩ := hands_of_handed hs hh
  obtain ⟨n, ref, after, rfl⟩ : ∃ n ref after, f = .relaying n ref d after := by
    have hon := hands.on
    cases hands.opens with
    | relaying owner =>
      simp only [Frame.on?] at hon
      split at hon <;> cases hon
      exact ⟨_, _, _, rfl⟩
    | next owner =>
      simp only [Frame.on?] at hon
      split at hon <;> cases hon
      rw [hands.current, howner] at owner
      cases owner
    | complete owner =>
      simp only [Frame.on?] at hon
      split at hon <;> cases hon
    | late =>
      simp only [Frame.on?] at hon
      split at hon <;> cases hon
    | _ => cases hon
  exact ⟨n, ref, d, after, before, o, hands⟩

theorem moves_of_handed (hh : handed? ⟨.own t, s.id⟩ (reached a) i = some e) : (reached a).move? i ≠ none := by
  rw [handed?_eq (grounded_reached a)] at hh
  obtain ⟨code, hstarted, -⟩ := Option.bind_eq_some_iff.mp hh
  obtain ⟨m, hmove, -⟩ := Option.bind_eq_some_iff.mp hstarted
  rw [on_eq_some.mp hmove]
  exact Option.some_ne_none _

/-- It hands over the message for the event, as the next posting. -/
theorem message_of_handed (hs : s ∈ made (.own t) (a ++ i :: b)) (howner : s.owner = .relay broker thing)
    (hh : handed? ⟨.own t, s.id⟩ (reached a) i = some e) :
    (∃ before, ((reached a).step i).2 = before ++
      [.callBroker broker (reached a).postings.length "thing_events"
        (Json.write (Relay.message (.string thing) e (reached a).clock))] ∧ ∀ o ∈ before, o.calls = false) ∧
    (reached (a ++ [i])).postings[(reached a).postings.length]? = some ⟨.string thing, e.name, .running⟩ := by
  obtain ⟨n, ref, d, after, out, o, hstack, hout, hopens, hquiet, -, hcurrent, rfl⟩ := code_of_handed hs howner hh
  have hlength := after_mail_length (moves_of_handed hh)
  rcases (step_mails (grounded_reached a) i).starts with ⟨-, hnone⟩ | ⟨before, hmails, hstack', hbox, hout', -⟩
  · have hno := hnone o (by rw [hout]; exact List.mem_append_right _ List.mem_cons_self)
    cases hopens
    cases hno
  · obtain ⟨rfl, -⟩ := List.cons.inj (hstack.symm.trans hstack')
    obtain ⟨rfl, -⟩ := List.append_inj' (hout.symm.trans hout') rfl
    cases hmails with
    | relaying owner =>
      rw [hcurrent, howner] at owner
      cases owner
      rw [hlength] at hout'
      refine ⟨⟨out, hout', hquiet⟩, ?_⟩
      rw [reached_snoc, ← hlength]
      exact (congrArg (fun k => k.postings[_]?) hbox).trans List.getElem?_concat_length

theorem forwards_of_handed (hs : s ∈ made (.own t) (a ++ i :: b)) (howner : s.owner = .relay broker thing)
    (hwritable : Relay.writable e = true) (hname : ∃ name, e.name = .string name)
    (hh : handed? ⟨.own t, s.id⟩ (reached a) i = some e) : Forwards broker thing a i b e := by
  obtain ⟨⟨before, hout, hquiet⟩, hposting⟩ := message_of_handed hs howner hh
  obtain ⟨name, hname⟩ := hname
  have htext : Json.write (Relay.message (.string thing) e (reached a).clock) = Relay.text thing e (reached a).clock :=
    Relay.write_message (by rw [hname]; rfl)
  have hwrites : Json.write? (Relay.message (.string thing) e (reached a).clock) =
      some (Relay.text thing e (reached a).clock) := by
    rw [Relay.write?_message hname, if_pos hwritable]
  rw [htext] at hout
  have hkept := kept_reached (a ++ i :: b)
  obtain ⟨stage, hp⟩ := posting_kept (a ++ [i]) b hposting
  rw [List.append_assoc, List.singleton_append] at hp
  obtain ⟨hnoted, hsettled⟩ := hkept.noted_of hp
  refine ⟨⟨before, hout, hquiet⟩, hwrites, hposting, hkept.answered_once _, hnoted, fun hq => hsettled ?_⟩
  simp [outbox, hq]

end Message

/-! ### Warnings -/

section Warnings
variable {t : Nat} {inputs : List Input} {x : ExposedThing}

/-- What the logger of a Thing writes about relaying in a step is what is noted in the move of its bus. -/
theorem step_warnings {m : Bus.Move Listener} (hx : (reached inputs).things[t]? = some x) {i : Input}
    (hm : moveOn (.own t) (reached inputs) i = some m) : ((reached inputs).step i).2.filterMap Output.warning? =
      ((((reached inputs).view (.own t)).noted m).filter Note.relays).map fun note => ⟨some x.id, note⟩ := by
  rw [Output.warning?, logged?_relays, (step_mails (grounded_reached inputs) i).lines, List.filter_append]
  have hreceipts : ((((reached inputs).mail? i).bind (reached inputs).outbox.noted).map (·.2)).toList.filter
      (fun line => line.thing.isSome && line.note.relays) = [] := by
    rw [List.filter_eq_nil_iff]
    intro line hl
    obtain ⟨a, ha, rfl⟩ := Option.map_eq_some_iff.mp (Option.mem_toList.mp hl)
    simp [(noted_receipt ha).1]
  have hthing : (reached inputs).busThing (.own t) = some x.id := by simp [busThing, hx]
  rw [hreceipts, List.nil_append, on_eq_some.mp hm, busLines, hthing, List.filter_map, List.filter_filter]
  refine congrArg (List.map _) (List.filter_congr fun note _ => ?_)
  cases hn : note.relays with
  | true => simp [hn, reports_of_relays hn]
  | false => simp [hn]

theorem warnings_snoc (t : Nat) (inputs : List Input) (i : Input) : warnings t (inputs ++ [i]) = warnings t inputs ++
    ((moveOn (.own t) (reached inputs) i).map fun _ => ((reached inputs).step i).2.filterMap Output.warning?).getD [] := by
  rw [warnings, seen_snoc, List.flatten_append]
  cases moveOn (.own t) (reached inputs) i with
  | none => rfl
  | some m => exact congrArg _ (List.append_nil _)

/-- All of it is noted when a turn is taken. -/
theorem warnings_dealt {id : String} (hid : ∀ a b y, inputs = a ++ b → (reached a).things[t]? = some y → y.id = id) :
    warnings t inputs = ((rounds (.own t) inputs).flatMap Bus.Round.dealt).map fun note => ⟨some id, note⟩ := by
  induction inputs using List.reverseRecOn with
  | nil => rfl
  | append_singleton inputs i ih =>
    have hsame := ih fun a b y hs => hid a (b ++ [i]) y (by rw [hs, List.append_assoc])
    rw [warnings_snoc, dealt_snoc, List.map_append, hsame]
    refine congrArg _ ?_
    cases hm : moveOn (.own t) (reached inputs) i with
    | none => rfl
    | some m =>
      obtain ⟨b, hb⟩ := Option.isSome_iff_exists.mp (move?_there (grounded_reached inputs) (on_eq_some.mp hm))
      obtain ⟨y, hy, -⟩ := Option.map_eq_some_iff.mp hb
      rw [← hid inputs [i] y rfl hy]
      exact step_warnings hy hm

/-- What is noted when a relay takes its turn. -/
theorem dealt_turn {r : Bus.Round Listener} (hx : (reached inputs).things[t]? = some x) (hr : r ∈ rounds (.own t) inputs)
    {u : Sink Listener × Bool} (hu : u ∈ r.turns) : (Bus.dealt r.event u).map (fun note => (⟨some x.id, note⟩ : LogLine)) =
      if !Relay.writable r.event && (u.2 && u.1.owner.isRelay) then some (unwritten x.id r.event) else none := by
  obtain ⟨⟨id, screen, completes, owner⟩, isOpen⟩ := u
  have hatt := attaches_of_mem (made_of_turn hr hu)
  cases hatt with
  | client =>
    rename_i guard
    simp only [Bus.dealt, ExposedThing.screenBy, Listener.isRelay, Bool.and_false, Bool.false_eq_true, ↓reduceIte]
    rcases guard r.event with e | (_ | _) <;> rfl
  | relay there =>
    obtain rfl := Option.some.inj (hx.symm.trans there)
    simp only [Bus.dealt, Relay.screen, Listener.isRelay, Bool.and_true]
    cases Relay.writable r.event <;> cases isOpen <;> rfl

theorem warnings_eq (hx : (reached inputs).things[t]? = some x) : warnings t inputs =
    (rounds (.own t) inputs).flatMap fun r => if Relay.writable r.event then []
      else (r.turns.filter fun u => u.2 && u.1.owner.isRelay).map fun _ => unwritten x.id r.event := by
  rw [warnings_dealt fun a b y hs hy => same_id (b := []) (d := b) (by rw [hs, List.append_nil]) hx hy, List.map_flatMap]
  refine List.flatMap_congr fun r hr => ?_
  rw [Bus.Round.dealt, List.map_filterMap, List.filterMap_congr fun u hu => dealt_turn hx hr hu]
  cases Relay.writable r.event with
  | true => simp
  | false =>
    rw [← List.filterMap_eq_filter, List.map_filterMap]
    refine List.filterMap_congr fun u _ => ?_
    cases hu : u.2 && u.1.owner.isRelay <;> simp [hu, Option.guard]

theorem warnings_alone {s : Sink Listener} (hx : (reached inputs).things[t]? = some x) (hs : s ∈ made (.own t) inputs)
    (hrelay : s.owner.isRelay = true) (halone : ∀ u ∈ made (.own t) inputs, u.owner.isRelay = true → u.id = s.id) :
    warnings t inputs =
      ((delivered ⟨.own t, s.id⟩ inputs).filter fun e => !Relay.writable e).map (unwritten x.id) := by
  conv_rhs => rw [delivered, List.filter_map, List.filter_filter, List.map_map, ← List.filterMap_eq_filter,
    List.map_filterMap, List.filterMap_eq_flatMap_toList]
  rw [warnings_eq hx]
  refine List.flatMap_congr fun r hr => ?_
  have hsame : (r.turns.filter fun u => u.2 && u.1.owner.isRelay) = (r.turns.filter (·.1.id = s.id)).filter (·.2) := by
    rw [List.filter_filter]
    refine List.filter_congr fun u hu => ?_
    have hmade := made_of_turn hr hu
    have hiff : u.1.owner.isRelay = true ↔ u.1.id = s.id :=
      ⟨halone u.1 hmade, fun hid => made_unique hmade hs hid ▸ hrelay⟩
    rw [Bool.eq_iff_iff]
    simp [hiff]
  have hopens : r.opens s.id = ((r.turns.filter (·.1.id = s.id)).filter (·.2)).any fun _ => true := by
    rw [Bool.eq_iff_iff]
    simp [Bus.Round.opens]
  have honce : ((r.turns.filter (·.1.id = s.id)).filter (·.2)).length ≤ 1 :=
    Nat.le_trans (List.length_filter_le _ _) (turn_once hr s.id)
  rw [hsame]
  generalize (r.turns.filter (·.1.id = s.id)).filter (·.2) = turns at hopens honce
  cases hw : Relay.writable r.event with
  | true => simp [Option.guard, hw]
  | false =>
    rcases turns with _ | ⟨u, _ | ⟨v, rest⟩⟩
    · simp [Option.guard, hopens]
    · simp [Option.guard, hw, hopens]
    · simp at honce

end Warnings

/-! ### No harm to the bus -/

section Harm
variable {t broker : Nat} {thing : String} {s : Sink Listener} {a b : List Input} {i : Input}

theorem blameless_of_made {ref : BusRef} {inputs : List Input} {u : Sink Listener} (hs : s ∈ made ref inputs)
    (hrelay : s.owner.isRelay = true) (hu : u ∈ made ref inputs) : Bus.Blameless s.id u := by
  intro e
  have hatt := attaches_of_mem hu
  have hclient : ∀ n, u.owner = .client n → u.id ≠ s.id := by
    intro n hn hid
    rw [← made_unique hu hs hid, hn] at hrelay
    cases hrelay
  cases hatt with
  | client =>
    rename_i guard
    refine ⟨fun _ _ => hclient _ rfl, fun note hnote => ?_⟩
    simp only [ExposedThing.screenBy] at hnote
    split at hnote <;> cases hnote
  | relay there =>
    refine ⟨fun thrown hfaulty => ?_, fun note hnote => ?_⟩
    · simp only [Relay.screen] at hfaulty
      split at hfaulty <;> cases hfaulty
    · simp only [Relay.screen] at hnote
      split at hnote <;> cases hnote
      rfl

/-- Code that throws at an event is not a relay's. -/
theorem thrower_apart (hs : s ∈ made (.own t) (a ++ i :: b)) (hrelay : s.owner.isRelay = true)
    {d : Delivery Listener} {rest : List (Bus.Running Listener)} {thrown : Thrown}
    (hrun : ((reached a).view (.own t)).running = .next d :: rest)
    (hm : moveOn (.own t) (reached a) i = some (.done (some thrown))) : d.current.id ≠ s.id := by
  obtain ⟨r, rfl⟩ : ∃ r, i = .reply r := by
    by_contra hno
    have hsame := moveOn_rest (fun r hr => hno ⟨r, hr⟩) hm
    rw [hrun, Bus.Live.rest, hrun] at hsame
    exact List.cons_ne_self _ _ hsame.symm
  have hm := on_eq_some.mp hm
  rcases hstack : (reached a).stack with _ | ⟨f, stack⟩
  · simp [move?, hstack] at hm
  · have hcode : ∀ r, f.on? (.own t) = some r → r = .next d := by
      intro r hr
      have hhead : ((reached a).view (.own t)).running = r :: stack.filterMap (Frame.on? (.own t)) := by
        simp [view, hstack, hr]
      exact (List.cons.inj (hhead.symm.trans hrun)).1
    cases f with
    | next ref d' after =>
      obtain ⟨rfl, -⟩ : ref = BusRef.own t ∧ r.thrown? = some thrown := by simpa [move?, hstack] using hm
      cases hcode (.next d') (if_pos rfl)
      have hmem : Frame.next (.own t) d after ∈ (reached a).stack := hstack ▸ List.mem_cons_self
      have hon : (Frame.next (.own t) d after).on? (.own t) = some (.next d) := if_pos rfl
      obtain ⟨hmade, hclient⟩ := running_made hmem hon
      intro hid
      have hsame := made_unique (made_append a (.reply r :: b) hmade) hs hid
      rw [← hsame, hclient after rfl] at hrelay
      cases hrelay
    | relaying n ref d' after => simp [move?, hstack] at hm
    | complete ref c after =>
      obtain ⟨rfl, -⟩ : ref = BusRef.own t ∧ r.thrown? = some thrown := by simpa [move?, hstack] using hm
      cases hcode (.complete c) (if_pos rfl)
    | late s' =>
      obtain ⟨hbus, -⟩ : s'.bus = BusRef.own t ∧ r.thrown? = some thrown := by simpa [move?, hstack] using hm
      cases hcode (.late s'.id) (if_pos hbus)
    | _ => simp [move?, hstack] at hm

theorem unharmed_of_relay (hs : s ∈ made (.own t) (a ++ i :: b)) (hrelay : s.owner.isRelay = true)
    {m : Bus.Move Listener} (hm : moveOn (.own t) (reached a) i = some m) {line : LogLine}
    (hl : .log line ∈ ((reached a).step i).2) : line.note.blames s.id = false := by
  by_contra hblames
  have hnote : line.note.reports = true ∧ line.note.relays = false := by
    cases hn : line.note <;> rw [hn] at hblames <;> first | exact ⟨rfl, rfl⟩ | exact absurd rfl hblames
  have hmem : line ∈ ((reached a).step i).2.filterMap Output.reports? :=
    List.mem_filterMap.mpr ⟨_, hl, by simp [Output.reports?, Output.logged?, hnote.1]⟩
  rw [(step_mails (grounded_reached a) i).lines, on_eq_some.mp hm] at hmem
  rcases List.mem_append.mp hmem with hmem | hmem
  · obtain ⟨c, hc, rfl⟩ := Option.map_eq_some_iff.mp (Option.mem_toList.mp hmem)
    rw [(noted_receipt hc).2] at hnote
    cases hnote.2
  · obtain ⟨note, hnoted, rfl⟩ := List.mem_map.mp hmem
    have law := record_sound (.own t) a
    have hmade : ∀ u ∈ (record (.own t) a).early, Bus.Blameless s.id u := fun u hu =>
      blameless_of_made hs hrelay (made_append a (i :: b) (made_of_early hu))
    refine hblames (Bus.Live.blameless (l := (reached a).view (.own t)) (m := m) ?_ ?_ ?_ note (List.mem_filter.mp hnoted).1)
    · intro u hu
      rw [← record_live] at hu
      exact hmade u (law.numbered.sinks.subset hu)
    · intro d rest hrun u hu
      rw [← record_live] at hrun
      exact hmade u (law.rest_early hrun hu)
    · rintro d rest thrown hrun rfl
      exact thrower_apart hs hrelay hrun hm

end Harm

/-! ### The law -/

section Law
variable {t broker : Nat} {x : ExposedThing} {earlier : List Input}

theorem completed_of_destroy {a : List Input} {y : ExposedThing} (hy : (reached a).things[t]? = some y)
    (hservient : y.servient < (reached a).servients.length) :
    ((reached (a ++ [.operate (.destroy t)])).bus (.own t)).completed = true := by
  have hmove : moveOn (.own t) (reached a) (.operate (.destroy t)) = some .complete := by
    simp [moveOn, on, move?, asks?, hy, List.getElem?_eq_getElem hservient]
  rw [← record_bus, record_snoc, hmove]
  exact (Bus.step_completed _ _).mpr (.inr rfl)

/-- What comes after a part of a run that is longer than its beginning. -/
theorem split_later {a b later : List Input} {i j : Input} (hsplit : earlier ++ i :: later = a ++ j :: b)
    (hlonger : earlier.length < a.length) : ∃ between, a = earlier ++ i :: between := by
  rcases List.append_eq_append_iff.mp hsplit with ⟨between, rfl, hrest⟩ | ⟨between, rfl, -⟩
  · cases between with
    | nil => simp at hlonger
    | cons k between => exact ⟨between, by rw [(List.cons.inj hrest).1]⟩
  · rw [List.length_append] at hlonger
    omega

/-- A relay keeps the law, whatever is done with the host before it is made and after. -/
theorem relay_law (hx : (reached earlier).things[t]? = some x) (later : List Input) :
    Relays t broker x earlier ⟨.own t, ((reached earlier).bus (.own t)).nextId⟩ (earlier ++ relay t broker :: later) := by
  have hs := made_relay hx broker later
  have hhanded : received ⟨.own t, ((reached earlier).bus (.own t)).nextId⟩ (earlier ++ relay t broker :: later) =
      (delivered ⟨.own t, _⟩ (earlier ++ relay t broker :: later)).filter Relay.writable :=
    (received_wanted hs).trans (List.filter_congr fun e _ => relaySink_wants _ _ _ _ e)
  obtain ⟨y, hy, hid⟩ := thing_kept hx (relay t broker :: later)
  refine ⟨relay_returns hx broker, ⟨delivered_sublist _ _ _, fun r hr => turn_once hr _⟩, hhanded, ?_, ?_, ?_,
    noticed_paired _, ⟨fun _ => rfl, fun _ _ => rfl, fun _ => rfl⟩, ?_, ?_, ?_, ?_⟩
  · intro a i b e hsplit hh
    have hmem : e ∈ received ⟨.own t, _⟩ (earlier ++ relay t broker :: later) := (mem_seen _).mpr ⟨a, i, b, hsplit, hh⟩
    obtain ⟨hdelivered, hwritable⟩ := List.mem_filter.mp (hhanded ▸ hmem)
    exact forwards_of_handed (hsplit ▸ hs) rfl hwritable (named_of_delivered hdelivered) hh
  · rw [← hid]
    exact warnings_eq hy
  · intro halone
    rw [← hid]
    exact warnings_alone hy hs rfl halone
  · intro a i b m line hsplit hm hl
    exact unharmed_of_relay (hsplit ▸ hs) rfl hm hl
  · rintro a b hsplit hclosed
    rw [isClosed_eq, Bus.isClosed, List.contains_iff_mem] at hclosed
    exact silent_of a b (.inl hclosed)
  · intro a b hsplit hlonger
    obtain ⟨between, rfl⟩ := split_later hsplit hlonger
    have hclosed := closed_of_leave (made_relay hx broker between) []
    rw [record_bus] at hclosed
    refine ⟨?_, silent_of _ b (.inl hclosed)⟩
    rw [isClosed_eq, Bus.isClosed, List.contains_iff_mem]
    exact hclosed
  · intro a b y _ hy hservient
    exact silent_of _ b (.inr (completed_of_destroy hy hservient))

/-- A mill with an event to emit. -/
def mill : List Input :=
  [ .operate (.newThing 0 "mill" "Mill" none),
    .operate (.add 0 .event (.string "gust") .undefined none) ]

/-- Two gusts come while the broker takes the first, and one of them has no text. -/
def gusts : List Input :=
  [ .operate (.emit 0 (.string "gust") (.bool true)),
    .operate (.emit 0 (.string "gust") (.bigint 9)),
    .operate (.emit 0 (.string "gust") .undefined),
    .reply .promised,
    .reply (.threw (.failure "Error" "down")),
    .acknowledge 0 none,
    .tick,
    leave (.own 0) 1,
    .operate (.emit 0 (.string "gust") .null) ]

theorem mill_relays : ∃ x, (reached mill).things[0]? = some x ∧
    Relays 0 5 x mill ⟨.own 0, 1⟩ (mill ++ relay 0 5 :: gusts) ∧
    received ⟨.own 0, 1⟩ (mill ++ relay 0 5 :: gusts) =
      [.user (.string "gust") (.bool true), .user (.string "gust") .undefined] ∧
    warnings 0 (mill ++ relay 0 5 :: gusts) = [unwritten "mill" (.user (.string "gust") (.bigint 9))] ∧
    receipts 0 (mill ++ relay 0 5 :: gusts) = [receipt (.string "mill") (.string "gust") none] :=
  ⟨_, by rfl, relay_law (by rfl) gusts, by rfl, by rfl, by rfl⟩

end Law

end Host
end ThingHost
