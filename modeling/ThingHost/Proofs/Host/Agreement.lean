import ThingHost.Proofs.Exposed.Values
import ThingHost.Proofs.Host.Order
import ThingHost.Proofs.Host.Resolution

/-! As long as nobody else reads or writes the properties of a Thing, what is read, what was written and what
    was announced agree. The store changes when a write is asked for and the change is announced later, when
    the write goes on; but writes go on in the order in which they were asked for, so once none is under way
    the last announcement tells the value that is read. -/

namespace ThingHost

def Progress.isSettled : Progress → Bool
  | .settled _ => true
  | _ => false

namespace Host

theorem untouched_before {t : Nat} {a b : List Input} (h : Deed.Untouched (history t (a ++ b))) :
    Deed.Untouched (history t a) := by
  obtain ⟨more, hmore⟩ := history_grows t a b
  rw [← hmore] at h
  exact h.of_append

/-! ### Calls that the host answers -/

section Answers
variable {inputs : List Input} {t n : Nat} {c : Call} {o : Outcome}

/-- As long as no handler is set for reads and writes, they are answered when they are made. -/
theorem answered_at_once (huntouched : Deed.Untouched (history t inputs)) (hc : (reached inputs).calls[n]? = some c)
    (hthing : c.thing = t) (hkind : c.ask.kind ≠ .invoke) (hacc : c.accepted.isSome) :
    ∃ earlier later o, inputs = during earlier t c.ask later ∧ callNumber earlier = n ∧
      answered? (reached earlier) (.operate (.call t c.ask)) = some (n, o) := by
  subst hthing
  obtain ⟨earlier, later, x, hsplit, rfl, hx, haccepted⟩ := made_at hc
  refine ⟨earlier, later, (x.answer c.ask).2, hsplit, rfl, ?_⟩
  cases ha : x.accept c.ask with
  | error e =>
    rw [haccepted, ha] at hacc
    cases hacc
  | ok r =>
    obtain ⟨i, handler⟩ := r
    have hstandard : handler = .standard := by
      rw [hsplit, during] at huntouched
      obtain ⟨hfound, rfl⟩ := ExposedThing.found_of_accept ha
      exact (past_reached hx).get_of_untouched (untouched_before huntouched) (ExposedThing.mem_of_findKind? hfound).1 hkind
    simp [answered?, hx, ha, hstandard, callNumber]

/-- They are not answered again. -/
theorem answered_by_call {i : Input} (huntouched : Deed.Untouched (history t (inputs ++ [i])))
    (ha : answered? (reached inputs) i = some (n, o)) (hc : (reached (inputs ++ [i])).calls[n]? = some c)
    (hthing : c.thing = t) (hkind : c.ask.kind ≠ .invoke) : i = .operate (.call t c.ask) := by
  have hlog : answers n (inputs ++ [i]) = answers n inputs ++ [o] := by
    rw [answers, seen_snoc, Ledger.about_append, ha]
    simp [answers, about]
  have hacc : c.accepted.isSome := by
    have hmem : (n, o) ∈ seen answered? .new (inputs ++ [i]) := by simp [seen_snoc, ha]
    obtain ⟨c', hc', hacc⟩ := call_of_answered hmem
    rw [hc] at hc'
    cases hc'
    exact hacc
  obtain ⟨earlier, later, o', hsplit, rfl, hfirst⟩ := answered_at_once huntouched hc hthing hkind hacc
  rcases List.eq_nil_or_concat later with rfl | ⟨later, last, rfl⟩
  · exact (List.cons.inj (List.append_inj_right' hsplit rfl)).1
  · -- The call was there before, so it has its only answer.
    have hbefore : inputs = during earlier t c.ask later := by
      rw [List.concat_eq_append, during_append] at hsplit
      exact (List.append_inj' hsplit rfl).1
    have hans : answers (callNumber earlier) inputs = [o'] := hbefore ▸ answers_of_first earlier later hfirst
    have hone := (stands (inputs ++ [i]) (callNumber earlier)).once.1
    rw [hlog, hans] at hone
    cases hone
    contradiction

end Answers

/-! ### What is written -/

section Writes
variable {inputs : List Input} {t : Nat} {x : ExposedThing}

theorem deed?_change {op : Operation} {d : Deed} (hd : x.deed? op = some d) (hop : ∀ t ask, op ≠ .call t ask) :
    d.change? = none := by
  cases op with
  | add t kind name definition handler =>
    obtain ⟨s, -, hd⟩ := Option.bind_eq_some_iff.mp hd
    obtain ⟨parsed, -, rfl⟩ := Option.map_eq_some_iff.mp hd
    rfl
  | remove t kind name =>
    obtain ⟨i, -, rfl⟩ := Option.map_eq_some_iff.mp hd
    rfl
  | setHandler t kind handler name =>
    cases hd
    rfl
  | call t ask => exact absurd rfl (hop t ask)
  | _ => cases hd

/-- Only calls to a Thing write to it. -/
theorem deeds_change {h : Host} {i : Input} (hi : ∀ ask, i ≠ .operate (.call t ask)) :
    (deeds t h i).filterMap Deed.change? = [] := by
  refine List.filterMap_eq_nil_iff.mpr fun d hd => ?_
  rcases deeds_cases hd with ⟨_, _, _, _, -, -, -, hd⟩ | ⟨op, x, rfl, hop, -, -, hd⟩
  · obtain ⟨_, _, _, -, _, _, rfl⟩ := ExposedThing.mem_declaredFrom hd
    rfl
  · refine deed?_change hd ?_
    rintro t' ask rfl
    obtain rfl := Option.some.inj hop
    exact hi ask rfl

theorem kind_of_change {ask : Ask} {v : Value} {e : Event} (he : announcement? ask v = some e) (hc : e.isChange = true) :
    ask.kind = .write := by
  cases ask with
  | write property value => rfl
  | read property => cases he
  | invoke action arguments =>
    cases he
    cases hc

/-- What a call that is made now announces when it was answered. -/
theorem announces?_made (hx : (reached inputs).things[t]? = some x) (ask : Ask) (v : Value) :
    announces? t (reached (inputs ++ [.operate (.call t ask)])) (callNumber inputs, .ok v) = announcement? ask v := by
  obtain ⟨p, hcalls⟩ := call_made hx ask
  simp [announces?, hcalls]

/-- A write that is accepted is answered at once, and will announce what was written. -/
theorem change_of_call (hx : (reached inputs).things[t]? = some x) (huntouched : Deed.Untouched (history t inputs))
    (ask : Ask) : (x.deed? (.call t ask)).toList.filterMap Deed.change? =
      ((answered? (reached inputs) (.operate (.call t ask))).toList.filterMap
        (announces? t (reached (inputs ++ [.operate (.call t ask)])))).filter Event.isChange := by
  -- Whatever else is asked announces no change.
  have quiet : ask.kind ≠ .write → ((answered? (reached inputs) (.operate (.call t ask))).toList.filterMap
      (announces? t (reached (inputs ++ [.operate (.call t ask)])))).filter Event.isChange = [] := by
    intro hk
    refine List.filter_eq_nil_iff.mpr fun e he hchange => hk ?_
    obtain ⟨⟨n, o⟩, ha, he⟩ := List.mem_filterMap.mp he
    obtain ⟨v, c, rfl, hc, -, -⟩ := announces?_eq_some.mp he
    have hn : n = callNumber inputs := by
      simp only [answered?, hx, Option.bind_some] at ha
      split at ha <;> simp_all [callNumber]
    rw [hn, announces?_made hx] at he
    exact kind_of_change he hchange
  cases ask with
  | read property => exact (quiet (by simp [Ask.kind])).symm
  | invoke action arguments => exact (quiet (by simp [Ask.kind])).symm
  | write property v =>
    rcases x.write_cases t property v with ⟨hdeed, e, ha⟩ | ⟨i, hf, hdeed, ha, hanswer⟩
    · simp [hdeed, answered?, hx, ha]
    · have hi := (ExposedThing.mem_of_findKind? hf).1
      have hget : x.handlers.get .write (some i.serial) = .standard :=
        (past_reached hx).get_of_untouched huntouched hi (by simp)
      have hanswered : answered? (reached inputs) (.operate (.call t (.write property v))) =
          some (callNumber inputs, .ok .undefined) := by
        simp [answered?, hx, ha, hget, hanswer, callNumber]
      have hannounces : announces? t (reached (inputs ++ [.operate (.call t (.write property v))]))
          (callNumber inputs, .ok .undefined) = some (.propertyChange property v) := announces?_made hx _ _
      rw [hdeed, hanswered]
      simp only [Option.toList_some, List.filterMap_cons, List.filterMap_nil, hannounces]
      obtain rfl := ExposedThing.name_of_findKind? hf
      rfl

/-- What is written in a step is what the call that is answered in it will announce. -/
theorem change_of_step {i : Input} (huntouched : Deed.Untouched (history t (inputs ++ [i]))) :
    (deeds t (reached inputs) i).filterMap Deed.change? = ((answered? (reached inputs) i).toList.filterMap
      (announces? t (reached (inputs ++ [i])))).filter Event.isChange := by
  by_cases hi : ∃ ask, i = .operate (.call t ask)
  · obtain ⟨ask, rfl⟩ := hi
    cases hx : (reached inputs).things[t]? with
    | none => simp [deeds, answered?, hx]
    | some x =>
      rw [deeds_call hx]
      exact change_of_call hx (untouched_before huntouched) ask
  · rw [deeds_change fun ask heq => hi ⟨ask, heq⟩]
    refine (List.filter_eq_nil_iff.mpr fun e he hchange => hi ?_).symm
    obtain ⟨⟨n, o⟩, ha, he⟩ := List.mem_filterMap.mp he
    obtain ⟨v, c, -, hc, hthing, hannounced⟩ := announces?_eq_some.mp he
    have hkind := kind_of_change hannounced hchange
    exact ⟨c.ask, answered_by_call huntouched (Option.mem_toList.mp ha) hc hthing (by simp [hkind])⟩

/-- What was written is what the calls that were answered announce, in the same order. -/
theorem written_eq (huntouched : Deed.Untouched (history t inputs)) : (history t inputs).filterMap Deed.change? =
    ((seen answered? .new inputs).filterMap (announces? t (reached inputs))).filter Event.isChange := by
  induction inputs using List.reverseRecOn with
  | nil => rfl
  | append_singleton inputs i ih =>
    rw [history_snoc, List.filterMap_append, seen_snoc, List.filterMap_append, List.filter_append, answered_announces,
      ih (untouched_before huntouched), change_of_step huntouched]

end Writes

/-! ### The agreement -/

/-- A read of a property that is made after some inputs resolves with a value, whatever happens then. -/
structure Reads (earlier : List Input) (t : Nat) (property : Value) (later : List Input) (v : Value) : Prop where
  answered : answers (callNumber earlier) (during earlier t (.read property) later) = [.ok v]
  settled : settlements (callNumber earlier) (during earlier t (.read property) later) <+: [.ok v]
  /-- It has resolved when nothing is left to do. -/
  settles : (reached (during earlier t (.read property) later)).stack = [] →
    (reached (during earlier t (.read property) later)).queue = [] →
      settlements (callNumber earlier) (during earlier t (.read property) later) = [.ok v]

/-- No call to a Thing is pending. -/
def Still (t : Nat) (h : Host) : Prop := ∀ c ∈ h.calls, c.thing = t → c.progress.isSettled = true

instance (t : Nat) (h : Host) : Decidable (Still t h) :=
  inferInstanceAs (Decidable (∀ c ∈ h.calls, c.thing = t → c.progress.isSettled = true))

/-- What is read of the Thing `x` after some inputs, what was written to it and what it announced. -/
structure Agrees (t : Nat) (inputs : List Input) (x : ExposedThing) : Prop where
  /-- A read resolves with the last value that was written to the property that it finds, else with the one that
      this was declared with. -/
  reads : ∀ property i, x.thing.findKind? .property property = some i → ∀ later,
    Reads inputs t property later (Deed.valueOf (history t inputs) i)
  /-- Changes are announced in the order in which the writes were asked for, -/
  ordered : (published (.own t) inputs).filter Event.isChange <+: (history t inputs).filterMap Deed.change?
  /-- and all of them have been when none is pending. -/
  complete : ((reached inputs).bus (.own t)).completed = false → Still t (reached inputs) →
    (published (.own t) inputs).filter Event.isChange = (history t inputs).filterMap Deed.change?
  /-- If no name was used for a second property, then what is read is what was last announced under the name. -/
  current : ((history t inputs).filterMap Deed.property?).Nodup → ((reached inputs).bus (.own t)).completed = false →
    Still t (reached inputs) → ∀ i ∈ x.thing.interactions, i.kind = .property → ∀ later,
      Reads inputs t (.string i.name) later
        (((published (.own t) inputs).filterMap (Event.changeOf? i.name)).getLast?.getD
          (Deed.initialOf (history t inputs) i))

section Law
variable {inputs : List Input} {t : Nat} {x : ExposedThing}

theorem reads_of_untouched (hx : (reached inputs).things[t]? = some x) (huntouched : Deed.Untouched (history t inputs))
    {property : Value} {i : Interaction} (hi : x.thing.findKind? .property property = some i) (later : List Input) :
    Reads inputs t property later (Deed.valueOf (history t inputs) i) := by
  obtain ⟨hmem, hkind⟩ := ExposedThing.mem_of_findKind? hi
  have hpast := past_reached hx
  have hget : x.handlers.get (Ask.read property).kind (some i.serial) = .standard :=
    hpast.get_of_untouched huntouched hmem (by simp [Ask.kind])
  have ha : x.accept (.read property) = .ok (i, x.handlers.get (Ask.read property).kind (some i.serial)) :=
    ExposedThing.accept_of_open hi (by simp [Ask.kind])
  have hanswer : x.answer (.read property) = (x, .ok (x.store.get i.serial)) := ExposedThing.answer_of_found hi
  have hvalue : (x.answer (.read property)).2 = .ok (Deed.valueOf (history t inputs) i) := by
    rw [hanswer, ← hpast.holds huntouched i hmem hkind]
  have haccepted : Accepted inputs t (.read property) later x i := accepted_of_accept hx ha later
  have hanswers := haccepted.resolved
  rw [hget] at hanswers
  obtain ⟨-, -, hanswers⟩ := hanswers
  rw [hvalue] at hanswers
  refine ⟨hanswers, ?_, fun hstack hqueue => ?_⟩
  · have hsettled := haccepted.settled
    rw [hanswers] at hsettled
    exact hsettled
  · have hsettles := haccepted.settles hstack hqueue
    rw [hanswers] at hsettles
    exact hsettles

/-- What is announced while no call is pending is all that was written. -/
theorem changes_of_still (huntouched : Deed.Untouched (history t inputs))
    (hopen : ((reached inputs).bus (.own t)).completed = false) (hstill : Still t (reached inputs)) :
    (published (.own t) inputs).filter Event.isChange = (history t inputs).filterMap Deed.change? := by
  have hqueue : (reached inputs).desk.queue.filterMap (announces? t (reached inputs)) = [] := by
    refine List.filterMap_eq_nil_iff.mpr fun r hr => ?_
    by_contra hne
    obtain ⟨e, he⟩ := Option.ne_none_iff_exists'.mp hne
    obtain ⟨v, c, -, hc, hthing, -⟩ := announces?_eq_some.mp he
    have hsettled := hstill c (List.mem_of_getElem? hc) hthing
    have hstand := stands inputs r.1
    have habout : about r.1 (reached inputs).desk.queue ≠ [] :=
      List.ne_nil_of_mem (List.mem_filterMap.mpr ⟨r, hr, if_pos rfl⟩)
    obtain ⟨a, rest, hrest⟩ := List.exists_cons_of_ne_nil habout
    rw [hc, hrest] at hstand
    obtain ⟨c', hc', -, hanswered, -⟩ := hstand.of_queue
    cases hc'
    rw [hanswered] at hsettled
    cases hsettled
  rw [changes_eq hopen, written_eq huntouched, answers_in_order, List.filterMap_append, hqueue, List.append_nil]

theorem isChange_of_changeOf? {name : String} {e : Event} {v : Value} (h : e.changeOf? name = some v) :
    e.isChange = true := by
  cases e with
  | user n data => cases h
  | notification about data =>
    cases about with
    | propertyChange => rfl
    | _ => cases h

theorem filterMap_changeOf? (name : String) (events : List Event) :
    (events.filter Event.isChange).filterMap (Event.changeOf? name) = events.filterMap (Event.changeOf? name) := by
  rw [List.filterMap_filter]
  refine List.filterMap_congr fun e _ => ?_
  split
  · rfl
  · rename_i hne
    by_contra hsome
    obtain ⟨v, hv⟩ := Option.ne_none_iff_exists'.mp (Ne.symm hsome)
    exact hne (isChange_of_changeOf? hv)

/-- A heater whose level is set twice in a row. Whoever watches it switches the mode, which is set meanwhile. -/
def heater : List Input :=
  [ .operate (.newThing 0 "heater" "Heater" none),
    .operate (.add 0 .property (.string "limit") (.object [("value", .string "high")]) none),
    .operate (.add 0 .property (.string "level") (.object [("value", .string "low")]) none),
    .operate (.add 0 .property (.string "mode") .undefined none),
    .operate (.setHandler 0 .invoke 9 none),
    .operate (.subscribe (.topic 0 (.property (.string "level"))) 3 true),
    .operate (.call 0 (.write (.string "level") (.string "high"))),
    .operate (.call 0 (.write (.string "mode") (.string "eco"))),
    .operate (.call 0 (.write (.string "level") (.string "off"))),
    .tick,
    .operate (.call 0 (.write (.string "mode") (.string "boost"))),
    .reply (.done .undefined),
    .tick,
    .tick,
    .operate (.call 0 (.read (.string "mode"))),
    .reply (.threw (.failure "Error" "cold")),
    .tick,
    .tick ]

end Law

end Host
end ThingHost
