import ThingHost.Proofs.Bus.Progress
import ThingHost.Proofs.Exposed
import ThingHost.Proofs.Host.Delivery
import ThingHost.Proofs.Host.Settling

/-! A call under way has nothing to do with what happens after it was made. Whether it is accepted and who
    answers it is settled when it is made; what it then settles with is what that answer comes to; and if it
    changed something, everybody who listens knows before it settles. -/

namespace ThingHost
namespace Host

/-! ### The isolation of a call -/

section Statement
variable (earlier : List Input) (t : Nat) (ask : Ask) (later : List Input)

/-- A run in the course of which a call is made. -/
def during : List Input := earlier ++ .operate (.call t ask) :: later

/-- The number that a call gets when it is made after some inputs. -/
def callNumber : Nat := (reached earlier).calls.length

/-- The call is refused: it settles with the error at once. No handler runs, then or later, and nothing but
    the list of calls changes. -/
structure Refused (error : ThingError) : Prop where
  step : (reached earlier).step (.operate (.call t ask)) =
    ({ reached earlier with calls := (reached earlier).calls ++ [⟨t, ask, none, .settled (refuse error)⟩] },
      [.settled (callNumber earlier) (refuse error), .returned (.ok (.call (callNumber earlier)))])
  quiet : invocations (callNumber earlier) (during earlier t ask later) = []
  settled : settlements (callNumber earlier) (during earlier t ask later) = [refuse error]

/-- An announcement that is made after the inputs `before` has reached everybody whom it is for after the
    inputs `now`, and is delivered to its end when `last` is taken. -/
structure Announced (e : Event) (before now : List Input) (last : Input) : Prop where
  published : taken? (.own t) (reached before) .tick = some e
  /-- Nothing is being delivered when it is made, and nothing waits. -/
  rest : ((reached before).bus (.own t)).draining = false ∧ ((reached before).bus (.own t)).pending = []
  /-- Its delivery is for those who are attached when it is made, and gives everybody a turn. Whoever is open
      when the turn comes, and wants the event, has been handed it. -/
  delivered : ∃ r, (rounds (.own t) (now ++ [last]))[(rounds (.own t) before).length]? = some r ∧
    r.event = e ∧ r.audience = ((reached before).bus (.own t)).sinks ∧ r.Finished ∧
    ∀ s, (s, true) ∈ r.turns → Bus.wants s e = true →
      ∃ more, received ⟨.own t, s.id⟩ now = received ⟨.own t, s.id⟩ before ++ e :: more

/-- The call is accepted, and answered by the handler that `x` has for the interaction `i`. -/
structure Accepted (x : ExposedThing) (i : Interaction) : Prop where
  /-- A client's handler is called before the call returns, with what was asked, and never again, and no other
      is; else the answer is there when the call returns, and nobody is called. -/
  resolved : match x.handlers.get ask.kind (some i.serial) with
    | .client c =>
      ((reached earlier).step (.operate (.call t ask))).2 =
        [.log ⟨some x.id, callNote i.name ask⟩, .callHandler c (callNumber earlier) ask.arguments] ∧
      invocations (callNumber earlier) (during earlier t ask later) = [(c, ask.arguments)]
    | .standard =>
      ((reached earlier).step (.operate (.call t ask))).2 =
        [.log ⟨some x.id, callNote i.name ask⟩, .returned (.ok (.call (callNumber earlier)))] ∧
      invocations (callNumber earlier) (during earlier t ask later) = [] ∧
      answers (callNumber earlier) (during earlier t ask later) = [(x.answer ask).2]
    | .broken =>
      ((reached earlier).step (.operate (.call t ask))).2 =
        [.log ⟨some x.id, callNote i.name ask⟩, .returned (.ok (.call (callNumber earlier)))] ∧
      invocations (callNumber earlier) (during earlier t ask later) = [] ∧
      answers (callNumber earlier) (during earlier t ask later) = [.error (.fault .notCallable)]
  answered : (answers (callNumber earlier) (during earlier t ask later)).length ≤ 1
  /-- It settles with what its answer comes to, -/
  settled : settlements (callNumber earlier) (during earlier t ask later) <+:
    (answers (callNumber earlier) (during earlier t ask later)).map (settlement ask)
  /-- and has settled when it was answered and nothing is left to do. -/
  settles : (reached (during earlier t ask later)).stack = [] → (reached (during earlier t ask later)).queue = [] →
    settlements (callNumber earlier) (during earlier t ask later) =
      (answers (callNumber earlier) (during earlier t ask later)).map (settlement ask)
  /-- Before a write or an invocation settles well it is announced, unless the bus is completed by then. -/
  announced : ∀ middle last rest v e, later = middle ++ last :: rest → announcement? ask v = some e →
    .settled (callNumber earlier) (.ok v) ∈ ((reached (during earlier t ask middle)).step last).2 →
    ∃ before after, middle ++ [last] = before ++ .tick :: after ∧
      (((reached (during earlier t ask before)).bus (.own t)).completed = false →
        Announced t e (during earlier t ask before) (during earlier t ask middle) last)

/-- A call to the Thing `x`, whatever happens before and after it. -/
structure Isolated (x : ExposedThing) : Prop where
  missing : x.thing.findKind? (ExposedThing.target ask.kind) ask.name = none →
    Refused earlier t ask later (.notFound (ExposedThing.target ask.kind) ask.name)
  locked : ∀ i, x.thing.findKind? (ExposedThing.target ask.kind) ask.name = some i → ask.kind = .write →
    i.writable = false → Refused earlier t ask later (.notWritable i.name)
  accepted : ∀ i, x.thing.findKind? (ExposedThing.target ask.kind) ask.name = some i →
    (ask.kind = .write → i.writable = true) → Accepted earlier t ask later x i

end Statement

/-! ### What becomes of the call -/

section Call
variable {earlier : List Input} {t : Nat} {ask : Ask} {x : ExposedThing}

theorem during_append (earlier : List Input) (t : Nat) (ask : Ask) (a b : List Input) :
    during earlier t ask (a ++ b) = during earlier t ask a ++ b := by simp [during]

theorem nothing_before (earlier : List Input) : invocations (callNumber earlier) earlier = [] ∧
    answers (callNumber earlier) earlier = [] ∧ settlements (callNumber earlier) earlier = [] := by
  have h := stands earlier (callNumber earlier)
  rw [List.getElem?_eq_none (by simp [callNumber])] at h
  obtain ⟨-, -, hi, ha, hs⟩ := h.of_none
  exact ⟨hi, ha, hs⟩

theorem during_desk (hx : (reached earlier).things[t]? = some x) :
    (reached (during earlier t ask [])).desk = (reached earlier).desk.step (callMove x t ask) := by
  rw [during, reached_snoc, (step_serves (grounded_reached earlier) _).desk]
  simp [deskMove?, hx]

theorem during_call {accepted : Option (Nat × Handler)} {p : Progress}
    (hc : (reached (during earlier t ask [])).calls = (reached earlier).calls ++ [⟨t, ask, accepted, p⟩])
    (later : List Input) :
    ∃ p', (reached (during earlier t ask later)).calls[callNumber earlier]? = some ⟨t, ask, accepted, p'⟩ := by
  have hnew : (reached (during earlier t ask [])).calls[callNumber earlier]? = some ⟨t, ask, accepted, p⟩ := by
    rw [hc, callNumber, List.getElem?_concat_length]
  obtain ⟨p', hp⟩ := call_kept hnew later
  exact ⟨p', by rw [← hp, ← during_append, List.nil_append]⟩

/-- A call that is refused settles in the step that makes it, and that is all that ever becomes of it. -/
theorem refused_of_accept (hx : (reached earlier).things[t]? = some x) {error : ThingError}
    (ha : x.accept ask = .error error) (later : List Input) : Refused earlier t ask later error := by
  have hstep : (reached earlier).step (.operate (.call t ask)) =
      ({ reached earlier with calls := (reached earlier).calls ++ [⟨t, ask, none, .settled (refuse error)⟩] },
        [.settled (callNumber earlier) (refuse error), .returned (.ok (.call (callNumber earlier)))]) := by
    simp [step, operate, call, withThing, hx, ha, startCall, prepend, returns, callNumber]
  have hcalls : (reached (during earlier t ask [])).calls =
      (reached earlier).calls ++ [⟨t, ask, none, .settled (refuse error)⟩] := by
    rw [during, reached_snoc, hstep]
  obtain ⟨p, hp⟩ := during_call hcalls later
  have hstand := stands (during earlier t ask later) (callNumber earlier)
  rw [hp] at hstand
  obtain ⟨hi, -, o, ho⟩ := hstand.of_refused rfl
  refine ⟨hstep, hi, ?_⟩
  have hfirst : settlements (callNumber earlier) (during earlier t ask []) = [refuse error] := by
    have hbefore := (nothing_before earlier).2.2
    rw [settlements] at hbefore
    rw [settlements, during, outputs_snoc, hstep, List.filterMap_append, Ledger.about_append, hbefore]
    simp [Output.settled?, about]
  have hpre := settlements_prefix (during earlier t ask []) later (callNumber earlier)
  rw [← during_append, List.nil_append, hfirst, ho] at hpre
  rw [ho]
  exact (hpre.eq_of_length rfl).symm

theorem accepted_calls (hx : (reached earlier).things[t]? = some x) {i : Interaction} {handler : Handler}
    (ha : x.accept ask = .ok (i, handler)) : ∃ p, (reached (during earlier t ask [])).calls =
      (reached earlier).calls ++ [⟨t, ask, some (i.serial, handler), p⟩] := by
  have hdesk : (reached (during earlier t ask [])).calls = ((reached earlier).desk.step (callMove x t ask)).calls :=
    congrArg Desk.calls (during_desk hx)
  rw [hdesk, callMove, ha]
  cases handler <;> exact ⟨_, rfl⟩

theorem answers_of_first (earlier : List Input) {o : Outcome} (later : List Input)
    (hfirst : answered? (reached earlier) (.operate (.call t ask)) = some (callNumber earlier, o)) :
    answers (callNumber earlier) (during earlier t ask later) = [o] := by
  have hnow : answers (callNumber earlier) (during earlier t ask []) = [o] := by
    have hbefore := (nothing_before earlier).2.1
    rw [answers] at hbefore
    rw [answers, during, seen_snoc, Ledger.about_append, hbefore, hfirst]
    simp [about]
  have hlater := answers_kept hnow later
  rwa [← during_append, List.nil_append] at hlater

end Call

/-! ### The announcement -/

section Announcement
variable {t n : Nat} {e : Event} {c : Call}

/-- The rest of a call that succeeded publishes its announcement. -/
theorem moveOn_resume {h : Host} {queue : List Job} {v : Value} (hstack : h.stack = [])
    (hqueue : h.queue = .resume n (.ok v) :: queue) (hc : h.calls[n]? = some c) (he : announcement? c.ask v = some e)
    (hb : (h.bus? (.own c.thing)).isSome) : moveOn (.own c.thing) h .tick = some (.publish e) := by
  obtain ⟨b, hb⟩ := Option.isSome_iff_exists.mp hb
  rw [moveOn, on_eq_some]
  simp [move?, hstack, resumed?, hqueue, announced?, hc, he, hb]

theorem announcement_of_settlement {ask : Ask} {a : Outcome} {v : Value} (hs : settlement ask a = .ok v)
    (he : announcement? ask v = some e) : ∃ result, a = .ok result ∧ announcement? ask result = some e := by
  cases a with
  | error t => cases ask <;> cases hs
  | ok result =>
    refine ⟨result, rfl, ?_⟩
    cases ask with
    | read property => cases he
    | write property value => exact he
    | invoke action arguments =>
      cases hs
      exact he

theorem settlements_of_mem {inputs : List Input} {i : Input} {o : Outcome}
    (hs : .settled n o ∈ ((reached inputs).step i).2) : settlements n (inputs ++ [i]) = [o] := by
  have hmem : o ∈ settlements n (inputs ++ [i]) := by
    rw [settlements, outputs_snoc, List.filterMap_append, Ledger.about_append]
    have hlog : (n, o) ∈ ((reached inputs).step i).2.filterMap Output.settled? := List.mem_filterMap.mpr ⟨_, hs, rfl⟩
    exact List.mem_append_right _ (List.mem_filterMap.mpr ⟨_, hlog, by simp⟩)
  have hlen := (stands (inputs ++ [i]) n).once.2
  obtain ⟨o', ho⟩ := List.length_eq_one_iff.mp (Nat.le_antisymm hlen (List.length_pos_of_mem hmem))
  rw [ho] at hmem ⊢
  rw [List.mem_singleton.mp hmem]

/-- A call that settles was resumed before, while no client's code ran; and none runs when it has settled. -/
theorem resumed_of_settled {a middle : List Input} {last : Input} {o : Outcome} (hnew : (reached a).calls[n]? = none)
    (hc : (reached (a ++ middle)).calls[n]? = some c) (hacc : c.accepted.isSome)
    (hs : .settled n o ∈ ((reached (a ++ middle)).step last).2) :
    ∃ before after answer queue, middle ++ [last] = before ++ .tick :: after ∧ (reached (a ++ before)).stack = [] ∧
      (reached (a ++ before)).queue = .resume n answer :: queue ∧ o = settlement c.ask answer ∧
      (reached (a ++ middle ++ [last])).stack = [] := by
  have hend : (reached (a ++ middle ++ [last])).stack = [] := by
    rw [reached_snoc]
    exact stack_of_settled (grounded_reached _) (rooted_reached _) (List.getElem?_eq_some_iff.mp hc).1 hs
  obtain ⟨p, hp⟩ := call_kept hc [last]
  have hstand := stands (a ++ middle ++ [last]) n
  rw [hp, settlements_of_mem hs] at hstand
  obtain ⟨answer, hans, ho, hqueue⟩ := hstand.of_settled hacc
  have hresumed : (ledger (a ++ (middle ++ [last]))).Resumed n := by
    rw [← List.append_assoc]
    refine ⟨?_, ?_⟩
    · rw [ledger_answers]
      exact ne_of_eq_of_ne hans (List.cons_ne_nil _ _)
    · rw [ledger_desk]
      exact hqueue
  have hfresh : ¬(ledger a).Resumed n := by
    rintro ⟨hans', -⟩
    have h := stands a n
    rw [hnew] at h
    rw [ledger_answers] at hans'
    exact hans' h.of_none.2.2.2.1
  obtain ⟨before, after, answer', queue, hsplit, hstack, hjob⟩ := resumed_at hfresh hresumed
  refine ⟨before, after, answer, queue, hsplit, hstack, ?_, ho, hend⟩
  -- The answer in the queue is the only one that the call has.
  obtain ⟨hans', -⟩ := resumed_by hstack hjob
  have hlater := answers_kept hans' (.tick :: after)
  rw [List.append_assoc, ← hsplit, ← List.append_assoc, hans] at hlater
  obtain rfl : answer = answer' := (List.cons.inj hlater).1
  exact hjob

/-- An announcement that is made when no client's code runs is the first delivery from then on, and stays it. -/
theorem delivery_of_announcement {before : List Input} (hstack : (reached before).stack = [])
    (hmove : moveOn (.own t) (reached before) .tick = some (.publish e))
    (hopen : ((reached before).bus (.own t)).completed = false) (after : List Input) :
    ∃ r more, rounds (.own t) (before ++ .tick :: after) = rounds (.own t) before ++ r :: more ∧ r.event = e ∧
      r.audience = ((reached before).bus (.own t)).sinks := by
  have hrest : Bus.AtRest ((reached before).bus (.own t)) (rounds (.own t) before) (published (.own t) before) :=
    at_rest (by simp [delivering, hstack])
  have hbus := record_bus (.own t) before
  have hfirst : rounds (.own t) (before ++ [.tick]) = rounds (.own t) before ++
      [⟨e, ((reached before).bus (.own t)).sinks, Bus.turns ((reached before).bus (.own t)).closed e
        ((reached before).bus (.own t)).sinks⟩] := by
    rw [rounds, record_snoc, hmove, ← hbus]
    exact Bus.rounds_of_publish (hbus ▸ hopen) (hbus ▸ hrest.draining) (hbus ▸ hrest.pending) e
  obtain ⟨new, hnew, -⟩ : Bus.Since (rounds (.own t) before) (record (.own t) (before ++ .tick :: after)) := by
    rw [record_append]
    exact (record_sound (.own t) before).since (hbus ▸ hrest.draining) _
  have hheads : (rounds (.own t) (before ++ [.tick])).map Bus.Round.head <+:
      (rounds (.own t) (before ++ .tick :: after)).map Bus.Round.head := by
    have hlater : before ++ .tick :: after = before ++ [Input.tick] ++ after := by simp
    rw [hlater, rounds, rounds, record_append (.own t) (before ++ [Input.tick]) after]
    exact Bus.run_heads _ _
  have hnew : rounds (.own t) (before ++ .tick :: after) = rounds (.own t) before ++ new := hnew
  rw [hfirst, hnew, List.map_append, List.map_append, List.prefix_append_right_inj] at hheads
  obtain ⟨tail, htail⟩ := hheads
  cases new with
  | nil => cases htail
  | cons r more =>
    have hhead := (List.cons.inj htail).1
    exact ⟨r, more, hnew, (congrArg Prod.fst hhead).symm, (congrArg Prod.snd hhead).symm⟩

/-- An announcement that is made when no client's code runs is delivered when none runs again. -/
theorem announced_at {before now after : List Input} {last : Input} (hnow : now ++ [last] = before ++ .tick :: after)
    (hstack : (reached before).stack = []) (hmove : moveOn (.own t) (reached before) .tick = some (.publish e))
    (hopen : ((reached before).bus (.own t)).completed = false) (hend : (reached (now ++ [last])).stack = []) :
    Announced t e before now last := by
  have hrest : Bus.AtRest ((reached before).bus (.own t)) (rounds (.own t) before) (published (.own t) before) :=
    at_rest (by simp [delivering, hstack])
  have hover : ∀ r ∈ rounds (.own t) (now ++ [last]), r.Finished := (at_rest (by simp [delivering, hend])).finished
  obtain ⟨r, more, hnew, hevent, haudience⟩ := delivery_of_announcement hstack hmove hopen after
  rw [← hnow] at hnew
  refine ⟨?_, ⟨hrest.draining, hrest.pending⟩, r, ?_, hevent, haudience, ?_, fun s hs hw => ?_⟩
  · simp [taken?, hmove, hopen]
  · simp [hnew]
  · exact hover r (by simp [hnew])
  · have hreaches : r.reaches s.id = true := by
      rw [Bus.Round.reaches, List.any_eq_true]
      exact ⟨(s, true), hs, by simp [hevent, hw]⟩
    have hnone : handed? ⟨.own t, s.id⟩ (reached now) last = none := by
      rw [reached_snoc] at hend
      simp [handed?, top?, hend]
    have hsame : received ⟨.own t, s.id⟩ now = received ⟨.own t, s.id⟩ (now ++ [last]) := by
      rw [received, received, seen_snoc, hnone]
      exact (List.append_nil _).symm
    rw [hsame, received_rounds, received_rounds, hnew]
    exact ⟨_, by simp [hreaches, hevent]; rfl⟩

end Announcement

/-! ### The law -/

section Law
variable {earlier : List Input} {t : Nat} {ask : Ask} {x : ExposedThing}

theorem accepted_of_accept (hx : (reached earlier).things[t]? = some x) {i : Interaction}
    (ha : x.accept ask = .ok (i, x.handlers.get ask.kind (some i.serial))) (later : List Input) :
    Accepted earlier t ask later x i := by
  obtain ⟨p, hcalls⟩ := accepted_calls hx ha
  have hcall := during_call hcalls
  obtain ⟨q, hq⟩ := hcall later
  have hstand := stands (during earlier t ask later) (callNumber earlier)
  rw [hq] at hstand
  obtain ⟨hinv, hone, hset, hidle⟩ := hstand.of_accepted rfl
  refine ⟨?_, hone, hset, fun hs hqueue => ?_, fun middle last rest v e hl he hs => ?_⟩
  · rw [hinv]
    have hstep : (reached earlier).step (.operate (.call t ask)) = (reached earlier).call t ask := rfl
    rw [hstep]
    cases hh : x.handlers.get ask.kind (some i.serial) with
    | client c =>
      simp only [Call.invoked, and_true]
      simp [call, withThing, hx, ha, hh, prepend, noted, callNumber]
    | standard =>
      refine ⟨?_, by simp [Call.invoked], answers_of_first earlier later ?_⟩
      · simp [call, withThing, hx, ha, hh, prepend, noted, returns, callNumber]
      · simp [answered?, hx, ha, hh, callNumber]
    | broken =>
      refine ⟨?_, by simp [Call.invoked], answers_of_first earlier later ?_⟩
      · simp [call, withThing, hx, ha, hh, prepend, noted, returns, callNumber]
      · simp [answered?, hx, ha, hh, callNumber]
  · exact hidle (by simp [desk, hs]) (by simp [desk, hqueue, about])
  · obtain ⟨q', hq'⟩ := hcall middle
    have hnew : (reached earlier).calls[callNumber earlier]? = none := List.getElem?_eq_none (Nat.le_refl _)
    obtain ⟨before, after, answer, queue, hsplit, hstack, hjob, ho, hend⟩ := resumed_of_settled hnew hq' rfl hs
    obtain ⟨result, rfl, hresult⟩ := announcement_of_settlement ho.symm he
    rcases before with _ | ⟨first, before⟩
    · cases hsplit
    · rw [List.cons_append, List.cons_append, List.cons.injEq] at hsplit
      obtain ⟨rfl, hmiddle⟩ := hsplit
      obtain ⟨q'', hq''⟩ := hcall before
      have hnow : during earlier t ask middle ++ [last] = during earlier t ask before ++ .tick :: after := by
        simp [during, hmiddle]
      have hthere : ((reached (during earlier t ask before)).bus? (.own t)).isSome :=
        bus_kept earlier _ (by simp [bus?, hx])
      have hmove := moveOn_resume hstack hjob hq'' hresult hthere
      exact ⟨before, after, hmiddle, fun hopen => announced_at hnow hstack hmove hopen hend⟩

/-- Whatever is done with a host before and after a call is made, the call is isolated from it. -/
theorem isolation_law (hx : (reached earlier).things[t]? = some x) (later : List Input) :
    Isolated earlier t ask later x where
  missing hnone := refused_of_accept hx (ExposedThing.accept_of_missing hnone) later
  locked i hi hk hw := refused_of_accept hx (ExposedThing.accept_of_locked hi hk hw) later
  accepted i hi hw := accepted_of_accept hx (ExposedThing.accept_of_open hi hw) later

/-- A lamp whose switch one client answers for, and another watches. -/
def lamp : List Input :=
  [ .operate (.newThing 0 "lamp" "Lamp" none),
    .operate (.add 0 .property (.string "on") .undefined none),
    .operate (.setHandler 0 .write 7 none),
    .operate (.subscribe (.topic 0 (.property (.string "on"))) 3 true) ]

/-- The switch is withdrawn while its handler has only promised an answer. -/
def withdrawn : List Input :=
  [ .reply .promised,
    .operate (.remove 0 .property (.string "on")),
    .answer 0 (.ok .null),
    .tick,
    .reply (.done .undefined) ]

theorem lamp_isolated : let ask : Ask := .write (.string "on") (.bool true)
    ∃ x i, (reached lamp).things[0]? = some x ∧ x.thing.findKind? .property ask.name = some i ∧
      Isolated lamp 0 ask withdrawn x ∧ Accepted lamp 0 ask withdrawn x i ∧
      invocations 0 (during lamp 0 ask withdrawn) = [(7, [.string "on", .bool true])] ∧
      settlements 0 (during lamp 0 ask withdrawn) = [.ok .undefined] ∧
      received ⟨.own 0, 1⟩ (during lamp 0 ask withdrawn) = [.propertyChange (.string "on") (.bool true)] := by
  refine ⟨_, _, by rfl, by rfl, isolation_law (by rfl) _, ?_, by rfl, by rfl, by rfl⟩
  exact (isolation_law (by rfl) _).accepted _ (by rfl) fun _ => by rfl

end Law

end Host
end ThingHost
