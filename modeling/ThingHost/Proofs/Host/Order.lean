import ThingHost.Proofs.Host.Isolation
import ThingHost.Proofs.Host.Stream

/-! The order of announcements. Whatever waits in the queue is done first that came first, so calls go on in
    the order in which they were answered, and announce in this order what they did. -/

namespace ThingHost

/-- The event tells of a change of a property. -/
def Event.isChange : Event → Bool
  | .notification .propertyChange _ => true
  | _ => false

namespace Host

/-- The call that an input goes on with, and the answer that it goes on with. -/
def resumes? (h : Host) : Input → Option (Nat × Outcome)
  | .tick =>
    match h.stack, h.queue with
    | [], .resume n a :: _ => some (n, a)
    | _, _ => none
  | _ => none

/-- What a call to a Thing announces when it was answered so. -/
def announces? (t : Nat) (h : Host) (a : Nat × Outcome) : Option Event :=
  match a.2 with
  | .ok v => h.calls[a.1]?.bind fun c => if c.thing = t then announcement? c.ask v else none
  | .error _ => none

/-! ### Where a call comes from -/

section Made
variable {inputs : List Input} {n : Nat} {c : Call}

theorem callMove_calls (k : Desk) (x : ExposedThing) (t : Nat) (ask : Ask) : ∃ p, (k.step (callMove x t ask)).calls =
    k.calls ++ [⟨t, ask, (x.accept ask).toOption.map fun r => (r.1.serial, r.2), p⟩] := by
  unfold callMove
  split <;> rename_i ha <;> rw [ha] <;> exact ⟨_, rfl⟩

/-- The call that is made by asking a Thing for it. -/
theorem call_made {t : Nat} {x : ExposedThing} (hx : (reached inputs).things[t]? = some x) (ask : Ask) :
    ∃ p, (reached (inputs ++ [.operate (.call t ask)])).calls[callNumber inputs]? =
      some ⟨t, ask, (x.accept ask).toOption.map fun r => (r.1.serial, r.2), p⟩ := by
  have hm : (reached inputs).deskMove? (.operate (.call t ask)) = some (callMove x t ask) := by simp [deskMove?, hx]
  obtain ⟨p, hp⟩ := callMove_calls (reached inputs).desk x t ask
  refine ⟨p, ?_⟩
  rw [calls_snoc, hm]
  dsimp only
  rw [hp]
  exact List.getElem?_concat_length

/-- Every call was made at some moment, and accepted as the Thing then had it. -/
theorem made_at (hc : (reached inputs).calls[n]? = some c) : ∃ earlier later x,
    inputs = during earlier c.thing c.ask later ∧ callNumber earlier = n ∧ (reached earlier).things[c.thing]? = some x ∧
      c.accepted = (x.accept c.ask).toOption.map fun r => (r.1.serial, r.2) := by
  induction inputs using List.reverseRecOn generalizing c with
  | nil => simp [reached, run, Host.new] at hc
  | append_singleton inputs i ih =>
    cases hold : (reached inputs).calls[n]? with
    | some c' =>
      obtain ⟨p, hp⟩ := call_kept hold [i]
      rw [hc] at hp
      obtain rfl := Option.some.inj hp
      obtain ⟨earlier, later, x, hsplit, hn, hx, hacc⟩ := ih hold
      exact ⟨earlier, later ++ [i], x, by rw [during_append, ← hsplit], hn, hx, hacc⟩
    | none =>
      rw [calls_snoc] at hc
      cases hm : (reached inputs).deskMove? i with
      | none =>
        rw [hm] at hc
        rw [hold] at hc
        cases hc
      | some m =>
        rw [hm] at hc
        obtain ⟨hn, hthing, hcalls⟩ := Desk.made_new (k := (reached inputs).desk) hold hc
        obtain ⟨ask, x, rfl, hx, rfl⟩ := deskMove?_makes hm hthing
        obtain ⟨p, hp⟩ := callMove_calls (reached inputs).desk x c.thing ask
        rw [hp] at hcalls
        have hmade := (List.cons.inj (List.append_cancel_left hcalls)).1
        obtain rfl : ask = c.ask := congrArg Call.ask hmade
        exact ⟨inputs, [], x, rfl, hn.symm, hx, (congrArg Call.accepted hmade).symm⟩

theorem call_of_answered {o : Outcome} (h : (n, o) ∈ seen answered? .new inputs) :
    ∃ c, (reached inputs).calls[n]? = some c ∧ c.accepted.isSome := by
  have hmem : o ∈ answers n inputs := List.mem_filterMap.mpr ⟨_, h, by simp⟩
  have hstand := stands inputs n
  cases hc : (reached inputs).calls[n]? with
  | none =>
    rw [hc] at hstand
    rw [hstand.of_none.2.2.2.1] at hmem
    cases hmem
  | some c =>
    refine ⟨c, rfl, Option.isSome_iff_ne_none.mpr fun hnone => ?_⟩
    rw [hc] at hstand
    rw [(hstand.of_refused hnone).2.1] at hmem
    cases hmem

end Made

/-! ### First in, first out -/

section Order
variable {t : Nat} {h : Host}

theorem resumes?_eq_some {i : Input} {n : Nat} {o : Outcome} : resumes? h i = some (n, o) ↔
    i = .tick ∧ h.stack = [] ∧ ∃ queue, h.queue = .resume n o :: queue := by
  constructor
  · intro hr
    cases i with
    | tick =>
      simp only [resumes?] at hr
      split at hr
      · rename_i m a queue hstack hqueue
        cases hr
        exact ⟨rfl, hstack, queue, hqueue⟩
      · cases hr
    | _ => cases hr
  · rintro ⟨rfl, hstack, queue, hqueue⟩
    simp [resumes?, hstack, hqueue]

theorem resumes?_eq (h : Host) (i : Input) : resumes? h i = match h.deskMove? i with
    | some (.resume _) => h.desk.queue.head?
    | _ => none := by
  split
  · rename_i ends hm
    obtain ⟨rfl, hstack, ⟨n, a, queue, hqueue⟩, -⟩ := deskMove?_resume hm
    simp [resumes?, desk, hstack, hqueue, Job.rest?]
  · rename_i hne
    cases hr : resumes? h i with
    | none => rfl
    | some r =>
      obtain ⟨rfl, hstack, queue, hqueue⟩ := resumes?_eq_some.mp hr
      have hm : h.deskMove? .tick = some (.resume (h.step .tick).1.stack.isEmpty) := by
        simp [deskMove?, hstack, hqueue]
      exact absurd hm (hne _)

/-- Calls go on with the answers that were there first; the others wait in the queue. -/
theorem answers_in_order (inputs : List Input) :
    seen answered? .new inputs = seen resumes? .new inputs ++ (reached inputs).desk.queue := by
  rw [← ledger_answers, ← ledger_desk]
  induction inputs using List.reverseRecOn with
  | nil => rfl
  | append_singleton inputs i ih =>
    rw [seen_snoc, resumes?_eq, ledger_snoc]
    cases hm : (reached inputs).deskMove? i with
    | none => simpa using ih
    | some m =>
      have hanswers : ((ledger inputs).step m).answers = (ledger inputs).answers ++ ((ledger inputs).desk.answered m).toList :=
        rfl
      dsimp only
      rw [hanswers, ih, List.append_assoc, List.append_assoc]
      congr 1
      by_cases hres : ∃ ends, m = .resume ends
      · obtain ⟨ends, rfl⟩ := hres
        obtain ⟨rfl, hstack, ⟨n, a, queue, hqueue⟩, -⟩ := deskMove?_resume hm
        have hhead : (ledger inputs).desk.queue = (n, a) :: queue.filterMap Job.rest? := by
          rw [ledger_desk]
          simp [desk, hqueue, Job.rest?]
        rw [Ledger.step_resume hhead, ← ledger_desk, hhead]
        simp [Desk.answered]
      · have hne : ∀ ends, m ≠ .resume ends := fun ends heq => hres ⟨ends, heq⟩
        have hqueue : ((ledger inputs).step m).desk.queue =
            (ledger inputs).desk.queue ++ ((ledger inputs).desk.answered m).toList := Desk.queue_step _ hne
        rw [hqueue]
        cases m with
        | resume ends => exact absurd rfl (hne ends)
        | _ => rfl

theorem announces?_eq_some {h : Host} {r : Nat × Outcome} {e : Event} : announces? t h r = some e ↔
    ∃ v c, r.2 = .ok v ∧ h.calls[r.1]? = some c ∧ c.thing = t ∧ announcement? c.ask v = some e := by
  obtain ⟨n, o⟩ := r
  cases o with
  | error thrown => simp [announces?]
  | ok v =>
    simp only [announces?, Option.bind_eq_some_iff, Except.ok.injEq]
    constructor
    · rintro ⟨c, hc, he⟩
      split at he
      · rename_i hthing
        exact ⟨v, c, rfl, hc, hthing, he⟩
      · cases he
    · rintro ⟨v, c, rfl, hc, hthing, he⟩
      exact ⟨c, hc, by rw [if_pos hthing, he]⟩

theorem announces?_kept {a : List Input} {r : Nat × Outcome} {c : Call} (hc : (reached a).calls[r.1]? = some c) (b : List Input) :
    announces? t (reached (a ++ b)) r = announces? t (reached a) r := by
  obtain ⟨p, hp⟩ := call_kept hc b
  simp only [announces?, hc, hp]
  rfl

theorem answered_announces (t : Nat) (inputs : List Input) (i : Input) :
    (seen answered? .new inputs).filterMap (announces? t (reached (inputs ++ [i]))) =
      (seen answered? .new inputs).filterMap (announces? t (reached inputs)) := by
  refine List.filterMap_congr fun r hr => ?_
  obtain ⟨c, hc, -⟩ := call_of_answered hr
  exact announces?_kept hc [i]

theorem call_of_resumed {inputs : List Input} {r : Nat × Outcome}
    (hr : r ∈ seen resumes? .new inputs ∨ r ∈ (reached inputs).desk.queue) : ∃ c, (reached inputs).calls[r.1]? = some c := by
  have hanswered : r ∈ seen answered? .new inputs := by
    rw [answers_in_order]
    exact List.mem_append.mpr hr
  obtain ⟨c, hc, -⟩ := call_of_answered hanswered
  exact ⟨c, hc⟩

/-- What a call announces when it goes on is what it announces afterwards. -/
theorem seen_announces (t : Nat) (inputs : List Input) :
    seen (fun h i => (resumes? h i).bind (announces? t h)) .new inputs =
      (seen resumes? .new inputs).filterMap (announces? t (reached inputs)) := by
  induction inputs using List.reverseRecOn with
  | nil => rfl
  | append_singleton inputs i ih =>
    have hold : (seen resumes? .new inputs).filterMap (announces? t (reached (inputs ++ [i]))) =
        (seen resumes? .new inputs).filterMap (announces? t (reached inputs)) := by
      refine List.filterMap_congr fun r hr => ?_
      obtain ⟨c, hc⟩ := call_of_resumed (.inl hr)
      exact announces?_kept hc [i]
    rw [seen_snoc, seen_snoc, List.filterMap_append, hold, ih]
    congr 1
    rw [resumes?_eq]
    split
    · cases hq : (reached inputs).desk.queue with
      | nil => rfl
      | cons r queue =>
        have hr : r ∈ (reached inputs).desk.queue := hq ▸ List.mem_cons_self
        obtain ⟨c, hc⟩ := call_of_resumed (.inr hr)
        have hkept := announces?_kept (t := t) hc [i]
        simp only [List.head?_cons, Option.bind_some, Option.toList_some, List.filterMap_cons, List.filterMap_nil, hkept]
        cases announces? t (reached inputs) r <;> rfl
    · rfl

/-- Changes are announced by calls, when they go on. -/
theorem success?_change (t : Nat) (h : Host) (i : Input) : ((success? t h i).map (·.2)).filter Event.isChange =
    ((resumes? h i).bind (announces? t h)).filter Event.isChange := by
  refine Option.ext fun e => ?_
  simp only [Option.filter_eq_some_iff, Option.map_eq_some_iff, Option.bind_eq_some_iff]
  constructor
  · rintro ⟨⟨⟨n, e⟩, hs, rfl⟩, hchange⟩
    cases succeeds hs with
    | resumed hstack hqueue hc hthing he =>
      refine ⟨⟨_, resumes?_eq_some.mpr ⟨rfl, hstack, _, hqueue⟩, ?_⟩, hchange⟩
      exact announces?_eq_some.mpr ⟨_, _, rfl, hc, hthing, he⟩
    | added s parsed description => cases hchange
    | removed s => cases hchange
    | emitted => cases hchange
  · rintro ⟨⟨⟨n, o⟩, hr, ha⟩, hchange⟩
    obtain ⟨v, c, rfl, hc, hthing, he⟩ := announces?_eq_some.mp ha
    obtain ⟨rfl, hstack, queue, hqueue⟩ := resumes?_eq_some.mp hr
    exact ⟨⟨(some n, e), success?_call.mpr ⟨rfl, hstack, v, queue, c, hqueue, hc, hthing, he⟩, rfl⟩, hchange⟩

theorem taken?_change {inputs : List Input} (hopen : ((reached inputs).bus (.own t)).completed = false) (i : Input) :
    (taken? (.own t) (reached inputs) i).toList.filter Event.isChange =
      ((resumes? (reached inputs) i).bind (announces? t (reached inputs))).toList.filter Event.isChange := by
  rw [taken?_eq hopen fun n c hc => call_there hc, ← Option.toList_filter, success?_change, Option.toList_filter]

/-- As long as the bus is open, the changes that it takes are those that calls announced when they went on. -/
theorem changes_eq {inputs : List Input} (hopen : ((reached inputs).bus (.own t)).completed = false) :
    (published (.own t) inputs).filter Event.isChange =
      ((seen resumes? .new inputs).filterMap (announces? t (reached inputs))).filter Event.isChange := by
  rw [← seen_announces]
  induction inputs using List.reverseRecOn with
  | nil => rfl
  | append_singleton inputs i ih =>
    have hbefore := open_before hopen
    rw [published, seen_snoc, seen_snoc, List.filter_append, List.filter_append, ← ih hbefore, taken?_change hbefore]
    rfl

/-- Afterwards it takes no more. -/
theorem changes_announced (t : Nat) (inputs : List Input) : (published (.own t) inputs).filter Event.isChange <+:
    ((seen resumes? .new inputs).filterMap (announces? t (reached inputs))).filter Event.isChange := by
  rw [← seen_announces]
  induction inputs using List.reverseRecOn with
  | nil => exact List.prefix_rfl
  | append_singleton inputs i ih =>
    rw [published, seen_snoc, seen_snoc, List.filter_append, List.filter_append]
    cases hopen : ((reached inputs).bus (.own t)).completed with
    | false =>
      have hold : (published (.own t) inputs).filter Event.isChange =
          (seen (fun h i => (resumes? h i).bind (announces? t h)) .new inputs).filter Event.isChange := by
        rw [changes_eq hopen, seen_announces]
      exact (congrArg₂ (· ++ ·) hold (taken?_change hopen i)) ▸ List.prefix_rfl
    | true =>
      have hnone : taken? (.own t) (reached inputs) i = none := by
        unfold taken?
        split
        · exact if_pos hopen
        · rfl
      rw [hnone]
      exact (List.append_nil _).symm ▸ ih.trans (List.prefix_append _ _)

end Order

end Host
end ThingHost
