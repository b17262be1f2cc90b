import ThingHost.Proofs.Host.Calls

/-! How a call comes to its end. Its rest starts when no client's code runs, so it finds every bus at rest;
    what it then waits for stands at the bottom of the stack; and when it settles the stack is empty. -/

namespace ThingHost

/-! ### Answers that wait -/

namespace Desk

/-- An answer waits in the queue until the rest of its call is started. -/
theorem queue_step (k : Desk) {m : Move} (hm : ∀ ends, m ≠ .resume ends) :
    (k.step m).queue = k.queue ++ (k.answered m).toList := by
  cases m with
  | resume ends => exact absurd rfl (hm ends)
  | reply r =>
    simp only [step, answered]
    split <;> simp_all
  | answer n o =>
    simp only [step, answered]
    split <;> simp_all
  | finish =>
    simp only [step, answered]
    split <;> simp
  | _ => simp [step, answered]

/-- Only the rest of a call puts something on the stack that the call waits for at its end. -/
theorem waits_step (k : Desk) {m : Move} (hm : ∀ ends, m ≠ .resume ends) {n : Nat} {o : Outcome} {waits : List Wait}
    (hw : (k.step m).waits = .ending n o :: waits) : waits.length < k.waits.length := by
  have same : (k.step m).waits = k.waits → waits.length < k.waits.length := fun h => by simp [← h, hw]
  cases m with
  | resume ends => exact absurd rfl (hm ends)
  | invoke thing ask serial client => cases hw
  | reply r =>
    rcases hk : k.waits with _ | ⟨w, below⟩
    · simp [step, hk] at hw
    · rw [hk] at same
      cases w with
      | ending m o' => exact same (by simp [step, hk])
      | handler m =>
        have hbelow : below = .ending n o :: waits := by cases r <;> simpa [step, hk] using hw
        simp only [hbelow, List.length_cons]
        omega
  | answer m o' =>
    refine same ?_
    simp only [step]
    split <;> rfl
  | finish =>
    rcases hk : k.waits with _ | ⟨w, below⟩
    · simp [step, hk] at hw
    · rw [hk] at same
      cases w with
      | handler m => exact same (by simp [step, hk])
      | ending m o' =>
        have hbelow : below = .ending n o :: waits := by simpa [step, hk] using hw
        simp only [hbelow, List.length_cons]
        omega
  | _ => exact same rfl

end Desk

namespace Ledger
variable {l : Ledger} {n : Nat}

/-- A call has been answered, and its rest was started. -/
def Resumed (l : Ledger) (n : Nat) : Prop := about n l.answers ≠ [] ∧ about n l.desk.queue = []

theorem step_resume {k : Nat} {a : Outcome} {queue : List (Nat × Outcome)} (hq : l.desk.queue = (k, a) :: queue)
    {ends : Bool} : (l.step (.resume ends)).desk.queue = queue := by
  simp only [step, Desk.step, hq]
  split
  · rfl
  · split <;> rfl

theorem Resumed.of_step {m : Desk.Move} (hr : (l.step m).Resumed n) (hn : ¬l.Resumed n) :
    ∃ ends a queue, m = .resume ends ∧ l.desk.queue = (n, a) :: queue := by
  obtain ⟨hans, hqueue⟩ := hr
  have hlog : about n (l.step m).answers = about n l.answers ++ about n (l.desk.answered m).toList := about_append _ _
  by_cases hm : ∃ ends, m = .resume ends
  · obtain ⟨ends, rfl⟩ := hm
    rw [hlog] at hans
    have hans : about n l.answers ≠ [] := by simpa [Desk.answered, about] using hans
    have hwait : about n l.desk.queue ≠ [] := fun h => hn ⟨hans, h⟩
    rcases hq : l.desk.queue with _ | ⟨⟨k, a⟩, queue⟩
    · rw [hq] at hwait
      exact absurd rfl hwait
    · by_cases hk : k = n
      · subst hk
        exact ⟨ends, a, queue, rfl, rfl⟩
      · rw [step_resume hq] at hqueue
        rw [hq, about_ne hk, hqueue] at hwait
        exact absurd rfl hwait
  · have hq : (l.step m).desk.queue = l.desk.queue ++ (l.desk.answered m).toList :=
      l.desk.queue_step fun ends h => hm ⟨ends, h⟩
    rw [hq, about_append, List.append_eq_nil_iff] at hqueue
    rw [hlog, hqueue.2, List.append_nil] at hans
    exact absurd ⟨hans, hqueue.1⟩ hn

theorem Resumed.step {m : Desk.Move} (hr : l.Resumed n) (hs : (l.step m).Stands n) : (l.step m).Resumed n := by
  obtain ⟨hans, hqueue⟩ := hr
  have hlog : about n (l.step m).answers = about n l.answers ++ about n (l.desk.answered m).toList := about_append _ _
  have hnone : about n (l.desk.answered m).toList = [] := by
    have hone := Stand.once hs
    rw [hlog, List.length_append] at hone
    have hpos := List.length_pos_of_ne_nil hans
    exact List.length_eq_zero_iff.mp (by omega)
  refine ⟨by rw [hlog]; exact List.append_ne_nil_of_left_ne_nil hans _, ?_⟩
  by_cases hm : ∃ ends, m = .resume ends
  · obtain ⟨ends, rfl⟩ := hm
    rcases hq : l.desk.queue with _ | ⟨⟨k, a⟩, queue⟩
    · simp [Ledger.step, Desk.step, hq, about]
    · rw [hq] at hqueue
      rw [step_resume hq]
      by_cases hk : k = n
      · subst hk
        rw [about_self] at hqueue
        cases hqueue
      · rwa [about_ne hk] at hqueue
  · have hq : (l.step m).desk.queue = l.desk.queue ++ (l.desk.answered m).toList :=
      l.desk.queue_step fun ends h => hm ⟨ends, h⟩
    rw [hq, about_append, hqueue, hnone]
    rfl

theorem Resumed.of_resume {a : Outcome} {queue : List (Nat × Outcome)} (hs : l.Stands n)
    (hq : l.desk.queue = (n, a) :: queue) (ends : Bool) : about n l.answers = [a] ∧ (l.step (.resume ends)).Resumed n := by
  unfold Stands at hs
  rw [hq, about_self] at hs
  obtain ⟨-, -, -, -, -, hrest, -, hans, -⟩ := hs.of_queue
  refine ⟨hans, ?_, ?_⟩
  · show about n (l.answers ++ []) ≠ []
    rw [List.append_nil, hans]
    exact List.cons_ne_nil _ _
  · rw [step_resume hq]
    exact hrest

end Ledger

namespace Stand
variable {n : Nat} {c : Call} {waits : List Wait} {queue answers settled : List Outcome} {invoked : List (Nat × List Value)}

/-- A refused call has settled, and that is all. -/
theorem of_refused (h : Stand n (some c) waits queue invoked answers settled) (hc : c.accepted = none) :
    invoked = [] ∧ answers = [] ∧ ∃ o, settled = [o] := by
  cases h with
  | refused accepted progress => exact ⟨rfl, rfl, _, rfl⟩
  | _ => simp_all

/-- An accepted call has called whom it calls. It settles as it was answered, and nothing but its own code
    and its own rest is in between. -/
theorem of_accepted (h : Stand n (some c) waits queue invoked answers settled) (hc : c.accepted.isSome) :
    invoked = c.invoked ∧ answers.length ≤ 1 ∧ settled <+: answers.map (settlement c.ask) ∧
      (waits = [] → queue = [] → settled = answers.map (settlement c.ask)) := by
  cases h with
  | refused accepted progress => simp [accepted] at hc
  | _ => simp

theorem of_settled {o : Outcome} (h : Stand n (some c) waits queue invoked answers [o]) (hc : c.accepted.isSome) :
    ∃ a, answers = [a] ∧ o = settlement c.ask a ∧ queue = [] := by
  cases h with
  | refused accepted progress => simp [accepted] at hc
  | settled accepted progress => exact ⟨_, rfl, rfl, rfl⟩

end Stand

namespace Host

/-! ### The rest of a call starts -/

section Moves
variable {h : Host} {i : Input}

theorem deskMove?_resume {ends : Bool} (hm : h.deskMove? i = some (.resume ends)) :
    i = .tick ∧ h.stack = [] ∧ (∃ n a queue, h.queue = .resume n a :: queue) ∧ ends = (h.step .tick).1.stack.isEmpty := by
  cases i with
  | operate op =>
    cases op with
    | call t ask =>
      obtain ⟨x, -, hx⟩ := Option.map_eq_some_iff.mp hm
      simp only [callMove] at hx
      split at hx <;> cases hx
    | _ => cases hm
  | reply r =>
    simp only [deskMove?] at hm
    split at hm
    · cases hm
    · split at hm
      · cases hm
      · split at hm <;> cases hm
      · cases hm
  | tick =>
    simp only [deskMove?] at hm
    split at hm
    · rename_i n a queue hs hq
      exact ⟨rfl, hs, ⟨n, a, queue, hq⟩, (Desk.Move.resume.inj (Option.some.inj hm)).symm⟩
    · cases hm
  | _ => cases hm

theorem deskMove?_finish (hm : h.deskMove? i = some .finish) : ∃ r f below n o, i = .reply r ∧ h.stack = f :: below ∧
    f.wait? = some (.ending n o) ∧ (h.step i).1.stack.length = below.length := by
  cases i with
  | operate op =>
    cases op with
    | call t ask =>
      obtain ⟨x, -, hx⟩ := Option.map_eq_some_iff.mp hm
      simp only [callMove] at hx
      split at hx <;> cases hx
    | _ => cases hm
  | reply r =>
    simp only [deskMove?] at hm
    split at hm
    · cases hm
    · rename_i f below hs
      split at hm
      · cases hm
      · rename_i n o hf
        split at hm
        · rename_i hlen
          exact ⟨r, f, below, n, o, rfl, hs, hf, hlen⟩
        · cases hm
      · cases hm
  | tick =>
    simp only [deskMove?] at hm
    split at hm <;> cases hm
  | _ => cases hm

end Moves

/-- A call that was resumed in the course of a run was resumed at some moment, and no client's code ran then. -/
theorem resumed_at {a b : List Input} {n : Nat} (ha : ¬(ledger a).Resumed n) (hb : (ledger (a ++ b)).Resumed n) :
    ∃ before after answer queue, b = before ++ .tick :: after ∧ (reached (a ++ before)).stack = [] ∧
      (reached (a ++ before)).queue = .resume n answer :: queue := by
  obtain ⟨before, i, after, rfl, hbefore, hi⟩ := exists_turn (P := fun inputs => (ledger inputs).Resumed n) ha hb
  rw [← List.append_assoc, ledger_snoc] at hi
  cases hm : (reached (a ++ before)).deskMove? i with
  | none =>
    rw [hm] at hi
    exact absurd hi hbefore
  | some m =>
    rw [hm] at hi
    obtain ⟨ends, answer, rest, rfl, hrest⟩ := Ledger.Resumed.of_step hi hbefore
    obtain ⟨rfl, hstack, ⟨k, x, queue, hqueue⟩, -⟩ := deskMove?_resume hm
    have hhead : (reached (a ++ before)).desk.queue = (k, x) :: queue.filterMap Job.rest? := by
      simp [desk, hqueue, Job.rest?]
    rw [ledger_desk, hhead] at hrest
    obtain ⟨rfl, rfl⟩ := Prod.mk.inj (List.cons.inj hrest).1
    exact ⟨before, after, x, queue, rfl, hstack, hqueue⟩

theorem resumed_later {a : List Input} {n : Nat} (h : (ledger a).Resumed n) (b : List Input) :
    (ledger (a ++ b)).Resumed n := by
  induction b using List.reverseRecOn with
  | nil => simpa using h
  | append_singleton b i ih =>
    have hstands : (ledger (a ++ b ++ [i])).Stands n := Ledger.stands_run _ n
    rw [← List.append_assoc]
    rw [ledger_snoc] at hstands ⊢
    cases hm : (reached (a ++ b)).deskMove? i with
    | none => exact ih
    | some m =>
      rw [hm] at hstands
      exact ih.step hstands

/-- A tick resumes the call whose answer comes first, if no client's code runs. -/
theorem resumed_by {a : List Input} {n : Nat} {answer : Outcome} {queue : List Job} (hstack : (reached a).stack = [])
    (hqueue : (reached a).queue = .resume n answer :: queue) :
    answers n a = [answer] ∧ (ledger (a ++ [.tick])).Resumed n := by
  have hstands : (ledger a).Stands n := Ledger.stands_run _ n
  have hhead : (ledger a).desk.queue = (n, answer) :: queue.filterMap Job.rest? := by
    rw [ledger_desk]
    simp [desk, hqueue, Job.rest?]
  have hm : (reached a).deskMove? .tick = some (.resume ((reached a).step .tick).1.stack.isEmpty) := by
    simp [deskMove?, hstack, hqueue]
  obtain ⟨hans, hres⟩ := Ledger.Resumed.of_resume hstands hhead ((reached a).step .tick).1.stack.isEmpty
  rw [ledger_answers] at hans
  rw [ledger_snoc, hm]
  exact ⟨hans, hres⟩

/-! ### The end of a call -/

/-- What a call waits for at its end stands at the bottom of a stack. -/
def Rooted (stack : List Frame) : Prop :=
  ∀ above f below n o, stack = above ++ f :: below → f.wait? = some (.ending n o) → below = []

theorem Rooted.tail {f : Frame} {stack : List Frame} (h : Rooted (f :: stack)) : Rooted stack :=
  fun above g below n o hs hg => h (f :: above) g below n o (by rw [hs]; rfl) hg

theorem Rooted.cons {f : Frame} {stack : List Frame} (h : Rooted stack)
    (hf : ∀ n o, f.wait? = some (.ending n o) → stack = []) : Rooted (f :: stack) := by
  intro above g below n o hs hg
  cases above with
  | nil =>
    obtain ⟨rfl, rfl⟩ := List.cons.inj hs
    exact hf n o hg
  | cons x above => exact h above g below n o (List.cons.inj hs).2 hg

theorem Rooted.base {h : Host} (hr : Rooted h.stack) (i : Input) : Rooted (h.base i) := by
  cases i with
  | reply r =>
    show Rooted h.stack.tail
    rcases hst : h.stack with _ | ⟨x, below⟩ <;> rw [hst] at hr
    · exact hr
    · exact hr.tail
  | _ => exact hr

/-- Only a resumed call starts to wait for its end, and it is resumed when the stack is empty. -/
theorem not_ending {h : Host} (g : Grounded h) {i : Input} (hne : ∀ ends, h.deskMove? i ≠ some (.resume ends))
    (n : Nat) (o : Outcome) : (h.step i).1.desk.waits ≠ .ending n o :: h.desk.waits := by
  intro hwaits
  have hlt : h.desk.waits.length < h.desk.waits.length := by
    have hdesk := congrArg Desk.waits (step_serves g i).desk
    rw [hwaits] at hdesk
    cases hm : h.deskMove? i with
    | none => simp [hm] at hdesk
    | some m =>
      rw [hm] at hdesk
      exact h.desk.waits_step (fun ends hr => hne ends (hr ▸ hm)) hdesk.symm
  exact absurd hlt (Nat.lt_irrefl _)

/-- What a call waits for at its end is put back where it was, when a delivery goes on. -/
theorem bottom_of_reply {h : Host} (g : Grounded h) (hr : Rooted h.stack) {r : Reply} {x : Frame} {below : List Frame}
    (hst : h.stack = x :: below) {n : Nat} {o : Outcome}
    (hwaits : (h.step (.reply r)).1.desk.waits = .ending n o :: below.filterMap Frame.wait?) : below = [] := by
  have hdesk := congrArg Desk.waits (step_serves g (.reply r)).desk
  rw [hwaits] at hdesk
  cases hx : x.wait? with
  | none => simp [deskMove?, desk, hst, hx] at hdesk
  | some w =>
    cases w with
    | ending k o' => exact hr [] x below k o' hst hx
    | handler k =>
      have hm : h.deskMove? (.reply r) = some (.reply r) := by simp [deskMove?, hst, hx]
      have hk : h.desk.waits = .handler k :: below.filterMap Frame.wait? := by simp [desk, hst, hx]
      rw [hm] at hdesk
      have hlen := congrArg List.length hdesk
      cases r <;> simp [Desk.step, hk] at hlen

theorem Rooted.step {h : Host} (g : Grounded h) (hr : Rooted h.stack) (i : Input) : Rooted (h.step i).1.stack := by
  obtain ⟨f, hs, -⟩ := (step_effect g i).code
  rw [hs]
  cases f with
  | none => exact hr.base i
  | some f =>
    refine (hr.base i).cons fun n o hf => ?_
    have hwaits : (h.step i).1.desk.waits = .ending n o :: (h.base i).filterMap Frame.wait? := by
      simp [desk, hs, hf]
    by_cases hres : ∃ ends, h.deskMove? i = some (.resume ends)
    · obtain ⟨ends, hm⟩ := hres
      obtain ⟨rfl, hempty, -⟩ := deskMove?_resume hm
      exact hempty
    · have hne : ∀ ends, h.deskMove? i ≠ some (.resume ends) := fun ends hm => hres ⟨ends, hm⟩
      cases i with
      | reply r =>
        cases hst : h.stack with
        | nil => simp [Host.base, hst]
        | cons x below =>
          have hb : h.base (.reply r) = below := by simp [Host.base, hst]
          rw [hb] at hwaits ⊢
          exact bottom_of_reply g hr hst hwaits
      | _ => exact absurd hwaits (not_ending g hne n o)

theorem rooted_reached (inputs : List Input) : Rooted (reached inputs).stack := by
  induction inputs using List.reverseRecOn with
  | nil => exact fun above f below n o hs => by simp [reached, run, Host.new] at hs
  | append_singleton inputs i ih => exact reached_snoc inputs i ▸ ih.step (grounded_reached inputs) i

/-- When a call that was there before settles, no client's code is left on the stack. -/
theorem stack_of_settled {h : Host} (g : Grounded h) (hr : Rooted h.stack) {i : Input} {n : Nat} {o : Outcome}
    (hn : n < h.calls.length) (hs : .settled n o ∈ (h.step i).2) : (h.step i).1.stack = [] := by
  have hmem : (n, o) ∈ (h.step i).2.filterMap Output.settled? := List.mem_filterMap.mpr ⟨_, hs, rfl⟩
  rw [(step_serves g i).settled] at hmem
  obtain ⟨m, hm, hset⟩ := Option.bind_eq_some_iff.mp (Option.mem_toList.mp hmem)
  cases m with
  | refuse thing ask outcome =>
    obtain ⟨rfl, -⟩ := Prod.mk.inj (Option.some.inj hset)
    exact absurd hn (Nat.lt_irrefl _)
  | resume ends =>
    obtain ⟨rfl, -, -, hends⟩ := deskMove?_resume hm
    cases ends with
    | false => cases hset
    | true => exact List.isEmpty_iff.mp hends.symm
  | finish =>
    obtain ⟨r, f, below, k, o', rfl, hstack, hf, hlen⟩ := deskMove?_finish hm
    rw [hr [] f below k o' hstack hf] at hlen
    exact List.length_eq_zero_iff.mp hlen
  | _ => cases hset

end Host
end ThingHost
