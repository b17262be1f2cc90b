import ThingHost.Host.Basic

/-! The calls of a host, apart from everything else: how far each of them is, and where its rest waits. A
    call has a life of its own. Its handler is called once, answers at most once, and the call settles at
    most once, with what that answer comes to; nothing that is done with other calls has a part in it. -/

namespace ThingHost

/-- What a handler's answer to a call comes to: of a write only that it is done. -/
def settlement : Ask → Outcome → Outcome
  | _, .error t => .error t
  | .write .., .ok _ => .ok .undefined
  | _, .ok v => .ok v

/-- What a call waits for on the stack. -/
inductive Wait where
  /-- Its handler runs. -/
  | handler (call : Nat)
  /-- Its announcement is being delivered. -/
  | ending (call : Nat) (outcome : Outcome)

def Wait.call : Wait → Nat
  | .handler n => n
  | .ending n _ => n

/-- Who is called for a call, and with what. -/
def Call.invoked (c : Call) : List (Nat × List Value) :=
  match c.accepted with
  | some (_, .client m) => [(m, c.ask.arguments)]
  | _ => []

structure Desk where
  calls : List Call
  /-- What stands on the stack for some call, last called first. -/
  waits : List Wait
  /-- The answers that the rests of calls wait in the queue with. -/
  queue : List (Nat × Outcome)

namespace Desk

/-- What happens to calls. -/
inductive Move where
  /-- A call is refused. -/
  | refuse (thing : Nat) (ask : Ask) (outcome : Outcome)
  /-- A client's handler is called. -/
  | invoke (thing : Nat) (ask : Ask) (serial client : Nat)
  /-- The host answers a call itself, or in place of a handler that is no code. -/
  | perform (thing : Nat) (ask : Ask) (serial : Nat) (broken : Bool) (answer : Outcome)
  /-- The handler that was called last is done. -/
  | reply (r : Reply)
  /-- The answer that a handler promised is there. -/
  | answer (call : Nat) (outcome : Outcome)
  /-- The first rest of a call is done, up to its end or to an announcement that has to be delivered. -/
  | resume (ends : Bool)
  /-- The announcement that was waited for last is delivered. -/
  | finish

/-- The calls, with one further on its way. -/
def setProgress (k : Desk) (n : Nat) (p : Progress) : List Call := k.calls.modify n fun c => { c with progress := p }

def step (k : Desk) : Move → Desk
  | .refuse thing ask outcome => { k with calls := k.calls ++ [⟨thing, ask, none, .settled outcome⟩] }
  | .invoke thing ask serial client =>
    { k with
      calls := k.calls ++ [⟨thing, ask, some (serial, .client client), .running⟩]
      waits := .handler k.calls.length :: k.waits }
  | .perform thing ask serial broken answer =>
    { k with
      calls := k.calls ++ [⟨thing, ask, some (serial, if broken then .broken else .standard), .answered⟩]
      queue := k.queue ++ [(k.calls.length, answer)] }
  | .reply r =>
    match k.waits, r with
    | .handler n :: waits, .done v => ⟨k.setProgress n .answered, waits, k.queue ++ [(n, .ok v)]⟩
    | .handler n :: waits, .threw t => ⟨k.setProgress n .answered, waits, k.queue ++ [(n, .error t)]⟩
    | .handler n :: waits, .promised => ⟨k.setProgress n .waiting, waits, k.queue⟩
    | _, _ => k
  | .answer n outcome =>
    match k.calls[n]? with
    | some { progress := .waiting, .. } => { k with calls := k.setProgress n .answered, queue := k.queue ++ [(n, outcome)] }
    | _ => k
  | .resume ends =>
    match k.queue with
    | [] => k
    | (n, answer) :: queue =>
      match k.calls[n]? with
      | none => { k with queue }
      | some c =>
        if ends then { k with calls := k.setProgress n (.settled (settlement c.ask answer)), queue }
        else { k with waits := .ending n (settlement c.ask answer) :: k.waits, queue }
  | .finish =>
    match k.waits with
    | .ending n outcome :: waits => { k with calls := k.setProgress n (.settled outcome), waits }
    | _ => k

/-- The handler of a client that a move calls: for which call, whose, and with what. -/
def invoked (k : Desk) : Move → Option (Nat × Nat × List Value)
  | .invoke _ ask _ client => some (k.calls.length, client, ask.arguments)
  | _ => none

/-- The answer to a call that a move brings. -/
def answered (k : Desk) : Move → Option (Nat × Outcome)
  | .perform _ _ _ _ answer => some (k.calls.length, answer)
  | .reply r =>
    match k.waits, r with
    | .handler n :: _, .done v => some (n, .ok v)
    | .handler n :: _, .threw t => some (n, .error t)
    | _, _ => none
  | .answer n outcome =>
    match k.calls[n]? with
    | some { progress := .waiting, .. } => some (n, outcome)
    | _ => none
  | _ => none

/-- The call that a move settles. -/
def settled (k : Desk) : Move → Option (Nat × Outcome)
  | .refuse _ _ outcome => some (k.calls.length, outcome)
  | .resume true =>
    match k.queue with
    | (n, answer) :: _ => (k.calls[n]?).map fun c => (n, settlement c.ask answer)
    | [] => none
  | .finish =>
    match k.waits with
    | .ending n outcome :: _ => some (n, outcome)
    | _ => none
  | _ => none

end Desk

/-- What is written down of one call. -/
def about {α : Type} (n : Nat) (log : List (Nat × α)) : List α := log.filterMap fun a => if a.1 = n then some a.2 else none

/-- The calls of a host, and what happened to them. -/
structure Ledger where
  desk : Desk
  invoked : List (Nat × Nat × List Value)
  answers : List (Nat × Outcome)
  settled : List (Nat × Outcome)

namespace Ledger

def new : Ledger := ⟨⟨[], [], []⟩, [], [], []⟩

def step (l : Ledger) (m : Desk.Move) : Ledger where
  desk := l.desk.step m
  invoked := l.invoked ++ (l.desk.invoked m).toList
  answers := l.answers ++ (l.desk.answered m).toList
  settled := l.settled ++ (l.desk.settled m).toList

def run (l : Ledger) (moves : List Desk.Move) : Ledger := moves.foldl step l

end Ledger

/-! ### The life of a call -/

/-- Where a call is in its life: what waits for it on the stack and in the queue, who was called for it, how
    it was answered and how it settled. -/
inductive Stand (n : Nat) : Option Call → List Wait → List Outcome → List (Nat × List Value) → List Outcome →
    List Outcome → Prop where
  | absent : Stand n none [] [] [] [] []
  | refused {c : Call} {o : Outcome} (accepted : c.accepted = none) (progress : c.progress = .settled o) :
      Stand n (some c) [] [] [] [] [o]
  | running {c : Call} (accepted : c.accepted.isSome) (progress : c.progress = .running) :
      Stand n (some c) [.handler n] [] c.invoked [] []
  | waiting {c : Call} (accepted : c.accepted.isSome) (progress : c.progress = .waiting) :
      Stand n (some c) [] [] c.invoked [] []
  | queued {c : Call} {a : Outcome} (accepted : c.accepted.isSome) (progress : c.progress = .answered) :
      Stand n (some c) [] [a] c.invoked [a] []
  | ending {c : Call} {a : Outcome} (accepted : c.accepted.isSome) (progress : c.progress = .answered) :
      Stand n (some c) [.ending n (settlement c.ask a)] [] c.invoked [a] []
  | settled {c : Call} {a : Outcome} (accepted : c.accepted.isSome)
      (progress : c.progress = .settled (settlement c.ask a)) :
      Stand n (some c) [] [] c.invoked [a] [settlement c.ask a]

namespace Stand
variable {n m : Nat} {call : Option Call} {c : Call} {waits : List Wait} {queue answers settled : List Outcome}
  {invoked : List (Nat × List Value)} {o : Outcome}

theorem of_none (h : Stand n none waits queue invoked answers settled) :
    waits = [] ∧ queue = [] ∧ invoked = [] ∧ answers = [] ∧ settled = [] := by
  cases h
  exact ⟨rfl, rfl, rfl, rfl, rfl⟩

theorem of_handler (h : Stand n call (.handler m :: waits) queue invoked answers settled) :
    ∃ c, call = some c ∧ c.accepted.isSome ∧ waits = [] ∧ queue = [] ∧ invoked = c.invoked ∧ answers = [] ∧
      settled = [] := by
  cases h with
  | running accepted progress => exact ⟨_, rfl, accepted, rfl, rfl, rfl, rfl, rfl⟩

theorem of_ending (h : Stand n call (.ending m o :: waits) queue invoked answers settled) :
    ∃ c a, call = some c ∧ c.accepted.isSome ∧ o = settlement c.ask a ∧ waits = [] ∧ queue = [] ∧
      invoked = c.invoked ∧ answers = [a] ∧ settled = [] := by
  cases h with
  | ending accepted progress => exact ⟨_, _, rfl, accepted, rfl, rfl, rfl, rfl, rfl, rfl⟩

theorem of_queue (h : Stand n call waits (o :: queue) invoked answers settled) :
    ∃ c, call = some c ∧ c.accepted.isSome ∧ c.progress = .answered ∧ waits = [] ∧ queue = [] ∧
      invoked = c.invoked ∧ answers = [o] ∧ settled = [] := by
  cases h with
  | queued accepted progress => exact ⟨_, rfl, accepted, progress, rfl, rfl, rfl, rfl, rfl⟩

theorem of_waiting (h : Stand n (some c) waits queue invoked answers settled) (hp : c.progress = .waiting) :
    c.accepted.isSome ∧ waits = [] ∧ queue = [] ∧ invoked = c.invoked ∧ answers = [] ∧ settled = [] := by
  cases h with
  | waiting accepted progress => exact ⟨accepted, rfl, rfl, rfl, rfl, rfl⟩
  | refused accepted progress => rw [progress] at hp; cases hp
  | running accepted progress => rw [progress] at hp; cases hp
  | queued accepted progress => rw [progress] at hp; cases hp
  | ending accepted progress => rw [progress] at hp; cases hp
  | settled accepted progress => rw [progress] at hp; cases hp

theorem once (h : Stand n call waits queue invoked answers settled) : answers.length ≤ 1 ∧ settled.length ≤ 1 := by
  cases h <;> simp

end Stand

namespace Ledger

/-- Where a call stands in the ledger. -/
def Stands (l : Ledger) (n : Nat) : Prop :=
  Stand n l.desk.calls[n]? (l.desk.waits.filter (·.call = n)) (about n l.desk.queue) (about n l.invoked)
    (about n l.answers) (about n l.settled)

section Parts
variable {α : Type} {n m : Nat}

theorem about_append (a b : List (Nat × α)) : about n (a ++ b) = about n a ++ about n b := List.filterMap_append

theorem about_self (x : α) (log : List (Nat × α)) : about n ((n, x) :: log) = x :: about n log := by
  simp [about]

theorem about_ne (h : m ≠ n) (x : α) (log : List (Nat × α)) : about n ((m, x) :: log) = about n log := by
  simp [about, h]

theorem about_concat_self (x : α) (log : List (Nat × α)) : about n (log ++ [(n, x)]) = about n log ++ [x] := by
  rw [about_append, about_self]
  rfl

theorem about_concat_ne (h : m ≠ n) (x : α) (log : List (Nat × α)) : about n (log ++ [(m, x)]) = about n log := by
  rw [about_append, about_ne h]
  exact List.append_nil _

theorem concat_ne {l : List α} (h : n ≠ l.length) (x : α) : (l ++ [x])[n]? = l[n]? := by
  rw [List.getElem?_append]
  split
  · rfl
  · rename_i hlt
    rw [List.getElem?_eq_none (Nat.le_of_not_lt hlt), List.getElem?_eq_none]
    simp only [List.length_singleton]
    omega

theorem setProgress_self {k : Desk} {c : Call} (hc : k.calls[n]? = some c) (p : Progress) :
    (k.setProgress n p)[n]? = some { c with progress := p } := by
  simp [Desk.setProgress, hc]

theorem setProgress_ne (k : Desk) (h : m ≠ n) (p : Progress) : (k.setProgress m p)[n]? = k.calls[n]? := by
  simp [Desk.setProgress, h]

end Parts

variable {l : Ledger}

theorem stands_new (n : Nat) : Stands new n := by
  simpa [Stands, new, about] using Stand.absent

theorem Stands.concat {n : Nat} (h : l.Stands n) {m : Desk.Move} {c : Call}
    (hcalls : (l.desk.step m).calls = l.desk.calls ++ [c])
    {w : List Wait} (hwaits : (l.desk.step m).waits = w ++ l.desk.waits) (hw : ∀ x ∈ w, x.call = l.desk.calls.length)
    {q : List (Nat × Outcome)} (hqueue : (l.desk.step m).queue = l.desk.queue ++ q)
    (hq : ∀ x ∈ q, x.1 = l.desk.calls.length)
    (hi : ∀ x ∈ (l.desk.invoked m).toList, x.1 = l.desk.calls.length)
    (ha : ∀ x ∈ (l.desk.answered m).toList, x.1 = l.desk.calls.length)
    (hs : ∀ x ∈ (l.desk.settled m).toList, x.1 = l.desk.calls.length)
    (hc : Stand l.desk.calls.length (some c) w (q.map (·.2)) ((l.desk.invoked m).toList.map (·.2))
      ((l.desk.answered m).toList.map (·.2)) ((l.desk.settled m).toList.map (·.2))) : (l.step m).Stands n := by
  have own : ∀ {α : Type} {log : List (Nat × α)}, (∀ x ∈ log, x.1 = l.desk.calls.length) →
      about l.desk.calls.length log = log.map (·.2) := by
    intro α log hlog
    induction log with
    | nil => rfl
    | cons x log ih =>
      obtain ⟨m, x⟩ := x
      obtain rfl : m = l.desk.calls.length := hlog (m, x) List.mem_cons_self
      rw [about_self, ih fun y hy => hlog y (List.mem_cons_of_mem _ hy)]
      rfl
  have other : ∀ {α : Type} {log : List (Nat × α)}, n ≠ l.desk.calls.length →
      (∀ x ∈ log, x.1 = l.desk.calls.length) → about n log = [] := by
    intro α log hn hlog
    rw [about, List.filterMap_eq_nil_iff]
    intro x hx
    simp [hlog x hx, Ne.symm hn]
  by_cases hn : n = l.desk.calls.length
  · subst hn
    have hnone : l.desk.calls[l.desk.calls.length]? = none := by simp
    unfold Stands at h ⊢
    rw [hnone] at h
    obtain ⟨h1, h2, h3, h4, h5⟩ := h.of_none
    have hfilter : w.filter (·.call = l.desk.calls.length) = w := List.filter_eq_self.mpr (by simpa using hw)
    simp only [step, hcalls, hwaits, hqueue, List.filter_append, about_append, h1, h2, h3, h4, h5, own hq, own hi, own ha,
      own hs, hfilter, List.append_nil, List.nil_append, List.getElem?_concat_length]
    exact hc
  · have hfilter : w.filter (·.call = n) = [] := by
      rw [List.filter_eq_nil_iff]
      intro x hx
      simp [hw x hx, Ne.symm hn]
    unfold Stands at h ⊢
    simp only [step, hcalls, hwaits, hqueue, List.filter_append, about_append, hfilter, other hn hq, other hn hi, other hn ha,
      other hn hs, List.append_nil, List.nil_append, concat_ne hn]
    exact h

/-- What happens to one call is nothing to another. -/
theorem Stands.congr {l' : Ledger} {n : Nat} (h : l.Stands n) (hcall : l'.desk.calls[n]? = l.desk.calls[n]?)
    (hwaits : l'.desk.waits.filter (·.call = n) = l.desk.waits.filter (·.call = n))
    (hqueue : about n l'.desk.queue = about n l.desk.queue) (hinvoked : about n l'.invoked = about n l.invoked)
    (hanswers : about n l'.answers = about n l.answers) (hsettled : about n l'.settled = about n l.settled) :
    l'.Stands n := by
  unfold Stands at h ⊢
  rw [hcall, hwaits, hqueue, hinvoked, hanswers, hsettled]
  exact h

theorem waits_ne {n : Nat} {w : Wait} (hw : w.call ≠ n) (waits : List Wait) :
    (w :: waits).filter (·.call = n) = waits.filter (·.call = n) := by simp [hw]

theorem waits_handler (n : Nat) (waits : List Wait) :
    (Wait.handler n :: waits).filter (·.call = n) = .handler n :: waits.filter (·.call = n) := by simp [Wait.call]

theorem waits_ending (n : Nat) (o : Outcome) (waits : List Wait) :
    (Wait.ending n o :: waits).filter (·.call = n) = .ending n o :: waits.filter (·.call = n) := by simp [Wait.call]

theorem Stands.reply {n : Nat} (h : l.Stands n) (r : Reply) : (l.step (.reply r)).Stands n := by
  rcases hw : l.desk.waits with _ | ⟨w, waits⟩
  · refine h.congr ?_ ?_ ?_ ?_ ?_ ?_ <;> simp [step, Desk.step, Desk.invoked, Desk.answered, Desk.settled, hw]
  · cases w with
    | ending m o =>
      refine h.congr ?_ ?_ ?_ ?_ ?_ ?_ <;> simp [step, Desk.step, Desk.invoked, Desk.answered, Desk.settled, hw]
    | handler m =>
      by_cases hm : m = n
      · subst hm
        unfold Stands at h
        rw [hw, waits_handler] at h
        obtain ⟨c, hc, hacc, hw', hq, hi, ha, hs⟩ := h.of_handler
        have hinvoked : ∀ p, Call.invoked { c with progress := p } = c.invoked := fun _ => rfl
        cases r with
        | done v =>
          have hl : (l.step (.reply (.done v))) = ⟨⟨l.desk.setProgress m .answered, waits, l.desk.queue ++ [(m, .ok v)]⟩,
              l.invoked, l.answers ++ [(m, .ok v)], l.settled⟩ := by
            simp [step, Desk.step, Desk.invoked, Desk.answered, Desk.settled, hw]
          unfold Stands
          simp only [hl, setProgress_self hc, hw', about_concat_self, hq, hi, ha, hs, List.nil_append, ← hinvoked .answered]
          exact .queued hacc rfl
        | threw t =>
          have hl : (l.step (.reply (.threw t))) = ⟨⟨l.desk.setProgress m .answered, waits, l.desk.queue ++ [(m, .error t)]⟩,
              l.invoked, l.answers ++ [(m, .error t)], l.settled⟩ := by
            simp [step, Desk.step, Desk.invoked, Desk.answered, Desk.settled, hw]
          unfold Stands
          simp only [hl, setProgress_self hc, hw', about_concat_self, hq, hi, ha, hs, List.nil_append, ← hinvoked .answered]
          exact .queued hacc rfl
        | promised =>
          have hl : (l.step (.reply .promised)) = ⟨⟨l.desk.setProgress m .waiting, waits, l.desk.queue⟩,
              l.invoked, l.answers, l.settled⟩ := by
            simp [step, Desk.step, Desk.invoked, Desk.answered, Desk.settled, hw]
          unfold Stands
          simp only [hl, setProgress_self hc, hw', hq, hi, ha, hs, ← hinvoked .waiting]
          exact .waiting hacc rfl
      · refine h.congr ?_ ?_ ?_ ?_ ?_ ?_ <;> cases r <;>
          simp [step, Desk.step, Desk.invoked, Desk.answered, Desk.settled, hw, setProgress_ne _ hm, about_concat_ne hm,
            Wait.call, hm]

theorem Stands.answer {n : Nat} (h : l.Stands n) (m : Nat) (o : Outcome) : (l.step (.answer m o)).Stands n := by
  -- Unless the call waits for an answer, nothing happens.
  have idle : l.step (.answer m o) = l → (l.step (.answer m o)).Stands n := fun heq => by
    rw [heq]
    exact h
  rcases hc : l.desk.calls[m]? with _ | ⟨thing, ask, accepted, progress⟩
  · exact idle (by simp [step, Desk.step, Desk.invoked, Desk.answered, Desk.settled, hc])
  · cases progress with
    | waiting =>
      have hl : l.step (.answer m o) = ⟨⟨l.desk.setProgress m .answered, l.desk.waits, l.desk.queue ++ [(m, o)]⟩,
          l.invoked, l.answers ++ [(m, o)], l.settled⟩ := by
        simp [step, Desk.step, Desk.invoked, Desk.answered, Desk.settled, hc]
      by_cases hm : m = n
      · subst hm
        unfold Stands at h ⊢
        rw [hc] at h
        obtain ⟨hacc, hw, hq, hi, ha, hs⟩ := h.of_waiting rfl
        simp only [hl, setProgress_self hc, hw, about_concat_self, hq, hi, ha, hs, List.nil_append]
        exact .queued hacc rfl
      · rw [hl]
        exact h.congr (setProgress_ne _ hm _) rfl (about_concat_ne hm _ _) rfl (about_concat_ne hm _ _) rfl
    | _ => exact idle (by simp [step, Desk.step, Desk.invoked, Desk.answered, Desk.settled, hc])

/-- The first rest of a call is done, or waits for its announcement to be delivered. -/
theorem Stands.resume {n : Nat} (h : l.Stands n) (ends : Bool) : (l.step (.resume ends)).Stands n := by
  rcases hq : l.desk.queue with _ | ⟨⟨m, a⟩, queue⟩
  · refine h.congr ?_ ?_ ?_ ?_ ?_ ?_ <;> cases ends <;>
      simp [step, Desk.step, Desk.invoked, Desk.answered, Desk.settled, hq]
  · by_cases hm : m = n
    · subst hm
      unfold Stands at h
      rw [hq, about_self] at h
      obtain ⟨c, hc, hacc, hp, hw, hq', hi, ha, hs⟩ := h.of_queue
      have hinvoked : ∀ p, Call.invoked { c with progress := p } = c.invoked := fun _ => rfl
      cases ends with
      | true =>
        have hl : l.step (.resume true) = ⟨⟨l.desk.setProgress m (.settled (settlement c.ask a)), l.desk.waits, queue⟩,
            l.invoked, l.answers, l.settled ++ [(m, settlement c.ask a)]⟩ := by
          simp [step, Desk.step, Desk.invoked, Desk.answered, Desk.settled, hq, hc]
        unfold Stands
        simp only [hl, setProgress_self hc, hw, hq', about_concat_self, hi, ha, hs, List.nil_append,
          ← hinvoked (.settled (settlement c.ask a))]
        exact .settled hacc rfl
      | false =>
        have hl : l.step (.resume false) = ⟨⟨l.desk.calls, .ending m (settlement c.ask a) :: l.desk.waits, queue⟩,
            l.invoked, l.answers, l.settled⟩ := by
          simp [step, Desk.step, Desk.invoked, Desk.answered, Desk.settled, hq, hc]
        unfold Stands
        simp only [hl, hc, waits_ending, hw, hq', hi, ha, hs]
        exact .ending hacc hp
    · rcases hc : l.desk.calls[m]? with _ | c
      · refine h.congr ?_ ?_ ?_ ?_ ?_ ?_ <;> cases ends <;>
          simp [step, Desk.step, Desk.invoked, Desk.answered, Desk.settled, hq, hc, about_ne hm]
      · refine h.congr ?_ ?_ ?_ ?_ ?_ ?_ <;> cases ends <;>
          simp [step, Desk.step, Desk.invoked, Desk.answered, Desk.settled, hq, hc, about_ne hm, about_concat_ne hm,
            setProgress_ne _ hm, Wait.call, hm]

/-- The announcement that was waited for last is delivered. -/
theorem Stands.finish {n : Nat} (h : l.Stands n) : (l.step .finish).Stands n := by
  rcases hw : l.desk.waits with _ | ⟨w, waits⟩
  · refine h.congr ?_ ?_ ?_ ?_ ?_ ?_ <;> simp [step, Desk.step, Desk.invoked, Desk.answered, Desk.settled, hw]
  · cases w with
    | handler m =>
      refine h.congr ?_ ?_ ?_ ?_ ?_ ?_ <;> simp [step, Desk.step, Desk.invoked, Desk.answered, Desk.settled, hw]
    | ending m o =>
      have hl : l.step .finish = ⟨⟨l.desk.setProgress m (.settled o), waits, l.desk.queue⟩, l.invoked, l.answers,
          l.settled ++ [(m, o)]⟩ := by
        simp [step, Desk.step, Desk.invoked, Desk.answered, Desk.settled, hw]
      by_cases hm : m = n
      · subst hm
        unfold Stands at h
        rw [hw, waits_ending] at h
        obtain ⟨c, a, hc, hacc, rfl, hw', hq, hi, ha, hs⟩ := h.of_ending
        have hinvoked : ∀ p, Call.invoked { c with progress := p } = c.invoked := fun _ => rfl
        unfold Stands
        simp only [hl, setProgress_self hc, hw', hq, about_concat_self, hi, ha, hs, List.nil_append,
          ← hinvoked (.settled (settlement c.ask a))]
        exact .settled hacc rfl
      · rw [hl]
        exact h.congr (setProgress_ne _ hm _) (by rw [hw, waits_ne (w := .ending m o) hm]) rfl rfl rfl
          (about_concat_ne hm _ _)

/-- Every move takes each call further in its life, or leaves it where it is. -/
theorem Stands.step {n : Nat} (h : l.Stands n) (m : Desk.Move) : (l.step m).Stands n := by
  cases m with
  | refuse thing ask outcome =>
    exact h.concat rfl (w := []) rfl (by simp) (q := []) (List.append_nil _).symm (by simp) (by simp [Desk.invoked])
      (by simp [Desk.answered]) (by simp [Desk.settled]) (.refused rfl rfl)
  | invoke thing ask serial client =>
    exact h.concat rfl (w := [.handler l.desk.calls.length]) rfl (by simp [Wait.call]) (q := [])
      (List.append_nil _).symm (by simp) (by simp [Desk.invoked]) (by simp [Desk.answered]) (by simp [Desk.settled])
      (.running rfl rfl)
  | perform thing ask serial broken answer =>
    exact h.concat rfl (w := []) rfl (by simp) (q := [(l.desk.calls.length, answer)]) rfl (by simp)
      (by simp [Desk.invoked]) (by simp [Desk.answered]) (by simp [Desk.settled])
      (by cases broken <;> exact .queued rfl rfl)
  | reply r => exact h.reply r
  | answer m o => exact h.answer m o
  | resume ends => exact h.resume ends
  | finish => exact h.finish

/-- Whatever happens, each call is somewhere in its life. -/
theorem stands_run (moves : List Desk.Move) (n : Nat) : (new.run moves).Stands n := by
  suffices h : ∀ l : Ledger, l.Stands n → (l.run moves).Stands n from h new (stands_new n)
  induction moves with
  | nil => exact fun l h => h
  | cons m moves ih => exact fun l h => ih _ (h.step m)

end Ledger

/-! ### What a call is -/

namespace Desk

/-- The Thing that a move makes a call to. -/
def Move.thing? : Move → Option Nat
  | .refuse thing .. => some thing
  | .invoke thing .. => some thing
  | .perform thing .. => some thing
  | _ => none

/-- A move takes a call further, or makes one, or leaves them all alone. -/
theorem calls_cases (k : Desk) (m : Move) : (k.step m).calls = k.calls ∨
    (∃ n p, (k.step m).calls = k.setProgress n p) ∨
    ∃ c : Call, m.thing? = some c.thing ∧ (k.step m).calls = k.calls ++ [c] := by
  cases m with
  | refuse thing ask outcome => exact .inr (.inr ⟨_, rfl, rfl⟩)
  | invoke thing ask serial client => exact .inr (.inr ⟨_, rfl, rfl⟩)
  | perform thing ask serial broken answer => exact .inr (.inr ⟨_, rfl, rfl⟩)
  | reply r =>
    simp only [step]
    split
    · exact .inr (.inl ⟨_, _, rfl⟩)
    · exact .inr (.inl ⟨_, _, rfl⟩)
    · exact .inr (.inl ⟨_, _, rfl⟩)
    · exact .inl rfl
  | answer n o =>
    simp only [step]
    split
    · exact .inr (.inl ⟨_, _, rfl⟩)
    · exact .inl rfl
  | resume ends =>
    simp only [step]
    split
    · exact .inl rfl
    · split
      · exact .inl rfl
      · split
        · exact .inr (.inl ⟨_, _, rfl⟩)
        · exact .inl rfl
  | finish =>
    simp only [step]
    split
    · exact .inr (.inl ⟨_, _, rfl⟩)
    · exact .inl rfl

variable {k : Desk} {n : Nat} {c : Call}

theorem keeps (hc : k.calls[n]? = some c) (m : Move) :
    ∃ p, (k.step m).calls[n]? = some { c with progress := p } := by
  rcases k.calls_cases m with h | ⟨j, p, h⟩ | ⟨x, -, h⟩ <;> rw [h]
  · exact ⟨c.progress, hc⟩
  · by_cases hj : j = n
    · subst hj
      exact ⟨p, Ledger.setProgress_self hc p⟩
    · exact ⟨c.progress, (Ledger.setProgress_ne k hj p).trans hc⟩
  · rw [List.getElem?_append_left (List.getElem?_eq_some_iff.mp hc).1]
    exact ⟨c.progress, hc⟩

/-- A call that was not there before is made by a move that makes it, and is the last. -/
theorem made_new {m : Move} (hnone : k.calls[n]? = none) (hc : (k.step m).calls[n]? = some c) :
    n = k.calls.length ∧ m.thing? = some c.thing ∧ (k.step m).calls = k.calls ++ [c] := by
  have hge : k.calls.length ≤ n := List.getElem?_eq_none_iff.mp hnone
  rcases k.calls_cases m with h | ⟨j, p, h⟩ | ⟨x, hx, h⟩ <;> rw [h] at hc ⊢
  · rw [hnone] at hc
    cases hc
  · rw [setProgress, List.getElem?_modify, hnone] at hc
    cases hc
  · have hn : n = k.calls.length := by
      have hlt := (List.getElem?_eq_some_iff.mp hc).1
      rw [List.length_append, List.length_singleton] at hlt
      omega
    rw [hn, List.getElem?_concat_length] at hc
    obtain rfl := Option.some.inj hc
    exact ⟨hn, hx, rfl⟩

/-- A call is made by a move that makes it, or was there before. -/
theorem made {m : Move} (hc : (k.step m).calls[n]? = some c) :
    (∃ c', k.calls[n]? = some c' ∧ c'.thing = c.thing) ∨ m.thing? = some c.thing := by
  cases hk : k.calls[n]? with
  | none => exact .inr (made_new hk hc).2.1
  | some c' =>
    obtain ⟨p, hp⟩ := keeps hk m
    rw [hp] at hc
    obtain rfl := Option.some.inj hc
    exact .inl ⟨c', rfl, rfl⟩

end Desk
end ThingHost
