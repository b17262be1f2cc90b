import ThingHost.Proofs.Host.Traffic

/-! What becomes of a call in a run: who is called for it and with what, how it is answered, and how it
    settles. All of this can be read off the outputs and the inputs, and is what the ledger says. -/

namespace ThingHost
namespace Host

/-! ### What is seen of a call -/

/-- What a run puts out. -/
def outputs (inputs : List Input) : List Output := (Host.new.run inputs).2

/-- The handlers of clients that are called for a call in the course of a run: whose, and with what. -/
def invocations (n : Nat) (inputs : List Input) : List (Nat × List Value) :=
  about n ((outputs inputs).filterMap Output.invoked?)

/-- How a call settles in the course of a run. -/
def settlements (n : Nat) (inputs : List Input) : List Outcome := about n ((outputs inputs).filterMap Output.settled?)

/-- The answer to a call that an input brings: its handler is done, or keeps a promise, or the host itself
    answers when the call is made. -/
def answered? (h : Host) : Input → Option (Nat × Outcome)
  | .operate (.call t ask) => h.things[t]?.bind fun x =>
      match x.accept ask with
      | .ok (_, .standard) => some (h.calls.length, (x.answer ask).2)
      | .ok (_, .broken) => some (h.calls.length, .error (.fault .notCallable))
      | _ => none
  | .reply r =>
    match h.stack, r with
    | .handler n :: _, .done v => some (n, .ok v)
    | .handler n :: _, .threw t => some (n, .error t)
    | _, _ => none
  | .answer n outcome =>
    match h.calls[n]? with
    | some { progress := .waiting, .. } => some (n, outcome)
    | _ => none
  | _ => none

/-- How a call is answered in the course of a run. -/
def answers (n : Nat) (inputs : List Input) : List Outcome := about n (seen answered? .new inputs)

/-! ### The ledger of a run -/

/-- The ledger after a run. -/
def ledger (inputs : List Input) : Ledger := Ledger.new.run (seen deskMove? .new inputs)

section Ledger
variable (inputs : List Input)

theorem outputs_append (more : List Input) :
    outputs (inputs ++ more) = outputs inputs ++ ((reached inputs).run more).2 := by
  suffices h : ∀ h : Host, (h.run (inputs ++ more)).2 = (h.run inputs).2 ++ ((h.run inputs).1.run more).2 from h .new
  induction inputs with
  | nil => exact fun h => rfl
  | cons j inputs ih =>
    intro h
    show (h.step j).2 ++ ((h.step j).1.run (inputs ++ more)).2 = _
    rw [ih, ← List.append_assoc]
    rfl

theorem outputs_snoc (i : Input) : outputs (inputs ++ [i]) = outputs inputs ++ ((reached inputs).step i).2 :=
  (outputs_append inputs [i]).trans (congrArg _ (List.append_nil _))

theorem answered?_call (h : Host) (t : Nat) (ask : Ask) :
    answered? h (.operate (.call t ask)) = (h.deskMove? (.operate (.call t ask))).bind h.desk.answered := by
  simp only [answered?, deskMove?]
  cases h.things[t]? with
  | none => rfl
  | some x =>
    simp only [Option.bind_some, Option.map_some, callMove]
    cases x.accept ask with
    | error e => rfl
    | ok r =>
      obtain ⟨j, handler⟩ := r
      cases handler <;> rfl

/-- When other code than that of a handler is done, no call is answered. -/
theorem answered?_plain {h : Host} {f : Frame} {stack : List Frame} (hs : h.stack = f :: stack)
    (hf : ∀ n, f ≠ .handler n) (hw : ∀ n, f.wait? ≠ some (.handler n)) (r : Reply) :
    answered? h (.reply r) = (h.deskMove? (.reply r)).bind h.desk.answered := by
  have hnone : answered? h (.reply r) = none := by
    simp only [answered?, hs]
    cases f <;> first | exact absurd rfl (hf _) | rfl
  rw [hnone]
  simp only [deskMove?, hs]
  cases hwait : f.wait? with
  | none => rfl
  | some w =>
    cases w with
    | handler n => exact absurd hwait (hw n)
    | ending n o =>
      dsimp only
      split <;> rfl

theorem answered?_reply (h : Host) (r : Reply) :
    answered? h (.reply r) = (h.deskMove? (.reply r)).bind h.desk.answered := by
  have after : ∀ (a : After) n, a.wait? ≠ some (.handler n) := by
    intro a n
    cases a <;> simp [After.wait?]
  cases hs : h.stack with
  | nil => simp [answered?, deskMove?, hs]
  | cons f stack =>
    cases f with
    | handler n => cases r <;> simp [answered?, deskMove?, desk, Desk.answered, hs, Frame.wait?]
    | next b d a => exact answered?_plain hs (by simp) (after a) r
    | complete b c a => exact answered?_plain hs (by simp) (after a) r
    | relaying n b d a => exact answered?_plain hs (by simp) (after a) r
    | _ => exact answered?_plain hs (by simp) (by simp [Frame.wait?]) r

theorem answered?_eq (h : Host) (i : Input) : answered? h i = (h.deskMove? i).bind h.desk.answered := by
  cases i with
  | operate op =>
    cases op with
    | call t ask => exact answered?_call h t ask
    | _ => rfl
  | reply r => exact answered?_reply h r
  | tick =>
    simp only [answered?, deskMove?]
    split <;> rfl
  | _ => rfl

theorem ledger_snoc (i : Input) : ledger (inputs ++ [i]) =
    match (reached inputs).deskMove? i with
    | some m => (ledger inputs).step m
    | none => ledger inputs := by
  rw [ledger, seen_snoc]
  cases (reached inputs).deskMove? i with
  | none => exact congrArg _ (List.append_nil _)
  | some m => exact List.foldl_append

theorem ledger_desk : (ledger inputs).desk = (reached inputs).desk := by
  induction inputs using List.reverseRecOn with
  | nil => rfl
  | append_singleton inputs i ih =>
    rw [ledger_snoc, reached_snoc, (step_serves (grounded_reached inputs) i).desk]
    cases (reached inputs).deskMove? i with
    | none => exact ih
    | some m => exact congrArg (·.step m) ih

theorem ledger_invoked : (ledger inputs).invoked = (outputs inputs).filterMap Output.invoked? := by
  induction inputs using List.reverseRecOn with
  | nil => rfl
  | append_singleton inputs i ih =>
    rw [ledger_snoc, outputs_snoc, List.filterMap_append, (step_serves (grounded_reached inputs) i).invoked, ← ih]
    cases (reached inputs).deskMove? i with
    | none => exact (List.append_nil _).symm
    | some m =>
      rw [← ledger_desk]
      rfl

theorem ledger_settled : (ledger inputs).settled = (outputs inputs).filterMap Output.settled? := by
  induction inputs using List.reverseRecOn with
  | nil => rfl
  | append_singleton inputs i ih =>
    rw [ledger_snoc, outputs_snoc, List.filterMap_append, (step_serves (grounded_reached inputs) i).settled, ← ih]
    cases (reached inputs).deskMove? i with
    | none => exact (List.append_nil _).symm
    | some m =>
      rw [← ledger_desk]
      rfl

theorem ledger_answers : (ledger inputs).answers = seen answered? .new inputs := by
  induction inputs using List.reverseRecOn with
  | nil => rfl
  | append_singleton inputs i ih =>
    rw [ledger_snoc, seen_snoc, answered?_eq, ← ih]
    cases (reached inputs).deskMove? i with
    | none => exact (List.append_nil _).symm
    | some m =>
      rw [← ledger_desk]
      rfl

/-- Every call of a host is somewhere in its life. -/
theorem stands (n : Nat) : Stand n (reached inputs).calls[n]? ((reached inputs).desk.waits.filter (·.call = n))
    (about n (reached inputs).desk.queue) (invocations n inputs) (answers n inputs) (settlements n inputs) := by
  have h : (ledger inputs).Stands n := Ledger.stands_run _ n
  unfold Ledger.Stands at h
  rw [ledger_invoked, ledger_answers, ledger_settled, ledger_desk] at h
  exact h

end Ledger

/-! ### What stays -/

section Kept
variable (a b : List Input) (n : Nat)

theorem settlements_prefix : settlements n a <+: settlements n (a ++ b) := by
  rw [settlements, settlements, outputs_append, List.filterMap_append, Ledger.about_append]
  exact List.prefix_append _ _

theorem answers_prefix : answers n a <+: answers n (a ++ b) := by
  rw [answers, answers, seen_append, Ledger.about_append]
  exact List.prefix_append _ _

end Kept

theorem answers_kept {a : List Input} {n : Nat} {o : Outcome} (ha : answers n a = [o]) (b : List Input) :
    answers n (a ++ b) = [o] := by
  have hpre := answers_prefix a b n
  rw [ha] at hpre
  exact (hpre.eq_of_length_le (stands (a ++ b) n).once.1).symm

theorem calls_snoc (inputs : List Input) (i : Input) : (reached (inputs ++ [i])).calls =
    match (reached inputs).deskMove? i with
    | some m => ((reached inputs).desk.step m).calls
    | none => (reached inputs).calls := by
  have hdesk := congrArg Desk.calls (step_serves (grounded_reached inputs) i).desk
  rw [reached_snoc]
  refine hdesk.trans ?_
  cases (reached inputs).deskMove? i <;> rfl

/-- What a call asks, of which Thing, and who answers it stays the same. -/
theorem call_kept {a : List Input} {n : Nat} {c : Call} (hc : (reached a).calls[n]? = some c) (b : List Input) :
    ∃ p, (reached (a ++ b)).calls[n]? = some { c with progress := p } := by
  induction b using List.reverseRecOn with
  | nil => exact ⟨c.progress, by rw [List.append_nil]; exact hc⟩
  | append_singleton b i ih =>
    obtain ⟨p, hp⟩ := ih
    rw [← List.append_assoc, calls_snoc]
    cases (reached (a ++ b)).deskMove? i with
    | none => exact ⟨p, hp⟩
    | some m => exact Desk.keeps (k := (reached (a ++ b)).desk) hp m

/-- A call is made by asking for it. -/
theorem deskMove?_makes {h : Host} {i : Input} {m : Desk.Move} {t : Nat} (hm : h.deskMove? i = some m)
    (ht : m.thing? = some t) : ∃ ask x, i = .operate (.call t ask) ∧ h.things[t]? = some x ∧ m = callMove x t ask := by
  cases i with
  | operate op =>
    cases op with
    | call t' ask =>
      obtain ⟨x, hx, rfl⟩ := Option.map_eq_some_iff.mp hm
      obtain rfl : t' = t := by
        simp only [callMove] at ht
        split at ht <;> exact Option.some.inj ht
      exact ⟨ask, x, rfl, hx, rfl⟩
    | _ => cases hm
  | reply r =>
    simp only [deskMove?] at hm
    split at hm
    · cases hm
    · split at hm
      · cases hm
        cases ht
      · split at hm <;> cases hm
        cases ht
      · cases hm
  | answer n o =>
    cases hm
    cases ht
  | tick =>
    simp only [deskMove?] at hm
    split at hm <;> cases hm
    cases ht
  | _ => cases hm

theorem deskMove?_thing {h : Host} {i : Input} {m : Desk.Move} {t : Nat} (hm : h.deskMove? i = some m)
    (ht : m.thing? = some t) : (h.bus? (.own t)).isSome := by
  obtain ⟨ask, x, -, hx, -⟩ := deskMove?_makes hm ht
  simp [bus?, hx]

theorem call_there {inputs : List Input} {n : Nat} {c : Call} (hc : (reached inputs).calls[n]? = some c) :
    ((reached inputs).bus? (.own c.thing)).isSome := by
  induction inputs using List.reverseRecOn generalizing c with
  | nil => simp [reached, run, Host.new] at hc
  | append_singleton inputs i ih =>
    rw [calls_snoc] at hc
    rw [reached_snoc]
    refine (step_effect (grounded_reached inputs) i).kept _ ?_
    cases hm : (reached inputs).deskMove? i with
    | none =>
      rw [hm] at hc
      exact ih hc
    | some m =>
      rw [hm] at hc
      rcases Desk.made hc with ⟨c', hc', hthing⟩ | hthing
      · exact hthing ▸ ih hc'
      · exact deskMove?_thing hm hthing

end Host
end ThingHost
