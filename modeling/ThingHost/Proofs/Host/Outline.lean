import ThingHost.Proofs.Host.Couriers

/-! The outline of a run: what is done in it apart from the relays and the broker. A host that takes the outline alone
    shows what the host of the run shows to all others, and stands where that one stands without its relays. -/

namespace ThingHost

def Input.renumber (gone : BusRef → List Nat) : Input → Input
  | .operate op => .operate (op.renumber gone)
  | i => i

def Input.replies : Input → Bool
  | .reply _ => true
  | _ => false

namespace Host

/-- The code that runs is the broker's. -/
def brokerRuns (h : Host) : Bool := h.stack.head?.any (·.brokers)

/-- The broker is heard out each time that it is handed a message, whatever it answers: nothing else is done with the
    host before its code is done. -/
def heardOut (h : Host) : List Input → Bool
  | [] => !h.brokerRuns
  | i :: rest => (!h.brokerRuns || i.replies) && (h.step i).1.heardOut rest

/-- The input concerns relays alone, or the broker. -/
def errand (gone : BusRef → List Nat) (h : Host) : Input → Bool
  | .operate op => op.errand gone
  | .reply _ => match h.stack with
    | .posting _ :: _ => true
    | _ => false
  | .acknowledge .. => true
  | .tick => h.stack.isEmpty && h.queue.head?.any (·.isPosted)
  | _ => false

/-- The broker has taken the message of a relay, and the delivery goes on. -/
def handsBack (h : Host) : Input → Bool
  | .reply _ => match h.stack with
    | .relaying .. :: _ => true
    | _ => false
  | _ => false

/-- What is left of an input without the relays. -/
def kept? (gone : BusRef → List Nat) (h : Host) (i : Input) : Option Input :=
  if h.errand gone i || h.handsBack i then none else some (i.renumber gone)

/-- What a step shows to all but relays and brokers. -/
def shows (gone : BusRef → List Nat) (h : Host) (i : Input) : List Sign :=
  if h.errand gone i then [] else (h.step i).signs.map (Sign.renumber gone)

def outline (inputs : List Input) : List Input := seen (kept? (couriers inputs)) .new inputs

/-- What a run shows to all but relays and brokers. -/
def shown (inputs : List Input) : List Sign := (seen (fun h i => some (h.shows (couriers inputs) i)) .new inputs).flatten

/-! ### Steps -/

section Steps
variable {gone : BusRef → List Nat} {h p : Host} {i : Input}

/-- The subscription that an input makes is left out if it is a relay's. -/
def Assigns (gone : BusRef → List Nat) (h : Host) (i : Input) : Prop :=
  ∀ op ref screen completes l b, i = .operate op → h.asks? op = some (ref, .attach screen completes l) →
    h.bus? ref = some b → Staff (gone ref) ⟨b.nextId, screen, completes, l⟩

theorem Sheds.step (e : Sheds gone h p) (g : Grounded h) (fits : Fits gone h) (hassigns : Assigns gone h i)
    (hi : h.errand gone i = false) : Tracks gone (h.step i) (p.step (i.renumber gone)) := by
  cases i with
  | operate op =>
    refine e.operate fits hi fun ref screen completes client b ha hb hout => ?_
    cases (hassigns op ref screen completes _ b rfl ha hb).gone.mp hout
  | reply r =>
    simp only [Input.renumber, Host.step]
    rcases hs : h.stack with _ | ⟨f, stack⟩
    · have hs' : p.stack = [] := List.isEmpty_iff.mp (e.stack_isEmpty.trans (by rw [hs]; rfl))
      rw [hs']
      exact .of_sheds e rfl
    · obtain ⟨f', stack', hs', hf, hrest⟩ := e.pop hs
      have hmem : f ∈ h.stack := hs ▸ List.mem_cons_self
      rw [hs']
      exact hrest.replied hf (e.stays f hmem).calm (fun ref => g.there f hmem ref) fits.sinks
        (fun ref => fits.rest ref f hmem) (fun ref => fits.remaining ref f hmem) r
  | answer n outcome =>
    simp only [Input.renumber, Host.step, e.calls]
    rcases h.calls[n]? with _ | ⟨t, ask, accepted, progress⟩
    · exact .of_sheds e rfl
    · cases progress with
      | waiting => exact .of_sheds (e.answered n outcome) rfl
      | _ => exact .of_sheds e rfl
  | acknowledge n failure => cases hi
  | defer token => exact .of_sheds (e.enqueue rfl) rfl
  | tick =>
    simp only [Input.renumber, Host.step, e.stack_isEmpty]
    cases hs : h.stack.isEmpty with
    | false => exact .of_sheds e rfl
    | true =>
      refine e.work fits.sinks fun j hj => ?_
      simpa [errand, hs, hj] using hi
  | setClock ms => exact .of_sheds { e with clock := rfl } rfl

theorem Sheds.step_errand (e : Sheds gone h p) (hassigns : Assigns gone h i) (hi : h.errand gone i = true) :
    Stands gone (h.step i).1 p [] := by
  cases i with
  | operate op =>
    refine e.operateAside hi fun ref screen completes broker thing b ha hb => ?_
    exact (hassigns op ref screen completes _ b rfl ha hb).gone.mpr rfl
  | reply r =>
    simp only [errand] at hi
    split at hi
    · rename_i n stack hs
      cases (e.stays (.posting n) (by rw [hs]; exact List.mem_cons_self)).calm
    · cases hi
  | acknowledge n failure =>
    simp only [Host.step]
    split
    · exact .level ((e.setStage n .answered).enqueuePosted n failure)
    · exact .level e
  | tick =>
    simp only [errand, Bool.and_eq_true] at hi
    obtain ⟨hs, hhead⟩ := hi
    simp only [Host.step, hs, ↓reduceIte, Host.work]
    cases hq : h.queue with
    | nil => simp [hq] at hhead
    | cons job queue =>
      cases job with
      | posted n failure =>
        have hrest : Sheds gone { h with queue } p := { e with queue := by rw [e.queue, hq]; rfl }
        exact .level (hrest.posted n failure)
      | _ => simp [hq, Job.isPosted] at hhead
  | _ => cases hi

/-- While a broker's code runs nothing but its end is waited for. What the host without the relays has put out in the
    meantime comes with it. -/
theorem Stands.step_broker {owed : List Sign} (stands : Stands gone h p owed) (fits : Fits gone h)
    (hbroker : h.brokerRuns = true) (r : Reply) : kept? gone h (.reply r) = none ∧
      ∃ owed', Stands gone (h.step (.reply r)).1 p owed' ∧ h.shows gone (.reply r) ++ owed' = owed := by
  cases stands with
  | level e =>
    rcases hs : h.stack with _ | ⟨f, stack⟩
    · simp [brokerRuns, hs] at hbroker
    · simp [brokerRuns, hs, (e.stays f (hs ▸ List.mem_cons_self)).calm] at hbroker
  | @behind k q n ref d after b x top _ hb e goes =>
    -- The delivery goes on to where the host without the relay has been all the time.
    subst top
    have hbus : (k.brokerDone n r).1.bus? ref = some b := by rw [(brokerDone_aside k n r).bus?, hb]
    have hon : (Frame.relaying n ref d after).on? ref = some (.next d) := by simp [Frame.on?]
    have hmem : Frame.relaying n ref d after ∈ (k.push (.relaying n ref d after)).stack := List.mem_cons_self
    have hmeets := Bus.afterNext_meets (fits.sinks ref b (by rw [← hb]; rfl)) (fits.rest ref _ hmem d hon) none
    have hcatch : Bus.outcome x = Bus.catchUp (gone ref) (Bus.outcome (b.afterNext d none)) := by
      rw [goes, Bus.afterNext_without]
    obtain ⟨owed', hstands, hsigns⟩ := (e.brokerDone n r).onBus (by rw [hbus]; rfl) after hmeets hcatch
    have hstep : (k.push (.relaying n ref d after)).step (.reply r) =
        prepend (k.brokerDone n r).2 ((k.brokerDone n r).1.onBus ref after (b.afterNext d none)) := by
      simp only [Host.push, Host.step, replied, hbus]
    refine ⟨rfl, owed', by rw [hstep]; exact hstands, ?_⟩
    rw [shows, if_neg (by simp [errand, Host.push]), hstep, signs_prepend (brokerDone_hidden k n r), hsigns]
  | @posting k _ n top e =>
    subst top
    exact ⟨rfl, [], .level (e.brokerDone n r), rfl⟩

/-- The host without the relays takes what is left of an input, if anything is. -/
theorem Stands.step {owed : List Sign} (stands : Stands gone h p owed) (g : Grounded h) (fits : Fits gone h)
    (hassigns : Assigns gone h i) (hheard : h.brokerRuns = true → i.replies = true) :
    ∃ owed', Stands gone (h.step i).1 ((kept? gone h i).elim p fun j => (p.step j).1) owed' ∧
      h.shows gone i ++ owed' = owed ++ (kept? gone h i).elim [] fun j => (p.step j).signs := by
  cases hbroker : h.brokerRuns with
  | true =>
    cases i with
    | reply r =>
      obtain ⟨hkept, owed', hstands, howed⟩ := stands.step_broker fits hbroker r
      rw [hkept]
      exact ⟨owed', hstands, by rw [howed]; exact (List.append_nil owed).symm⟩
    | _ => cases hheard hbroker
  | false =>
    cases stands with
    | level e =>
      have hback : h.handsBack i = false := by
        cases i with
        | reply r =>
          simp only [handsBack]
          split
          · rename_i hs
            simp [brokerRuns, hs, Frame.brokers] at hbroker
          · rfl
        | _ => rfl
      cases hi : h.errand gone i with
      | true => exact ⟨[], by simpa [kept?, hi] using e.step_errand hassigns hi, by simp [shows, kept?, hi]⟩
      | false =>
        obtain ⟨owed', hstands, hsigns⟩ := e.step g fits hassigns hi
        exact ⟨owed', by simpa [kept?, hi, hback] using hstands, by simpa [shows, kept?, hi, hback] using hsigns⟩
    | behind top => simp [brokerRuns, top, Host.push, Frame.brokers] at hbroker
    | posting top => simp [brokerRuns, top, Host.push, Frame.brokers] at hbroker

end Steps

/-! ### Runs -/

section Runs
variable {inputs : List Input}

theorem heardOut_append (h : Host) (a b : List Input) (hh : h.heardOut (a ++ b) = true) : (h.run a).1.heardOut b = true := by
  induction a generalizing h with
  | nil => exact hh
  | cons i a ih =>
    simp only [List.cons_append, heardOut, Bool.and_eq_true] at hh
    exact ih (h.step i).1 hh.2

/-- After each part of a run the host that has taken the outline of that part stands where it should. -/
theorem stands_outline (hheard : Host.new.heardOut inputs = true) (a b : List Input) (hsplit : inputs = a ++ b) :
    let part := seen (kept? (couriers inputs)) .new a
    ∃ owed, Stands (couriers inputs) (reached a) (reached part) owed ∧
      (seen (fun h i => some (h.shows (couriers inputs) i)) .new a).flatten ++ owed =
        (seen (fun h i => some (h.step i).signs) .new part).flatten := by
  -- The induction is on the part taken so far, and `Stands` is kept by each input. The couriers are those of the whole
  -- run, for numbers are left out before the relays come that bear them.
  induction a using List.reverseRecOn generalizing b with
  | nil => exact ⟨[], .level ⟨rfl, rfl, rfl, rfl, rfl, rfl, rfl, by simp [reached, run, Host.new]⟩, rfl⟩
  | append_singleton a i ih =>
    have hcons : inputs = a ++ i :: b := by rw [hsplit]; simp
    obtain ⟨owed, hstands, hshown⟩ := ih (i :: b) hcons
    have hnext := heardOut_append .new a (i :: b) (hcons ▸ hheard)
    simp only [heardOut, Bool.and_eq_true, Bool.or_eq_true] at hnext
    have hassigns : Assigns (couriers inputs) (reached a) i := by
      rintro op ref screen completes l bus rfl ha hb
      exact hcons ▸ staff_of_asked ha hb
    obtain ⟨owed', hstep, hsigns⟩ := hstands.step (grounded_reached a) (hcons ▸ fits_reached a (i :: b)) hassigns
      fun hbroker => hnext.1.resolve_left (by simpa [reached] using hbroker)
    simp only [seen_snoc, Option.toList_some, List.flatten_append, List.flatten_singleton, reached_snoc]
    refine ⟨owed', ?_, ?_⟩
    · cases hk : kept? (couriers inputs) (reached a) i with
      | none => simpa [hk] using hstep
      | some j => simpa [hk, reached_snoc] using hstep
    · rw [List.append_assoc, hsigns, ← List.append_assoc, hshown]
      cases hk : kept? (couriers inputs) (reached a) i with
      | none => simp
      | some j => simp [seen_snoc]

/-- A run is its outline to all but the relays and the broker. -/
theorem outline_sheds (hheard : Host.new.heardOut inputs = true) :
    Sheds (couriers inputs) (reached inputs) (reached (outline inputs)) ∧
      shown inputs = (seen (fun h i => some (h.step i).signs) .new (outline inputs)).flatten := by
  obtain ⟨owed, hstands, hshown⟩ : ∃ owed, Stands (couriers inputs) (reached inputs) (reached (outline inputs)) owed ∧
      shown inputs ++ owed = (seen (fun h i => some (h.step i).signs) .new (outline inputs)).flatten :=
    stands_outline hheard inputs [] (by simp)
  have hcalm : (reached inputs).brokerRuns = false := by
    simpa [heardOut, reached] using heardOut_append .new inputs [] (by simpa using hheard)
  generalize reached (outline inputs) = p at hstands ⊢
  cases hstands with
  | level e => exact ⟨e, by simpa using hshown⟩
  | behind top => simp [brokerRuns, top, Host.push, Frame.brokers] at hcalm
  | posting top => simp [brokerRuns, top, Host.push, Frame.brokers] at hcalm

end Runs

end Host
end ThingHost
