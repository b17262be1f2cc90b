import ThingHost.Proofs.Host.Failure

/-! What an observer throws while it is handed an event, or told of a completion, is written to the log and goes no
    further: whoever published or completed is answered as if nothing had been thrown, at whatever depth it was. Only
    where a subscription is made on a completed bus does it go through to whoever subscribes. -/

namespace ThingHost

/-- What is put out when nothing is left to do but what comes after an operation on a bus. -/
def After.output : After → Output
  | .returned r => .returned r
  | .settled call outcome => .settled call outcome

namespace Host

/-! ### How an operation ends -/

/-- What is put out last in the step in which the code that stands above the first `n` frames is done. -/
def conclusion? (n : Nat) (h : Host) : List Input → Option Output
  | [] => none
  | i :: rest => if (h.step i).1.stack.length ≤ n then (h.step i).2.getLast? else conclusion? n (h.step i).1 rest

/-- Whatever is done while the code is under way that an input starts, this is put out when all of it is done. -/
def Concludes (h : Host) (i : Input) (o : Output) : Prop := ∀ later,
  (h.run (i :: later)).1.stack.length ≤ h.stack.length → conclusion? h.stack.length h (i :: later) = some o

/-- A step that ends an operation on a bus, or starts code in the middle of it. -/
def Goes (base : List Frame) (after : After) (s : Step) : Prop :=
  (s.1.stack = base ∧ s.2.getLast? = some after.output) ∨ ∃ f, s.1.stack = f :: base ∧ f.after? = some after

section Goes
variable {h : Host} {base : List Frame} {after : After}

theorem Goes.prepend {s : Step} (hs : Goes base after s) (before : List Output) :
    Goes base after (prepend before s) := by
  rcases hs with ⟨hstack, hlast⟩ | hcode
  · refine .inl ⟨hstack, ?_⟩
    rw [Host.prepend, List.getLast?_append, hlast]
    rfl
  · exact .inr hcode

theorem finish_goes (h : Host) (after : After) : Goes h.stack after (h.finish after) := by
  refine .inl ⟨(finish_aside h after).stack, ?_⟩
  cases after <;> rfl

theorem follow_goes (h : Host) (ref : BusRef) (after : After) (turn : Turn Listener) :
    Goes h.stack after (h.follow ref after turn) := by
  rcases turn with _ | d | c
  · exact finish_goes h after
  · refine .inr ?_
    cases ho : d.current.owner <;> simp only [follow, ho] <;> exact ⟨_, rfl, rfl⟩
  · cases ho : c.current.owner with
    | client n =>
      simp only [follow, ho]
      exact .inr ⟨_, rfl, rfl⟩
    | relay broker thing =>
      simp only [follow, ho]
      exact finish_goes h after

theorem onBus_goes (h : Host) (ref : BusRef) (after : After) (x : Bus Listener × List Note × Turn Listener) :
    Goes h.stack after (h.onBus ref after x) := by
  rw [← setBus_stack h ref x.1]
  exact (follow_goes _ ref after x.2.2).prepend _

theorem publish_goes (h : Host) (ref : BusRef) (e : Event) (after : After) :
    Goes h.stack after (h.publish ref e after) := by
  unfold Host.publish
  cases h.bus? ref with
  | none => exact finish_goes h after
  | some b => exact onBus_goes h ref after _

theorem complete_goes (h : Host) (ref : BusRef) (after : After) : Goes h.stack after (h.complete ref after) := by
  unfold Host.complete
  cases h.bus? ref with
  | none => exact finish_goes h after
  | some b => exact onBus_goes h ref after _

/-- Whatever the code ends with that runs in the middle of an operation, the operation goes on. -/
theorem replied_goes {f : Frame} (hthere : ∀ ref, f.on? ref ≠ none → (h.bus? ref).isSome) (hf : f.after? = some after)
    (r : Reply) : Goes h.stack after (h.replied r f) := by
  cases f with
  | next ref d a =>
    cases hf
    obtain ⟨b, hb⟩ := Option.isSome_iff_exists.mp (hthere ref (by simp [Frame.on?]))
    simp only [replied, hb]
    exact onBus_goes h ref after _
  | complete ref c a =>
    cases hf
    obtain ⟨b, hb⟩ := Option.isSome_iff_exists.mp (hthere ref (by simp [Frame.on?]))
    simp only [replied, hb]
    exact onBus_goes h ref after _
  | relaying n ref d a =>
    cases hf
    have haside := brokerDone_aside h n r
    obtain ⟨b, hb⟩ := Option.isSome_iff_exists.mp (hthere ref (by simp [Frame.on?]))
    simp only [replied, haside.bus?, hb]
    rw [← haside.stack]
    exact (onBus_goes _ ref after _).prepend _
  | _ => cases hf

end Goes

/-! ### Whatever is done meanwhile -/

section Runs
variable {h : Host} {above base : List Frame} {f : Frame} {after : After}

theorem reply_goes (g : Grounded h) (hs : h.stack = f :: base) (hf : f.after? = some after) (r : Reply) :
    Goes base after (h.step (.reply r)) := by
  have hbus : ∀ ref, ({ h with stack := base } : Host).bus? ref = h.bus? ref := bus?_congr rfl rfl
  simp only [step, hs]
  refine replied_goes (h := { h with stack := base }) (fun ref href => ?_) hf r
  rw [hbus]
  exact g.there f (hs ▸ List.mem_cons_self) ref href

theorem Grounded.run (g : Grounded h) (inputs : List Input) : Grounded (h.run inputs).1 := by
  induction inputs generalizing h with
  | nil => exact g
  | cons i inputs ih => exact ih (g.step i)

/-- An input leaves the code below the top of the stack where it is; code on top of it is done, or stays there too. -/
theorem stays_or_done (hs : h.stack = above ++ f :: base) (i : Input) :
    (above = [] ∧ ∃ r, i = .reply r) ∨ ∃ above', h.base i = above' ++ f :: base := by
  cases i with
  | reply r =>
    cases above with
    | nil => exact .inl ⟨rfl, r, rfl⟩
    | cons a above => exact .inr ⟨above, by rw [Host.base, hs]; rfl⟩
  | _ => exact .inr ⟨above, hs⟩

/-- Code stays where it is on the stack until it is done. -/
theorem code_ends (g : Grounded h) (hs : h.stack = above ++ f :: base) {later : List Input}
    (hover : (h.run later).1.stack.length ≤ base.length) : ∃ a r b, later = a ++ .reply r :: b ∧
      (h.run a).1.stack = f :: base ∧
      conclusion? base.length h later = conclusion? base.length (h.run a).1 (.reply r :: b) := by
  induction later generalizing h above with
  | nil =>
    simp only [Host.run, hs, List.length_append, List.length_cons] at hover
    omega
  | cons i later ih =>
    rcases stays_or_done hs i with ⟨rfl, r, rfl⟩ | ⟨above', hbase⟩
    · exact ⟨[], r, later, rfl, hs, rfl⟩
    · obtain ⟨new, hstack, -⟩ := (step_effect g i).code
      rw [hbase, ← List.append_assoc] at hstack
      obtain ⟨a, r, b, rfl, ha, hsame⟩ := ih (g.step i) hstack hover
      have hlong : ¬(h.step i).1.stack.length ≤ base.length := by
        simp only [hstack, List.length_append, List.length_cons]
        omega
      exact ⟨i :: a, r, b, rfl, ha, by rw [conclusion?, if_neg hlong, hsame]; rfl⟩

theorem conclusion_of_code (g : Grounded h) (hs : h.stack = f :: base) (hf : f.after? = some after)
    {later : List Input} (hover : (h.run later).1.stack.length ≤ base.length) :
    conclusion? base.length h later = some after.output := by
  induction hn : later.length using Nat.strongRecOn generalizing h f later with
  | ind n ih =>
    have hs' : h.stack = [] ++ f :: base := hs
    obtain ⟨a, r, b, rfl, ha, hsame⟩ := code_ends g hs' hover
    have g' := g.run a
    rw [hsame, conclusion?]
    rcases reply_goes g' ha hf r with ⟨hstack, hlast⟩ | ⟨f', hstack, hf'⟩
    · rw [if_pos (Nat.le_of_eq (congrArg List.length hstack)), hlast]
    · have hlong : ¬((h.run a).1.step (.reply r)).1.stack.length ≤ base.length := by
        rw [hstack, List.length_cons]
        omega
      rw [if_neg hlong]
      rw [run_append] at hover
      refine ih b.length ?_ (g'.step _) hstack hf' hover rfl
      rw [← hn, List.length_append, List.length_cons]
      omega

theorem concludes_of_goes {i : Input} (g : Grounded h) (hgoes : Goes h.stack after (h.step i)) :
    Concludes h i after.output := by
  intro later hover
  rw [conclusion?]
  rcases hgoes with ⟨hstack, hlast⟩ | ⟨f, hstack, hf⟩
  · rw [if_pos (Nat.le_of_eq (congrArg List.length hstack)), hlast]
  · have hlong : ¬(h.step i).1.stack.length ≤ h.stack.length := by
      rw [hstack, List.length_cons]
      omega
    rw [if_neg hlong]
    exact conclusion_of_code (g.step i) hstack hf hover

end Runs

/-! ### Who is told what is thrown -/

/-- The line for what the code of a frame throws, if it runs in the middle of a delivery or of a completion. -/
def blames? (h : Host) (t : Thrown) : Frame → Option LogLine
  | .next ref d _ => some ⟨h.busThing ref, .observerThrew t d.event.name d.current.id⟩
  | .complete ref c _ => some ⟨h.busThing ref, .completionThrew t c.current.id⟩
  | _ => none

/-- The line that is due in a step because an observer throws in it. -/
def blame? (h : Host) : Input → Option LogLine
  | .reply (.threw t) => h.stack.head?.bind (h.blames? t)
  | _ => none

/-- What comes of an operation on a bus, whatever observers throw while it is under way. -/
structure Contains (h : Host) : Prop where
  /-- Whoever publishes, on a bus that stands alone or by what is done with a Thing, is answered well; -/
  publishes : ∀ op ref e, h.asks? op = some (ref, .publish e) → Concludes h (.operate op) (.returned (.ok .none))
  /-- so does a call settle that is announced. -/
  settles : ∀ n v queue c e, h.stack = [] → h.queue = .resume n (.ok v) :: queue → h.calls[n]? = some c →
    announcement? c.ask v = some e → Concludes h .tick (.settled n (.ok (match c.ask with
      | .write .. => .undefined
      | _ => v)))
  /-- Whoever completes a bus is answered well, -/
  completes : ∀ n, (h.bus? (.alone n)).isSome → Concludes h (.operate (.complete n)) (.returned (.ok .none))
  /-- and whoever destroys a Thing is told what its servient says. -/
  destroys : ∀ t x s, h.things[t]? = some x → h.servients[x.servient]? = some s →
    Concludes h (.operate (.destroy t)) (.returned (match s.remove (.string x.id) with
      | .ok _ => .ok .none
      | .error e => refuse e))
  /-- Whoever subscribes has the subscription at once, unless the bus is completed and its owner wants to know; -/
  subscribes : ∀ source client completes ref screen, h.asks? (.subscribe source client completes) =
      some (ref, .attach screen completes (.client client)) → ((h.bus ref).completed && completes) = false →
    (h.step (.operate (.subscribe source client completes))).2 = [.returned (.ok (.subscription ⟨ref, (h.bus ref).nextId⟩))]
  /-- then what the owner throws when it is told is what whoever subscribes is answered, and nothing is logged. -/
  late : ∀ source client completes ref screen later, h.asks? (.subscribe source client completes) =
      some (ref, .attach screen completes (.client client)) → ((h.bus ref).completed && completes) = true →
    (h.run (.operate (.subscribe source client completes) :: later)).1.stack.length ≤ h.stack.length →
    ∃ a r b, later = a ++ .reply r :: b ∧
      let told := (h.run (.operate (.subscribe source client completes) :: a)).1
      told.stack = .late ⟨ref, (h.bus ref).nextId⟩ :: h.stack ∧
        told.step (.reply r) = ({ told with stack := h.stack }, [.returned (match r with
          | .threw t => .error t
          | _ => .ok (.subscription ⟨ref, (h.bus ref).nextId⟩))])
  /-- What an observer throws in the middle of a delivery or of a completion is logged before anything else. -/
  logged : ∀ i line, h.blame? i = some line → line.note.level = .warn ∧ ∃ rest, (h.step i).2 = .log line :: rest

section Operations
variable {h : Host} {op : Operation} {ref : BusRef} {e : Event}

theorem announce_goes (h : Host) (t : Nat) (note : Note) (x : ExposedThing) (e : Event) :
    Goes h.stack (.returned (.ok .none)) (h.announce t note (.ok (x, e))) := (publish_goes (h.setThing t x) _ e _).prepend _

theorem operate_goes (ha : h.asks? op = some (ref, .publish e)) : Goes h.stack (.returned (.ok .none)) (h.operate op) := by
  cases op with
  | add t kind name definition handler =>
    obtain ⟨x, hx, hr⟩ := Option.bind_eq_some_iff.mp ha
    simp only [operate, withThing, hx]
    rcases hadd : x.add kind name definition (handler.map .client) with e | ⟨y, e⟩
    · rw [hadd] at hr
      cases hr
    · exact announce_goes h t _ y e
  | remove t kind name =>
    obtain ⟨x, hx, hr⟩ := Option.bind_eq_some_iff.mp ha
    simp only [operate, withThing, hx]
    rcases hremove : (x.remove kind name).mapError Thrown.ofRefusal with e | ⟨y, e⟩
    · rw [hremove] at hr
      cases hr
    · exact announce_goes h t _ y e
  | emit t name payload =>
    obtain ⟨x, hx, hr⟩ := Option.bind_eq_some_iff.mp ha
    simp only [operate, withThing, hx]
    rcases hemitted : x.emitted name payload with e | e
    · rw [hemitted] at hr
      cases hr
    · exact publish_goes h (.own t) e _
  | publish n e => exact publish_goes h (.alone n) e _
  | subscribe source client completes =>
    cases source with
    | topic t topic =>
      obtain ⟨x, -, hr⟩ := Option.bind_eq_some_iff.mp ha
      split at hr <;> cases hr
    | bus n guard => simp [asks?, Option.bind_eq_some_iff] at ha
  | _ => simp [asks?, Option.bind_eq_some_iff] at ha

theorem tick_goes {n : Nat} {v : Value} {queue : List Job} {c : Call} (hs : h.stack = [])
    (hq : h.queue = .resume n (.ok v) :: queue) (hc : h.calls[n]? = some c) (ha : announcement? c.ask v = some e) :
    Goes h.stack (.settled n (.ok (match c.ask with
      | .write .. => .undefined
      | _ => v))) (h.step .tick) := by
  have hstep : h.step .tick = { h with queue }.resume n (.ok v) := by simp [step, hs, work, hq]
  rw [hstep]
  simp only [resume, hc]
  cases hask : c.ask with
  | read property =>
    rw [hask] at ha
    cases ha
  | write property value => exact publish_goes { h with queue } _ _ _
  | invoke action arguments => exact publish_goes { h with queue } _ _ _

theorem destroy_goes {t : Nat} {x : ExposedThing} {s : Servient} (hx : h.things[t]? = some x)
    (hs : h.servients[x.servient]? = some s) : Goes h.stack (.returned (match s.remove (.string x.id) with
      | .ok _ => .ok .none
      | .error e => refuse e)) (h.operate (.destroy t)) := by
  simp only [operate, destroy, withThing, hx, hs]
  cases s.remove (.string x.id) with
  | ok s' => exact (complete_goes (h.setServient x.servient s') (.own t) _).prepend _
  | error e => exact complete_goes h (.own t) _

theorem blamed_first (g : Grounded h) {i : Input} {line : LogLine} (hi : h.blame? i = some line) :
    line.note.level = .warn ∧ ∃ rest, (h.step i).2 = .log line :: rest := by
  cases i with
  | reply r =>
    cases r with
    | threw t =>
      obtain ⟨f, hf, hline⟩ := Option.bind_eq_some_iff.mp hi
      obtain ⟨stack, hs⟩ := List.head?_eq_some_iff.mp hf
      have hthere := g.there f (hs ▸ List.mem_cons_self)
      have hbus : ∀ ref, ({ h with stack } : Host).bus? ref = h.bus? ref := bus?_congr rfl rfl
      cases f with
      | next ref d after =>
        cases hline
        obtain ⟨b, hb⟩ := Option.isSome_iff_exists.mp (hthere ref (by simp [Frame.on?]))
        refine ⟨rfl, ?_⟩
        simp only [step, hs, replied, hbus, hb, onBus, Bus.afterNext, Reply.thrown?]
        split <;> exact ⟨_, rfl⟩
      | complete ref c after =>
        cases hline
        obtain ⟨b, hb⟩ := Option.isSome_iff_exists.mp (hthere ref (by simp [Frame.on?]))
        refine ⟨rfl, ?_⟩
        simp only [step, hs, replied, hbus, hb, onBus, Bus.afterComplete, Reply.thrown?]
        exact ⟨_, rfl⟩
      | _ => cases hline
    | _ => cases hi
  | _ => cases hi

end Operations

/-! ### The law -/

section Law
variable {h : Host}

/-- What observers throw is contained in every host that a run leads to, except where a subscription is late. -/
theorem containment_law (inputs : List Input) : Contains (reached inputs) := by
  have g := grounded_reached inputs
  generalize reached inputs = h at g
  refine ⟨fun op ref e ha => ?_, fun n v queue c e hs hq hc ha => ?_, fun n hn => ?_, fun t x s hx hs => ?_,
    fun source client completes ref screen ha hearly => ?_, fun source client completes ref screen later ha hlate hover => ?_,
    fun i line hi => blamed_first g hi⟩
  · exact concludes_of_goes (i := .operate op) g (operate_goes ha)
  · exact concludes_of_goes g (tick_goes hs hq hc ha)
  · exact concludes_of_goes (i := .operate (.complete n)) g (complete_goes h (.alone n) (.returned (.ok .none)))
  · exact concludes_of_goes (i := .operate (.destroy t)) g (destroy_goes hx hs)
  · obtain ⟨b, hb⟩ := Option.isSome_iff_exists.mp (move?_there g (show h.move? (.operate _) = _ from ha))
    rw [bus_of_bus? hb] at hearly ⊢
    simp only [step, subscribe_eq ha, attach_eq hb, hearly]
    rfl
  · obtain ⟨b, hb⟩ := Option.isSome_iff_exists.mp (move?_there g (show h.move? (.operate _) = _ from ha))
    rw [bus_of_bus? hb] at hlate ⊢
    have hstack : (h.step (.operate (.subscribe source client completes))).1.stack =
        [] ++ .late ⟨ref, b.nextId⟩ :: h.stack := by
      simp only [step, subscribe_eq ha, attach_eq hb, hlate, ↓reduceIte, push, setBus_stack]
      rfl
    obtain ⟨a, r, later, rfl, ha', -⟩ := code_ends (g.step _) hstack hover
    refine ⟨a, r, later, rfl, ha', ?_⟩
    have hcode : (h.run (.operate (.subscribe source client completes) :: a)).1.stack = .late ⟨ref, b.nextId⟩ :: h.stack := ha'
    simp only [step, hcode, replied]
    cases r <;> rfl

/-- A hall that is closed before anybody comes. -/
def hall : List Input := [.operate .newBus, .operate (.complete 0)]

/-- Somebody comes, and is told that it is closed. -/
def come : Input := .operate (.subscribe (.bus 0 fun _ => .ok true) 3 true)

/-- Who comes late and complains has no subscription, and nothing is logged. -/
theorem late_complaint_escapes : let no : Thrown := .failure "Error" "no"
    ((reached hall).run [come, .reply (.threw no)]).2 = [.callComplete 3, .returned (.error no)] ∧
      ∀ s, ¬Concludes (reached hall) come (.returned (.ok (.subscription s))) := by
  intro no
  refine ⟨by rfl, fun s hends => ?_⟩
  have hover : ((reached hall).run [come, .reply (.threw no)]).1.stack.length ≤ (reached hall).stack.length := by decide
  have hthrown : conclusion? (reached hall).stack.length (reached hall) [come, .reply (.threw no)] =
      some (.returned (.error no)) := by rfl
  cases (hends _ hover).symm.trans hthrown

end Law

end Host
end ThingHost
