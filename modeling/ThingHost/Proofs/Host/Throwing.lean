import ThingHost.Proofs.Bus.Throwing
import ThingHost.Proofs.Host.Below
import ThingHost.Proofs.Host.Completion
import ThingHost.Proofs.Host.Containment

/-! An observer that throws harms nobody else. A run in which observers throw is compared with the run in which all of
    them return: step by step the hosts are the same, but for the numbers of those that took the events which are being
    delivered, and so is what is put out, but for the warnings and these numbers. -/

namespace ThingHost

/-- Code that a bus calls in the middle of a delivery or of a completion. -/
def Frame.observes : Frame → Bool
  | .next .. => true
  | .complete .. => true
  | _ => false

def Frame.uncounted : Frame → Frame
  | .next ref d after => .next ref d.uncounted after
  | .relaying n ref d after => .relaying n ref d.uncounted after
  | f => f

def Output.uncounted : Output → Output
  | .log line => .log { line with note := line.note.uncounted }
  | o => o

namespace Host

/-- A host without the numbers of those that took the events which are being delivered. -/
def uncounted (h : Host) : Host := { h with stack := h.stack.map Frame.uncounted }

/-- What an observer's code ends with if it does not throw; any other input stays as it is. -/
def calm (h : Host) : Input → Input
  | .reply r => .reply (if h.stack.head?.any (·.observes) then .done .undefined else r)
  | i => i

/-- A run in which the observers do what they did, and return. -/
def calmed (inputs : List Input) : List Input := seen (fun h i => some (h.calm i)) .new inputs

/-! ### Steps that differ in numbers only -/

structure Level (s s' : Step) : Prop where
  host : s.1.uncounted = s'.1.uncounted
  outputs : s.2.map Output.uncounted = s'.2.map Output.uncounted

section Level
variable {h h' : Host} {s s' : Step}

theorem Level.refl (s : Step) : Level s s := ⟨rfl, rfl⟩

theorem Level.prepend (hs : Level s s') (out : List Output) : Level (prepend out s) (prepend out s') :=
  ⟨hs.host, by simp only [Host.prepend, List.map_append, hs.outputs]⟩

/-- They also differ in numbers only on top of code that does. -/
theorem Level.onto (hs : Level s s') {below below' : List Frame}
    (hb : below.map Frame.uncounted = below'.map Frame.uncounted) : Level (s.onto below) (s'.onto below') := by
  refine ⟨?_, hs.outputs⟩
  have hstack : s.1.stack.map Frame.uncounted = s'.1.stack.map Frame.uncounted := congrArg Host.stack hs.host
  have hall : (s.1.stack ++ below).map Frame.uncounted = (s'.1.stack ++ below').map Frame.uncounted := by
    rw [List.map_append, List.map_append, hstack, hb]
  exact (congrArg (fun k => { k with stack := (s.1.stack ++ below).map Frame.uncounted }) hs.host).trans
    (congrArg (fun stack => { s'.1 with stack }) hall)

/-- Two hosts that differ in numbers only are one host on top of code that does. -/
theorem exists_onto (hh : h.uncounted = h'.uncounted) : ∃ k : Host, k.stack = [] ∧ h = k.onto h.stack ∧
    h' = k.onto h'.stack ∧ h.stack.map Frame.uncounted = h'.stack.map Frame.uncounted :=
  ⟨{ h with stack := [] }, rfl, rfl,
    congrArg (fun k : Host => { k with stack := h'.stack }) hh.symm, congrArg Host.stack hh⟩

theorem noted_uncounted {thing : Option String} {notes notes' : List Note}
    (hn : notes.map Note.uncounted = notes'.map Note.uncounted) :
    (noted thing notes).map Output.uncounted = (noted thing notes').map Output.uncounted := by
  have hmap : ∀ notes : List Note, (noted thing notes).map Output.uncounted = noted thing (notes.map Note.uncounted) := by
    intro notes
    simp only [noted, List.map_map]
    rfl
  rw [hmap, hmap, hn]

theorem follow_level (h : Host) (ref : BusRef) (after : After) {turn turn' : Turn Listener}
    (ht : turn.uncounted = turn'.uncounted) : Level (h.follow ref after turn) (h.follow ref after turn') := by
  rcases turn with _ | d | c <;> rcases turn' with _ | d' | c' <;> simp only [Turn.uncounted, Turn.next.injEq,
    Turn.complete.injEq, reduceCtorEq] at ht
  · exact .refl _
  · have hevent : d.event = d'.event := show d.uncounted.event = d'.uncounted.event by rw [ht]
    have hcurrent : d.current = d'.current := show d.uncounted.current = d'.uncounted.current by rw [ht]
    simp only [follow, hcurrent, hevent]
    cases d'.current.owner with
    | client n => exact ⟨by simp only [uncounted, push, List.map_cons, Frame.uncounted, ht], rfl⟩
    | relay broker thing => exact ⟨by simp only [uncounted, push, List.map_cons, Frame.uncounted, ht], rfl⟩
  · rw [ht]
    exact .refl _

theorem onBus_level (h : Host) (ref : BusRef) (after : After) {x y : Bus Listener × List Note × Turn Listener}
    (hxy : Bus.Level x y) : Level (h.onBus ref after x) (h.onBus ref after y) := by
  obtain ⟨hhost, hout⟩ := follow_level (h.setBus ref x.1) ref after hxy.turn
  simp only [onBus, hxy.bus] at hhost hout ⊢
  refine ⟨hhost, ?_⟩
  simp only [prepend, List.map_append, hout, noted_uncounted hxy.notes]

theorem onBus_noting (h : Host) (ref : BusRef) (after : After) (notes : List Note)
    (x : Bus Listener × List Note × Turn Listener) :
    h.onBus ref after (Bus.noting notes x) = prepend (noted (h.busThing ref) notes) (h.onBus ref after x) := by
  simp only [onBus, Bus.noting, prepend, noted, List.map_append, List.append_assoc]

/-- After the warning for what an observer throws, its bus goes on as if it had returned. -/
theorem replied_level {f f' : Frame} (hthere : ∀ ref, f.on? ref ≠ none → (h.bus? ref).isSome)
    (hf : f.uncounted = f'.uncounted) (r : Reply) : ∃ s,
      h.replied r f = prepend ((r.thrown?.bind (h.blames? · f)).map .log).toList s ∧
        Level s (h.replied (if f.observes then .done .undefined else r) f') := by
  have goesOn : ∀ (k : Host) (ref : BusRef) (after : After) (b : Bus Listener) {d d' : Delivery Listener}
      (thrown : Option Thrown), d.uncounted = d'.uncounted → ∃ s,
        k.onBus ref after (b.afterNext d thrown) = prepend (noted (k.busThing ref) (Bus.complaint d thrown)) s ∧
          Level s (k.onBus ref after (b.afterNext d' none)) := by
    intro k ref after b d d' thrown hd
    obtain ⟨x, hx, hlevel⟩ := b.afterNext_level d thrown
    obtain ⟨x', hx', hlevel'⟩ := b.afterNext_level d' none
    have hsame : b.afterNext d' none = x' := hx'
    refine ⟨k.onBus ref after x, by rw [hx, onBus_noting], ?_⟩
    rw [hsame]
    rw [hd] at hlevel
    exact onBus_level k ref after ⟨hlevel.bus.trans hlevel'.bus.symm, hlevel.notes.trans hlevel'.notes.symm,
      hlevel.turn.trans hlevel'.turn.symm⟩
  cases f with
  | next ref d after =>
    obtain ⟨d', rfl, hd⟩ : ∃ d', f' = .next ref d' after ∧ d.uncounted = d'.uncounted := by
      cases f' <;> simp only [Frame.uncounted, Frame.next.injEq, reduceCtorEq] at hf
      obtain ⟨rfl, hd, rfl⟩ := hf
      exact ⟨_, rfl, hd⟩
    obtain ⟨b, hb⟩ := Option.isSome_iff_exists.mp (hthere ref (by simp [Frame.on?]))
    obtain ⟨s, hs, hlevel⟩ := goesOn h ref after b r.thrown? hd
    refine ⟨s, ?_, ?_⟩
    · simp only [replied, hb, hs]
      cases r <;> rfl
    · show Level s (h.replied (.done .undefined) (.next ref d' after))
      simp only [replied, hb]
      exact hlevel
  | complete ref c after =>
    obtain rfl : f' = .complete ref c after := by
      cases f' <;> simp only [Frame.uncounted, reduceCtorEq] at hf
      exact hf.symm
    obtain ⟨b, hb⟩ := Option.isSome_iff_exists.mp (hthere ref (by simp [Frame.on?]))
    refine ⟨h.onBus ref after (b.afterComplete c none), ?_, ?_⟩
    · simp only [replied, hb]
      rw [b.afterComplete_level c r.thrown?, onBus_noting]
      cases r <;> rfl
    · simp only [replied, hb]
      exact .refl _
  | relaying n ref d after =>
    obtain ⟨d', rfl, hd⟩ : ∃ d', f' = .relaying n ref d' after ∧ d.uncounted = d'.uncounted := by
      cases f' <;> simp only [Frame.uncounted, Frame.relaying.injEq, reduceCtorEq] at hf
      obtain ⟨rfl, rfl, hd, rfl⟩ := hf
      exact ⟨_, rfl, hd⟩
    obtain ⟨b, hb⟩ := Option.isSome_iff_exists.mp (hthere ref (by simp [Frame.on?]))
    obtain ⟨s, hs, hlevel⟩ := goesOn (h.brokerDone n r).1 ref after b none hd
    refine ⟨prepend (h.brokerDone n r).2 s, ?_, ?_⟩
    · simp only [replied, (brokerDone_aside h n r).bus?, hb, hs]
      cases r <;> rfl
    · show Level _ (h.replied r (.relaying n ref d' after))
      simp only [replied, (brokerDone_aside h n r).bus?, hb]
      exact hlevel.prepend _
  | late s =>
    cases f' <;> cases hf
    refine ⟨h.replied r (.late s), ?_, .refl _⟩
    cases r <;> rfl
  | handler n =>
    cases f' <;> cases hf
    refine ⟨h.replied r (.handler n), ?_, .refl _⟩
    cases r <;> rfl
  | posting n =>
    cases f' <;> cases hf
    refine ⟨h.replied r (.posting n), ?_, .refl _⟩
    cases r <;> rfl
  | woken =>
    cases f' <;> cases hf
    refine ⟨h.replied r .woken, ?_, .refl _⟩
    cases r <;> rfl

theorem work_onto (k : Host) (below : List Frame) : (k.onto below).work = k.work.onto below := by
  have hqueue : (k.onto below).queue = k.queue := rfl
  simp only [work, hqueue]
  split
  · rfl
  · rename_i job queue _
    cases job with
    | resume n answer => exact onto_resume below { k with queue } n answer
    | posted n failure => exact onto_posted below { k with queue } n failure
    | wake token => rfl

/-- After the warning for what an observer throws, a step goes on as if it had returned. -/
theorem step_level (g : Grounded h) (hh : h.uncounted = h'.uncounted) (i : Input) : ∃ s,
    h.step i = prepend ((h.blame? i).map .log).toList s ∧ Level s (h'.step (h.calm i)) := by
  obtain ⟨k, hk, hbase, hbase', hstack⟩ := exists_onto hh
  -- Where no code ends, a step is one of the common host.
  have apart : ∀ {i : Input} (f : Host → Step), h.blame? i = none → h.calm i = i → h.step i = f h → h'.step i = f h' →
      (∀ below, f (k.onto below) = (f k).onto below) →
      ∃ s, h.step i = prepend ((h.blame? i).map .log).toList s ∧ Level s (h'.step (h.calm i)) := by
    intro i f hblame hcalm hstep hstep' honto
    refine ⟨h.step i, by rw [hblame]; rfl, ?_⟩
    rw [hcalm, hstep, hstep', hbase, hbase', honto, honto]
    exact (Level.refl (f k)).onto hstack
  cases i with
  | operate op => exact apart (·.operate op) rfl rfl rfl rfl fun below => onto_operate below k op
  | reply r =>
    rcases hs : h.stack with _ | ⟨f, stack⟩
    · have hs' : h'.stack = [] := by
        rw [hs] at hstack
        exact List.map_eq_nil_iff.mp hstack.symm
      refine ⟨(h, []), ?_, ?_⟩
      · cases r <;> simp [step, hs, blame?, prepend]
      · simp only [calm, step, hs']
        exact ⟨hh, rfl⟩
    · obtain ⟨f', stack', hs', hf, hbelow⟩ : ∃ f' stack', h'.stack = f' :: stack' ∧ f.uncounted = f'.uncounted ∧
          stack.map Frame.uncounted = stack'.map Frame.uncounted := by
        rw [hs] at hstack
        obtain ⟨f', stack', hs', hf, hbelow⟩ := List.map_eq_cons_iff.mp hstack.symm
        exact ⟨f', stack', hs', hf.symm, hbelow.symm⟩
      have hthere : ∀ ref, f.on? ref ≠ none → (k.bus? ref).isSome := by
        intro ref href
        have hb := g.there f (hs ▸ List.mem_cons_self) ref href
        rwa [hbase, onto_bus?] at hb
      obtain ⟨s, hreplied, hlevel⟩ := replied_level hthere hf r
      have hstep : h.step (.reply r) = (k.replied r f).onto stack := by
        have hpop : { h with stack := stack } = k.onto stack := by
          rw [hbase]
          simp [onto, hk]
        simp only [step, hs, hpop, onto_replied]
      have hstep' : ∀ r, h'.step (.reply r) = (k.replied r f').onto stack' := by
        intro r
        have hpop : { h' with stack := stack' } = k.onto stack' := by
          rw [hbase']
          simp [onto, hk]
        simp only [step, hs', hpop, onto_replied]
      have hblame : h.blame? (.reply r) = r.thrown?.bind (k.blames? · f) := by
        have hthing : ∀ ref, h.busThing ref = k.busThing ref := fun ref => by rw [hbase, onto_busThing]
        cases r <;> cases f <;> simp [blame?, hs, blames?, Reply.thrown?, hthing]
      refine ⟨s.onto stack, ?_, ?_⟩
      · rw [hstep, hreplied, hblame]
        rfl
      · simp only [calm, hs, List.head?_cons, Option.any_some, hstep']
        exact hlevel.onto hbelow
  | answer n outcome =>
    refine apart (·.step (.answer n outcome)) rfl rfl rfl rfl fun below => ?_
    have hcalls : (k.onto below).calls = k.calls := rfl
    simp only [step, hcalls, onto_answered]
    split <;> rfl
  | acknowledge n failure =>
    refine apart (·.step (.acknowledge n failure)) rfl rfl rfl rfl fun below => ?_
    have hpostings : (k.onto below).postings = k.postings := rfl
    simp only [step, hpostings, onto_setStage]
    split <;> rfl
  | defer token => exact apart (·.step (.defer token)) rfl rfl rfl rfl fun below => rfl
  | tick =>
    cases hempty : h.stack.isEmpty with
    | true =>
      have hempty' : h'.stack.isEmpty = true := by
        rw [← List.isEmpty_map (f := Frame.uncounted), ← hstack, List.isEmpty_map]
        exact hempty
      exact apart work rfl rfl (by simp [step, hempty]) (by simp [step, hempty']) (work_onto k)
    | false =>
      have hempty' : h'.stack.isEmpty = false := by
        rw [← List.isEmpty_map (f := Frame.uncounted), ← hstack, List.isEmpty_map]
        exact hempty
      exact apart (fun h => (h, [])) rfl rfl (by simp [step, hempty]) (by simp [step, hempty']) fun below => rfl
  | setClock ms => exact apart (·.step (.setClock ms)) rfl rfl rfl rfl fun below => rfl

end Level

/-! ### Runs in which nobody throws -/

/-- What a step puts out, apart from the warning for what an observer throws and from the numbers of those that took an
    event. -/
def spoken (h : Host) (i : Input) : List Output :=
  ((h.step i).2.drop ((h.blame? i).map Output.log).toList.length).map Output.uncounted

/-- The event that an input publishes on a bus which is completed, so that it is dropped. -/
def dropped? (ref : BusRef) (h : Host) (i : Input) : Option Event :=
  match moveOn ref h i with
  | some (.publish e) => if (h.bus ref).completed then some e else none
  | _ => none

section Looks
variable {h h' : Host}

theorem spoken_level (g : Grounded h) (hh : h.uncounted = h'.uncounted) (i : Input) :
    h.spoken i = h'.spoken (h.calm i) := by
  obtain ⟨s, hs, hlevel⟩ := step_level g hh i
  -- Where the observers return there is no warning.
  have hquiet : h'.blame? (h.calm i) = none := by
    have hstack : h.stack.map Frame.uncounted = h'.stack.map Frame.uncounted := congrArg Host.stack hh
    cases i with
    | reply r =>
      rcases hf : h'.stack with _ | ⟨f', stack'⟩
      · simp only [calm, blame?, hf]
        split <;> rfl
      · rw [hf] at hstack
        obtain ⟨f, stack, hf', hsame, -⟩ := List.map_eq_cons_iff.mp hstack
        simp only [calm, hf', List.head?_cons, Option.any_some]
        cases f with
        | next ref d after => rfl
        | complete ref c after => rfl
        | _ =>
          cases f' <;> simp only [Frame.uncounted, reduceCtorEq] at hsame
          cases r <;> simp [Frame.observes, blame?, hf, blames?]
    | _ => rfl
  simp only [spoken, hs, hquiet, prepend, List.drop_left]
  exact hlevel.outputs

theorem on?_uncounted (ref : BusRef) (f : Frame) : f.uncounted.on? ref = (f.on? ref).map Bus.Running.uncounted := by
  cases f <;> simp only [Frame.uncounted, Frame.on?] <;> first | rfl | (split <;> rfl)

/-- The code that a step starts on a bus is the same but for numbers. -/
theorem started_level (g : Grounded h) (g' : Grounded h') (hh : h.uncounted = h'.uncounted) (i : Input) (ref : BusRef) :
    (startedOn ref h i).map Bus.Running.uncounted = (startedOn ref h' (h.calm i)).map Bus.Running.uncounted := by
  obtain ⟨f, hs, -, hf⟩ := (step_effect g i).code
  obtain ⟨f', hs', -, hf'⟩ := (step_effect g' (h.calm i)).code
  obtain ⟨s, hstep, hlevel⟩ := step_level g hh i
  have hstack : h.stack.map Frame.uncounted = h'.stack.map Frame.uncounted := congrArg Host.stack hh
  have hafter : (h.step i).1.stack.map Frame.uncounted = (h'.step (h.calm i)).1.stack.map Frame.uncounted := by
    rw [hstep]
    exact congrArg Host.stack hlevel.host
  have hbase : (h.base i).map Frame.uncounted = (h'.base (h.calm i)).map Frame.uncounted := by
    cases i with
    | reply r =>
      simp only [base, calm, List.map_tail, hstack]
    | _ => exact hstack
  rw [hs, hs', List.map_append, List.map_append] at hafter
  obtain ⟨hcode, -⟩ := List.append_inj' hafter (congrArg List.length hbase)
  have hsame : f.map Frame.uncounted = f'.map Frame.uncounted := by
    have hhead := congrArg List.head? hcode
    rwa [List.head?_map, List.head?_map, Option.head?_toList, Option.head?_toList] at hhead
  have hon : ∀ f : Option Frame, (f.bind (Frame.on? ref)).map Bus.Running.uncounted = (f.map Frame.uncounted).bind (Frame.on? ref) := by
    intro f
    cases f with
    | none => rfl
    | some f => exact (on?_uncounted ref f).symm
  show ((on ref (h.move? i)).bind _).map _ = ((on ref (h'.move? (h.calm i))).bind _).map _
  rw [← hf, ← hf', hon, hon, hsame]

/-- Where code ends on a bus, it ends on the same bus; any other move is the same. -/
theorem move_level (hh : h.uncounted = h'.uncounted) (i : Input) (ref : BusRef) :
    moveOn ref h i = moveOn ref h' (h.calm i) ∨ ∃ thrown thrown',
      moveOn ref h i = some (.done thrown) ∧ moveOn ref h' (h.calm i) = some (.done thrown') := by
  obtain ⟨k, hk, hbase, hbase', hstack⟩ := exists_onto hh
  cases i with
  | operate op =>
    have hasks : ∀ below, (k.onto below).asks? op = k.asks? op := by
      intro below
      cases op with
      | subscribe source client completes =>
        cases source with
        | topic t topic => rfl
        | bus n guard => simp only [asks?, onto_bus?]
      | unsubscribe s => simp only [asks?, onto_bus?]
      | publish n e => simp only [asks?, onto_bus?]
      | complete n => simp only [asks?, onto_bus?]
      | _ => rfl
    refine .inl ?_
    show on ref (h.asks? op) = on ref (h'.asks? op)
    rw [hbase, hbase', hasks, hasks]
  | reply r =>
    rcases hs : h.stack with _ | ⟨f, stack⟩
    · refine .inl ?_
      rw [hs] at hstack
      have hs' : h'.stack = [] := List.map_eq_nil_iff.mp hstack.symm
      simp only [moveOn, move?, calm, hs, hs']
    · rw [hs] at hstack
      obtain ⟨f', stack', hs', hf, -⟩ := List.map_eq_cons_iff.mp hstack.symm
      obtain ⟨thrown, hon⟩ := moveOn_reply hs r
      obtain ⟨thrown', hon'⟩ := moveOn_reply hs' (if h.stack.head?.any (·.observes) then .done .undefined else r)
      have hsame : (f.on? ref).map Bus.Running.uncounted = (f'.on? ref).map Bus.Running.uncounted := by
        rw [← on?_uncounted, ← on?_uncounted, hf]
      show moveOn ref h (.reply r) = moveOn ref h' (.reply _) ∨ _
      rw [hon, calm, hon']
      cases hr : f.on? ref with
      | none =>
        rw [hr] at hsame
        rw [Option.map_eq_none_iff.mp hsame.symm]
        exact .inl rfl
      | some r =>
        rw [hr] at hsame
        obtain ⟨r', hr', -⟩ := Option.map_eq_some_iff.mp hsame.symm
        rw [hr']
        exact .inr ⟨thrown, thrown', rfl, rfl⟩
  | tick =>
    refine .inl ?_
    have hempty : h.stack.isEmpty = h'.stack.isEmpty := by
      rw [← List.isEmpty_map (f := Frame.uncounted), hstack, List.isEmpty_map]
    have hresumed : ∀ below, (k.onto below).resumed? = k.resumed? := by
      intro below
      have hqueue : (k.onto below).queue = k.queue := rfl
      have hcalls : (k.onto below).calls = k.calls := rfl
      simp only [resumed?, announced?, hqueue, hcalls, onto_bus?]
    show on ref (if h.stack.isEmpty then h.resumed?.map _ else none) = on ref (if h'.stack.isEmpty then h'.resumed?.map _ else none)
    rw [hempty, hbase, hbase', hresumed, hresumed]
  | _ => exact .inl rfl

theorem view_level (hh : h.uncounted = h'.uncounted) (ref : BusRef) : (h.view ref).bus = (h'.view ref).bus ∧
    (h.view ref).running.map Bus.Running.uncounted = (h'.view ref).running.map Bus.Running.uncounted := by
  obtain ⟨k, -, hbase, hbase', hstack⟩ := exists_onto hh
  have hrunning : ∀ stack : List Frame, (stack.filterMap (Frame.on? ref)).map Bus.Running.uncounted =
      (stack.map Frame.uncounted).filterMap (Frame.on? ref) := by
    intro stack
    rw [List.map_filterMap, List.filterMap_map]
    exact List.filterMap_congr fun f _ => (on?_uncounted ref f).symm
  refine ⟨?_, by rw [view, view, hrunning, hrunning, hstack]⟩
  show h.bus ref = h'.bus ref
  rw [hbase, hbase', Host.bus, Host.bus, onto_bus?, onto_bus?]

end Looks

section Runs
variable {α : Type} {look : Host → Input → Option α}

theorem calmed_snoc (inputs : List Input) (i : Input) :
    calmed (inputs ++ [i]) = calmed inputs ++ [(reached inputs).calm i] := seen_snoc _ inputs i

theorem calmed_level (inputs : List Input) : (reached inputs).uncounted = (reached (calmed inputs)).uncounted := by
  induction inputs using List.reverseRecOn with
  | nil => rfl
  | append_singleton inputs i ih =>
    obtain ⟨s, hs, hlevel⟩ := step_level (grounded_reached inputs) ih i
    rw [calmed_snoc, reached_snoc, reached_snoc, hs]
    exact hlevel.host

/-- What is seen in the same way in hosts that differ in numbers only is seen in both runs. -/
theorem seen_calmed (hlook : ∀ {h h' : Host}, Grounded h → Grounded h' → h.uncounted = h'.uncounted → ∀ i,
    look h i = look h' (h.calm i)) (inputs : List Input) : seen look .new inputs = seen look .new (calmed inputs) := by
  induction inputs using List.reverseRecOn with
  | nil => rfl
  | append_singleton inputs i ih =>
    rw [calmed_snoc, seen_snoc, seen_snoc, ih,
      hlook (grounded_reached inputs) (grounded_reached (calmed inputs)) (calmed_level inputs) i]

theorem started_calmed {f : Bus.Running Listener → Option α} (hf : ∀ r : Bus.Running Listener, f r.uncounted = f r) (ref : BusRef)
    (hlook : ∀ h, Grounded h → ∀ i, look h i = (startedOn ref h i).bind f) (inputs : List Input) :
    seen look .new inputs = seen look .new (calmed inputs) := by
  refine seen_calmed (fun {h h'} g g' hh i => ?_) inputs
  have hbind : ∀ o : Option (Bus.Running Listener), o.bind f = (o.map Bus.Running.uncounted).bind f := by
    intro o
    cases o with
    | none => rfl
    | some r => exact (hf r).symm
  rw [hlook h g, hlook h' g', hbind, started_level g g' hh i ref, ← hbind]

theorem received_calmed (s : SubscriptionRef) (inputs : List Input) : received s inputs = received s (calmed inputs) := by
  refine started_calmed (fun r => ?_) s.bus (fun h g i => handed?_eq g s i) inputs
  cases r <;> rfl

theorem notified_calmed (ref : BusRef) (inputs : List Input) :
    seen (notified? ref) .new inputs = seen (notified? ref) .new (calmed inputs) := by
  refine started_calmed (f := Bus.Running.notified?) (fun r => ?_) ref (fun h g i => ?_) inputs
  · cases r <;> rfl
  · rw [notified?, told?_eq g, greeted?_eq g]
    cases startedOn ref h i <;> rfl

theorem published_calmed (ref : BusRef) (inputs : List Input) : published ref inputs = published ref (calmed inputs) := by
  refine seen_calmed (fun {h h'} g g' hh i => ?_) inputs
  have hbus : h.bus ref = h'.bus ref := (view_level hh ref).1
  rcases move_level hh i ref with hm | ⟨thrown, thrown', hm, hm'⟩
  · simp only [taken?, hm, hbus]
  · simp only [taken?, hm, hm']

theorem dropped_calmed (ref : BusRef) (inputs : List Input) :
    seen (dropped? ref) .new inputs = seen (dropped? ref) .new (calmed inputs) := by
  refine seen_calmed (fun {h h'} g g' hh i => ?_) inputs
  have hbus : h.bus ref = h'.bus ref := (view_level hh ref).1
  rcases move_level hh i ref with hm | ⟨thrown, thrown', hm, hm'⟩
  · simp only [dropped?, hm, hbus]
  · simp only [dropped?, hm, hm']

theorem spoken_calmed (inputs : List Input) :
    seen (fun h i => some (h.spoken i)) .new inputs = seen (fun h i => some (h.spoken i)) .new (calmed inputs) :=
  seen_calmed (fun g _ hh i => congrArg some (spoken_level g hh i)) inputs

theorem rounds_calmed (ref : BusRef) (inputs : List Input) : rounds ref inputs = rounds ref (calmed inputs) := by
  induction inputs using List.reverseRecOn with
  | nil => rfl
  | append_singleton inputs i ih =>
    obtain ⟨hbus, hrunning⟩ := view_level (calmed_level inputs) ref
    rw [← record_live, ← record_live] at hbus hrunning
    simp only [rounds, calmed_snoc, record_snoc] at ih ⊢
    rcases move_level (calmed_level inputs) i ref with hm | ⟨thrown, thrown', hm, hm'⟩
    · rw [hm]
      cases moveOn ref (reached (calmed inputs)) ((reached inputs).calm i) with
      | none => exact ih
      | some m =>
        simp only [Bus.Chronicle.step, ih]
        cases m with
        | done thrown => exact Bus.rounds_level hbus hrunning _ thrown thrown
        | publish e => simp only [Bus.Live.rounds, hbus]
        | _ => rfl
    · rw [hm, hm']
      simp only [Bus.Chronicle.step, ih]
      exact Bus.rounds_level hbus hrunning _ thrown thrown'

theorem closed_calmed (s : SubscriptionRef) (inputs : List Input) :
    (reached inputs).isClosed s = (reached (calmed inputs)).isClosed s := by
  have hbus : (reached inputs).bus s.bus = (reached (calmed inputs)).bus s.bus := (view_level (calmed_level inputs) s.bus).1
  rw [isClosed_eq, isClosed_eq, hbus]

end Runs

/-! ### The law -/

/-- Whoever publishes or completes is answered well, and the warning for what an observer throws comes before anything
    else that a step puts out. -/
structure Withstands (inputs : List Input) : Prop where
  publishes : ∀ a op b ref e, inputs = a ++ .operate op :: b → (reached a).asks? op = some (ref, .publish e) →
    Concludes (reached a) (.operate op) (.returned (.ok .none))
  completes : ∀ a n b, inputs = a ++ .operate (.complete n) :: b →
    Concludes (reached a) (.operate (.complete n)) (.returned (.ok .none))
  warned : ∀ a i b, inputs = a ++ i :: b → ∃ rest,
    ((reached a).step i).2 = (((reached a).blame? i).map Output.log).toList ++ rest

/-- Two runs in which everybody is treated alike. -/
structure Unharmed (first second : List Input) : Prop where
  /-- Every subscription is handed the same events in the same order, -/
  received : ∀ s, received s first = received s second
  /-- the same ones are told of a completion, and the same ones are closed. -/
  notified : ∀ ref, seen (notified? ref) .new first = seen (notified? ref) .new second
  closed : ∀ s, (reached first).isClosed s = (reached second).isClosed s
  /-- A bus takes the same events, delivers the same ones turn by turn, and drops the same ones. -/
  published : ∀ ref, published ref first = published ref second
  rounds : ∀ ref, rounds ref first = rounds ref second
  dropped : ∀ ref, seen (dropped? ref) .new first = seen (dropped? ref) .new second
  /-- Step by step the same is put out, but for the warnings and for the numbers of those that took an event, -/
  spoken : seen (fun h i => some (h.spoken i)) .new first = seen (fun h i => some (h.spoken i)) .new second
  /-- and all the rest of the hosts is the same. -/
  same : (reached first).uncounted = (reached second).uncounted
  returns : Withstands first ∧ Withstands second

section Law
variable {first second : List Input}

theorem withstands (inputs : List Input) : Withstands inputs where
  publishes a op b ref e _ ha := concludes_of_goes (i := .operate op) (grounded_reached a) (operate_goes ha)
  completes a n b _ := concludes_of_goes (i := .operate (.complete n)) (grounded_reached a)
    (complete_goes (reached a) (.alone n) (.returned (.ok .none)))
  warned a i b _ := by
    obtain ⟨s, hs, -⟩ := step_level (grounded_reached a) rfl i
    exact ⟨s.2, congrArg Prod.snd hs⟩

/-- Two runs that differ only in whether observers throw or return treat everybody alike. -/
theorem throwing_law (hsame : calmed first = calmed second) : Unharmed first second where
  received s := by rw [received_calmed, hsame, ← received_calmed]
  notified ref := by rw [notified_calmed, hsame, ← notified_calmed]
  closed s := by rw [closed_calmed, hsame, ← closed_calmed]
  published ref := by rw [published_calmed, hsame, ← published_calmed]
  rounds ref := by rw [rounds_calmed, hsame, ← rounds_calmed]
  dropped ref := by rw [dropped_calmed, hsame, ← dropped_calmed]
  spoken := by rw [spoken_calmed, hsame, ← spoken_calmed]
  same := by rw [calmed_level, hsame, ← calmed_level]
  returns := ⟨withstands first, withstands second⟩

/-- On a square somebody shouts while the first cry is still passed on, and the square is closed while the second is;
    all who are told end in the same way. -/
def square (r : Reply) : List Input :=
  [ .operate .newBus,
    .operate (.subscribe (.bus 0 fun _ => .ok true) 3 true),
    .operate (.subscribe (.bus 0 fun _ => .ok true) 5 true),
    .operate (.publish 0 (.user (.string "fire") .null)),
    .operate (.publish 0 (.user (.string "thieves") .null)),
    .reply r,
    .reply r,
    .operate (.complete 0),
    .operate (.publish 0 (.user (.string "ghosts") .null)),
    .reply r,
    .reply r,
    .reply r ]

theorem square_unharmed : let complaining := square (.threw (.failure "Error" "no"))
    let silent := square (.done .undefined)
    calmed complaining = calmed silent ∧ Unharmed complaining silent ∧
      received ⟨.alone 0, 1⟩ complaining = [.user (.string "fire") .null, .user (.string "thieves") .null] ∧
      seen (notified? (.alone 0)) .new complaining = [1, 2] := by
  intro complaining silent
  have hsame : calmed complaining = calmed silent := by rfl
  exact ⟨hsame, throwing_law hsame, by rfl, by rfl⟩

end Law

end Host
end ThingHost
