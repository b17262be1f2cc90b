import ThingHost.Proofs.Host.Stream

/-! An operation that throws has done nothing. Everything that can go wrong is checked before the first
    change, and once an operation has announced what it did, the code of subscribers that runs in the middle
    of it cannot make it throw. -/

namespace ThingHost

/-- What an operation returns. -/
def Output.returned? : Output → Option (Except Thrown Result)
  | .returned r => some r
  | _ => none

/-- What goes on when the code of a frame is done, if it runs in the middle of an operation on a bus. -/
def Frame.after? : Frame → Option After
  | .next _ _ after => some after
  | .complete _ _ after => some after
  | .relaying _ _ _ after => some after
  | _ => none

/-- The operations that check what they are given before they do anything: those that build, register and
    enable Things, change what a Thing declares and who answers for it, emit an event, and ask for the events
    of a name. -/
def Operation.guarded : Operation → Bool
  | .produce .. => true
  | .register .. => true
  | .enable .. => true
  | .disable .. => true
  | .removeThing .. => true
  | .expose _ => true
  | .add .. => true
  | .remove .. => true
  | .setHandler .. => true
  | .emit .. => true
  | .subscribe (.topic _ (.event _)) .. => true
  | .subscribe (.topic _ (.property _)) .. => true
  | _ => false

namespace Host

/-! ### What an operation comes to -/

/-- What is returned in a run when the code that stands above the first `n` frames is done. -/
def returnedAt (n : Nat) (h : Host) : List Input → Option (Except Thrown Result)
  | [] => none
  | i :: rest =>
    if (h.step i).1.stack.length ≤ n then (h.step i).2.findSome? Output.returned?
    else returnedAt n (h.step i).1 rest

/-- What an operation comes to, in the step that asks for it or later, when the code of clients that it calls
    is done. The events of a topic are there at once or not at all: when the code of a subscription is called
    because its bus is completed already, asking for them is over. -/
def outcome? (earlier : List Input) (op : Operation) (later : List Input) : Option (Except Thrown Result) :=
  returnedAt (reached earlier).stack.length (reached earlier) (.operate op :: match op with
    | .subscribe .. => []
    | _ => later)

/-- An operation that throws something leaves a host as it was: its Things with what they declare, their values
    and handlers, the buses with their subscriptions, and the servients with the Things that are registered and
    enabled. It writes lines to the log, and that is all; no bus takes an event, and nobody is handed one. -/
structure LeavesAll (earlier : List Input) (op : Operation) (thrown : Thrown) : Prop where
  same : reached (earlier ++ [.operate op]) = reached earlier
  outputs : ∃ lines : List LogLine,
    ((reached earlier).step (.operate op)).2 = lines.map .log ++ [.returned (.error thrown)]
  published : ∀ ref, taken? ref (reached earlier) (.operate op) = none
  received : ∀ s, received s (earlier ++ [.operate op]) = received s earlier

/-! ### The step that asks for it -/

section Steps
variable {h : Host} {op : Operation}

/-- Whether an operation is refused, and what it leaves to be done if it is not. -/
inductive Attempt (h : Host) (s : Step) : Prop where
  | refused (lines : List LogLine) (thrown : Thrown)
      (all : s = (h, lines.map .log ++ [.returned (.error thrown)]))
  /-- It is done, or code runs in the middle of it when all that is left is to return well. -/
  | done (clean : clean s = true)
      (rest : s.1.stack = h.stack ∨ ∃ f r, s.1.stack = f :: h.stack ∧ f.after? = some (.returned (.ok r)))

theorem Attempt.refuse (h : Host) (thrown : Thrown) : Attempt h (h.returns (.error thrown)) :=
  .refused [] thrown rfl

theorem Attempt.nothing (h : Host) : Attempt h (h, []) := .done rfl (.inl rfl)

theorem follow_rest (h : Host) (ref : BusRef) (after : After) (turn : Turn Listener) :
    (h.follow ref after turn).1.stack = h.stack ∨
      ∃ f, (h.follow ref after turn).1.stack = f :: h.stack ∧ f.after? = some after := by
  rcases turn with _ | d | c
  · exact .inl (finish_aside h after).stack
  · refine .inr ?_
    cases ho : d.current.owner with
    | client n =>
      simp only [follow, ho]
      exact ⟨_, rfl, rfl⟩
    | relay broker thing =>
      simp only [follow, ho]
      exact ⟨_, rfl, rfl⟩
  · cases ho : c.current.owner with
    | client n =>
      simp only [follow, ho]
      exact .inr ⟨_, rfl, rfl⟩
    | relay broker thing =>
      simp only [follow, ho]
      exact .inl (finish_aside h after).stack

theorem onBus_rest (h : Host) (ref : BusRef) (after : After) (x : Bus Listener × List Note × Turn Listener) :
    (h.onBus ref after x).1.stack = h.stack ∨
      ∃ f, (h.onBus ref after x).1.stack = f :: h.stack ∧ f.after? = some after := by
  have hset := setBus_stack h ref x.1
  rcases follow_rest (h.setBus ref x.1) ref after x.2.2 with hs | ⟨f, hs, hf⟩
  · exact .inl (hs.trans hset)
  · exact .inr ⟨f, hs.trans (congrArg _ hset), hf⟩

theorem publish_attempt {k : Host} (hs : k.stack = h.stack) (ref : BusRef) (e : Event) (r : Result) :
    clean (k.publish ref e (.returned (.ok r))) = true ∧
      ((k.publish ref e (.returned (.ok r))).1.stack = h.stack ∨
        ∃ f r', (k.publish ref e (.returned (.ok r))).1.stack = f :: h.stack ∧
          f.after? = some (.returned (.ok r'))) := by
  refine ⟨publish_clean k ref e r, ?_⟩
  unfold Host.publish
  cases k.bus? ref with
  | none => exact .inl hs
  | some b =>
    rcases onBus_rest k ref (.returned (.ok r)) (b.publish e) with hrest | ⟨f, hrest, hf⟩
    · exact .inl (hrest.trans hs)
    · exact .inr ⟨f, r, hrest.trans (congrArg _ hs), hf⟩

theorem onServient_attempt (h : Host) (servient : Nat) (f : Servient → Except ThingError Servient) (note : Note) :
    Attempt h (h.onServient servient f note) := by
  unfold onServient
  cases h.servients[servient]? with
  | none => exact .nothing h
  | some s =>
    dsimp only
    cases f s with
    | error e => exact .refuse h _
    | ok s' => exact .done rfl (.inl rfl)

theorem withThing_attempt {t : Nat} {f : ExposedThing → Step} (hf : ∀ x, Attempt h (f x)) :
    Attempt h (h.withThing t f) := by
  unfold withThing
  cases h.things[t]? with
  | none => exact .nothing h
  | some x => exact hf x

theorem announce_attempt (h : Host) (t : Nat) (note : Note) (r : Except Thrown (ExposedThing × Event)) :
    Attempt h (h.announce t note r) := by
  cases r with
  | error e => exact .refuse h e
  | ok r =>
    obtain ⟨hclean, hrest⟩ := publish_attempt (h := h) (k := h.setThing t r.1) rfl (.own t) r.2 .none
    exact .done ((clean_prepend _ _ _).trans hclean) hrest

/-- A Thing is built aside, and is there only when nothing can go wrong any more. -/
theorem produce_attempt (h : Host) (servient : Nat) (definition : Value) (freshId : String) :
    Attempt h (h.produce servient definition freshId) := by
  have lines : ∀ (thing : Option String) (notes : List Note) (e : Thrown),
      Attempt h (prepend (noted thing notes) (h.returns (.error e))) := by
    intro thing notes e
    refine .refused (notes.map fun n => ⟨thing, n⟩) e ?_
    simp [prepend, returns, noted]
  unfold produce
  cases h.servients[servient]? with
  | none => exact .nothing h
  | some s =>
    dsimp only
    cases thingSchema.parse definition with
    | error issues => exact .refuse h _
    | ok parsed =>
      dsimp only
      split
      · exact .refuse h _
      · split
        · exact lines _ _ _
        · split
          · exact lines _ _ _
          · exact .done ((clean_prepend _ _ _).trans (clean_prepend _ _ _)) (.inl rfl)

theorem attempt (hop : op.guarded = true) (hsub : ∀ source client completes, op ≠ .subscribe source client completes) :
    Attempt h (h.operate op) := by
  cases op with
  | produce servient definition freshId => exact produce_attempt h servient definition freshId
  | register servient t => exact withThing_attempt fun x => onServient_attempt h _ _ _
  | enable servient id => exact onServient_attempt h _ _ _
  | disable servient id => exact onServient_attempt h _ _ _
  | removeThing servient id => exact onServient_attempt h _ _ _
  | expose t => exact withThing_attempt fun x => onServient_attempt h _ _ _
  | add t kind name definition handler => exact withThing_attempt fun x => announce_attempt h _ _ _
  | remove t kind name => exact withThing_attempt fun x => announce_attempt h _ _ _
  | setHandler t kind handler name =>
    refine withThing_attempt fun x => ?_
    cases x.setHandler kind (.client handler) name with
    | error e => exact .refuse h _
    | ok y => exact .done rfl (.inl rfl)
  | emit t name payload =>
    refine withThing_attempt fun x => ?_
    cases x.emitted name payload with
    | error e => exact .refuse h _
    | ok e =>
      obtain ⟨hclean, hrest⟩ := publish_attempt (h := h) (k := h) rfl (.own t) e .none
      exact .done hclean hrest
  | subscribe source client completes => exact absurd rfl (hsub source client completes)
  | _ => cases hop

theorem attach_clean (h : Host) (ref : BusRef) (screen : Event → Screening) (completes : Bool) (client : Nat) :
    clean (h.attach ref screen completes (.client client)) = true := by
  unfold Host.attach
  cases h.bus? ref with
  | none => rfl
  | some b => cases hlate : b.completed && completes <;> simp only [hlate] <;> rfl

/-- A subscription is refused, or made. -/
theorem subscribe_attempt (h : Host) (source : Source) (client : Nat) (completes : Bool) :
    (∃ thrown, h.subscribe source client completes = h.returns (.error thrown)) ∨
      clean (h.subscribe source client completes) = true := by
  cases source with
  | bus n guard => exact .inr (attach_clean h _ _ _ _)
  | topic t topic =>
    simp only [subscribe, withThing]
    cases h.things[t]? with
    | none => exact .inr rfl
    | some x =>
      dsimp only
      cases x.screen topic with
      | error e => exact .inl ⟨_, rfl⟩
      | ok screen => exact .inr (attach_clean h _ _ _ _)

theorem refused_there {α : Type} {t : Nat} {f : ExposedThing → Step} {g : ExposedThing → Option α}
    (hc : clean (h.withThing t f) = false) (hg : ∀ x, clean (f x) = false → g x = none) : h.things[t]?.bind g = none := by
  unfold withThing at hc
  cases hx : h.things[t]? with
  | none => rfl
  | some x =>
    rw [hx] at hc
    exact hg x hc

theorem announcing_of_refused {t : Nat} {note : Note} {r : Except Thrown (ExposedThing × Event)}
    (hc : clean (h.announce t note r) = false) : announcing t r = none := by
  rw [announce_clean] at hc
  cases r with
  | error e => rfl
  | ok r => cases hc

/-- What is refused asks nothing of any bus. -/
theorem asks?_of_refused (hop : op.guarded = true) (hc : clean (h.operate op) = false) : h.asks? op = none := by
  cases op with
  | add t kind name definition handler => exact refused_there hc fun x hc => announcing_of_refused hc
  | remove t kind name => exact refused_there hc fun x hc => announcing_of_refused hc
  | emit t name payload =>
    refine refused_there hc fun x hc => ?_
    cases he : x.emitted name payload with
    | error e => rfl
    | ok e =>
      rw [he] at hc
      dsimp only at hc
      rw [publish_clean] at hc
      cases hc
  | subscribe source client completes =>
    cases source with
    | bus n guard => cases hop
    | topic t topic =>
      refine refused_there hc fun x hc => ?_
      cases he : x.screen topic with
      | error e => rfl
      | ok screen =>
        rw [he] at hc
        dsimp only at hc
        rw [attach_clean] at hc
        cases hc
  | _ => first | rfl | cases hop

end Steps

/-! ### The steps after it -/

section Runs
variable {h : Host}

theorem returned?_of_clean {s : Step} (hc : clean s = true) (thrown : Thrown) :
    s.2.findSome? Output.returned? ≠ some (.error thrown) := by
  intro hs
  obtain ⟨o, ho, hr⟩ := List.exists_of_findSome?_eq_some hs
  have hall := List.all_eq_true.mp hc o ho
  cases o with
  | returned r =>
    cases hr
    cases hall
  | _ => cases hr

theorem brokerDone_clean (h : Host) (n : Nat) (r : Reply) : clean (h.brokerDone n r) = true := by
  cases r with
  | done v => rfl
  | promised => rfl
  | threw t =>
    simp only [brokerDone, posted]
    split <;> rfl

/-- When the code that runs in the middle of an operation is done, the operation has returned well, or such code
    runs again. -/
theorem replied_rest {f : Frame} {r : Result} (hf : f.after? = some (.returned (.ok r))) (reply : Reply) :
    (h.replied reply f).1.stack = h.stack ∧ clean (h.replied reply f) = true ∨
      ∃ f', (h.replied reply f).1.stack = f' :: h.stack ∧ f'.after? = some (.returned (.ok r)) := by
  have moved : ∀ (h' : Host) (ref : BusRef) x, h'.stack = h.stack →
      (h'.onBus ref (.returned (.ok r)) x).1.stack = h.stack ∧ clean (h'.onBus ref (.returned (.ok r)) x) = true ∨
        ∃ f', (h'.onBus ref (.returned (.ok r)) x).1.stack = f' :: h.stack ∧
          f'.after? = some (.returned (.ok r)) := by
    intro h' ref x hs
    rcases onBus_rest h' ref (.returned (.ok r)) x with hrest | ⟨f', hrest, hf'⟩
    · exact .inl ⟨hrest.trans hs, (clean_prepend _ _ _).trans (follow_clean _ _ _ _)⟩
    · exact .inr ⟨f', hrest.trans (congrArg _ hs), hf'⟩
  cases f with
  | next ref d after =>
    cases hf
    simp only [replied]
    cases h.bus? ref with
    | none => exact .inl ⟨rfl, rfl⟩
    | some b => exact moved h ref _ rfl
  | complete ref c after =>
    cases hf
    simp only [replied]
    cases h.bus? ref with
    | none => exact .inl ⟨rfl, rfl⟩
    | some b => exact moved h ref _ rfl
  | relaying n ref d after =>
    cases hf
    have hstack : (h.brokerDone n reply).1.stack = h.stack := (brokerDone_aside h n reply).stack
    have hclean := brokerDone_clean h n reply
    have both : ∀ s : Step, clean s = true → clean (prepend (h.brokerDone n reply).2 s) = true := by
      intro s hs
      simp only [clean, prepend, List.all_append, Bool.and_eq_true] at hclean hs ⊢
      exact ⟨hclean, hs⟩
    simp only [replied]
    cases (h.brokerDone n reply).1.bus? ref with
    | none => exact .inl ⟨hstack, both _ rfl⟩
    | some b =>
      rcases moved (h.brokerDone n reply).1 ref (b.afterNext d none) hstack with ⟨hs, hc⟩ | ⟨f', hs, hf'⟩
      · exact .inl ⟨hs, both _ hc⟩
      · exact .inr ⟨f', hs, hf'⟩
  | _ => cases hf

/-- Whatever is done while such code runs, the operation does not throw. -/
theorem returnedAt_of_rest {above base : List Frame} {f : Frame} {r : Result} (g : Grounded h)
    (hs : h.stack = above ++ f :: base) (hf : f.after? = some (.returned (.ok r))) (later : List Input)
    (thrown : Thrown) : returnedAt base.length h later ≠ some (.error thrown) := by
  induction later generalizing h above f with
  | nil => exact fun hr => by cases hr
  | cons i later ih =>
    -- The code is still there after a step, or the step ends it.
    have kept : ∀ above' f', (h.step i).1.stack = above' ++ f' :: base → f'.after? = some (.returned (.ok r)) →
        returnedAt base.length h (i :: later) ≠ some (.error thrown) := by
      intro above' f' hs' hf'
      have hlong : ¬(h.step i).1.stack.length ≤ base.length := by
        rw [hs']
        simp
        omega
      rw [returnedAt, if_neg hlong]
      exact ih (g.step i) hs' hf'
    obtain ⟨new, hstack, -, -⟩ := (step_effect g i).code
    by_cases hreply : ∃ reply, i = .reply reply
    · obtain ⟨reply, rfl⟩ := hreply
      cases above with
      | cons a above =>
        refine kept (new.toList ++ above) f ?_ hf
        rw [hstack, Host.base, hs, List.append_assoc]
        rfl
      | nil =>
        have hstep : h.step (.reply reply) = { h with stack := base }.replied reply f := by
          simp only [step, hs, List.nil_append]
        rcases replied_rest (h := { h with stack := base }) hf reply with ⟨hs', hc⟩ | ⟨f', hs', hf'⟩
        · rw [← hstep] at hs' hc
          have hshort : (h.step (.reply reply)).1.stack.length ≤ base.length := Nat.le_of_eq (congrArg List.length hs')
          rw [returnedAt, if_pos hshort]
          exact returned?_of_clean hc thrown
        · rw [← hstep] at hs'
          exact kept [] f' hs' hf'
    · have hbase : h.base i = h.stack := by
        cases i with
        | reply reply => exact absurd ⟨reply, rfl⟩ hreply
        | _ => rfl
      refine kept (new.toList ++ above) f ?_ hf
      rw [hstack, hbase, hs, List.append_assoc]

end Runs

/-! ### The law -/

section Law
variable {earlier later : List Input} {op : Operation} {thrown : Thrown}

theorem leavesAll_of_refused (hop : op.guarded = true) (lines : List LogLine)
    (hall : (reached earlier).step (.operate op) = (reached earlier, lines.map .log ++ [.returned (.error thrown)])) :
    LeavesAll earlier op thrown := by
  have hunclean : clean ((reached earlier).step (.operate op)) = false := by
    rw [hall]
    simp [clean]
  have hasks := asks?_of_refused hop hunclean
  have hquiet : ∀ ref, moveOn ref (reached earlier) (.operate op) = none := by
    intro ref
    simp only [moveOn, move?, hasks]
    rfl
  refine ⟨?_, ⟨lines, congrArg Prod.snd hall⟩, fun ref => ?_, fun s => ?_⟩
  · rw [reached_snoc, hall]
  · simp only [taken?, hquiet]
  · have hnone : handed? s (reached earlier) (.operate op) = none := by
      rw [handed?_eq (grounded_reached earlier), startedOn, hquiet]
      rfl
    rw [received, seen_snoc, hnone]
    exact List.append_nil _

theorem returned?_of_refused (lines : List LogLine) (thrown : Thrown) :
    (lines.map Output.log ++ [Output.returned (.error thrown)]).findSome? Output.returned? = some (.error thrown) := by
  have hnone : (lines.map Output.log).findSome? Output.returned? = none := by
    rw [List.findSome?_eq_none_iff]
    intro o ho
    obtain ⟨line, -, rfl⟩ := List.mem_map.mp ho
    rfl
  rw [List.findSome?_append, hnone]
  rfl

/-- What an operation throws, it throws in the step that asks for it, and it leaves everything as it was. -/
theorem failure_law (hop : op.guarded = true) (hthrown : outcome? earlier op later = some (.error thrown)) :
    LeavesAll earlier op thrown := by
  -- Refused at once, an operation returns with what it throws.
  have refused : ∀ (lines : List LogLine) thrown' rest, (reached earlier).step (.operate op) =
        (reached earlier, lines.map Output.log ++ [.returned (.error thrown')]) →
      returnedAt (reached earlier).stack.length (reached earlier) (.operate op :: rest) = some (.error thrown) →
      LeavesAll earlier op thrown := by
    intro lines thrown' rest hall hr
    rw [returnedAt, hall, if_pos (Nat.le_refl _), returned?_of_refused] at hr
    cases hr
    exact leavesAll_of_refused hop lines hall
  by_cases hsub : ∃ source client completes, op = .subscribe source client completes
  · obtain ⟨source, client, completes, rfl⟩ := hsub
    rcases subscribe_attempt (reached earlier) source client completes with ⟨thrown', hs⟩ | hc
    · exact refused [] thrown' [] hs hthrown
    · simp only [outcome?, returnedAt] at hthrown
      split at hthrown
      · exact absurd hthrown (returned?_of_clean hc thrown)
      · cases hthrown
  · have hrest : outcome? earlier op later =
        returnedAt (reached earlier).stack.length (reached earlier) (.operate op :: later) := by
      cases op with
      | subscribe source client completes => exact absurd ⟨source, client, completes, rfl⟩ hsub
      | _ => rfl
    rw [hrest] at hthrown
    rcases attempt hop (fun source client completes h => hsub ⟨source, client, completes, h⟩) with
      ⟨lines, thrown', hall⟩ | ⟨hc, hs | ⟨f, r, hs, hf⟩⟩
    · exact refused lines thrown' later hall hthrown
    · have hshort : ((reached earlier).step (.operate op)).1.stack.length ≤ (reached earlier).stack.length :=
        Nat.le_of_eq (congrArg List.length hs)
      rw [returnedAt, if_pos hshort] at hthrown
      exact absurd hthrown (returned?_of_clean hc thrown)
    · have hlong : ¬((reached earlier).step (.operate op)).1.stack.length ≤ (reached earlier).stack.length := by
        have hlen : ((reached earlier).step (.operate op)).1.stack.length = (reached earlier).stack.length + 1 :=
          congrArg List.length hs
        omega
      rw [returnedAt, if_neg hlong] at hthrown
      have g := (grounded_reached earlier).step (.operate op)
      have hrest : ((reached earlier).step (.operate op)).1.stack = [] ++ f :: (reached earlier).stack := hs
      exact absurd hthrown (returnedAt_of_rest g hrest hf later thrown)

/-- A door whose watcher, told that it has a lock, declares the lock again. -/
def door : List Input :=
  [ .operate (.newThing 0 "door" "Door" none),
    .operate (.subscribe (.topic 0 .description) 3 true),
    .operate (.add 0 .action (.string "lock") .undefined (some 7)) ]

theorem door_unchanged : let again : Operation := .add 0 .property (.string "lock") .undefined none
    (reached door).stack.length = 1 ∧
    outcome? door again [.reply (.threw (.failure "Error" "no"))] = some (refuse (.duplicateInteraction "lock")) ∧
    LeavesAll door again (.ofRefusal (.duplicateInteraction "lock")) := by
  intro again
  have hthrown : outcome? door again [.reply (.threw (.failure "Error" "no"))] =
      some (refuse (.duplicateInteraction "lock")) := by rfl
  exact ⟨by rfl, hthrown, failure_law (by rfl) hthrown⟩

end Law

end Host
end ThingHost
