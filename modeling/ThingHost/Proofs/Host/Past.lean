import ThingHost.Proofs.Exposed.Past
import ThingHost.Proofs.Host.Stream

/-! What a run did to a Thing. An input does something to a Thing if it is an operation on it that is not
    refused; the rest of the host changes its bus alone, so all that a Thing is comes from what was done to
    it, in the order in which it was done. -/

namespace ThingHost

/-- The Thing that an operation changes, if it changes one. -/
def Operation.changes? : Operation → Option Nat
  | .add t .. => some t
  | .remove t .. => some t
  | .setHandler t .. => some t
  | .call t .. => some t
  | _ => none

namespace ExposedThing

/-- The handler that comes with what is declared: the one that a client gives beside the definition. Without it
    whatever stands under `handler` in the definition of an action is taken for one, unless it is as good as nothing,
    and cannot be called. -/
def brought (kind : InteractionKind) (definition : Value) : Option Nat → Option Handler
  | some c => some (.client c)
  | none =>
    match kind with
    | .action => if (definition.member "handler").isVoid then none else some .broken
    | _ => none

theorem givenHandler_eq (kind : InteractionKind) (definition : Value) (handler : Option Nat) :
    givenHandler kind definition (handler.map .client) = brought kind definition handler := by
  cases handler with
  | some c => rfl
  | none =>
    cases kind with
    | action => cases hv : (definition.member "handler").isVoid <;> simp [givenHandler, brought, hv]
    | _ => rfl

theorem brought_ne (kind : InteractionKind) (definition : Value) (handler : Option Nat) :
    brought kind definition handler ≠ some .standard := by
  cases handler with
  | some c => exact fun h => by cases h
  | none =>
    cases kind with
    | action =>
      simp only [brought]
      split <;> exact fun h => by cases h
    | _ => exact fun h => by cases h

/-- What an operation does to a Thing, unless it is refused. -/
def deed? (x : ExposedThing) : Operation → Option Deed
  | .add _ kind name definition handler => name.asText?.bind fun s =>
      (parsed? kind name definition).map fun parsed => .declared (interactionOf x.nextSerial kind s parsed) parsed
        (brought kind definition handler)
  | .remove _ kind name => (x.thing.findKind? kind name).map .withdrawn
  | .setHandler _ kind handler name => some (.handled kind (.client handler) (name.bind (·.asText?)))
  | .call _ (.write property v) => ((x.thing.findKind? .property property).filter (·.writable)).map (.written · v)
  | _ => none

/-- A write is refused, or done to the property that it finds. -/
theorem write_cases (x : ExposedThing) (t : Nat) (property v : Value) :
    (x.deed? (.call t (.write property v)) = none ∧ ∃ e, x.accept (.write property v) = .error e) ∨
      ∃ i, x.thing.findKind? .property property = some i ∧ x.deed? (.call t (.write property v)) = some (.written i v) ∧
        x.accept (.write property v) = .ok (i, x.handlers.get .write (some i.serial)) ∧
        x.answer (.write property v) = ({ x with store := x.store.set i.serial v }, .ok .undefined) := by
  cases hf : x.thing.findKind? .property property with
  | none =>
    exact .inl ⟨by simp [deed?, hf], .notFound .property property, accept_of_missing hf⟩
  | some i =>
    cases hw : i.writable with
    | false =>
      exact .inl ⟨by simp [deed?, hf, hw], .notWritable i.name, accept_of_locked hf rfl hw⟩
    | true =>
      exact .inr ⟨i, rfl, by simp [deed?, hf, hw], accept_of_open hf fun _ => hw, answer_of_found hf⟩

/-- The declarations with which a Thing is made. -/
def declaredFrom (serial : Nat) : List (InteractionKind × String × Value) → List Deed
  | [] => []
  | (kind, name, definition) :: rest =>
    ((parsed? kind (.string name) definition).map fun parsed =>
      .declared (interactionOf serial kind name parsed) parsed (brought kind definition none)).toList ++
      declaredFrom (serial + 1) rest

theorem mem_declaredFrom {serial : Nat} {ns : List (InteractionKind × String × Value)} {d : Deed}
    (hd : d ∈ declaredFrom serial ns) : ∃ kind name definition, (kind, name, definition) ∈ ns ∧ ∃ serial parsed,
      d = .declared (interactionOf serial kind name parsed) parsed (brought kind definition none) := by
  induction ns generalizing serial with
  | nil => cases hd
  | cons n ns ih =>
    obtain ⟨kind, name, definition⟩ := n
    rcases List.mem_append.mp hd with hd | hd
    · obtain ⟨parsed, -, rfl⟩ := Option.map_eq_some_iff.mp (Option.mem_toList.mp hd)
      exact ⟨kind, name, definition, List.mem_cons_self, serial, parsed, rfl⟩
    · obtain ⟨kind', name', definition', hn, hd⟩ := ih hd
      exact ⟨kind', name', definition', List.mem_cons_of_mem _ hn, hd⟩

end ExposedThing

namespace Host

/-- What an input does to a Thing. A Thing that is made from a definition is declared at once. -/
def deeds (t : Nat) (h : Host) : Input → List Deed
  | .operate (.produce servient definition freshId) =>
    if t = h.things.length ∧ t < (h.produce servient definition freshId).1.things.length then
      (thingSchema.parse definition).toOption.elim [] fun parsed => ExposedThing.declaredFrom 0 (declarations parsed)
    else []
  | .operate op =>
    if op.changes? = some t ∧ clean (h.operate op) then (h.things[t]?.bind (·.deed? op)).toList else []
  | _ => []

/-- All that was done to a Thing in the course of a run. -/
def history (t : Nat) (inputs : List Input) : List Deed := (seen (fun h i => some (deeds t h i)) .new inputs).flatten

theorem history_snoc (t : Nat) (inputs : List Input) (i : Input) :
    history t (inputs ++ [i]) = history t inputs ++ deeds t (reached inputs) i := by
  simp [history, seen_snoc]

theorem history_grows (t : Nat) (a b : List Input) : history t a <+: history t (a ++ b) := by
  rw [history, history, seen_append, List.flatten_append]
  exact List.prefix_append _ _

/-! ### Things without their buses -/

end Host

/-- A Thing as if nobody had ever listened to it. -/
def ExposedThing.bare (x : ExposedThing) : ExposedThing := { x with bus := .new }

namespace Host

def bare (h : Host) : List ExposedThing := h.things.map ExposedThing.bare

section Bare
variable {h h' : Host} {t : Nat} {x y : ExposedThing}

theorem bare_of_things (ht : h'.things = h.things) : h'.bare = h.bare := by rw [bare, bare, ht]

theorem bare_of_thing (hx : h.things[t]? = some x) : h.bare[t]? = some x.bare := by
  rw [bare, List.getElem?_map, hx]
  rfl

theorem thing_of_bare (hx : h.things[t]? = some x) (hb : h.bare[t]? = some y.bare) : x = { y with bus := x.bus } := by
  have heq : x.bare = y.bare := Option.some.inj ((bare_of_thing hx).symm.trans hb)
  cases x
  cases y
  cases heq
  rfl

theorem set_bare (hx : h.things[t]? = some x) : h.bare.set t x.bare = h.bare := by
  obtain ⟨hlt, hget⟩ := List.getElem?_eq_some_iff.mp (bare_of_thing hx)
  rw [← hget]
  exact List.set_getElem_self hlt

theorem setThing_bare (h : Host) (t : Nat) (y : ExposedThing) : (h.setThing t y).bare = h.bare.set t y.bare :=
  List.map_set ..

theorem setBus_bare (h : Host) (ref : BusRef) (b : Bus Listener) : (h.setBus ref b).bare = h.bare := by
  cases ref with
  | alone n => rfl
  | own t =>
    simp only [setBus]
    cases hx : h.things[t]? with
    | none => rfl
    | some x =>
      have hset : h.bare.set t x.bare = h.bare := set_bare hx
      exact (setThing_bare h t _).trans hset

theorem onBus_bare (h : Host) (ref : BusRef) (after : After) (r : Bus Listener × List Note × Turn Listener) :
    (h.onBus ref after r).1.bare = h.bare :=
  (bare_of_things (follow_things _ ref after r.2.2)).trans (setBus_bare h ref r.1)

theorem finish_bare (h : Host) (after : After) : (h.finish after).1.bare = h.bare :=
  bare_of_things (follow_things h (.alone 0) after .over)

theorem publish_bare (h : Host) (ref : BusRef) (e : Event) (after : After) : (h.publish ref e after).1.bare = h.bare := by
  unfold Host.publish
  cases h.bus? ref with
  | none => exact finish_bare h after
  | some b => exact onBus_bare h ref after _

theorem complete_bare (h : Host) (ref : BusRef) (after : After) : (h.complete ref after).1.bare = h.bare := by
  unfold Host.complete
  cases h.bus? ref with
  | none => exact finish_bare h after
  | some b => exact onBus_bare h ref after _

theorem attach_bare (h : Host) (ref : BusRef) (screen : Event → Screening) (completes : Bool) (l : Listener) :
    (h.attach ref screen completes l).1.bare = h.bare := by
  unfold Host.attach
  cases h.bus? ref with
  | none => rfl
  | some b =>
    have hset := setBus_bare h ref (b.attach screen completes l).1
    dsimp only
    split
    · exact hset
    · exact hset

theorem setProgress_things (h : Host) (n : Nat) (p : Progress) : (h.setProgress n p).things = h.things := by
  unfold setProgress
  split <;> rfl

theorem setStage_things (h : Host) (n : Nat) (s : Stage) : (h.setStage n s).things = h.things := by
  unfold setStage
  split <;> rfl

theorem posted_things (h : Host) (n : Nat) (failure : Option Thrown) : (h.posted n failure).1.things = h.things := by
  unfold posted
  split
  · rfl
  · exact setStage_things h n .over

theorem brokerDone_things (h : Host) (n : Nat) (r : Reply) : (h.brokerDone n r).1.things = h.things := by
  cases r with
  | done v => exact setStage_things h n .answered
  | threw t => exact posted_things h n (some t)
  | promised => exact setStage_things h n .waiting

theorem onServient_things (h : Host) (servient : Nat) (f : Servient → Except ThingError Servient) (note : Note) :
    (h.onServient servient f note).1.things = h.things := by
  unfold onServient
  split
  · rfl
  · split <;> rfl

theorem post_things (h : Host) (broker : Nat) (thing : Value) (e : Event) : (h.post broker thing e).1.things = h.things := by
  unfold post
  split
  · rfl
  · dsimp only
    split
    · rfl
    · exact setStage_things _ _ _

theorem withThing_bare {f : ExposedThing → Step} (hf : ∀ x, (f x).1.bare = h.bare) : (h.withThing t f).1.bare = h.bare := by
  unfold withThing
  split
  · exact hf _
  · rfl

theorem resume_bare (h : Host) (n : Nat) (answer : Outcome) : (h.resume n answer).1.bare = h.bare := by
  unfold resume
  split
  · rfl
  · split
    · exact finish_bare h (.settled n _)
    · exact finish_bare h (.settled n _)
    · exact publish_bare h _ _ _
    · exact publish_bare h _ _ _

theorem replied_bare (h : Host) (r : Reply) (f : Frame) : (h.replied r f).1.bare = h.bare := by
  cases f with
  | next ref d after =>
    simp only [replied]
    split
    · exact onBus_bare h ref after _
    · rfl
  | complete ref c after =>
    simp only [replied]
    split
    · exact onBus_bare h ref after _
    · rfl
  | late s => cases r <;> rfl
  | handler n => cases r <;> exact bare_of_things (setProgress_things h n _)
  | relaying n ref d after =>
    have hdone : (h.brokerDone n r).1.bare = h.bare := bare_of_things (brokerDone_things h n r)
    simp only [replied, prepend]
    split
    · exact (onBus_bare _ ref after _).trans hdone
    · exact hdone
  | posting n => exact bare_of_things (brokerDone_things h n r)
  | woken => rfl

theorem work_bare (h : Host) : h.work.1.bare = h.bare := by
  unfold work
  split
  · rfl
  · rename_i job queue _
    cases job with
    | resume n answer => exact resume_bare { h with queue } n answer
    | posted n failure => exact bare_of_things (posted_things { h with queue } n failure)
    | wake token => rfl

end Bare

/-! ### What a step does -/

/-- The Things of a host are left alone, or something is done to one of them, or one is made. -/
inductive Changes (h : Host) (deeds : Nat → List Deed) (after : List ExposedThing) : Prop where
  | same (same : after = h.bare) (quiet : ∀ t, deeds t = [])
  | does {t : Nat} {x y : ExposedThing} (there : h.things[t]? = some x) (deed : x.Does (deeds t) y)
      (set : after = h.bare.set t y.bare) (others : ∀ t', t' ≠ t → deeds t' = [])
  | made {x : ExposedThing} (past : ExposedThing.Past (deeds h.things.length) x) (grown : after = h.bare ++ [x.bare])
      (others : ∀ t, t ≠ h.things.length → deeds t = [])

section Steps
variable {h : Host} {t : Nat} {x : ExposedThing} {op : Operation}

theorem deeds_operate (hop : ∀ servient definition freshId, op ≠ .produce servient definition freshId) (t : Nat) :
    deeds t h (.operate op) =
      if op.changes? = some t ∧ clean (h.operate op) then (h.things[t]?.bind (·.deed? op)).toList else [] := by
  cases op with
  | produce servient definition freshId => exact absurd rfl (hop _ _ _)
  | _ => rfl

/-- Whatever is done to a Thing, the Thing is made with it, or an operation that is not refused does it. -/
theorem deeds_cases {i : Input} {d : Deed} (hd : d ∈ deeds t h i) :
    (∃ servient definition freshId parsed, i = .operate (.produce servient definition freshId) ∧
      thingSchema.parse definition = .ok parsed ∧
      h.things.length < (h.produce servient definition freshId).1.things.length ∧
      d ∈ ExposedThing.declaredFrom 0 (declarations parsed)) ∨
    ∃ op x, i = .operate op ∧ op.changes? = some t ∧ clean (h.operate op) = true ∧ h.things[t]? = some x ∧
      x.deed? op = some d := by
  cases i with
  | operate op =>
    by_cases hop : ∃ servient definition freshId, op = .produce servient definition freshId
    · obtain ⟨servient, definition, freshId, rfl⟩ := hop
      simp only [deeds] at hd
      split at hd
      · rename_i hmade
        cases hp : thingSchema.parse definition with
        | error issues =>
          rw [hp] at hd
          cases hd
        | ok parsed =>
          rw [hp] at hd
          exact .inl ⟨servient, definition, freshId, parsed, rfl, hp, hmade.1 ▸ hmade.2, hd⟩
      · cases hd
    · rw [deeds_operate fun servient definition freshId heq => hop ⟨_, _, _, heq⟩] at hd
      split at hd
      · rename_i hdone
        obtain ⟨x, hx, hd⟩ := Option.bind_eq_some_iff.mp (Option.mem_toList.mp hd)
        exact .inr ⟨op, x, rfl, hdone.1, hdone.2, hx, hd⟩
      · cases hd
  | _ => cases hd

/-- An operation on no Thing. -/
theorem Changes.apart (hop : ∀ servient definition freshId, op ≠ .produce servient definition freshId)
    (hnone : op.changes? = none) (hsame : (h.operate op).1.bare = h.bare) :
    Changes h (deeds · h (.operate op)) (h.operate op).1.bare :=
  .same hsame fun t => by simp [deeds_operate hop, hnone]

/-- An operation on a Thing. -/
theorem Changes.on (hop : op.changes? = some t) (hx : h.things[t]? = some x)
    (hdone : clean (h.operate op) = true → ∃ y, x.Does (x.deed? op).toList y ∧ (h.operate op).1.bare = h.bare.set t y.bare)
    (hrefused : clean (h.operate op) = false → (h.operate op).1.bare = h.bare) :
    Changes h (deeds · h (.operate op)) (h.operate op).1.bare := by
  have hne : ∀ servient definition freshId, op ≠ .produce servient definition freshId := by
    rintro _ _ _ rfl
    cases hop
  cases hc : clean (h.operate op) with
  | true =>
    obtain ⟨y, hd, hset⟩ := hdone hc
    refine .does hx ?_ hset fun t' ht => ?_
    · simpa [deeds_operate hne, hop, hc, hx] using hd
    · simp [deeds_operate hne, hop, Ne.symm ht]
  | false => exact .same (hrefused hc) fun t' => by simp [deeds_operate hne, hc]

theorem withThing_changes (hop : op.changes? = some t) {f : ExposedThing → Step} (hf : h.operate op = h.withThing t f)
    (hthere : ∀ x, h.things[t]? = some x → Changes h (deeds · h (.operate op)) (h.operate op).1.bare) :
    Changes h (deeds · h (.operate op)) (h.operate op).1.bare := by
  have hne : ∀ servient definition freshId, op ≠ .produce servient definition freshId := by
    rintro _ _ _ rfl
    cases hop
  cases hx : h.things[t]? with
  | none =>
    refine .same ?_ fun t' => ?_
    · rw [hf, withThing, hx]
    · rw [deeds_operate hne, hop]
      split
      · rename_i hc
        obtain rfl := Option.some.inj hc.1
        rw [hx]
        rfl
      · rfl
  | some x => exact hthere x hx

theorem announce_bare (h : Host) (t : Nat) (note : Note) (r : Except Thrown (ExposedThing × Event)) :
    (h.announce t note r).1.bare = match r with
      | .ok (y, _) => h.bare.set t y.bare
      | .error _ => h.bare := by
  cases r with
  | error e => rfl
  | ok r => exact (publish_bare _ _ _ _).trans (setThing_bare h t r.1)

/-- What is announced is done to the Thing, unless it is refused. -/
theorem announce_changes (hop : op.changes? = some t) (hx : h.things[t]? = some x) {note : Note}
    {r : Except Thrown (ExposedThing × Event)} (hstep : h.operate op = h.announce t note r)
    (hok : ∀ y e, r = .ok (y, e) → x.Does (x.deed? op).toList y) :
    Changes h (deeds · h (.operate op)) (h.operate op).1.bare := by
  refine Changes.on hop hx (fun hc => ?_) fun hc => ?_
  · rw [hstep, announce_clean] at hc
    rcases r with e | ⟨y, e⟩
    · cases hc
    · exact ⟨y, hok y e rfl, by rw [hstep, announce_bare]⟩
  · rw [hstep, announce_clean] at hc
    rcases r with e | r
    · rw [hstep, announce_bare]
    · cases hc

theorem add_changes (t : Nat) (kind : InteractionKind) (name definition : Value) (handler : Option Nat) :
    Changes h (deeds · h (.operate (.add t kind name definition handler)))
      (h.operate (.add t kind name definition handler)).1.bare := by
  refine withThing_changes rfl rfl fun x hx => ?_
  refine announce_changes rfl hx (operate_add hx kind name definition handler) fun y e hr => ?_
  obtain ⟨s, parsed, rfl, hparsed, -, hfresh, rfl, -⟩ := ExposedThing.add_eq_ok.mp hr
  have hdeed : x.Does [.declared (interactionOf x.nextSerial kind s parsed) parsed
      (ExposedThing.givenHandler kind definition (handler.map .client))] _ := .declared parsed _ hfresh
  rw [ExposedThing.givenHandler_eq] at hdeed ⊢
  simpa [ExposedThing.deed?, Value.asText?, hparsed] using hdeed

theorem remove_changes (t : Nat) (kind : InteractionKind) (name : Value) :
    Changes h (deeds · h (.operate (.remove t kind name))) (h.operate (.remove t kind name)).1.bare := by
  refine withThing_changes rfl rfl fun x hx => ?_
  refine announce_changes rfl hx (operate_remove hx kind name) fun y e hr => ?_
  obtain ⟨i, hi, rfl, -⟩ := ExposedThing.remove_eq_ok.mp (ExposedThing.mapError_eq_ok.mp hr)
  have hfind := ExposedThing.findKind?_of_require hi
  have hdeed := ExposedThing.Does.withdrawn (ExposedThing.mem_of_findKind? hfind).1
  simpa [ExposedThing.deed?, hfind] using hdeed

theorem setHandler_changes (t : Nat) (kind : CallKind) (handler : Nat) (name : Option Value) :
    Changes h (deeds · h (.operate (.setHandler t kind handler name)))
      (h.operate (.setHandler t kind handler name)).1.bare := by
  refine withThing_changes rfl rfl fun x hx => ?_
  cases name with
  | none =>
    have hstep : h.operate (.setHandler t kind handler none) =
        (h.setThing t { x with handlers := x.handlers.set kind (.client handler) none }).returns (.ok .none) := by
      simp [operate, withThing, hx, ExposedThing.setHandler]
    refine Changes.on rfl hx (fun _ => ⟨_, .handledAll kind (.client handler), ?_⟩) fun hc => ?_
    · rw [hstep]
      exact setThing_bare _ _ _
    · rw [hstep] at hc
      cases hc
  | some name =>
    cases hr : x.thing.require (ExposedThing.target kind) name with
    | error e =>
      have hstep : h.operate (.setHandler t kind handler (some name)) = h.returns (refuse e) := by
        simp [operate, withThing, hx, ExposedThing.setHandler, hr, bind, Except.bind]
      refine Changes.on rfl hx (fun hc => ?_) fun _ => ?_
      · rw [hstep] at hc
        cases hc
      · rw [hstep]
        rfl
    | ok i =>
      have hstep : h.operate (.setHandler t kind handler (some name)) =
          (h.setThing t { x with handlers := x.handlers.set kind (.client handler) (some i.serial) }).returns (.ok .none) := by
        simp [operate, withThing, hx, ExposedThing.setHandler, hr, bind, Except.bind, pure, Except.pure]
      have hi := (ExposedThing.mem_of_findKind? (ExposedThing.findKind?_of_require hr)).1
      obtain rfl := ExposedThing.name_of_require hr
      refine Changes.on rfl hx (fun _ => ⟨_, .handledOne kind (.client handler) hi, ?_⟩) fun hc => ?_
      · rw [hstep]
        exact setThing_bare _ _ _
      · rw [hstep] at hc
        cases hc

theorem call_bare (hx : h.things[t]? = some x) (ask : Ask) : clean (h.operate (.call t ask)) = true ∧
    (h.operate (.call t ask)).1.bare = match x.accept ask with
      | .ok (_, .standard) => h.bare.set t (x.answer ask).1.bare
      | _ => h.bare := by
  have hstep : h.operate (.call t ask) = h.call t ask := rfl
  rw [hstep]
  unfold call withThing
  rw [hx]
  dsimp only
  rcases x.accept ask with e | ⟨i, handler⟩
  · exact ⟨rfl, rfl⟩
  · refine ⟨?_, ?_⟩
    · refine (clean_prepend _ _ _).trans ?_
      cases handler <;> rfl
    · cases handler with
      | client c => rfl
      | broken => exact bare_of_things (setProgress_things _ _ _)
      | standard => exact (bare_of_things (setProgress_things _ _ _)).trans (setThing_bare _ _ _)

theorem deeds_call (hx : h.things[t]? = some x) (ask : Ask) :
    deeds t h (.operate (.call t ask)) = (x.deed? (.call t ask)).toList := by
  rw [deeds_operate (by simp), if_pos ⟨rfl, (call_bare hx ask).1⟩, hx]
  rfl

theorem call_changes (t : Nat) (ask : Ask) :
    Changes h (deeds · h (.operate (.call t ask))) (h.operate (.call t ask)).1.bare := by
  refine withThing_changes rfl rfl fun x hx => ?_
  obtain ⟨hclean, hbare⟩ := call_bare hx ask
  refine Changes.on rfl hx (fun _ => ?_) fun hc => ?_
  · rw [hbare]
    -- Unless a write is accepted, nothing is done, and the host's own answer leaves the Thing as it is.
    have idle : (x.answer ask).1 = x → x.deed? (.call t ask) = none → ∃ y, x.Does (x.deed? (.call t ask)).toList y ∧
        (match x.accept ask with
          | .ok (_, .standard) => h.bare.set t (x.answer ask).1.bare
          | _ => h.bare) = h.bare.set t y.bare := by
      intro hanswer hdeed
      refine ⟨x, ?_, ?_⟩
      · rw [hdeed]
        exact .nothing
      · rw [hanswer, set_bare hx]
        split <;> rfl
    cases ask with
    | read property =>
      refine idle ?_ rfl
      simp only [ExposedThing.answer]
      split <;> rfl
    | invoke action arguments => exact idle rfl rfl
    | write property v =>
      rcases x.write_cases t property v with ⟨hdeed, e, ha⟩ | ⟨i, hf, hdeed, ha, hanswer⟩
      · rw [hdeed, ha]
        exact ⟨x, .nothing, (set_bare hx).symm⟩
      · obtain ⟨hi, hkind⟩ := ExposedThing.mem_of_findKind? hf
        rw [hdeed, ha, hanswer]
        cases hg : x.handlers.get .write (some i.serial) with
        | standard => exact ⟨{ x with store := x.store.set i.serial v }, .written v hi hkind hg, rfl⟩
        | client c => exact ⟨x, .passed v hi hkind (by simp [hg]), (set_bare hx).symm⟩
        | broken => exact ⟨x, .passed v hi hkind (by simp [hg]), (set_bare hx).symm⟩
  · rw [hclean] at hc
    cases hc

/-! ### Things that are made -/

theorem declareAll_past {ds : List Deed} {y : ExposedThing} {ns : List (InteractionKind × String × Value)}
    (hpast : ExposedThing.Past ds x) (hy : (declareAll x ns).1 = .ok y) :
    ExposedThing.Past (ds ++ ExposedThing.declaredFrom x.nextSerial ns) y := by
  induction ns generalizing x ds with
  | nil =>
    cases hy
    rw [ExposedThing.declaredFrom, List.append_nil]
    exact hpast
  | cons n ns ih =>
    obtain ⟨kind, name, definition⟩ := n
    simp only [declareAll] at hy
    rcases hr : x.add kind (.string name) definition none with e | ⟨x', e⟩
    · rw [hr] at hy
      cases hy
    · rw [hr] at hy
      obtain ⟨s, parsed, hs, hparsed, -, hfresh, rfl, -⟩ := ExposedThing.add_eq_ok.mp hr
      cases hs
      have hmore := ih (hpast.does (.declared parsed _ hfresh) _) hy
      rw [show ExposedThing.givenHandler kind definition none = ExposedThing.brought kind definition none from
        ExposedThing.givenHandler_eq kind definition none] at hmore
      simpa [ExposedThing.declaredFrom, hparsed, ExposedThing.declared] using hmore

theorem produce_changes (servient : Nat) (definition : Value) (freshId : String) :
    Changes h (deeds · h (.operate (.produce servient definition freshId)))
      (h.operate (.produce servient definition freshId)).1.bare := by
  have refused : (h.produce servient definition freshId).1.things = h.things →
      Changes h (deeds · h (.operate (.produce servient definition freshId)))
        (h.operate (.produce servient definition freshId)).1.bare := by
    intro hsame
    refine .same (bare_of_things hsame) fun t => ?_
    have hlt : ¬(t = h.things.length ∧ t < h.things.length) := fun hc => Nat.lt_irrefl _ (hc.1 ▸ hc.2)
    simp only [deeds, hsame, hlt, ↓reduceIte]
  cases hs : h.servients[servient]? with
  | none => exact refused (by simp [produce, hs])
  | some s =>
    cases hp : thingSchema.parse definition with
    | error issues => exact refused (by simp [produce, hs, hp, returns])
    | ok parsed =>
      cases hid : s.has ((parsed.text? "id").getD freshId) with
      | true => exact refused (by simp [produce, hs, hp, hid, returns])
      | false =>
        cases hd : declareAll (ExposedThing.new servient (.new ((parsed.text? "id").getD freshId)
            ((parsed.text? "name").getD "") (parsed.text? "description"))) (declarations parsed) with
        | mk r notes =>
          cases r with
          | error e => exact refused (by simp [produce, hs, hp, hid, hd, returns, prepend])
          | ok x =>
            cases hr : s.register ((parsed.text? "id").getD freshId) h.things.length with
            | error e => exact refused (by simp [produce, hs, hp, hid, hd, hr, returns, prepend])
            | ok s' =>
              have hthings : (h.produce servient definition freshId).1.things = h.things ++ [x] := by
                simp [produce, hs, hp, hid, hd, hr, returns, prepend, setServient]
              refine .made (x := x) ?_ ?_ fun t ht => ?_
              · have hpast := declareAll_past (ExposedThing.Past.new _ _ _ _) (congrArg Prod.fst hd)
                simpa [deeds, hthings, hp, Except.toOption, ExposedThing.new] using hpast
              · show (h.produce servient definition freshId).1.bare = _
                rw [bare, hthings, List.map_append]
                rfl
              · simp [deeds, ht]

/-! ### Steps -/

theorem operate_changes (h : Host) (op : Operation) : Changes h (deeds · h (.operate op)) (h.operate op).1.bare := by
  cases op with
  | produce servient definition freshId => exact produce_changes servient definition freshId
  | newThing servient id name description =>
    refine .made (x := .new servient (.new id name description)) (.new servient id name description) ?_ fun t _ => by
      simp [deeds, Operation.changes?]
    simp [operate, returns, bare]
  | add t kind name definition handler => exact add_changes t kind name definition handler
  | remove t kind name => exact remove_changes t kind name
  | setHandler t kind handler name => exact setHandler_changes t kind handler name
  | call t ask => exact call_changes t ask
  | newServient => exact Changes.apart (by simp) rfl rfl
  | register servient t =>
    exact Changes.apart (by simp) rfl (withThing_bare fun x => bare_of_things (onServient_things h _ _ _))
  | enable servient id => exact Changes.apart (by simp) rfl (bare_of_things (onServient_things h _ _ _))
  | disable servient id => exact Changes.apart (by simp) rfl (bare_of_things (onServient_things h _ _ _))
  | removeThing servient id => exact Changes.apart (by simp) rfl (bare_of_things (onServient_things h _ _ _))
  | expose t =>
    exact Changes.apart (by simp) rfl (withThing_bare fun x => bare_of_things (onServient_things h _ _ _))
  | destroy t =>
    refine Changes.apart (by simp) rfl (withThing_bare fun x => ?_)
    split
    · rfl
    · split <;> exact complete_bare _ _ _
  | emit t name payload =>
    refine Changes.apart (by simp) rfl (withThing_bare fun x => ?_)
    split
    · exact publish_bare h _ _ _
    · rfl
  | subscribe source client completes =>
    refine Changes.apart (by simp) rfl ?_
    cases source with
    | topic t topic =>
      refine withThing_bare fun x => ?_
      split
      · rfl
      · exact attach_bare h _ _ _ _
    | bus n guard => exact attach_bare h _ _ _ _
  | unsubscribe s =>
    refine Changes.apart (by simp) rfl ?_
    show (h.unsubscribe s).1.bare = h.bare
    unfold unsubscribe
    split
    · rfl
    · exact setBus_bare h _ _
  | newBus => exact Changes.apart (by simp) rfl rfl
  | publish n e => exact Changes.apart (by simp) rfl (publish_bare h _ _ _)
  | complete n => exact Changes.apart (by simp) rfl (complete_bare h _ _)
  | relay t broker => exact Changes.apart (by simp) rfl (withThing_bare fun x => attach_bare h _ _ _ _)
  | post broker thing e => exact Changes.apart (by simp) rfl (bare_of_things (post_things h broker thing e))

/-- Only operations do anything to Things. -/
theorem step_changes (h : Host) (i : Input) : Changes h (deeds · h i) (h.step i).1.bare := by
  cases i with
  | operate op => exact operate_changes h op
  | reply r =>
    refine .same ?_ fun t => rfl
    simp only [step]
    split
    · rfl
    · exact replied_bare _ _ _
  | answer n outcome =>
    refine .same ?_ fun t => rfl
    simp only [step]
    split
    · exact bare_of_things (setProgress_things h n .answered)
    · rfl
  | acknowledge n failure =>
    refine .same ?_ fun t => rfl
    simp only [step]
    split
    · exact bare_of_things (setStage_things h n .answered)
    · rfl
  | defer token => exact .same rfl fun t => rfl
  | tick =>
    refine .same ?_ fun t => rfl
    simp only [step]
    split
    · exact work_bare h
    · rfl
  | setClock ms => exact .same rfl fun t => rfl

end Steps

/-! ### The past of a Thing -/

section Runs
variable {t : Nat} {inputs : List Input} {x : ExposedThing}

/-- What an input does to a Thing that is there. -/
theorem step_does {h : Host} (hx : h.things[t]? = some x) (i : Input) :
    ∃ y b, x.Does (deeds t h i) y ∧ (h.step i).1.things[t]? = some { y with bus := b } := by
  obtain ⟨hlt, -⟩ := List.getElem?_eq_some_iff.mp hx
  -- What is known of a Thing without its bus is known of the Thing.
  have there : ∀ {y : ExposedThing}, x.Does (deeds t h i) y → (h.step i).1.bare[t]? = some y.bare →
      ∃ y b, x.Does (deeds t h i) y ∧ (h.step i).1.things[t]? = some { y with bus := b } := by
    intro y hd hy
    rw [bare, List.getElem?_map] at hy
    obtain ⟨z, hz, -⟩ := Option.map_eq_some_iff.mp hy
    refine ⟨y, z.bus, hd, ?_⟩
    rw [← thing_of_bare hz (by rw [bare, List.getElem?_map]; exact hy)]
    exact hz
  have idle : deeds t h i = [] → (h.step i).1.bare[t]? = some x.bare →
      ∃ y b, x.Does (deeds t h i) y ∧ (h.step i).1.things[t]? = some { y with bus := b } := by
    intro hquiet
    refine there ?_
    rw [hquiet]
    exact .nothing
  rcases step_changes h i with ⟨same, quiet⟩ | @⟨t', x', y, hx', hd, set, others⟩ | @⟨z, -, grown, others⟩
  · refine idle (quiet t) ?_
    rw [same, bare_of_thing hx]
  · by_cases ht : t = t'
    · subst ht
      rw [hx] at hx'
      cases hx'
      refine there hd ?_
      rw [set]
      simp [bare, hlt]
    · refine idle (others t ht) ?_
      rw [set, List.getElem?_set_ne (Ne.symm ht), bare_of_thing hx]
  · have ht : t ≠ h.things.length := Nat.ne_of_lt hlt
    refine idle (others t ht) ?_
    rw [grown, List.getElem?_append_left (by simpa [bare] using hlt), bare_of_thing hx]

/-- What an input does to a Thing that is not there: it makes it, or nothing. -/
theorem step_makes {h : Host} (hx : h.things[t]? = none) (i : Input) :
    ((h.step i).1.things[t]? = none ∧ deeds t h i = []) ∨
      ∃ x, (h.step i).1.things[t]? = some x ∧ ExposedThing.Past (deeds t h i) x := by
  have hge : h.things.length ≤ t := List.getElem?_eq_none_iff.mp hx
  have hlen : (h.step i).1.bare.length = (h.step i).1.things.length := List.length_map ..
  have hlen' : h.bare.length = h.things.length := List.length_map ..
  rcases step_changes h i with ⟨same, quiet⟩ | @⟨t', x', y, hx', hd, set, others⟩ | @⟨z, past, grown, others⟩
  · refine .inl ⟨List.getElem?_eq_none ?_, quiet t⟩
    rw [← hlen, same, hlen']
    exact hge
  · obtain ⟨hlt, -⟩ := List.getElem?_eq_some_iff.mp hx'
    refine .inl ⟨List.getElem?_eq_none ?_, others t (Nat.ne_of_gt (Nat.lt_of_lt_of_le hlt hge))⟩
    rw [← hlen, set, List.length_set, hlen']
    exact hge
  · by_cases ht : t = h.things.length
    · subst ht
      have hz : (h.step i).1.bare[h.things.length]? = some z.bare := by
        rw [grown, ← hlen']
        simp
      rw [bare, List.getElem?_map] at hz
      obtain ⟨x, hx', -⟩ := Option.map_eq_some_iff.mp hz
      refine .inr ⟨x, hx', ?_⟩
      rw [thing_of_bare hx' (by rw [bare, List.getElem?_map]; exact hz)]
      simpa using past.does .nothing x.bus
    · refine .inl ⟨List.getElem?_eq_none ?_, others t ht⟩
      rw [← hlen, grown, List.length_append, hlen']
      exact Nat.lt_of_le_of_ne hge (Ne.symm ht)

/-- Nothing was done to a Thing that is not there. -/
theorem past_run (t : Nat) (inputs : List Input) : match (reached inputs).things[t]? with
    | some x => ExposedThing.Past (history t inputs) x
    | none => history t inputs = [] := by
  induction inputs using List.reverseRecOn with
  | nil => rfl
  | append_singleton inputs i ih =>
    rw [history_snoc, reached_snoc]
    cases hx : (reached inputs).things[t]? with
    | none =>
      rw [hx] at ih
      dsimp only at ih
      rcases step_makes hx i with ⟨hnone, hquiet⟩ | ⟨x, hx', hpast⟩
      · rw [hnone, ih, hquiet]
        rfl
      · rw [hx', ih]
        exact hpast
    | some x =>
      rw [hx] at ih
      obtain ⟨y, b, hd, hy⟩ := step_does hx i
      rw [hy]
      exact ih.does hd b

/-- All that a Thing is comes from what was done to it. -/
theorem past_reached (hx : (reached inputs).things[t]? = some x) : ExposedThing.Past (history t inputs) x := by
  have h := past_run t inputs
  rw [hx] at h
  exact h

theorem tidy_reached (hx : (reached inputs).things[t]? = some x) : ExposedThing.Tidy x := (past_reached hx).tidy

end Runs

end Host
end ThingHost
