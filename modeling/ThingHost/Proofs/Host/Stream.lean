import ThingHost.Proofs.Bus.Progress
import ThingHost.Proofs.Exposed
import ThingHost.Proofs.Host.Delivery
import ThingHost.Proofs.Host.Settling

/-! The events of a Thing tell what was done with it. Whoever listens from the start is told of every
    operation that succeeded, once, in the order in which they did, and of nothing else. -/

namespace ThingHost
namespace Host

/-! ### Operations that succeed -/

/-- How a kind of interaction is named in what is told of a Thing. -/
def changeType : InteractionKind → Value
  | .property => .string "property"
  | .action => .string "action"
  | .event => .string "event"

/-- The type, the name and the data of an event. -/
def parts : Event → String × Value × Value
  | .notification .propertyChange data => ("propertychange", .string "propertychange", .object data)
  | .notification .actionInvocation data => ("actioninvocation", .string "actioninvocation", .object data)
  | .notification .descriptionChange data => ("descriptionchange", .string "descriptionchange", .object data)
  | .user name data => ("user", name, data)

/-- Nothing is thrown to whoever asked for a step. -/
def clean (s : Step) : Bool := s.2.all fun
  | .returned (.error _) => false
  | _ => true

/-- What succeeds on a Thing in a step, if something does: the event that tells it, and the call that it is
    the rest of, if it is. A write or an invocation succeeds when it goes on with a result. -/
def success? (t : Nat) (h : Host) : Input → Option (Option Nat × Event)
  | .operate (.add t' kind name definition handler) =>
    let s := h.step (.operate (.add t' kind name definition handler))
    if t' = t ∧ clean s then
      name.asText?.bind fun name => (ExposedThing.parsed? kind (.string name) definition).bind fun parsed =>
        s.1.things[t]?.map fun x => (none, .notification .descriptionChange
          [("changeType", changeType kind), ("method", .string "add"), ("name", .string name), ("data", parsed),
            ("description", x.thing.toDescription)])
    else none
  | .operate (.remove t' kind name) =>
    if t' = t ∧ t < h.things.length ∧ clean (h.step (.operate (.remove t' kind name))) then
      name.asText?.map fun name => (none, .notification .descriptionChange
        [("changeType", changeType kind), ("method", .string "remove"), ("name", .string name)])
    else none
  | .operate (.emit t' name payload) =>
    if t' = t ∧ t < h.things.length ∧ clean (h.step (.operate (.emit t' name payload))) then
      some (none, .user name payload)
    else none
  | .tick =>
    match h.stack, h.queue with
    | [], .resume n (.ok v) :: _ => h.calls[n]?.bind fun c =>
        if c.thing = t then (announcement? c.ask v).map fun e => (some n, e) else none
    | _, _ => none
  | _ => none

/-- What succeeds on a Thing in the course of a run. -/
def successes (t : Nat) (inputs : List Input) : List (Option Nat × Event) := seen (success? t) .new inputs

/-- What the first subscription to a Thing's events has been told. -/
structure Streams (t : Nat) (inputs : List Input) : Prop where
  events : received ⟨.own t, 1⟩ inputs = (successes t inputs).map (·.2)
  /-- Of each it is shown the type, the name and the data. -/
  shown : (received ⟨.own t, 1⟩ inputs).map (fun e => (e.typeName, e.name, e.data)) =
    (successes t inputs).map fun a => parts a.2
  /-- Among what succeeded are just the writes and invocations whose handlers have fulfilled, and whose rests
      are not waiting in the queue, -/
  calls : ∀ n e, (some n, e) ∈ successes t inputs ↔ ∃ c v, (reached inputs).calls[n]? = some c ∧ c.thing = t ∧
    answers n inputs = [.ok v] ∧ announcement? c.ask v = some e ∧ ∀ a, .resume n a ∉ (reached inputs).queue
  /-- each of them once. -/
  once : ((successes t inputs).filterMap (·.1)).Nodup

/-! ### What is told -/

theorem changeType_eq (kind : InteractionKind) : changeType kind = .string kind.name := by
  cases kind <;> rfl

theorem parts_eq (e : Event) : parts e = (e.typeName, e.name, e.data) := by
  cases e with
  | notification about data => cases about <;> rfl
  | user name data => rfl

theorem added_eq (kind : InteractionKind) (name : String) (definition description : Value) :
    Event.added kind name definition description = .notification .descriptionChange
      [("changeType", changeType kind), ("method", .string "add"), ("name", .string name), ("data", definition),
        ("description", description)] := by
  rw [changeType_eq]
  rfl

theorem removed_eq (kind : InteractionKind) (name : String) :
    Event.removed kind name = .notification .descriptionChange
      [("changeType", changeType kind), ("method", .string "remove"), ("name", .string name)] := by
  rw [changeType_eq]
  rfl

/-! ### What a step takes -/

section Parts
variable {h : Host}

theorem clean_prepend (thing : Option String) (notes : List Note) (s : Step) :
    clean (prepend (noted thing notes) s) = clean s := by
  have hnotes : (noted thing notes).all (fun o => match o with
      | .returned (.error _) => false
      | _ => true) = true := by
    rw [List.all_eq_true]
    intro o ho
    obtain ⟨n, -, rfl⟩ := List.mem_map.mp ho
    rfl
  simp only [clean, prepend, List.all_append, hnotes, Bool.true_and]

theorem follow_clean (h : Host) (ref : BusRef) (r : Result) (turn : Turn Listener) :
    clean (h.follow ref (.returned (.ok r)) turn) = true := by
  rcases turn with _ | d | c
  · rfl
  · cases ho : d.current.owner <;> simp only [follow, ho] <;> rfl
  · cases ho : c.current.owner <;> simp only [follow, ho] <;> rfl

theorem publish_clean (h : Host) (ref : BusRef) (e : Event) (r : Result) :
    clean (h.publish ref e (.returned (.ok r))) = true := by
  unfold Host.publish
  cases h.bus? ref with
  | none => rfl
  | some b => exact (clean_prepend _ _ _).trans (follow_clean _ _ _ _)

theorem follow_things (h : Host) (ref : BusRef) (after : After) (turn : Turn Listener) :
    (h.follow ref after turn).1.things = h.things := by
  have finished : (h.finish after).1.things = h.things := by
    cases after with
    | returned r => rfl
    | settled n o =>
      simp only [finish, settle, setProgress]
      split <;> rfl
  rcases turn with _ | d | c
  · exact finished
  · cases ho : d.current.owner <;> simp only [follow, ho] <;> rfl
  · cases ho : c.current.owner <;> simp only [follow, ho]
    · rfl
    · exact finished

/-- Publishing changes what a Thing's bus holds, and nothing else of the Thing. -/
theorem publish_thing (h : Host) (ref : BusRef) (e : Event) (after : After) (t : Nat) :
    (h.publish ref e after).1.things[t]?.map (·.thing) = h.things[t]?.map (·.thing) := by
  unfold Host.publish
  cases h.bus? ref with
  | none => exact congrArg (fun things => (things[t]?).map (·.thing)) (follow_things h ref after .over)
  | some b =>
    show (((h.setBus ref (b.publish e).1).follow ref after _).1.things[t]?).map _ = _
    rw [follow_things]
    cases ref with
    | alone n => rfl
    | own t' =>
      simp only [setBus]
      cases hx : h.things[t']? with
      | none => rfl
      | some x =>
        simp only [setThing, List.getElem?_set]
        split
        · rename_i heq
          subst heq
          obtain ⟨hlt, hget⟩ := List.getElem?_eq_some_iff.mp hx
          simp [hlt, hget]
        · rfl

end Parts

section Steps
variable {h : Host} {t : Nat}

theorem taken?_open (hopen : (h.bus (.own t)).completed = false) {i : Input} :
    taken? (.own t) h i = match on (.own t) (h.move? i) with
      | some (.publish e) => some e
      | _ => none := by
  simp only [taken?, moveOn, hopen]
  rfl

theorem announce_clean (h : Host) (t : Nat) (note : Note) (r : Except Thrown (ExposedThing × Event)) :
    clean (h.announce t note r) = r.toOption.isSome := by
  cases r with
  | error e => rfl
  | ok r => exact (clean_prepend _ _ _).trans (publish_clean _ _ _ _)

theorem operate_add {x : ExposedThing} (hx : h.things[t]? = some x) (kind : InteractionKind) (name definition : Value)
    (handler : Option Nat) : h.operate (.add t kind name definition handler) =
      h.announce t (.interactionAdded kind name.plainText) (x.add kind name definition (handler.map .client)) := by
  simp [operate, withThing, hx]

theorem operate_remove {x : ExposedThing} (hx : h.things[t]? = some x) (kind : InteractionKind) (name : Value) :
    h.operate (.remove t kind name) =
      h.announce t (.interactionRemoved kind name.plainText) ((x.remove kind name).mapError .ofRefusal) := by
  simp [operate, withThing, hx]

/-- A declaration that is not refused is made. -/
theorem added_of_clean {x : ExposedThing} (hx : h.things[t]? = some x) {kind : InteractionKind} {name definition : Value}
    {handler : Option Nat} (hc : clean (h.operate (.add t kind name definition handler)) = true) :
    ∃ y e, x.add kind name definition (handler.map .client) = .ok (y, e) := by
  rw [operate_add hx, announce_clean] at hc
  rcases hr : x.add kind name definition (handler.map .client) with e | ⟨y, e⟩
  · rw [hr] at hc
    cases hc
  · exact ⟨y, e, rfl⟩

theorem announce_thing {x : ExposedThing} (hx : h.things[t]? = some x) (note : Note) (x' : ExposedThing) (e : Event) :
    ∃ y, (h.announce t note (.ok (x', e))).1.things[t]? = some y ∧ y.thing = x'.thing := by
  obtain ⟨hlt, -⟩ := List.getElem?_eq_some_iff.mp hx
  have hy : (h.announce t note (.ok (x', e))).1.things[t]?.map (·.thing) = some x'.thing := by
    simp only [announce, prepend, publish_thing]
    simp [setThing, hlt]
  exact Option.map_eq_some_iff.mp hy

theorem on_announcing (t' : Nat) (r : Except Thrown (ExposedThing × Event)) : (match on (.own t) (announcing t' r) with
      | some (.publish e) => some e
      | _ => none) = if t' = t then r.toOption.map (·.2) else none := by
  cases r with
  | error e => simp [announcing, on, Except.toOption]
  | ok r => by_cases ht : t' = t <;> simp [announcing, on, ht, Except.toOption]

theorem add_success (hopen : (h.bus (.own t)).completed = false) (t' : Nat) (kind : InteractionKind)
    (name definition : Value) (handler : Option Nat) :
    taken? (.own t) h (.operate (.add t' kind name definition handler)) =
      (success? t h (.operate (.add t' kind name definition handler))).map (·.2) := by
  rw [taken?_open hopen]
  cases hx : h.things[t']? with
  | none =>
    by_cases ht : t' = t
    · subst ht
      simp [move?, asks?, success?, step, operate, withThing, hx, on]
    · simp [move?, asks?, success?, hx, on, ht]
  | some x =>
    have hstep : h.step (.operate (.add t' kind name definition handler)) =
        h.announce t' (.interactionAdded kind name.plainText) (x.add kind name definition (handler.map .client)) :=
      operate_add hx kind name definition handler
    have hasks : h.move? (.operate (.add t' kind name definition handler)) =
        announcing t' (x.add kind name definition (handler.map .client)) := by simp [move?, asks?, hx]
    rw [hasks, on_announcing]
    simp only [success?, hstep, announce_clean]
    by_cases ht : t' = t
    · subst ht
      rcases hr : x.add kind name definition (handler.map .client) with e | ⟨x', e⟩
      · simp [Except.toOption]
      · obtain ⟨s, parsed, rfl, hparsed, -, -, -, rfl⟩ := ExposedThing.add_eq_ok.mp hr
        obtain ⟨y, hy, hyx⟩ := announce_thing hx (.interactionAdded kind (Value.string s).plainText) x'
          (.added kind s parsed x'.thing.toDescription)
        rw [added_eq] at hy ⊢
        simp [Except.toOption, Value.asText?, hparsed, hy, hyx]
    · simp [ht]

theorem remove_success (hopen : (h.bus (.own t)).completed = false) (t' : Nat) (kind : InteractionKind) (name : Value) :
    taken? (.own t) h (.operate (.remove t' kind name)) =
      (success? t h (.operate (.remove t' kind name))).map (·.2) := by
  rw [taken?_open hopen]
  cases hx : h.things[t']? with
  | none =>
    have hge : ¬t' < h.things.length := Nat.not_lt.mpr (List.getElem?_eq_none_iff.mp hx)
    by_cases ht : t' = t
    · subst ht
      simp [move?, asks?, success?, on, hge]
    · simp [move?, asks?, success?, hx, on, ht]
  | some x =>
    obtain ⟨hlt, -⟩ := List.getElem?_eq_some_iff.mp hx
    have hstep : h.step (.operate (.remove t' kind name)) = h.announce t' (.interactionRemoved kind name.plainText)
        ((x.remove kind name).mapError .ofRefusal) := operate_remove hx kind name
    have hasks : h.move? (.operate (.remove t' kind name)) =
        announcing t' ((x.remove kind name).mapError .ofRefusal) := by simp [move?, asks?, hx]
    rw [hasks, on_announcing]
    simp only [success?, hstep, announce_clean]
    by_cases ht : t' = t
    · subst ht
      rcases hr : (x.remove kind name).mapError Thrown.ofRefusal with e | ⟨x', e⟩
      · simp [Except.toOption]
      · obtain ⟨i, hi, -, rfl⟩ := ExposedThing.remove_eq_ok.mp (ExposedThing.mapError_eq_ok.mp hr)
        obtain rfl := ExposedThing.name_of_require hi
        simp [Except.toOption, Value.asText?, hlt, removed_eq]
    · simp [ht]

theorem emit_success (hopen : (h.bus (.own t)).completed = false) (t' : Nat) (name payload : Value) :
    taken? (.own t) h (.operate (.emit t' name payload)) =
      (success? t h (.operate (.emit t' name payload))).map (·.2) := by
  rw [taken?_open hopen]
  cases hx : h.things[t']? with
  | none =>
    have hge : ¬t' < h.things.length := Nat.not_lt.mpr (List.getElem?_eq_none_iff.mp hx)
    by_cases ht : t' = t
    · subst ht
      simp [move?, asks?, success?, on, hge]
    · simp [move?, asks?, success?, hx, on, ht]
  | some x =>
    obtain ⟨hlt, -⟩ := List.getElem?_eq_some_iff.mp hx
    simp only [ExposedThing.emitted, move?, asks?, success?, step, operate, withThing, hx, Option.bind_some]
    cases hf : x.thing.findKind? .event name with
    | none => simp [on, refuse, returns, clean]
    | some i =>
      simp only [publish_clean]
      by_cases ht : t' = t
      · subst ht
        simp [on, hlt]
      · simp [on, ht]

theorem tick_success (hopen : (h.bus (.own t)).completed = false)
    (there : ∀ (n : Nat) (c : Call), h.calls[n]? = some c → (h.bus? (.own c.thing)).isSome) :
    taken? (.own t) h .tick = (success? t h .tick).map (·.2) := by
  rw [taken?_open hopen]
  simp only [move?, resumed?, success?]
  rcases hs : h.stack with _ | ⟨f, stack⟩
  · rcases hq : h.queue with _ | ⟨job, queue⟩
    · rfl
    · cases job with
      | resume n answer =>
        cases answer with
        | error e => rfl
        | ok v =>
          cases hc : h.calls[n]? with
          | none => simp [announced?, hc, on]
          | some c =>
            obtain ⟨b, hb⟩ := Option.isSome_iff_exists.mp (there n c hc)
            cases he : announcement? c.ask v with
            | none => simp [announced?, hc, he, on]
            | some e =>
              simp only [announced?, hc, he, hb, Option.bind_some, Option.map_some, List.isEmpty_nil, ↓reduceIte]
              by_cases ht : c.thing = t <;> simp [on, ht]
      | posted n failure => rfl
      | wake token => rfl
  · rfl

theorem taken?_of_ne (hopen : (h.bus (.own t)).completed = false) {i : Input}
    (hne : ∀ e, h.move? i ≠ some (.own t, .publish e)) : taken? (.own t) h i = none := by
  rw [taken?_open hopen]
  split
  · rename_i e hm
    exact absurd (on_eq_some.mp hm) (hne e)
  · rfl

/-- The bus of a Thing takes the event of what succeeds on it in a step. -/
theorem taken?_eq (hopen : (h.bus (.own t)).completed = false)
    (there : ∀ (n : Nat) (c : Call), h.calls[n]? = some c → (h.bus? (.own c.thing)).isSome) (i : Input) :
    taken? (.own t) h i = (success? t h i).map (·.2) := by
  cases i with
  | operate op =>
    cases op with
    | add t' kind name definition handler => exact add_success hopen t' kind name definition handler
    | remove t' kind name => exact remove_success hopen t' kind name
    | emit t' name payload => exact emit_success hopen t' name payload
    | subscribe source client completes =>
      refine taken?_of_ne hopen fun e hm => ?_
      cases source with
      | topic t' topic =>
        obtain ⟨x, -, hx⟩ := Option.bind_eq_some_iff.mp hm
        split at hx <;> cases hx
      | bus n guard => simp [move?, asks?, Option.bind_eq_some_iff] at hm
    | _ => exact taken?_of_ne hopen fun e hm => by simp [move?, asks?, Option.bind_eq_some_iff] at hm
  | reply r =>
    refine taken?_of_ne hopen fun e hm => ?_
    rcases hs : h.stack with _ | ⟨f, stack⟩
    · simp [move?, hs] at hm
    · obtain ⟨thrown, hon⟩ := moveOn_reply hs r
      have hdone := (hon (.own t)).symm.trans (on_eq_some.mpr hm)
      obtain ⟨-, -, hf⟩ := Option.map_eq_some_iff.mp hdone
      cases hf
  | tick => exact tick_success hopen there
  | _ => rfl

/-- How something succeeds on a Thing in a step: it is announced by an operation, or by a call that goes on. -/
inductive Succeeds (t : Nat) (h : Host) : Input → Option Nat → Event → Prop where
  | added {kind : InteractionKind} {name definition : Value} {handler : Option Nat} (s : String)
      (parsed description : Value) :
      Succeeds t h (.operate (.add t kind name definition handler)) none (.added kind s parsed description)
  | removed {kind : InteractionKind} {name : Value} (s : String) :
      Succeeds t h (.operate (.remove t kind name)) none (.removed kind s)
  | emitted {name payload : Value} : Succeeds t h (.operate (.emit t name payload)) none (.user name payload)
  | resumed {n : Nat} {v : Value} {queue : List Job} {c : Call} {e : Event} (stack : h.stack = [])
      (first : h.queue = .resume n (.ok v) :: queue) (call : h.calls[n]? = some c) (thing : c.thing = t)
      (announced : announcement? c.ask v = some e) : Succeeds t h .tick (some n) e

theorem succeeds {i : Input} {n : Option Nat} {e : Event} (hs : success? t h i = some (n, e)) : Succeeds t h i n e := by
  cases i with
  | operate op =>
    cases op with
    | add t' kind name definition handler =>
      simp only [success?] at hs
      split at hs
      · rename_i hc
        obtain ⟨s, -, hs⟩ := Option.bind_eq_some_iff.mp hs
        obtain ⟨parsed, -, hs⟩ := Option.bind_eq_some_iff.mp hs
        obtain ⟨x, -, hs⟩ := Option.map_eq_some_iff.mp hs
        cases hs
        rw [← added_eq]
        exact hc.1 ▸ .added s parsed _
      · cases hs
    | remove t' kind name =>
      simp only [success?] at hs
      split at hs
      · rename_i hc
        obtain ⟨s, -, hs⟩ := Option.map_eq_some_iff.mp hs
        cases hs
        rw [← removed_eq]
        exact hc.1 ▸ .removed s
      · cases hs
    | emit t' name payload =>
      simp only [success?] at hs
      split at hs
      · rename_i hc
        cases hs
        exact hc.1 ▸ .emitted
      · cases hs
    | _ => cases hs
  | tick =>
    simp only [success?] at hs
    split at hs
    · rename_i m v queue hstack hqueue
      obtain ⟨c, hc, hs⟩ := Option.bind_eq_some_iff.mp hs
      split at hs
      · rename_i hthing
        obtain ⟨e', he, heq⟩ := Option.map_eq_some_iff.mp hs
        cases heq
        exact .resumed hstack hqueue hc hthing he
      · cases hs
    · cases hs
  | _ => cases hs

/-- The rest of a call succeeds in a tick that goes on with it. -/
theorem success?_call {i : Input} {n : Nat} {e : Event} : success? t h i = some (some n, e) ↔
    i = .tick ∧ h.stack = [] ∧ ∃ v queue c, h.queue = .resume n (.ok v) :: queue ∧ h.calls[n]? = some c ∧
      c.thing = t ∧ announcement? c.ask v = some e := by
  constructor
  · intro hs
    cases succeeds hs with
    | resumed hstack hqueue hc hthing he => exact ⟨rfl, hstack, _, _, _, hqueue, hc, hthing, he⟩
  · rintro ⟨rfl, hstack, v, queue, c, hqueue, hc, rfl, he⟩
    simp [success?, hstack, hqueue, hc, he]

end Steps

/-! ### What a run takes -/

section Runs
variable {t : Nat} {inputs : List Input}

theorem open_before {ref : BusRef} {a b : List Input} (h : ((reached (a ++ b)).bus ref).completed = false) :
    ((reached a).bus ref).completed = false := by
  rw [← record_bus, record_append] at h
  rw [← record_bus]
  exact Bus.open_of_run _ h

/-- The events that a bus takes until its completion are those of what succeeded. -/
theorem published_eq (hopen : ((reached inputs).bus (.own t)).completed = false) :
    published (.own t) inputs = (successes t inputs).map (·.2) := by
  induction inputs using List.reverseRecOn with
  | nil => rfl
  | append_singleton inputs i ih =>
    have hbefore := open_before hopen
    rw [published, successes, seen_snoc, seen_snoc, List.map_append, taken?_eq hbefore fun n c hc => call_there hc]
    congr 1
    · exact ih hbefore
    · cases success? t (reached inputs) i <;> rfl

theorem about_queue {h : Host} {n : Nat} : about n h.desk.queue = [] ↔ ∀ a, .resume n a ∉ h.queue := by
  simp only [about, desk, List.filterMap_filterMap, List.filterMap_eq_nil_iff]
  constructor
  · intro hnone a ha
    simpa [Job.rest?] using hnone _ ha
  · intro hnone job hjob
    cases job with
    | resume m a =>
      by_cases hm : m = n
      · exact absurd (hm ▸ hjob) (hnone a)
      · simp [Job.rest?, hm]
    | _ => rfl

theorem mem_successes {n : Nat} {e : Event} : (some n, e) ∈ successes t inputs ↔
    ∃ c v, (reached inputs).calls[n]? = some c ∧ c.thing = t ∧ answers n inputs = [.ok v] ∧
      announcement? c.ask v = some e ∧ ∀ a, .resume n a ∉ (reached inputs).queue := by
  rw [successes, mem_seen]
  constructor
  · rintro ⟨a, i, b, rfl, hi⟩
    obtain ⟨rfl, hstack, v, queue, c, hqueue, hc, hthing, he⟩ := success?_call.mp hi
    obtain ⟨hans, hresumed⟩ := resumed_by hstack hqueue
    obtain ⟨p, hp⟩ := call_kept hc (.tick :: b)
    have hlater := resumed_later hresumed b
    rw [List.append_assoc, List.singleton_append] at hlater
    exact ⟨_, v, hp, hthing, answers_kept hans _, he, about_queue.mp (ledger_desk _ ▸ hlater.2)⟩
  · rintro ⟨c, v, hc, hthing, hans, he, hqueue⟩
    have hresumed : (ledger ([] ++ inputs)).Resumed n := by
      refine ⟨?_, ?_⟩
      · rw [ledger_answers]
        exact ne_of_eq_of_ne hans (List.cons_ne_nil _ _)
      · rw [ledger_desk]
        exact about_queue.mpr hqueue
    have hfresh : ¬(ledger []).Resumed n := fun h => h.1 rfl
    obtain ⟨before, after, answer, queue, rfl, hstack, hjob⟩ := resumed_at hfresh hresumed
    rw [List.nil_append] at hstack hjob
    obtain ⟨hans', -⟩ := resumed_by hstack hjob
    obtain rfl : answer = .ok v := by
      rw [answers_kept hans'] at hans
      exact (List.cons.inj hans).1
    obtain ⟨c', hc'⟩ : ∃ c', (reached before).calls[n]? = some c' := by
      have h := stands before n
      rw [hans'] at h
      cases hcall : (reached before).calls[n]? with
      | none =>
        rw [hcall] at h
        exact absurd h.of_none.2.2.2.1 (List.cons_ne_nil _ _)
      | some c' => exact ⟨c', rfl⟩
    obtain ⟨p, hp⟩ := call_kept hc' (.tick :: after)
    rw [hp] at hc
    cases hc
    exact ⟨before, .tick, after, rfl, success?_call.mpr ⟨rfl, hstack, v, queue, c', hjob, hc', hthing, he⟩⟩

theorem successes_nodup (t : Nat) (inputs : List Input) : ((successes t inputs).filterMap (·.1)).Nodup := by
  induction inputs using List.reverseRecOn with
  | nil => exact List.nodup_nil
  | append_singleton inputs i ih =>
    rw [successes, seen_snoc, List.filterMap_append, ← successes]
    rcases hs : success? t (reached inputs) i with _ | ⟨n, e⟩
    · simpa using ih
    · cases n with
      | none => simpa using ih
      | some n =>
        obtain ⟨-, -, v, queue, -, hqueue, -⟩ := success?_call.mp hs
        have hnew : n ∉ (successes t inputs).filterMap (·.1) := by
          intro hmem
          obtain ⟨⟨m, e'⟩, hmem, heq⟩ := List.mem_filterMap.mp hmem
          obtain rfl : m = some n := heq
          obtain ⟨-, -, -, -, -, -, hnone⟩ := mem_successes.mp hmem
          exact hnone _ (hqueue ▸ List.mem_cons_self)
        exact List.nodup_append.mpr ⟨ih, by simp, by simpa using fun a ha => ne_of_mem_of_not_mem ha hnew⟩

end Runs

/-! ### The law -/

section Law
variable {earlier later : List Input} {i : Input} {x : ExposedThing} {t : Nat}

/-- Listening to all the events of a Thing. -/
def listen (t client : Nat) (completes : Bool) : Input :=
  .operate (.subscribe (.topic t (.all fun _ => .ok true)) client completes)

theorem record_of_made (ht : t = (reached earlier).things.length) (i : Input) :
    record (.own t) (earlier ++ [i]) = Bus.Chronicle.new := by
  have habsent : (reached earlier).bus? (.own t) = none := by simp [bus?, ht]
  rw [record_snoc, record_of_absent habsent]
  cases hm : moveOn (.own t) (reached earlier) i with
  | none => rfl
  | some m =>
    have hthere := move?_there (grounded_reached earlier) (on_eq_some.mp hm)
    rw [habsent] at hthere
    cases hthere

/-- Whoever listens to a Thing from the start attends all of its deliveries, as long as it stays. -/
theorem attends_of_listen (hnew : (reached (earlier ++ [i])).things = (reached earlier).things ++ [x])
    (ht : t = (reached earlier).things.length) (client : Nat) (completes : Bool)
    (hopen : ((reached (earlier ++ i :: listen t client completes :: later)).bus (.own t)).completed = false)
    (hstays : (reached (earlier ++ i :: listen t client completes :: later)).isClosed ⟨.own t, 1⟩ = false) :
    Bus.Attends ⟨1, ExposedThing.screenBy fun _ => .ok true, completes, .client client⟩
      (record (.own t) (earlier ++ i :: listen t client completes :: later)) := by
  have hmove : moveOn (.own t) (reached (earlier ++ [i])) (listen t client completes) =
      some (.attach (ExposedThing.screenBy fun _ => .ok true) completes (.client client)) := by
    simp [moveOn, on_eq_some, move?, asks?, listen, hnew, ht, ExposedThing.screen]
  have hfirst : record (.own t) (earlier ++ [i] ++ [listen t client completes]) =
      Bus.Chronicle.new.step (.attach (ExposedThing.screenBy fun _ => .ok true) completes (.client client)) := by
    rw [record_snoc, hmove, record_of_made ht]
  have hsplit : earlier ++ i :: listen t client completes :: later =
      earlier ++ [i] ++ [listen t client completes] ++ later := by simp
  rw [isClosed_eq, ← record_bus] at hstays
  rw [← record_bus] at hopen
  rw [hsplit, record_append] at hopen hstays ⊢
  refine Bus.Attends.run (record_sound _ _) ?_ hopen fun hcl => ?_
  · rw [hfirst]
    refine ⟨?_, ?_, ?_⟩
    · simp [Bus.Chronicle.step, Bus.Chronicle.attached, Bus.Chronicle.new, Bus.Live.new, Bus.new, Bus.Live.made]
    · simp [Bus.Chronicle.step, Bus.Chronicle.new, Bus.Live.rounds]
    · simp [Bus.Chronicle.step, Bus.Chronicle.new, Bus.Live.rounds]
  · exact Bool.false_ne_true (hstays.symm.trans (List.contains_iff_mem.mpr hcl))

/-- Whoever listens to a Thing from the start, and stays, has been told of just what succeeded whenever no event
    is being delivered. -/
theorem stream_law (hnew : (reached (earlier ++ [i])).things = (reached earlier).things ++ [x])
    (ht : t = (reached earlier).things.length) (client : Nat) (completes : Bool)
    (hopen : ((reached (earlier ++ i :: listen t client completes :: later)).bus (.own t)).completed = false)
    (hstays : (reached (earlier ++ i :: listen t client completes :: later)).isClosed ⟨.own t, 1⟩ = false)
    (hidle : delivering (.own t) (reached (earlier ++ i :: listen t client completes :: later)) = false) :
    Streams t (earlier ++ i :: listen t client completes :: later) := by
  have hattends := attends_of_listen hnew ht client completes hopen hstays
  have hrest := at_rest hidle
  rw [← record_bus, ← record_published] at hrest
  have hall := hattends.received (record_sound _ _) hrest (by rw [record_bus]; exact hopen)
  have hevents : received ⟨.own t, 1⟩ (earlier ++ i :: listen t client completes :: later) =
      (successes t (earlier ++ i :: listen t client completes :: later)).map (·.2) := by
    rw [received_eq, ← published_eq hopen, ← record_published]
    refine hall.trans (List.filter_eq_self.mpr fun e _ => ?_)
    exact (wants_iff _ _ _ _ e).mpr rfl
  refine ⟨hevents, ?_, fun n e => mem_successes, successes_nodup t _⟩
  rw [hevents, List.map_map]
  exact List.map_congr_left fun a _ => (parts_eq a.2).symm

/-- A fan is switched on by a handler that takes its time, after one thing has failed and before another does. -/
def fan : List Input :=
  [ .operate (.add 0 .property (.string "on") .undefined none),
    .reply (.done .undefined),
    .operate (.setHandler 0 .write 7 none),
    .operate (.call 0 (.write (.string "on") (.bool true))),
    .reply .promised,
    .operate (.emit 0 (.string "stuck") .null),
    .answer 0 (.ok .null),
    .tick,
    .operate (.remove 0 .property (.string "on")),
    .operate (.remove 0 .property (.string "on")),
    .reply (.threw (.failure "Error" "no")),
    .reply (.done .undefined) ]

theorem fan_streams : let inputs := .operate (.newThing 0 "fan" "Fan" none) :: listen 0 3 true :: fan
    Streams 0 inputs ∧ received ⟨.own 0, 1⟩ inputs =
      [ .notification .descriptionChange
          [("changeType", .string "property"), ("method", .string "add"), ("name", .string "on"),
            ("data", .object [("description", .object []), ("writable", .bool true), ("observable", .bool true)]),
            ("description", .object
              [("@context", .string "https://www.w3.org/2019/wot/td/v1"), ("id", .string "fan"), ("name", .string "Fan"),
                ("properties", .object [("on", .object [("writable", .bool true), ("observable", .bool true)])]),
                ("actions", .object []), ("events", .object [])])],
        .notification .propertyChange [("name", .string "on"), ("value", .bool true)],
        .notification .descriptionChange
          [("changeType", .string "property"), ("method", .string "remove"), ("name", .string "on")] ] ∧
      (received ⟨.own 0, 1⟩ inputs).map (·.typeName) = ["descriptionchange", "propertychange", "descriptionchange"] := by
  refine ⟨?_, by rfl, by rfl⟩
  show Streams 0 ([] ++ .operate (.newThing 0 "fan" "Fan" none) :: listen 0 3 true :: fan)
  exact stream_law (x := .new 0 (.new "fan" "Fan" none)) (by rfl) (by rfl) 3 true (by rfl) (by rfl) (by rfl)

end Law

end Host
end ThingHost
