import ThingHost.Proofs.Exposed
import ThingHost.Proofs.Host.View

/-! What an input asks of a bus. Only a Thing announces on its own bus, only clients and relays are attached, and only
    the client of a bus or whoever destroys its Thing completes it. -/

namespace ThingHost
namespace Host

section Asked
variable {h : Host} {ref : BusRef}

/-- What a Thing announces: a notification, or an event that it declares. -/
inductive Announces (h : Host) (t : Nat) : Event → Prop where
  | notification {about : Notification} {data : Fields} : Announces h t (.notification about data)
  | user {x : ExposedThing} {name data : Value} {i : Interaction} (there : h.things[t]? = some x)
      (declared : x.thing.findKind? .event name = some i) : Announces h t (.user name data)

/-- The moves that inputs make on buses. -/
inductive Asked (h : Host) : BusRef → Input → Bus.Move Listener → Prop where
  | announced {t : Nat} {i : Input} {e : Event} (there : (h.bus? (.own t)).isSome) (announces : Announces h t e) :
      Asked h (.own t) i (.publish e)
  | published {n : Nat} {e : Event} (there : (h.bus? (.alone n)).isSome) :
      Asked h (.alone n) (.operate (.publish n e)) (.publish e)
  | listening {t client : Nat} {topic : ExposedThing.Topic} {completes : Bool} {x : ExposedThing}
      {screen : Event → Screening} (there : h.things[t]? = some x) (offered : x.screen topic = .ok screen) :
      Asked h (.own t) (.operate (.subscribe (.topic t topic) client completes)) (.attach screen completes (.client client))
  | guarded {n client : Nat} {guard : Event → Except Thrown Bool} {completes : Bool}
      (there : (h.bus? (.alone n)).isSome) : Asked h (.alone n) (.operate (.subscribe (.bus n guard) client completes))
        (.attach (ExposedThing.screenBy guard) completes (.client client))
  | relayed {t broker : Nat} {x : ExposedThing} (there : h.things[t]? = some x) :
      Asked h (.own t) (.operate (.relay t broker)) (.attach (Relay.screen (.string x.id)) false (.relay broker x.id))
  | left {ref : BusRef} {id : Nat} (there : (h.bus? ref).isSome) :
      Asked h ref (.operate (.unsubscribe ⟨ref, id⟩)) (.unsubscribe id)
  | completed {n : Nat} (there : (h.bus? (.alone n)).isSome) : Asked h (.alone n) (.operate (.complete n)) .complete
  | destroyed {t : Nat} {x : ExposedThing} (there : h.things[t]? = some x) (served : (h.servients[x.servient]?).isSome) :
      Asked h (.own t) (.operate (.destroy t)) .complete
  | done {ref : BusRef} {r : Reply} {thrown : Option Thrown} {f : Frame} {stack : List Frame} (top : h.stack = f :: stack)
      (runs : f.on? ref ≠ none) : Asked h ref (.reply r) (.done thrown)

theorem own_there {t : Nat} {x : ExposedThing} (hx : h.things[t]? = some x) : (h.bus? (.own t)).isSome := by
  simp [bus?, hx]

/-- When the code of a frame is done, the bus that it runs on is told. -/
theorem moveOn_reply {f : Frame} {stack : List Frame} (hs : h.stack = f :: stack) (r : Reply) :
    ∃ thrown, ∀ ref, moveOn ref h (.reply r) = (f.on? ref).map fun _ => .done thrown := by
  cases f with
  | next b d after => exact ⟨r.thrown?, fun ref => by simp [moveOn, move?, hs, Frame.on?, on]⟩
  | complete b c after => exact ⟨r.thrown?, fun ref => by simp [moveOn, move?, hs, Frame.on?, on]⟩
  | late s => exact ⟨r.thrown?, fun ref => by simp [moveOn, move?, hs, Frame.on?, on]⟩
  | relaying n b d after => exact ⟨none, fun ref => by simp [moveOn, move?, hs, Frame.on?, on]⟩
  | handler n => exact ⟨none, fun ref => by simp [moveOn, move?, hs, Frame.on?, on]⟩
  | posting n => exact ⟨none, fun ref => by simp [moveOn, move?, hs, Frame.on?, on]⟩
  | woken => exact ⟨none, fun ref => by simp [moveOn, move?, hs, Frame.on?, on]⟩

theorem on_eq_some {ref : BusRef} {m : Bus.Move Listener} {a : Option (BusRef × Bus.Move Listener)} :
    on ref a = some m ↔ a = some (ref, m) := by
  cases a with
  | none => simp [on]
  | some a =>
    obtain ⟨r, m'⟩ := a
    by_cases hr : r = ref <;> simp [on, hr]

theorem asked_of_announcing {t : Nat} {r : Except Thrown (ExposedThing × Event)} {i : Input} {m : Bus.Move Listener}
    (hr : announcing t r = some (ref, m)) (hthere : (h.bus? (.own t)).isSome)
    (hannounces : ∀ y e, r = .ok (y, e) → Announces h t e) : Asked h ref i m := by
  cases r with
  | error e => cases hr
  | ok r =>
    cases hr
    exact .announced hthere (hannounces _ _ rfl)

theorem asked_of_operation {op : Operation} {m : Bus.Move Listener} (ha : h.asks? op = some (ref, m)) :
    Asked h ref (.operate op) m := by
  cases op with
  | destroy t =>
    obtain ⟨x, hx, hr⟩ := Option.bind_eq_some_iff.mp ha
    obtain ⟨s, hs, hr⟩ := Option.bind_eq_some_iff.mp hr
    cases hr
    exact .destroyed hx (by rw [hs]; rfl)
  | add t kind name definition handler =>
    obtain ⟨x, hx, hr⟩ := Option.bind_eq_some_iff.mp ha
    refine asked_of_announcing hr (own_there hx) fun y e hy => ?_
    obtain ⟨s, parsed, -, -, -, -, -, rfl⟩ := ExposedThing.add_eq_ok.mp hy
    exact .notification
  | remove t kind name =>
    obtain ⟨x, hx, hr⟩ := Option.bind_eq_some_iff.mp ha
    refine asked_of_announcing hr (own_there hx) fun y e hy => ?_
    obtain ⟨j, -, -, rfl⟩ := ExposedThing.remove_eq_ok.mp (ExposedThing.mapError_eq_ok.mp hy)
    exact .notification
  | emit t name payload =>
    obtain ⟨x, hx, hr⟩ := Option.bind_eq_some_iff.mp ha
    simp only [ExposedThing.emitted] at hr
    rcases hf : x.thing.findKind? .event name with _ | j
    · simp [hf] at hr
    · rw [hf] at hr
      cases hr
      exact .announced (own_there hx) (.user hx hf)
  | subscribe source client completes =>
    cases source with
    | topic t topic =>
      obtain ⟨x, hx, hr⟩ := Option.bind_eq_some_iff.mp ha
      split at hr
      · rename_i hok
        cases hr
        exact .listening hx hok
      · cases hr
    | bus n guard =>
      obtain ⟨b, hb, hr⟩ := Option.bind_eq_some_iff.mp ha
      cases hr
      exact .guarded (by rw [hb]; rfl)
  | unsubscribe s =>
    obtain ⟨b, hb, hr⟩ := Option.bind_eq_some_iff.mp ha
    cases hr
    exact .left (by rw [hb]; rfl)
  | publish n e =>
    obtain ⟨b, hb, hr⟩ := Option.bind_eq_some_iff.mp ha
    cases hr
    exact .published (by rw [hb]; rfl)
  | complete n =>
    obtain ⟨b, hb, hr⟩ := Option.bind_eq_some_iff.mp ha
    cases hr
    exact .completed (by rw [hb]; rfl)
  | relay t broker =>
    obtain ⟨x, hx, hr⟩ := Option.bind_eq_some_iff.mp ha
    cases hr
    exact .relayed hx
  | _ => cases ha

theorem asked_of_announced {n : Nat} {answer : Outcome} {i : Input} {e : Event}
    (ha : h.announced? n answer = some (ref, e)) : Asked h ref i (.publish e) := by
  cases answer with
  | error t => cases ha
  | ok v =>
    obtain ⟨c, -, hc⟩ := Option.bind_eq_some_iff.mp ha
    obtain ⟨e', he, hthere⟩ := Option.bind_eq_some_iff.mp hc
    obtain ⟨b, hb, heq⟩ := Option.map_eq_some_iff.mp hthere
    cases heq
    refine .announced (by rw [hb]; rfl) ?_
    cases hask : c.ask <;> rw [hask] at he <;> cases he <;> exact .notification

theorem asked_of_move {i : Input} {m : Bus.Move Listener} (hm : moveOn ref h i = some m) : Asked h ref i m := by
  have hmove := on_eq_some.mp hm
  cases i with
  | operate op => exact asked_of_operation hmove
  | reply r =>
    cases hs : h.stack with
    | nil => simp [move?, hs] at hmove
    | cons f stack =>
      obtain ⟨thrown, hon⟩ := moveOn_reply hs r
      obtain ⟨code, hcode, rfl⟩ := Option.map_eq_some_iff.mp ((hon ref).symm.trans hm)
      exact .done hs (by simp [hcode])
  | tick =>
    simp only [move?] at hmove
    split at hmove
    · obtain ⟨⟨ref', e⟩, hr, ha⟩ := Option.map_eq_some_iff.mp hmove
      cases ha
      simp only [resumed?] at hr
      split at hr
      · exact asked_of_announced hr
      · cases hr
    · cases hmove
  | _ => cases hmove

/-- What a Thing announces has a name. -/
theorem named_of_publish {t : Nat} {i : Input} {e : Event} (hm : moveOn (.own t) h i = some (.publish e)) :
    ∃ name, e.name = .string name := by
  cases asked_of_move hm with
  | announced _ announces =>
    cases announces with
    | notification => exact ⟨_, rfl⟩
    | user there declared => exact ⟨_, ExposedThing.name_of_findKind? declared⟩

/-! ### Subscribing -/

/-- Subscribing comes to attaching a subscription. -/
theorem subscribe_eq {source : Source} {client : Nat} {completes : Bool} {screen : Event → Screening}
    (ha : h.asks? (.subscribe source client completes) = some (ref, .attach screen completes (.client client))) :
    h.operate (.subscribe source client completes) = h.attach ref screen completes (.client client) := by
  cases source with
  | topic t topic =>
    obtain ⟨x, hx, hr⟩ := Option.bind_eq_some_iff.mp ha
    simp only [operate, subscribe, withThing, hx]
    split at hr
    · rename_i hscreen
      cases hr
      simp only [hscreen]
    · cases hr
  | bus n guard =>
    obtain ⟨b, -, hr⟩ := Option.bind_eq_some_iff.mp ha
    cases hr
    rfl

theorem attach_eq {b : Bus Listener} (hb : h.bus? ref = some b) (screen : Event → Screening) (completes : Bool) (client : Nat) :
    h.attach ref screen completes (.client client) =
      if b.completed && completes then
        ((h.setBus ref (b.attach screen completes (.client client)).1).push (.late ⟨ref, b.nextId⟩), [.callComplete client])
      else (h.setBus ref (b.attach screen completes (.client client)).1).returns (.ok (.subscription ⟨ref, b.nextId⟩)) := by
  simp only [attach, hb, Bus.attach_id]
  cases b.completed && completes <;> rfl

/-- A client that subscribes to a completed bus is called at once, if it wants to know. -/
theorem step_of_late {i : Input} {screen : Event → Screening} {l : Listener}
    (hm : moveOn ref h i = some (.attach screen true l)) (hdone : (h.bus ref).completed = true) :
    ∃ client, l = .client client ∧ (h.step i).2 = [.callComplete client] := by
  have attached : ∀ {source client}, h.move? (.operate (.subscribe source client true)) =
      some (ref, .attach screen true (.client client)) → (h.bus? ref).isSome →
      (h.step (.operate (.subscribe source client true))).2 = [.callComplete client] := by
    intro source client hasks hthere
    obtain ⟨b, hb⟩ := Option.isSome_iff_exists.mp hthere
    have hb' : b.completed = true := by rwa [bus, hb] at hdone
    simp only [step, subscribe_eq hasks, attach_eq hb, hb', Bool.true_and, ↓reduceIte]
  have hmove := on_eq_some.mp hm
  cases asked_of_move hm with
  | listening there offered => exact ⟨_, rfl, attached hmove (by simp [bus?, there])⟩
  | guarded there => exact ⟨_, rfl, attached hmove there⟩

end Asked

end Host
end ThingHost
