import ThingHost.Exposed

/-! What the operations of a Thing do when they succeed, and what they say when they do not. -/

namespace ThingHost.ExposedThing

variable {x x' : ExposedThing} {kind : InteractionKind} {name definition : Value} {e : Event}

/-- The Thing after an interaction is declared from a definition that was checked. -/
def declared (x : ExposedThing) (kind : InteractionKind) (name : String) (parsed : Value)
    (handler : Option Handler) : ExposedThing :=
  let i := interactionOf x.nextSerial kind name parsed
  { x with
    thing := { x.thing with interactions := x.thing.interactions ++ [i] }
    store := if kind = .property && !(parsed.member "value").isUndefined then x.store.set i.serial (parsed.member "value")
      else x.store
    handlers := match handler with
      | some h => x.handlers.set .invoke h (some i.serial)
      | none => x.handlers
    nextSerial := x.nextSerial + 1 }

/-- The definition that an interaction is declared from, if it can be declared from what is given. -/
def parsed? (kind : InteractionKind) (name definition : Value) : Option Value :=
  match givenDefinition kind definition with
  | .ok given => (parseDefinition (interactionSchema kind) name given).toOption
  | .error _ => none

private theorem declare_eq (x : ExposedThing) (kind : InteractionKind) (s : String) (parsed : Value)
    (handler : Option Handler) : x.declare kind s parsed handler =
      if (x.thing.find? s).isSome then .error (.duplicateInteraction s)
      else .ok (x.declared kind s parsed handler, .added kind s parsed (x.declared kind s parsed handler).thing.toDescription) := by
  simp only [declare, Thing.add]
  have hname : (interactionOf x.nextSerial kind s parsed).name = s := rfl
  rw [hname]
  split <;> rfl

section Except
variable {ε ε' α β : Type}

theorem mapError_eq_ok {f : ε → ε'} {r : Except ε α} {a : α} : r.mapError f = .ok a ↔ r = .ok a := by
  cases r with
  | error e => exact ⟨fun h => (by cases h), fun h => (by cases h)⟩
  | ok v => exact ⟨fun h => (by cases h; rfl), fun h => (by cases h; rfl)⟩

theorem bind_eq_ok {r : Except ε α} {f : α → Except ε β} {b : β} :
    (r >>= f) = .ok b ↔ ∃ a, r = .ok a ∧ f a = .ok b := by
  cases r <;> simp [bind, Except.bind]

end Except

theorem declare_eq_ok {s : String} {parsed : Value} {handler : Option Handler} :
    x.declare kind s parsed handler = .ok (x', e) ↔ (x.thing.find? s).isSome = false ∧
      x' = x.declared kind s parsed handler ∧ e = .added kind s parsed x'.thing.toDescription := by
  rw [declare_eq]
  cases (x.thing.find? s).isSome with
  | true => simp
  | false =>
    simp only [Bool.false_eq_true, ↓reduceIte, Except.ok.injEq, Prod.mk.injEq, true_and]
    constructor
    · rintro ⟨rfl, rfl⟩
      exact ⟨rfl, rfl⟩
    · rintro ⟨rfl, rfl⟩
      exact ⟨rfl, rfl⟩

theorem parsed?_eq_some {parsed : Value} : parsed? kind name definition = some parsed ↔
    ∃ given, givenDefinition kind definition = .ok given ∧
      parseDefinition (interactionSchema kind) name given = .ok parsed := by
  unfold parsed?
  cases givenDefinition kind definition with
  | error t => simp
  | ok given => cases hp : parseDefinition (interactionSchema kind) name given <;> simp [Except.toOption, hp]

/-- Declaring an interaction succeeds if the name is text that is not taken and not reserved and the
    definition fits, and then it is announced. -/
theorem add_eq_ok {handler : Option Handler} : x.add kind name definition handler = .ok (x', e) ↔
    ∃ s parsed, name = .string s ∧ parsed? kind name definition = some parsed ∧
      checkReserved kind name = .ok () ∧ (x.thing.find? s).isSome = false ∧
      x' = x.declared kind s parsed (givenHandler kind definition handler) ∧
      e = .added kind s parsed x'.thing.toDescription := by
  simp only [add, bind_eq_ok, mapError_eq_ok, parsed?_eq_some]
  constructor
  · rintro ⟨given, hgiven, parsed, hparsed, ⟨⟩, hfree, hadd⟩
    cases name with
    | string s => exact ⟨s, parsed, rfl, ⟨given, hgiven, hparsed⟩, hfree, declare_eq_ok.mp (mapError_eq_ok.mp hadd)⟩
    | _ => cases hadd
  · rintro ⟨s, parsed, rfl, ⟨given, hgiven, hparsed⟩, hfree, hadd⟩
    exact ⟨given, hgiven, parsed, hparsed, (), hfree, mapError_eq_ok.mpr (declare_eq_ok.mpr hadd)⟩

theorem name_of_findKind? {t : Thing} {i : Interaction} (h : t.findKind? kind name = some i) : name = .string i.name := by
  unfold Thing.findKind? at h
  split at h
  · rename_i s
    obtain ⟨hi, -⟩ := Option.filter_eq_some_iff.mp h
    have hname : i.name = s := by simpa using List.find?_some hi
    rw [hname]
  · cases h

theorem name_of_require {t : Thing} {i : Interaction} (h : t.require kind name = .ok i) : name = .string i.name := by
  unfold Thing.require at h
  split at h
  · rename_i j hj
    cases h
    exact name_of_findKind? hj
  · cases h

theorem require_of_findKind? {t : Thing} {i : Interaction} (h : t.findKind? kind name = some i) :
    t.require kind name = .ok i := by
  unfold Thing.require
  rw [h]

/-- Withdrawing an interaction succeeds if there is one of the name and kind, and then it is announced. -/
theorem remove_eq_ok : x.remove kind name = .ok (x', e) ↔
    ∃ i, x.thing.require kind name = .ok i ∧
      x' = { x with thing := x.thing.remove i.name, store := x.store.erase i.serial } ∧ e = .removed kind i.name := by
  simp only [remove, bind_eq_ok]
  constructor
  · rintro ⟨i, hi, h⟩
    cases h
    exact ⟨i, hi, rfl, rfl⟩
  · rintro ⟨i, hi, rfl, rfl⟩
    exact ⟨i, hi, rfl⟩

/-! ### Topics -/

/-- A Thing can be listened to for a topic: it declares the event, or the property, which may be observed. -/
def offers (x : ExposedThing) : Topic → Bool
  | .event name => (x.thing.findKind? .event name).isSome
  | .property name => (x.thing.findKind? .property name).any (·.observable)
  | _ => true

/-- The guard with which somebody listens for a topic. -/
def Topic.guard : Topic → Event → Except Thrown Bool
  | .event (.string name), e => .ok (e.isUser name)
  | .property (.string name), e => .ok (e.isChangeOf name)
  | .description, e => .ok e.isDescriptionChange
  | .all guard, e => guard e
  | _, _ => .ok false

/-- A topic that is offered is screened with its guard, -/
theorem screen_of_offers {topic : Topic} (ho : x.offers topic = true) : x.screen topic = .ok (screenBy topic.guard) := by
  cases topic with
  | event name =>
    obtain ⟨j, hj⟩ := Option.isSome_iff_exists.mp ho
    obtain rfl := name_of_findKind? hj
    simp only [ExposedThing.screen, hj]
    rfl
  | property name =>
    obtain ⟨j, hj, hobs⟩ := (Option.any_eq_true _ _).mp ho
    obtain rfl := name_of_findKind? hj
    simp only [ExposedThing.screen, hj, hobs, ↓reduceIte]
    rfl
  | _ => rfl

/-- and no other topic is. -/
theorem screen_eq_ok {topic : Topic} {screen : Event → Screening} :
    x.screen topic = .ok screen ↔ x.offers topic = true ∧ screen = screenBy topic.guard := by
  cases ho : x.offers topic with
  | true => simp only [screen_of_offers ho, Except.ok.injEq, true_and, eq_comm]
  | false =>
    simp only [Bool.false_eq_true, false_and, iff_false]
    cases topic with
    | event name =>
      have hj : x.thing.findKind? .event name = none := Option.isNone_iff_eq_none.mp (Option.isSome_eq_false_iff.mp ho)
      simp [ExposedThing.screen, hj]
    | property name =>
      cases hj : x.thing.findKind? .property name with
      | none => simp [ExposedThing.screen, hj]
      | some j =>
        have hobs : j.observable = false := by simpa [offers, hj] using ho
        simp [ExposedThing.screen, hj, hobs]
    | _ => cases ho

/-! ### Calls -/

/-- A call is accepted if there is what it calls, and if it may be written when the call writes. -/
theorem accept_eq (x : ExposedThing) (ask : Ask) : x.accept ask =
    match x.thing.findKind? (target ask.kind) ask.name with
    | none => .error (.notFound (target ask.kind) ask.name)
    | some i =>
      if ask.kind = .write ∧ i.writable = false then .error (.notWritable i.name)
      else .ok (i, x.handlers.get ask.kind (some i.serial)) := by
  simp only [accept, Thing.require]
  cases x.thing.findKind? (target ask.kind) ask.name with
  | none => rfl
  | some i =>
    simp only [bind, Except.bind, Bool.and_eq_true, decide_eq_true_eq, Bool.not_eq_true']
    split <;> rfl

theorem accept_of_missing {ask : Ask} (hi : x.thing.findKind? (target ask.kind) ask.name = none) :
    x.accept ask = .error (.notFound (target ask.kind) ask.name) := by
  rw [accept_eq, hi]

theorem accept_of_locked {ask : Ask} {i : Interaction} (hi : x.thing.findKind? (target ask.kind) ask.name = some i)
    (hkind : ask.kind = .write) (hw : i.writable = false) : x.accept ask = .error (.notWritable i.name) := by
  rw [accept_eq, hi]
  exact if_pos ⟨hkind, hw⟩

theorem accept_of_open {ask : Ask} {i : Interaction} (hi : x.thing.findKind? (target ask.kind) ask.name = some i)
    (hw : ask.kind = .write → i.writable = true) : x.accept ask = .ok (i, x.handlers.get ask.kind (some i.serial)) := by
  rw [accept_eq, hi]
  exact if_neg fun h => absurd (hw h.1) (by simp [h.2])

theorem found_of_accept {ask : Ask} {i : Interaction} {handler : Handler} (h : x.accept ask = .ok (i, handler)) :
    x.thing.findKind? (target ask.kind) ask.name = some i ∧ handler = x.handlers.get ask.kind (some i.serial) := by
  rw [accept_eq] at h
  split at h
  · cases h
  · rename_i j hj
    split at h <;> cases h
    exact ⟨hj, rfl⟩

/-- What the host itself answers to a call that finds what it calls. -/
theorem answer_of_found {ask : Ask} {i : Interaction} (hi : x.thing.findKind? (target ask.kind) ask.name = some i) :
    x.answer ask = match ask with
      | .read _ => (x, .ok (x.store.get i.serial))
      | .write _ v => ({ x with store := x.store.set i.serial v }, .ok .undefined)
      | .invoke .. => (x, refuse .undefinedActionHandler) := by
  have hr := require_of_findKind? hi
  cases ask with
  | read property => simp only [answer, show x.thing.require .property property = .ok i from hr]
  | write property v => simp only [answer, show x.thing.require .property property = .ok i from hr]
  | invoke action arguments => rfl

/-! ### The bus -/

theorem add_bus {handler : Option Handler} (h : x.add kind name definition handler = .ok (x', e)) :
    x'.bus = x.bus := by
  obtain ⟨s, parsed, -, -, -, -, rfl, -⟩ := add_eq_ok.mp h
  rfl

theorem remove_bus (h : x.remove kind name = .ok (x', e)) : x'.bus = x.bus := by
  obtain ⟨i, -, rfl, -⟩ := remove_eq_ok.mp h
  rfl

theorem setHandler_bus {call : CallKind} {handler : Handler} {name : Option Value}
    (h : x.setHandler call handler name = .ok x') : x'.bus = x.bus := by
  cases name with
  | none =>
    cases h
    rfl
  | some n =>
    simp only [setHandler] at h
    cases hr : x.thing.require (target call) n with
    | error t => rw [hr] at h; cases h
    | ok i =>
      rw [hr] at h
      cases h
      rfl

theorem answer_bus (x : ExposedThing) (ask : Ask) : (x.answer ask).1.bus = x.bus := by
  cases ask with
  | read property =>
    simp only [answer]
    split <;> rfl
  | write property value =>
    simp only [answer]
    split <;> rfl
  | invoke action arguments => rfl

end ThingHost.ExposedThing
