import Mathlib.Data.List.Pairwise
import ThingHost.Proofs.Exposed.Resolution

/-! The values of a Thing whose properties the host itself reads and writes: of each the last that was
    written to it since it was declared, else the one that it was declared with. -/

namespace ThingHost

/-- The name of a change and the value that it tells. -/
def Event.changeOf? (name : String) (e : Event) : Option Value :=
  match e with
  | .notification _ data => if e.isChangeOf name then Members.get? "value" data else none
  | .user .. => none

namespace Deed

/-- A handler is set for reads or writes. -/
def touches : Deed → Bool
  | .handled kind .. => kind ≠ .invoke
  | _ => false

/-- The host itself reads and writes. -/
def Untouched (deeds : List Deed) : Prop := ∀ d ∈ deeds, d.touches = false

instance (deeds : List Deed) : Decidable (Untouched deeds) := inferInstanceAs (Decidable (∀ d ∈ deeds, d.touches = false))

def written? (i : Interaction) : Deed → Option Value
  | .written j v => if j.serial = i.serial then some v else none
  | _ => none

/-- The value that comes with the declaration of an interaction. -/
def initial? (i : Interaction) : Deed → Option Value
  | .declared j definition _ => if j.serial = i.serial then some (definition.member "value") else none
  | _ => none

/-- What is known of the value of a property that nothing was written to. -/
def initialOf (deeds : List Deed) (i : Interaction) : Value := (latest (initial? i) deeds).getD .undefined

/-- The last value that was written to a property, else the one that it was declared with. -/
def valueOf (deeds : List Deed) (i : Interaction) : Value := (latest (written? i) deeds).getD (initialOf deeds i)

/-- The event that announces what was written. -/
def change? : Deed → Option Event
  | .written i v => some (.propertyChange (.string i.name) v)
  | _ => none

/-- The name of a property that is declared. -/
def property? : Deed → Option String
  | .declared i .. => if i.kind = .property then some i.name else none
  | _ => none

theorem Untouched.of_append {a b : List Deed} (h : Untouched (a ++ b)) : Untouched a :=
  fun d hd => h d (List.mem_append_left b hd)

/-- As long as no handler is set for reads or writes, the host itself answers them. -/
theorem Untouched.answering {deeds : List Deed} (h : Untouched deeds) {kind : CallKind} (hk : kind ≠ .invoke)
    (i : Interaction) : Deed.answering deeds kind i = .standard := by
  have hset : ∀ k handler name, .handled k handler name ∈ deeds → k ≠ kind := by
    rintro k handler name hd rfl
    simpa [touches, hk] using h _ hd
  have hown : latest (ownHandler? kind i) (since i deeds) = none := by
    refine latest_eq_none fun d hd => ?_
    have hd : d ∈ deeds := (List.dropWhile_sublist _).subset hd
    cases d with
    | declared j definition handler => simp [ownHandler?, hk]
    | handled k handler name => cases name <;> simp [ownHandler?, hset _ _ _ hd]
    | _ => rfl
  have hgeneral : latest (generalHandler? kind) deeds = none := by
    refine latest_eq_none fun d hd => ?_
    cases d with
    | handled k handler name => cases name <;> simp [generalHandler?, hset _ _ _ hd]
    | _ => rfl
  rw [Deed.answering, hown, hgeneral]
  rfl

/-- If no name is used for a second property, then a property is known by its name. -/
theorem eq_of_property {deeds : List Deed} {i j : Interaction} {d e : Value} {a b : Option Handler}
    (hnames : (deeds.filterMap property?).Nodup) (hi : .declared i d a ∈ deeds) (hj : .declared j e b ∈ deeds)
    (hik : i.kind = .property) (hjk : j.kind = .property) (hn : i.name = j.name) : i = j := by
  by_contra hne
  let apart (p q : Deed) : Prop := ∀ n, p.property? = some n → ∀ m, q.property? = some m → n ≠ m
  have hapart : deeds.Pairwise apart := List.pairwise_filterMap.mp hnames
  have : Std.Symm apart := ⟨fun p q h n hq m hp => (h m hp n hq).symm⟩
  have hdeeds : Deed.declared i d a ≠ .declared j e b := fun h => hne (Deed.declared.inj h).1
  exact hapart.forall hi hj hdeeds i.name (by simp [property?, hik]) j.name (by simp [property?, hjk]) hn

/-- What is written elsewhere is nothing to a property. -/
theorem valueOf_append {i : Interaction} {more : List Deed} (hw : latest (written? i) more = none)
    (hi : latest (initial? i) more = none) (deeds : List Deed) : valueOf (deeds ++ more) i = valueOf deeds i := by
  simp only [valueOf, initialOf, latest_append, hw, hi, Option.none_or]

end Deed

namespace ExposedThing

/-! ### What the store holds -/

section Values
variable {x y : ExposedThing} {deeds more : List Deed}

theorem Past.get_of_untouched (h : Past deeds x) (huntouched : Deed.Untouched deeds) {i : Interaction}
    (hi : i ∈ x.thing.interactions) {kind : CallKind} (hk : kind ≠ .invoke) :
    x.handlers.get kind (some i.serial) = .standard := by
  rw [h.get hi]
  exact huntouched.answering hk i

/-- The values of the properties are those of the past. -/
def Holds (deeds : List Deed) (x : ExposedThing) : Prop :=
  ∀ i ∈ x.thing.interactions, i.kind = .property → x.store.get i.serial = Deed.valueOf deeds i

/-- What neither writes nor declares anything changes no value. -/
theorem Holds.kept (h : Holds deeds x) (hwritten : ∀ i, Deed.latest (Deed.written? i) more = none)
    (hinitial : ∀ i, Deed.latest (Deed.initial? i) more = none)
    (hstore : ∀ i ∈ y.thing.interactions, i ∈ x.thing.interactions ∧ y.store.get i.serial = x.store.get i.serial) :
    Holds (deeds ++ more) y := by
  intro i hi hk
  obtain ⟨hix, hget⟩ := hstore i hi
  rw [Deed.valueOf_append (hwritten i) (hinitial i), hget]
  exact h i hix hk

theorem Holds.afterDeclared (h : Holds deeds x) (htidy : Tidy x)
    (hissued : ∀ d ∈ deeds, ∀ i, d.about = some i → i.serial < x.nextSerial) (kind : InteractionKind) (s : String)
    (parsed : Value) (handler : Option Handler) :
    Holds (deeds ++ [.declared (interactionOf x.nextSerial kind s parsed) parsed handler])
      (x.declared kind s parsed handler) := by
  have hserial : (interactionOf x.nextSerial kind s parsed).serial = x.nextSerial := rfl
  have hkind : (interactionOf x.nextSerial kind s parsed).kind = kind := interactionOf_kind _ _ _ _
  have hstore : (x.declared kind s parsed handler).store =
      if kind = .property && !(parsed.member "value").isUndefined then x.store.set x.nextSerial (parsed.member "value")
      else x.store := rfl
  intro i hi hk
  rcases List.mem_append.mp hi with hi | hi
  · have hne : i.serial ≠ x.nextSerial := Nat.ne_of_lt (htidy.issued i hi)
    have hget : (x.declared kind s parsed handler).store.get i.serial = x.store.get i.serial := by
      rw [hstore]
      split
      · exact Store.get_set_ne hne _
      · rfl
    have hother : Deed.latest (Deed.initial? i)
        [.declared (interactionOf x.nextSerial kind s parsed) parsed handler] = none :=
      Deed.latest_eq_none (by simp [Deed.initial?, hserial, Ne.symm hne])
    rw [hget, Deed.valueOf_append rfl hother]
    exact h i hi hk
  · obtain rfl := List.mem_singleton.mp hi
    obtain rfl : kind = .property := hkind.symm.trans hk
    have hnone : Deed.latest (Deed.written? (interactionOf x.nextSerial .property s parsed)) deeds = none := by
      refine Deed.latest_eq_none fun d hd => ?_
      cases d with
      | written j v =>
        have hlt : j.serial < x.nextSerial := hissued _ hd j rfl
        simp [Deed.written?, hserial, Nat.ne_of_lt hlt]
      | _ => rfl
    have hvalue : Deed.valueOf (deeds ++ [.declared (interactionOf x.nextSerial .property s parsed) parsed handler])
        (interactionOf x.nextSerial .property s parsed) = parsed.member "value" := by
      simp only [Deed.valueOf, Deed.initialOf, Deed.latest_append, hnone]
      simp [Deed.latest, Deed.written?, Deed.initial?]
    rw [hvalue, hserial, hstore]
    cases hu : (parsed.member "value").isUndefined with
    | false => exact Store.get_set_self _ _ _
    | true =>
      have habsent : x.store.get? x.nextSerial = none := Store.get?_of_absent fun e he => Nat.ne_of_lt (htidy.stored e he)
      have hvoid : parsed.member "value" = .undefined := by
        generalize parsed.member "value" = v at hu
        cases v <;> first | rfl | cases hu
      simp [Store.get, habsent, hvoid]

theorem Holds.does (h : Holds deeds x) (hpast : Past deeds x) (hd : x.Does more y)
    (huntouched : Deed.Untouched (deeds ++ more)) : Holds (deeds ++ more) y := by
  cases hd with
  | nothing => exact h.kept (fun _ => rfl) (fun _ => rfl) fun i hi => ⟨hi, rfl⟩
  | declared parsed handler fresh => exact h.afterDeclared hpast.tidy hpast.issued _ _ parsed handler
  | handledAll kind handler => exact h.kept (fun _ => rfl) (fun _ => rfl) fun i hi => ⟨hi, rfl⟩
  | handledOne kind handler there => exact h.kept (fun _ => rfl) (fun _ => rfl) fun i hi => ⟨hi, rfl⟩
  | @withdrawn j there =>
    refine h.kept (fun _ => rfl) (fun _ => rfl) fun i hi => ?_
    obtain ⟨hi, hname⟩ := List.mem_filter.mp hi
    have hne : i.serial ≠ j.serial := fun hs => by
      rw [hpast.tidy.eq_of_serial hi there hs] at hname
      simp at hname
    refine ⟨hi, ?_⟩
    rw [Store.get, Store.get?_erase hne]
    rfl
  | @written j v there property own =>
    intro i hi hk
    by_cases hs : j.serial = i.serial
    · rw [← hs, Store.get_set_self]
      simp [Deed.valueOf, Deed.latest, Deed.written?, hs]
    · have hother : Deed.latest (Deed.written? i) [.written j v] = none :=
        Deed.latest_eq_none (by simp [Deed.written?, hs])
      rw [Store.get_set_ne (Ne.symm hs), Deed.valueOf_append hother rfl]
      exact h i hi hk
  | passed v there property other =>
    exact absurd (hpast.get_of_untouched huntouched.of_append there (by simp)) other

/-- As long as no handler is set for reads or writes, the store holds what was written. -/
theorem Past.holds (h : Past deeds x) (huntouched : Deed.Untouched deeds) : Holds deeds x := by
  induction h with
  | new servient id name description =>
    intro i hi
    cases hi
  | does past deed bus ih =>
    have hy := (ih huntouched.of_append).does past deed huntouched
    exact hy

end Values

/-! ### Names that are used once -/

section Names
variable {x y : ExposedThing} {deeds more : List Deed}

/-- What is declared or written to was declared in the past, and is told apart by its serial. -/
structure Declared (deeds : List Deed) (x : ExposedThing) : Prop where
  there : ∀ i ∈ x.thing.interactions, ∃ definition handler, .declared i definition handler ∈ deeds
  written : ∀ i v, .written i v ∈ deeds → i.kind = .property ∧ ∃ definition handler, .declared i definition handler ∈ deeds
  same : ∀ i ∈ x.thing.interactions, ∀ d ∈ deeds, ∀ j, d.about = some j → j.serial = i.serial → j = i

/-- What declares nothing is about what is declared. -/
theorem Declared.kept (h : Declared deeds x) (htidy : Tidy x)
    (hsub : ∀ i ∈ y.thing.interactions, i ∈ x.thing.interactions)
    (habout : ∀ d ∈ more, ∀ i, d.about = some i → i ∈ x.thing.interactions)
    (hwritten : ∀ i v, .written i v ∈ more → i.kind = .property) : Declared (deeds ++ more) y := by
  have there : ∀ i ∈ x.thing.interactions, ∃ definition handler, .declared i definition handler ∈ deeds ++ more := by
    intro i hi
    obtain ⟨definition, handler, hd⟩ := h.there i hi
    exact ⟨definition, handler, List.mem_append_left _ hd⟩
  refine ⟨fun i hi => there i (hsub i hi), fun i v hd => ?_, fun i hi d hd j hj hs => ?_⟩
  · rcases List.mem_append.mp hd with hd | hd
    · obtain ⟨hk, definition, handler, hd⟩ := h.written i v hd
      exact ⟨hk, definition, handler, List.mem_append_left _ hd⟩
    · exact ⟨hwritten i v hd, there i (habout _ hd i rfl)⟩
  · rcases List.mem_append.mp hd with hd | hd
    · exact h.same i (hsub i hi) d hd j hj hs
    · exact htidy.eq_of_serial (habout d hd j hj) (hsub i hi) hs

theorem Declared.afterDeclared (h : Declared deeds x) (htidy : Tidy x)
    (hissued : ∀ d ∈ deeds, ∀ i, d.about = some i → i.serial < x.nextSerial) (kind : InteractionKind) (s : String)
    (parsed : Value) (handler : Option Handler) :
    Declared (deeds ++ [.declared (interactionOf x.nextSerial kind s parsed) parsed handler])
      (x.declared kind s parsed handler) := by
  have hserial : (interactionOf x.nextSerial kind s parsed).serial = x.nextSerial := rfl
  refine ⟨fun i hi => ?_, fun i v hd => ?_, fun i hi d hd j hj hs => ?_⟩
  · rcases List.mem_append.mp hi with hi | hi
    · obtain ⟨definition, handler', hd⟩ := h.there i hi
      exact ⟨definition, handler', List.mem_append_left _ hd⟩
    · obtain rfl := List.mem_singleton.mp hi
      exact ⟨parsed, handler, by simp⟩
  · obtain ⟨hk, definition, handler', hd⟩ := h.written i v (by simpa using hd)
    exact ⟨hk, definition, handler', List.mem_append_left _ hd⟩
  · -- The serial of what is declared now was not given out before.
    rcases List.mem_append.mp hi with hi | hi <;> rcases List.mem_append.mp hd with hd | hd
    · exact h.same i hi d hd j hj hs
    · obtain rfl := List.mem_singleton.mp hd
      cases hj
      exact absurd hs (Nat.ne_of_gt (htidy.issued i hi))
    · obtain rfl := List.mem_singleton.mp hi
      exact absurd hs (Nat.ne_of_lt (hissued d hd j hj))
    · obtain rfl := List.mem_singleton.mp hi
      obtain rfl := List.mem_singleton.mp hd
      cases hj
      rfl

theorem Past.declared (h : Past deeds x) : Declared deeds x := by
  induction h with
  | new servient id name description =>
    refine ⟨fun i hi => ?_, fun i v hd => ?_, fun i hi => ?_⟩
    · cases hi
    · cases hd
    · cases hi
  | @does deeds more x y past deed bus ih =>
    suffices hy : Declared (deeds ++ more) y from ⟨hy.there, hy.written, hy.same⟩
    have htidy := past.tidy
    cases deed with
    | declared parsed handler fresh => exact ih.afterDeclared htidy past.issued _ _ parsed handler
    | nothing => exact ih.kept htidy (fun i hi => hi) (by simp) (by simp)
    | withdrawn there =>
      exact ih.kept htidy (fun i hi => List.mem_of_mem_filter hi) (by simpa [Deed.about] using there) (by simp)
    | handledAll kind handler => exact ih.kept htidy (fun i hi => hi) (by simp [Deed.about]) (by simp)
    | handledOne kind handler there => exact ih.kept htidy (fun i hi => hi) (by simp [Deed.about]) (by simp)
    | written v there property own =>
      exact ih.kept htidy (fun i hi => hi) (by simpa [Deed.about] using there) (by simpa using property)
    | passed v there property other =>
      exact ih.kept htidy (fun i hi => hi) (by simpa [Deed.about] using there) (by simpa using property)

/-- As long as no name is used for a second property, what was written to a property is what was announced
    under its name. -/
theorem Declared.written?_eq (h : Declared deeds x) (hnames : (deeds.filterMap Deed.property?).Nodup) {i : Interaction}
    (hi : i ∈ x.thing.interactions) (hk : i.kind = .property) {d : Deed} (hd : d ∈ deeds) :
    Deed.written? i d = d.change?.bind (Event.changeOf? i.name) := by
  cases d with
  | written j v =>
    obtain ⟨hjk, dj, hj, hjd⟩ := h.written j v hd
    obtain ⟨di, hi', hid⟩ := h.there i hi
    have hsame : j.serial = i.serial ↔ j.name = i.name := by
      constructor
      · exact fun hs => h.same i hi _ hd j rfl hs ▸ rfl
      · exact fun hn => Deed.eq_of_property hnames hjd hid hjk hk hn ▸ rfl
    simp [Deed.written?, Deed.change?, Event.changeOf?, Event.propertyChange, Event.isChangeOf, hsame, Members.get?]
  | _ => rfl

theorem Declared.latest_written (h : Declared deeds x) (hnames : (deeds.filterMap Deed.property?).Nodup) {i : Interaction}
    (hi : i ∈ x.thing.interactions) (hk : i.kind = .property) : Deed.latest (Deed.written? i) deeds =
      ((deeds.filterMap Deed.change?).filterMap (Event.changeOf? i.name)).getLast? := by
  rw [Deed.latest, List.filterMap_filterMap]
  exact congrArg List.getLast? (List.filterMap_congr fun d hd => h.written?_eq hnames hi hk hd)

end Names

end ExposedThing
end ThingHost
