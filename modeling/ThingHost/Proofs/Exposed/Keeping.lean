import ThingHost.Proofs.Definition
import ThingHost.Proofs.Exposed.Making
import ThingHost.Proofs.Exposed.Standing

/-! What the store of a Thing holds: values of properties that are declared, and no other. A value goes with its
    property, and what is declared afterwards, be it under the same name, has a value of its own or none. -/

namespace ThingHost.ExposedThing

/-- Nothing is stored but values of properties that are declared. -/
def Keeps (x : ExposedThing) : Prop :=
  ∀ e ∈ x.store.entries, ∃ i ∈ x.thing.interactions, i.kind = .property ∧ i.serial = e.1

section Keeps
variable {x y : ExposedThing} {deeds more : List Deed}

theorem Keeps.declared (h : Keeps x) (kind : InteractionKind) (s : String) (parsed : Value) (handler : Option Handler) :
    Keeps (x.declared kind s parsed handler) := by
  have old : ∀ e ∈ x.store.entries,
      ∃ i ∈ (x.declared kind s parsed handler).thing.interactions, i.kind = .property ∧ i.serial = e.1 := by
    intro e he
    obtain ⟨i, hi, hi'⟩ := h e he
    exact ⟨i, List.mem_append_left _ hi, hi'⟩
  intro e he
  simp only [ExposedThing.declared] at he
  split at he
  · rename_i hset
    obtain rfl : kind = .property := by simpa using (Bool.and_eq_true_iff.mp hset).1
    rcases List.mem_cons.mp he with rfl | he
    · exact ⟨interactionOf x.nextSerial .property s parsed, List.mem_append_right _ (List.mem_singleton_self _), rfl, rfl⟩
    · exact old e (List.mem_of_mem_filter he)
  · exact old e he

/-- The value of a property is forgotten when the property is withdrawn. No other one has its serial, and none
    has its name. -/
theorem Keeps.withdrawn (h : Keeps x) (htidy : Tidy x) {i : Interaction} (there : i ∈ x.thing.interactions) :
    Keeps { x with thing := x.thing.remove i.name, store := x.store.erase i.serial } := by
  intro e he
  obtain ⟨he, hne⟩ := List.mem_filter.mp he
  obtain ⟨j, hj, hkind, hserial⟩ := h e he
  have hname : j.name ≠ i.name := by
    intro hname
    obtain rfl := htidy.eq_of_name hj there hname
    simp [hserial] at hne
  exact ⟨j, List.mem_filter.mpr ⟨hj, by simpa using hname⟩, hkind, hserial⟩

theorem Keeps.written (h : Keeps x) {i : Interaction} (there : i ∈ x.thing.interactions) (property : i.kind = .property)
    (v : Value) : Keeps { x with store := x.store.set i.serial v } := by
  intro e he
  rcases List.mem_cons.mp he with rfl | he
  · exact ⟨i, there, property, rfl⟩
  · exact h e (List.mem_of_mem_filter he)

theorem Keeps.does (h : Keeps x) (htidy : Tidy x) (hd : x.Does deeds y) : Keeps y := by
  cases hd with
  | nothing => exact h
  | declared parsed handler fresh => exact h.declared _ _ parsed handler
  | withdrawn there => exact h.withdrawn htidy there
  | handledAll kind handler => exact h
  | handledOne kind handler there => exact h
  | written v there property own => exact h.written there property v
  | passed v there property other => exact h

theorem Past.keeps (h : Past deeds x) : Keeps x := by
  induction h with
  | new servient id name description =>
    intro e he
    cases he
  | does past deed bus ih =>
    have hy := ih.does past.tidy deed
    exact hy

end Keeps

/-! ### The value that a property starts with -/

section Values
variable {x y z : ExposedThing} {deeds more : List Deed} {i : Interaction} {v : Value}

theorem check_of_parseDefinition {schema : Schema} {name given parsed : Value}
    (h : parseDefinition schema name given = .ok parsed) : schema.check given = .ok parsed := by
  simp only [parseDefinition] at h
  split at h
  · rename_i hissues hresult
    cases h
    have hnone := (List.append_eq_nil_iff.mp hissues).2
    cases hcheck : schema.check given with
    | mk issues result =>
      rw [hcheck] at hnone hresult
      cases hnone
      cases hresult
      rfl
  · cases h

/-- A property comes with the value that its definition gives, if it gives one. -/
theorem value_of_parsed {name definition parsed : Value} (h : parsed? .property name definition = some parsed) :
    parsed.member "value" = definition.member "value" := by
  obtain ⟨given, hgiven, hparse⟩ := parsed?_eq_some.mp h
  rw [value_of_check (check_of_parseDefinition hparse)]
  cases definition <;> cases hgiven <;> rfl

/-- The value of the property `i` is `v`, or one that was written to it in the course of the deeds. -/
def Holding (v : Value) (i : Interaction) (deeds : List Deed) (x : ExposedThing) : Prop :=
  x.store.get i.serial = v ∨ ∃ w, .written i w ∈ deeds ∧ x.store.get i.serial = w

theorem Holding.kept (h : Holding v i deeds x) (hget : y.store.get i.serial = x.store.get i.serial)
    (more : List Deed) : Holding v i (deeds ++ more) y := by
  rw [Holding, hget]
  refine h.imp_right ?_
  rintro ⟨w, hw, hvalue⟩
  exact ⟨w, List.mem_append_left more hw, hvalue⟩

/-- Nothing that is done to other interactions changes the value of one, nor does what is declared anew. -/
theorem Holding.does (h : Holding v i deeds x) (htidy : Tidy x) (hi : i ∈ x.thing.interactions) (hd : x.Does more y)
    (hy : i ∈ y.thing.interactions) : Holding v i (deeds ++ more) y := by
  cases hd with
  | nothing => exact h.kept rfl []
  | @declared kind s parsed handler fresh =>
    have hold : i.serial ≠ x.nextSerial := Nat.ne_of_lt (htidy.issued i hi)
    have hget := declared_store htidy.stored (kind, s, parsed) i.serial
    exact h.kept (hget.trans (if_neg hold)) _
  | @withdrawn j there =>
    have hne : i.serial ≠ j.serial := by
      intro hserial
      obtain rfl := htidy.eq_of_serial hi there hserial
      simp [Thing.remove] at hy
    have hget : (x.store.erase j.serial).get i.serial = x.store.get i.serial := by
      rw [Store.get, Store.get?_erase hne]
      rfl
    exact h.kept hget _
  | handledAll kind handler => exact h.kept rfl _
  | handledOne kind handler there => exact h.kept rfl _
  | @written j w there property own =>
    by_cases hserial : i.serial = j.serial
    · obtain rfl := htidy.eq_of_serial hi there hserial
      exact .inr ⟨w, List.mem_append_right _ (List.mem_singleton_self _), Store.get_set_self _ _ _⟩
    · exact h.kept (Store.get_set_ne hserial w) _
  | passed w there property other => exact h.kept rfl _

end Values

end ThingHost.ExposedThing
