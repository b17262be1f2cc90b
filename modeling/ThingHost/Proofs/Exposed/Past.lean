import ThingHost.Proofs.Exposed
import ThingHost.Proofs.Thing.Collection

/-! The past of a Thing: what was done to it since it was made, one deed after another. All that a Thing is
    comes from its past, apart from its bus, which has a record of its own. -/

namespace ThingHost

/-- Something that was done to a Thing and not refused. -/
inductive Deed where
  /-- An interaction was declared from a definition, maybe with a handler of its own. -/
  | declared (i : Interaction) (definition : Value) (handler : Option Handler)
  | withdrawn (i : Interaction)
  /-- The handler of a kind of call was set, for the interaction of a name or for all. -/
  | handled (kind : CallKind) (handler : Handler) (name : Option String)
  /-- A write was asked for and found a property that may be written. -/
  | written (i : Interaction) (value : Value)

theorem interactionOf_kind (serial : Nat) (kind : InteractionKind) (name : String) (definition : Value) :
    (interactionOf serial kind name definition).kind = kind := by
  cases kind <;> rfl

namespace Deed

/-- The interaction that something was done to, if it was done to one that is known by its number. -/
def about : Deed → Option Interaction
  | .declared i .. => some i
  | .withdrawn i => some i
  | .handled .. => none
  | .written i _ => some i

/-- What is to be found in the last of the deeds in which it is to be found. -/
def latest {α : Type} (look : Deed → Option α) (deeds : List Deed) : Option α := (deeds.filterMap look).getLast?

theorem latest_append {α : Type} (look : Deed → Option α) (a b : List Deed) :
    latest look (a ++ b) = (latest look b).or (latest look a) := by
  rw [latest, List.filterMap_append, List.getLast?_append]
  rfl

theorem latest_eq_none {α : Type} {look : Deed → Option α} {deeds : List Deed} (h : ∀ d ∈ deeds, look d = none) :
    latest look deeds = none := by
  rw [latest, List.filterMap_eq_nil_iff.mpr h]
  rfl

end Deed

namespace ExposedThing

/-- What a Thing becomes by what is done to it. A write changes it only if the host itself answers. -/
inductive Does (x : ExposedThing) : List Deed → ExposedThing → Prop where
  | nothing : Does x [] x
  | declared {kind : InteractionKind} {s : String} (parsed : Value) (handler : Option Handler)
      (fresh : (x.thing.find? s).isSome = false) :
      Does x [.declared (interactionOf x.nextSerial kind s parsed) parsed handler] (x.declared kind s parsed handler)
  | withdrawn {i : Interaction} (there : i ∈ x.thing.interactions) :
      Does x [.withdrawn i] { x with thing := x.thing.remove i.name, store := x.store.erase i.serial }
  | handledAll (kind : CallKind) (handler : Handler) :
      Does x [.handled kind handler none] { x with handlers := x.handlers.set kind handler none }
  | handledOne {i : Interaction} (kind : CallKind) (handler : Handler) (there : i ∈ x.thing.interactions) :
      Does x [.handled kind handler (some i.name)] { x with handlers := x.handlers.set kind handler (some i.serial) }
  | written {i : Interaction} (v : Value) (there : i ∈ x.thing.interactions) (property : i.kind = .property)
      (own : x.handlers.get .write (some i.serial) = .standard) :
      Does x [.written i v] { x with store := x.store.set i.serial v }
  | passed {i : Interaction} (v : Value) (there : i ∈ x.thing.interactions) (property : i.kind = .property)
      (other : x.handlers.get .write (some i.serial) ≠ .standard) : Does x [.written i v] x

/-- The deeds that made a Thing what it is. -/
inductive Past : List Deed → ExposedThing → Prop where
  | new (servient : Nat) (id name : String) (description : Option String) :
      Past [] (.new servient (.new id name description))
  | does {deeds more : List Deed} {x y : ExposedThing} (past : Past deeds x) (deed : x.Does more y)
      (bus : Bus Listener) : Past (deeds ++ more) { y with bus }

theorem Does.id {deeds : List Deed} {x y : ExposedThing} (h : x.Does deeds y) : y.id = x.id := by cases h <;> rfl

/-! ### Names and serials -/

/-- No two interactions have one name or one serial, and nothing is kept under a serial that was not given
    out yet. -/
structure Tidy (x : ExposedThing) : Prop where
  names : (x.thing.interactions.map (·.name)).Nodup
  serials : (x.thing.interactions.map (·.serial)).Nodup
  issued : ∀ i ∈ x.thing.interactions, i.serial < x.nextSerial
  own : ∀ e ∈ x.handlers.own, e.1.2 < x.nextSerial
  stored : ∀ e ∈ x.store.entries, e.1 < x.nextSerial

section Found
variable {x : ExposedThing} {i j : Interaction} {kind : InteractionKind} {name : Value}

theorem mem_of_findKind? {t : Thing} (h : t.findKind? kind name = some i) : i ∈ t.interactions ∧ i.kind = kind := by
  unfold Thing.findKind? at h
  split at h
  · obtain ⟨hi, hk⟩ := Option.filter_eq_some_iff.mp h
    exact ⟨List.mem_of_find?_eq_some hi, by simpa using hk⟩
  · cases h

theorem findKind?_of_require {t : Thing} (h : t.require kind name = .ok i) : t.findKind? kind name = some i := by
  unfold Thing.require at h
  split at h
  · rename_i j hj
    cases h
    exact hj
  · cases h

theorem Tidy.eq_of_name (h : Tidy x) (hi : i ∈ x.thing.interactions) (hj : j ∈ x.thing.interactions)
    (hn : i.name = j.name) : i = j := List.inj_on_of_nodup_map h.names hi hj hn

theorem Tidy.eq_of_serial (h : Tidy x) (hi : i ∈ x.thing.interactions) (hj : j ∈ x.thing.interactions)
    (hn : i.serial = j.serial) : i = j := List.inj_on_of_nodup_map h.serials hi hj hn

/-- What is declared is found under its name. -/
theorem Tidy.findKind? (h : Tidy x) (hi : i ∈ x.thing.interactions) :
    x.thing.findKind? i.kind (.string i.name) = some i := by
  have hfind : x.thing.find? i.name = some i := Thing.find?_of_mem h.names hi
  simp [Thing.findKind?, hfind]

end Found

section Tidy
variable {x y : ExposedThing} {deeds : List Deed}

theorem Tidy.declared (h : Tidy x) {kind : InteractionKind} {s : String} (parsed : Value) (handler : Option Handler)
    (fresh : (x.thing.find? s).isSome = false) : Tidy (x.declared kind s parsed handler) := by
  have hnew : ∀ i ∈ x.thing.interactions, i.name ≠ s := by
    intro i hi
    have hnone := List.find?_eq_none.mp (Option.isSome_eq_false_iff.mp fresh |> Option.isNone_iff_eq_none.mp) i hi
    simpa using hnone
  refine ⟨?_, ?_, ?_, ?_, ?_⟩
  · exact Thing.distinct_concat h.names hnew
  · simp only [ExposedThing.declared, List.map_append, List.map_cons, List.map_nil]
    refine List.nodup_append.mpr ⟨h.serials, List.nodup_singleton _, ?_⟩
    rintro a ha b hb rfl
    obtain ⟨i, hi, rfl⟩ := List.mem_map.mp ha
    exact Nat.lt_irrefl _ (List.mem_singleton.mp hb ▸ h.issued i hi)
  · intro i hi
    rcases List.mem_append.mp hi with hi | hi
    · exact Nat.lt_succ_of_lt (h.issued i hi)
    · obtain rfl := List.mem_singleton.mp hi
      exact Nat.lt_succ_self _
  · intro e he
    have hold : ∀ e ∈ x.handlers.own, e.1.2 < x.nextSerial + 1 := fun e he => Nat.lt_succ_of_lt (h.own e he)
    cases handler with
    | none => exact hold e he
    | some handler =>
      rcases List.mem_cons.mp he with rfl | he
      · exact Nat.lt_succ_self _
      · exact hold e he
  · intro e he
    have hold : ∀ e ∈ x.store.entries, e.1 < x.nextSerial + 1 := fun e he => Nat.lt_succ_of_lt (h.stored e he)
    simp only [ExposedThing.declared] at he
    split at he
    · rcases List.mem_cons.mp he with rfl | he
      · exact Nat.lt_succ_self _
      · exact hold e (List.mem_of_mem_filter he)
    · exact hold e he

theorem Tidy.withdrawn (h : Tidy x) (i : Interaction) :
    Tidy { x with thing := x.thing.remove i.name, store := x.store.erase i.serial } := by
  have hsub : (x.thing.remove i.name).interactions.Sublist x.thing.interactions := List.filter_sublist
  exact ⟨(hsub.map _).nodup h.names, (hsub.map _).nodup h.serials, fun j hj => h.issued j (hsub.subset hj), h.own,
    fun e he => h.stored e (List.mem_of_mem_filter he)⟩

theorem Tidy.does (h : Tidy x) (hd : x.Does deeds y) : Tidy y := by
  cases hd with
  | nothing => exact h
  | declared parsed handler fresh => exact h.declared parsed handler fresh
  | @withdrawn i there => exact h.withdrawn i
  | handledAll kind handler => exact ⟨h.names, h.serials, h.issued, h.own, h.stored⟩
  | @handledOne i kind handler there =>
    refine ⟨h.names, h.serials, h.issued, ?_, h.stored⟩
    intro e he
    rcases List.mem_cons.mp he with rfl | he
    · exact h.issued i there
    · exact h.own e he
  | @written i v there =>
    refine ⟨h.names, h.serials, h.issued, h.own, ?_⟩
    intro e he
    rcases List.mem_cons.mp he with rfl | he
    · exact h.issued i there
    · exact h.stored e (List.mem_of_mem_filter he)
  | passed => exact h

theorem Past.tidy (h : Past deeds x) : Tidy x := by
  induction h with
  | new servient id name description =>
    refine ⟨List.nodup_nil, List.nodup_nil, fun i hi => ?_, fun e he => ?_, fun e he => ?_⟩
    · cases hi
    · cases he
    · cases he
  | does past deed bus ih =>
    have hy := ih.does deed
    exact ⟨hy.names, hy.serials, hy.issued, hy.own, hy.stored⟩

/-- The numbers in a Thing's past were given out by it. -/
theorem Past.issued (h : Past deeds x) : ∀ d ∈ deeds, ∀ i, d.about = some i → i.serial < x.nextSerial := by
  induction h with
  | new servient id name description =>
    intro d hd
    cases hd
  | @does deeds more x y past deed bus ih =>
    have htidy := past.tidy
    have hnext : x.nextSerial ≤ y.nextSerial ∧ ∀ d ∈ more, ∀ i, d.about = some i → i.serial < y.nextSerial := by
      cases deed with
      | nothing => exact ⟨Nat.le_refl _, by simp⟩
      | declared parsed handler fresh => exact ⟨Nat.le_succ _, by simp [Deed.about, interactionOf, declared]⟩
      | withdrawn there => exact ⟨Nat.le_refl _, by simpa [Deed.about] using htidy.issued _ there⟩
      | handledAll kind handler => exact ⟨Nat.le_refl _, by simp [Deed.about]⟩
      | handledOne kind handler there => exact ⟨Nat.le_refl _, by simp [Deed.about]⟩
      | written v there property own => exact ⟨Nat.le_refl _, by simpa [Deed.about] using htidy.issued _ there⟩
      | passed v there property other => exact ⟨Nat.le_refl _, by simpa [Deed.about] using htidy.issued _ there⟩
    intro d hd i hi
    rcases List.mem_append.mp hd with hd | hd
    · exact Nat.lt_of_lt_of_le (ih d hd i hi) hnext.1
    · exact hnext.2 d hd i hi

end Tidy

end ExposedThing
end ThingHost
