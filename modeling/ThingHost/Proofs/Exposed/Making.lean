import ThingHost.Proofs.Definition
import ThingHost.Proofs.Exposed.Past

/-! How a Thing is made: interactions are declared on it one after another, from definitions in the form that their
    schemas leave as it is. Only an event whose name is reserved can stop that. -/

namespace ThingHost

/-- An event is declared under a name that is reserved. -/
def reservesName (d : InteractionKind × String × Value) : Bool := d.1 = .event && isReserved d.2.1

/-- The refusal to declare an event under a reserved name. -/
def nameReserved (name : String) : ThingError := .invalidInteraction (.string name) [⟨[.key "name"], .nameReserved name⟩]

namespace ExposedThing

/-- The Thing after interactions are declared one after another, without handlers of their own. -/
def made (x : ExposedThing) : List (InteractionKind × String × Value) → ExposedThing
  | [] => x
  | d :: rest => made (x.declared d.1 d.2.1 d.2.2 none) rest

section Declaring
variable {x : ExposedThing} {d : InteractionKind × String × Value}

theorem givenDefinition_of_fits (hfits : Fits d) : givenDefinition d.1 d.2.2 = .ok d.2.2 := by
  obtain ⟨kind, name, definition⟩ := d
  obtain ⟨members, rfl⟩ := object_of_check hfits.definition
  cases kind with
  | action =>
    have hnone : Members.get? "handler" members = none := handler_of_check hfits.definition
    have hkeep : Members.without "handler" members = members := by
      refine List.filter_eq_self.mpr fun m hm => ?_
      have hne : m.1 ≠ "handler" := fun heq =>
        Members.get?_eq_none_iff.mp hnone (List.mem_map.mpr ⟨m, hm, heq⟩)
      simpa using hne
    simp [givenDefinition, Value.spread, hkeep]
  | _ => rfl

theorem parseDefinition_of_fits (hfits : Fits d) :
    parseDefinition (interactionSchema d.1) (.string d.2.1) d.2.2 = .ok d.2.2 := by
  have hname : ((nameSchema.check (.string d.2.1)).under (.key "name")).issues = [] :=
    (Schema.under_issues _ _).mpr hfits.name
  simp only [parseDefinition, hname, hfits.definition, Report.ok, List.nil_append]

/-- An interaction that fits is declared if its name is free, unless it is an event whose name is reserved. -/
theorem add_of_fits (hfits : Fits d) (hfree : (x.thing.find? d.2.1).isSome = false) :
    x.add d.1 (.string d.2.1) d.2.2 none = if reservesName d then refuse (nameReserved d.2.1) else
      .ok (x.declared d.1 d.2.1 d.2.2 none, .added d.1 d.2.1 d.2.2 (x.declared d.1 d.2.1 d.2.2 none).thing.toDescription) := by
  have hgiven := givenDefinition_of_fits hfits
  have hparse := parseDefinition_of_fits hfits
  obtain ⟨kind, name, definition⟩ := d
  dsimp only at hgiven hparse hfree ⊢
  have hreserved : checkReserved kind (.string name) =
      if reservesName (kind, name, definition) then .error (nameReserved name) else .ok () := by
    cases kind with
    | event => cases h : isReserved name <;> simp [checkReserved, reservesName, nameReserved, h]
    | _ => rfl
  cases hr : reservesName (kind, name, definition) with
  | true =>
    rw [hr] at hreserved
    simp [add, hgiven, hparse, hreserved, bind, Except.bind, Except.mapError, refuse]
  | false =>
    rw [hr] at hreserved
    have hhandler : givenHandler kind definition none = none := by
      rw [givenHandler, Value.member, handler_of_check hfits.definition]
      simp [Value.isVoid]
    refine add_eq_ok.mpr ⟨name, definition, rfl, ?_, hreserved, hfree, ?_, ?_⟩
    · exact parsed?_eq_some.mpr ⟨definition, hgiven, hparse⟩
    · rw [hhandler]
    · rfl

end Declaring

/-! ### What is made -/

section Made
variable {x : ExposedThing} {ds : List (InteractionKind × String × Value)}

theorem made_handlers (x : ExposedThing) (ds : List (InteractionKind × String × Value)) :
    (x.made ds).handlers = x.handlers := by
  induction ds generalizing x with
  | nil => rfl
  | cons d ds ih => exact ih _

/-- Who the Thing is stays the same. -/
theorem made_thing (x : ExposedThing) (ds : List (InteractionKind × String × Value)) : (x.made ds).thing =
    { x.thing with interactions := x.thing.interactions ++
        (ds.zipIdx x.nextSerial).map fun d => interactionOf d.2 d.1.1 d.1.2.1 d.1.2.2 } := by
  induction ds generalizing x with
  | nil => simp [made]
  | cons d ds ih =>
    rw [made, ih]
    simp [declared]

/-- The value that comes with a declaration. -/
def initialValue : InteractionKind × String × Value → Value
  | (.property, _, definition) => definition.member "value"
  | _ => .undefined

/-- What is declared under a serial has the value it came with; what had one before keeps it. -/
theorem declared_store (hstored : ∀ e ∈ x.store.entries, e.1 < x.nextSerial) (d : InteractionKind × String × Value) (n : Nat) :
    (x.declared d.1 d.2.1 d.2.2 none).store.get n = if n = x.nextSerial then initialValue d else x.store.get n := by
  obtain ⟨kind, name, definition⟩ := d
  have hnew : x.store.get x.nextSerial = .undefined := by
    rw [Store.get, Store.get?_of_absent fun e he => Nat.ne_of_lt (hstored e he)]
    rfl
  simp only [declared, interactionOf]
  by_cases hset : kind = .property ∧ (definition.member "value").isUndefined = false
  · obtain ⟨rfl, hvalue⟩ := hset
    simp only [hvalue, Bool.not_false, decide_true, Bool.and_self, ↓reduceIte]
    by_cases hn : n = x.nextSerial
    · rw [if_pos hn, hn, Store.get_set_self]
      rfl
    · rw [if_neg hn, Store.get_set_ne hn]
  · have hkeep : (kind = .property && !(definition.member "value").isUndefined) = false := by
      simpa using hset
    rw [hkeep, if_neg Bool.false_ne_true]
    by_cases hn : n = x.nextSerial
    · rw [if_pos hn, hn, hnew]
      cases kind with
      | property =>
        cases hv : definition.member "value" with
        | undefined => exact hv.symm
        | _ => simp [hv, Value.isUndefined] at hset
      | _ => rfl
    · rw [if_neg hn]

theorem made_store (hstored : ∀ e ∈ x.store.entries, e.1 < x.nextSerial) (n : Nat) :
    (x.made ds).store.get n = if n < x.nextSerial then x.store.get n else
      (ds[n - x.nextSerial]?.map initialValue).getD .undefined := by
  induction ds generalizing x with
  | nil =>
    split
    · rfl
    · rename_i hge
      have habsent : ∀ e ∈ x.store.entries, e.1 ≠ n := fun e he heq => hge (heq ▸ hstored e he)
      rw [made, Store.get, Store.get?_of_absent habsent]
      rfl
  | cons d ds ih =>
    have hstored' : ∀ e ∈ (x.declared d.1 d.2.1 d.2.2 none).store.entries, e.1 < x.nextSerial + 1 := by
      intro e he
      simp only [declared] at he
      split at he
      · rcases List.mem_cons.mp he with rfl | he
        · exact Nat.lt_succ_self _
        · exact Nat.lt_succ_of_lt (hstored e (List.mem_of_mem_filter he))
      · exact Nat.lt_succ_of_lt (hstored e he)
    have hnext : (x.declared d.1 d.2.1 d.2.2 none).nextSerial = x.nextSerial + 1 := rfl
    rw [made, ih hstored', declared_store hstored, hnext]
    -- What had a value before, what is declared first, and what is declared after it.
    rcases Nat.lt_trichotomy n x.nextSerial with hlt | rfl | hgt
    · simp [hlt, Nat.lt_succ_of_lt hlt, Nat.ne_of_lt hlt]
    · simp
    · have hsub : n - x.nextSerial = (n - (x.nextSerial + 1)) + 1 := by omega
      rw [if_neg (by omega), if_neg (by omega), hsub, List.getElem?_cons_succ]

end Made

end ExposedThing
end ThingHost
