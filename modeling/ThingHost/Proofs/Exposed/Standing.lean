import ThingHost.Proofs.Exposed.Past

/-! What becomes of the interactions that a Thing declares at some moment. Each of them is declared as long as it is
    not withdrawn, and once withdrawn it is never declared again: what has its name afterwards is a new one. -/

namespace ThingHost.ExposedThing

/-- What was done to the Thing `x`, as far as it shows in what the Thing `y` that came of it declares. -/
structure Standing (x : ExposedThing) (deeds : List Deed) (y : ExposedThing) : Prop where
  stays : ∀ i ∈ x.thing.interactions, i ∈ y.thing.interactions ↔ .withdrawn i ∉ deeds
  serials : x.nextSerial ≤ y.nextSerial
  /-- What is new has a serial of its own, and was declared when nothing had its name any more. -/
  new : ∀ j ∈ y.thing.interactions, j ∈ x.thing.interactions ∨
    x.nextSerial ≤ j.serial ∧ ∃ before definition handler after, deeds = before ++ .declared j definition handler :: after ∧
      ∀ i ∈ x.thing.interactions, i.name = j.name → .withdrawn i ∈ before

namespace Standing
variable {x y z : ExposedThing} {deeds more : List Deed}

theorem refl (x : ExposedThing) : Standing x [] x :=
  ⟨fun _ hi => ⟨fun _ => List.not_mem_nil, fun _ => hi⟩, Nat.le_refl _, fun _ hj => .inl hj⟩

/-- What is new stays new. -/
theorem new_append (h : Standing x deeds y) (more : List Deed) {j : Interaction} (hj : j ∈ y.thing.interactions) :
    j ∈ x.thing.interactions ∨ x.nextSerial ≤ j.serial ∧ ∃ before definition handler after,
      deeds ++ more = before ++ .declared j definition handler :: after ∧
        ∀ i ∈ x.thing.interactions, i.name = j.name → .withdrawn i ∈ before := by
  rcases h.new j hj with hj | ⟨hserial, before, definition, handler, after, rfl, hgone⟩
  · exact .inl hj
  · exact .inr ⟨hserial, before, definition, handler, after ++ more, by simp, hgone⟩

theorem still (h : Standing x deeds y) (hsame : z.thing.interactions = y.thing.interactions)
    (hserial : z.nextSerial = y.nextSerial) (hno : ∀ i, .withdrawn i ∉ more) : Standing x (deeds ++ more) z := by
  refine ⟨fun i hi => ?_, hserial ▸ h.serials, fun j hj => h.new_append more (hsame ▸ hj)⟩
  rw [hsame, h.stays i hi, List.mem_append, not_or]
  exact (and_iff_left (hno i)).symm

theorem declared (h : Standing x deeds y) (htidy : Tidy x) {kind : InteractionKind} {s : String} (parsed : Value)
    (handler : Option Handler) (fresh : (y.thing.find? s).isSome = false) :
    Standing x (deeds ++ [.declared (interactionOf y.nextSerial kind s parsed) parsed handler])
      (y.declared kind s parsed handler) := by
  have hserial : (interactionOf y.nextSerial kind s parsed).serial = y.nextSerial := rfl
  refine ⟨fun i hi => ?_, Nat.le_succ_of_le h.serials, fun j hj => ?_⟩
  · have hne : i ≠ interactionOf y.nextSerial kind s parsed := by
      rintro rfl
      exact Nat.lt_irrefl _ (Nat.lt_of_lt_of_le (htidy.issued _ hi) (hserial ▸ h.serials))
    have hmem : i ∈ (y.declared kind s parsed handler).thing.interactions ↔ i ∈ y.thing.interactions := by
      simp [ExposedThing.declared, hne]
    rw [hmem, h.stays i hi]
    simp
  · rcases List.mem_append.mp hj with hj | hj
    · exact h.new_append _ hj
    · obtain rfl := List.mem_singleton.mp hj
      refine .inr ⟨hserial ▸ h.serials, deeds, parsed, handler, [], rfl, fun i hi hname => ?_⟩
      by_contra hstill
      have hthere : i ∈ y.thing.interactions := (h.stays i hi).mpr hstill
      have hfree := List.find?_eq_none.mp (Option.isNone_iff_eq_none.mp (Option.isSome_eq_false_iff.mp fresh)) i hthere
      exact hfree (decide_eq_true hname)

theorem withdrawn (h : Standing x deeds y) (hy : Tidy y) {i : Interaction} (there : i ∈ y.thing.interactions) :
    Standing x (deeds ++ [.withdrawn i]) { y with thing := y.thing.remove i.name, store := y.store.erase i.serial } := by
  have hmem : ∀ j, j ∈ (y.thing.remove i.name).interactions ↔ j ∈ y.thing.interactions ∧ j.name ≠ i.name := by
    intro j
    simp [Thing.remove]
  refine ⟨fun j hj => ?_, h.serials, fun j hj => h.new_append _ ((hmem j).mp hj).1⟩
  rw [List.mem_append, not_or, ← h.stays j hj, List.mem_singleton]
  refine (hmem j).trans (and_congr_right fun hthere => not_congr ⟨fun hname => ?_, fun heq => ?_⟩)
  · rw [hy.eq_of_name hthere there hname]
  · rw [Deed.withdrawn.inj heq]

theorem does (h : Standing x deeds y) (htidy : Tidy x) (hy : Tidy y) (hd : y.Does more z) :
    Standing x (deeds ++ more) z := by
  cases hd with
  | declared parsed handler fresh => exact h.declared htidy parsed handler fresh
  | withdrawn there => exact h.withdrawn hy there
  | nothing => exact h.still rfl rfl (by simp)
  | handledAll kind handler => exact h.still rfl rfl (by simp)
  | handledOne kind handler there => exact h.still rfl rfl (by simp)
  | written v there property own => exact h.still rfl rfl (by simp)
  | passed v there property other => exact h.still rfl rfl (by simp)

/-- What was declared under a name is found there as long as it has not been withdrawn. -/
theorem found_iff (h : Standing x deeds y) (hy : Tidy y) {kind : InteractionKind} {name : Value}
    {i : Interaction} (hi : x.thing.findKind? kind name = some i) :
    y.thing.findKind? kind name = some i ↔ .withdrawn i ∉ deeds := by
  obtain ⟨hthere, rfl⟩ := mem_of_findKind? hi
  rw [← h.stays i hthere]
  constructor
  · exact fun hfound => (mem_of_findKind? hfound).1
  · intro hstill
    rw [name_of_findKind? hi]
    exact hy.findKind? hstill

/-- Anything else that is found under the name, of whatever kind, was declared since, after the withdrawal. -/
theorem other (h : Standing x deeds y) (hx : Tidy x) {kind kind' : InteractionKind} {name : Value} {i j : Interaction}
    (hi : x.thing.findKind? kind name = some i) (hj : y.thing.findKind? kind' name = some j) (hne : j ≠ i) :
    i.serial < j.serial ∧ ∃ before definition handler after, deeds = before ++ .declared j definition handler :: after ∧
      .withdrawn i ∈ before := by
  have hthere := (mem_of_findKind? hi).1
  have hname : j.name = i.name := by
    have heq := (name_of_findKind? hj).symm.trans (name_of_findKind? hi)
    exact Value.string.inj heq
  rcases h.new j (mem_of_findKind? hj).1 with hold | ⟨hserial, before, definition, handler, after, heq, hgone⟩
  · exact absurd (hx.eq_of_name hold hthere hname) hne
  · exact ⟨Nat.lt_of_lt_of_le (hx.issued i hthere) hserial, before, definition, handler, after, heq,
      hgone i hthere hname.symm⟩

end Standing

end ThingHost.ExposedThing
