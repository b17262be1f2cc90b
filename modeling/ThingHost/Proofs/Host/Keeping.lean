import ThingHost.Proofs.Exposed.Keeping
import ThingHost.Proofs.Host.Standing

/-! The values that a Thing keeps in the course of a run. Whatever calls are under way, and whoever does what while
    others run, it keeps values of the properties that it declares and of nothing else; so a property that is declared
    under a name that was in use before has none of the values that the name had then. -/

namespace ThingHost
namespace Host

/-- The property `i` was declared on the Thing `t` from a definition, under a name, after the inputs `earlier`; the
    inputs `later` came since, and did the deeds `since`. The Thing is `x` by now. -/
structure Begins (t : Nat) (earlier : List Input) (name definition : Value) (later : List Input) (since : List Deed)
    (x : ExposedThing) (i : Interaction) : Prop where
  kind : i.kind = .property
  named : name = .string i.name
  /-- It is another one than all to which anything was done before. -/
  another : ∀ d ∈ history t earlier, ∀ j, d.about = some j → j.serial < i.serial
  /-- The name stands for it as long as it is not withdrawn. -/
  found : x.thing.findKind? .property name = some i ↔ .withdrawn i ∉ since
  /-- Its value is the one that its definition gives, undefined if there is none, or one that was written to it, -/
  value : .withdrawn i ∉ since → x.store.get i.serial = definition.member "value" ∨
    ∃ v, .written i v ∈ since ∧ x.store.get i.serial = v
  /-- and a write to it was called since it is there. -/
  asked : ∀ v, .written i v ∈ since → .operate (.call t (.write name v)) ∈ later
  /-- This is what the host itself answers to whoever reads it. -/
  read : .withdrawn i ∉ since → x.answer (.read name) = (x, .ok (x.store.get i.serial))
  /-- When it is withdrawn, its value is gone for good. -/
  gone : .withdrawn i ∈ since → x.store.get? i.serial = none

/-- What the Thing `t` keeps after the run `inputs`, when it is `x`. -/
structure Keeping (t : Nat) (inputs : List Input) (x : ExposedThing) : Prop where
  declared : x.Keeps
  /-- A property that is declared in the course of the run starts with its own value or none. -/
  begins : ∀ earlier name definition handler later y,
    inputs = earlier ++ .operate (.add t .property name definition handler) :: later →
    (reached earlier).things[t]? = some y →
    clean ((reached earlier).operate (.add t .property name definition handler)) = true →
    ∃ i, Begins t earlier name definition later
      (meanwhile t (earlier ++ [.operate (.add t .property name definition handler)]) later) x i

section Steps
variable {h : Host} {t : Nat} {x : ExposedThing}

/-- A write is done to what has the name that the call gives. -/
theorem call_of_written {i : Interaction} {v : Value} {j : Input} (hd : .written i v ∈ deeds t h j) :
    j = .operate (.call t (.write (.string i.name) v)) := by
  rcases deeds_cases hd with ⟨_, _, _, _, -, -, -, hd⟩ | ⟨op, y, rfl, hop, -, -, hy⟩
  · obtain ⟨_, _, _, -, _, _, heq⟩ := ExposedThing.mem_declaredFrom hd
    cases heq
  · cases op with
    | call t' ask =>
      obtain rfl : t' = t := Option.some.inj hop
      cases ask with
      | write property w =>
        obtain ⟨k, hk, heq⟩ := Option.map_eq_some_iff.mp hy
        cases heq
        rw [ExposedThing.name_of_findKind? (Option.filter_eq_some_iff.mp hk).1]
      | _ => cases hy
    | _ => simp [ExposedThing.deed?, Option.bind_eq_some_iff] at hy

/-- A declaration that is not refused is done at once. -/
theorem declared_of_clean (hx : h.things[t]? = some x) {kind : InteractionKind} {name definition : Value}
    {handler : Option Nat} (hc : clean (h.operate (.add t kind name definition handler)) = true) :
    ∃ s parsed own bus, name = .string s ∧ ExposedThing.parsed? kind name definition = some parsed ∧
      (h.operate (.add t kind name definition handler)).1.things[t]? =
        some { x.declared kind s parsed own with bus } := by
  obtain ⟨y, e, hr⟩ := added_of_clean hx hc
  obtain ⟨s, parsed, hname, hparsed, -, -, hy, -⟩ := ExposedThing.add_eq_ok.mp hr
  obtain ⟨hlt, -⟩ := List.getElem?_eq_some_iff.mp hx
  have hthere : (h.operate (.add t kind name definition handler)).1.bare[t]? = some y.bare := by
    rw [operate_add hx, announce_bare, hr]
    exact List.getElem?_set_self (by simpa [bare] using hlt)
  obtain ⟨z, hz, -⟩ := Option.map_eq_some_iff.mp (List.getElem?_map ▸ hthere)
  rw [thing_of_bare hz hthere, hy] at hz
  exact ⟨s, parsed, _, z.bus, hname, hparsed, hz⟩

end Steps

section Runs
variable {t : Nat} {earlier inputs : List Input} {x y : ExposedThing} {i : Interaction} {v : Value}

theorem called_of_written {more : List Input} (hd : .written i v ∈ meanwhile t earlier more) :
    .operate (.call t (.write (.string i.name) v)) ∈ more := by
  induction more using List.reverseRecOn with
  | nil => cases hd
  | append_singleton more j ih =>
    rw [meanwhile_concat] at hd
    rcases List.mem_append.mp hd with hd | hd
    · exact List.mem_append_left _ (ih hd)
    · exact List.mem_append_right _ (List.mem_singleton.mpr (call_of_written hd).symm)

/-- A property that is not withdrawn keeps its value until another is written to it. -/
theorem holding_reached (hx : (reached earlier).things[t]? = some x) (hi : i ∈ x.thing.interactions)
    (hv : x.store.get i.serial = v) (more : List Input) (hy : (reached (earlier ++ more)).things[t]? = some y)
    (hstill : .withdrawn i ∉ meanwhile t earlier more) : ExposedThing.Holding v i (meanwhile t earlier more) y := by
  induction more using List.reverseRecOn generalizing y with
  | nil =>
    rw [List.append_nil, hx] at hy
    obtain rfl := Option.some.inj hy
    exact .inl hv
  | append_singleton more j ih =>
    obtain ⟨z, hz, hstanding⟩ := standing_reached hx more
    obtain ⟨y', hy', hstanding'⟩ := standing_reached hx (more ++ [j])
    obtain rfl := Option.some.inj (hy.symm.trans hy')
    rw [← List.append_assoc, reached_snoc] at hy
    obtain ⟨w, b, hd, hw⟩ := step_does hz j
    obtain rfl := Option.some.inj (hw.symm.trans hy)
    have hthere : i ∈ w.thing.interactions := (hstanding'.stays i hi).mpr hstill
    rw [meanwhile_concat] at hstill ⊢
    have hstill' : .withdrawn i ∉ meanwhile t earlier more := fun hc => hstill (List.mem_append_left _ hc)
    have hnext := (ih hz hstill').does (tidy_reached hz) ((hstanding.stays i hi).mpr hstill') hd hthere
    exact hnext

/-- What is withdrawn leaves nothing behind, whatever is declared afterwards. -/
theorem gone_reached (hx : (reached earlier).things[t]? = some x) (hi : i ∈ x.thing.interactions) {more : List Input}
    (hy : (reached (earlier ++ more)).things[t]? = some y) (hgone : .withdrawn i ∈ meanwhile t earlier more) :
    y.store.get? i.serial = none := by
  obtain ⟨y', hy', hstanding⟩ := standing_reached hx more
  obtain rfl := Option.some.inj (hy.symm.trans hy')
  refine Store.get?_of_absent fun e he hserial => ?_
  obtain ⟨j, hj, -, hj'⟩ := (past_reached hy).keeps e he
  rcases hstanding.new j hj with hold | ⟨hnew, -⟩
  · obtain rfl := (tidy_reached hx).eq_of_serial hold hi (hj'.trans hserial)
    exact (hstanding.stays j hi).mp hj hgone
  · exact Nat.lt_irrefl _ (Nat.lt_of_lt_of_le ((tidy_reached hx).issued i hi) ((hserial ▸ hj') ▸ hnew))

/-- Whatever a Thing goes through, it keeps values of declared properties alone, and a property that is declared
    starts with its own value or none. -/
theorem keeping_law (hx : (reached inputs).things[t]? = some x) : Keeping t inputs x := by
  refine ⟨(past_reached hx).keeps, fun earlier name definition handler later y hsplit hy hc => ?_⟩
  obtain ⟨s, parsed, own, bus, rfl, hparsed, hz⟩ := declared_of_clean hy hc
  rw [hsplit, List.append_cons] at hx
  have hz' : (reached (earlier ++ [.operate (.add t .property (.string s) definition handler)])).things[t]? =
      some { y.declared .property s parsed own with bus } := by
    rw [reached_snoc]
    exact hz
  let i := interactionOf y.nextSerial .property s parsed
  have hi : i ∈ (y.declared .property s parsed own).thing.interactions :=
    List.mem_append_right _ (List.mem_singleton_self _)
  have hvalue : (y.declared .property s parsed own).store.get i.serial = definition.member "value" := by
    rw [← ExposedThing.value_of_parsed hparsed]
    exact (ExposedThing.declared_store (tidy_reached hy).stored (.property, s, parsed) i.serial).trans (if_pos rfl)
  obtain ⟨x', hx', hstanding⟩ := standing_reached hz' later
  obtain rfl := Option.some.inj (hx.symm.trans hx')
  have hfound := hstanding.found_iff (tidy_reached hx) ((tidy_reached hz').findKind? hi)
  refine ⟨i, rfl, rfl, (past_reached hy).issued, hfound, ?_, fun v => called_of_written, ?_, gone_reached hz' hi hx⟩
  · exact holding_reached hz' hi hvalue later hx
  · intro hstill
    exact @ExposedThing.answer_of_found x (.read (.string s)) i (hfound.mpr hstill)

/-- A kettle whose mode is withdrawn, and declared anew, while the rest of one write to it waits in the queue and the
    handler of another has only promised an answer. -/
def kettle : List Input :=
  [ .operate (.newThing 0 "kettle" "Kettle" none),
    .operate (.add 0 .property (.string "mode") (.object [("value", .string "idle")]) none),
    .operate (.call 0 (.write (.string "mode") (.string "warm"))),
    .operate (.setHandler 0 .write 7 none),
    .operate (.call 0 (.write (.string "mode") (.string "boil"))),
    .reply .promised,
    .operate (.remove 0 .property (.string "mode")),
    .operate (.add 0 .property (.string "mode") (.object [("value", .string "off")]) none),
    .answer 1 (.ok .null), .tick, .tick ]

/-- When both writes have settled, the new mode still has its own value. -/
theorem kettle_starts : ∃ x i, (reached kettle).things[0]? = some x ∧
    Begins 0 (kettle.take 7) (.string "mode") (.object [("value", .string "off")]) (kettle.drop 8)
      (meanwhile 0 (kettle.take 8) (kettle.drop 8)) x i ∧
    (reached (kettle.take 8)).queue.length = 1 ∧
    x.store.get i.serial = .string "off" := by
  obtain ⟨x, hx⟩ := Option.isSome_iff_exists.mp (show ((reached kettle).things[0]?).isSome = true by rfl)
  obtain ⟨y, hy⟩ := Option.isSome_iff_exists.mp (show ((reached (kettle.take 7)).things[0]?).isSome = true by rfl)
  obtain ⟨i, hi⟩ := (keeping_law hx).begins (kettle.take 7) (.string "mode") (.object [("value", .string "off")]) none
    (kettle.drop 8) y (by rfl) hy (by rfl)
  have hquiet : meanwhile 0 (kettle.take 8) (kettle.drop 8) = [] := by rfl
  refine ⟨x, i, hx, hi, by rfl, ?_⟩
  rcases hi.value (hquiet ▸ List.not_mem_nil) with hvalue | ⟨v, hv, -⟩
  · exact hvalue
  · exact absurd (hquiet ▸ hv) List.not_mem_nil

end Runs

end Host
end ThingHost
