import Mathlib.Data.List.TakeWhile
import ThingHost.Proofs.Exposed.Past

/-! Which handler a Thing has for an interaction: the last that was set for its name since it was declared,
    else the last that was set for all, else the host itself. What was set for another interaction, also one
    that had the name before, plays no part. -/

namespace ThingHost

namespace Deed

/-- The interaction is declared. -/
def declares (i : Interaction) : Deed → Bool
  | .declared j .. => j.serial = i.serial
  | _ => false

/-- What was done since an interaction was declared, its declaration included. -/
def since (i : Interaction) (deeds : List Deed) : List Deed := deeds.dropWhile fun d => !d.declares i

/-- The handler that is set for one interaction: under its name, or together with its declaration. -/
def ownHandler? (kind : CallKind) (i : Interaction) : Deed → Option Handler
  | .declared j _ handler => if j.serial = i.serial ∧ kind = .invoke then handler else none
  | .handled k handler (some name) => if k = kind ∧ name = i.name then some handler else none
  | _ => none

/-- The handler that is set for all interactions. -/
def generalHandler? (kind : CallKind) : Deed → Option Handler
  | .handled k handler none => if k = kind then some handler else none
  | _ => none

/-- The handler that answers calls of a kind to an interaction, by what was done. -/
def answering (deeds : List Deed) (kind : CallKind) (i : Interaction) : Handler :=
  (latest (ownHandler? kind i) (since i deeds)).getD ((latest (generalHandler? kind) deeds).getD .standard)

theorem since_append {i : Interaction} {deeds : List Deed} (h : since i deeds ≠ []) (more : List Deed) :
    since i (deeds ++ more) = since i deeds ++ more := by
  rw [since, List.dropWhile_append]
  have hne : (deeds.dropWhile fun d => !d.declares i).isEmpty = false := List.isEmpty_eq_false_iff.mpr h
  rw [hne]
  rfl

/-- What is declared now was not declared before. -/
theorem since_declared {i : Interaction} {deeds : List Deed} (h : ∀ d ∈ deeds, d.declares i = false)
    (definition : Value) (handler : Option Handler) :
    since i (deeds ++ [.declared i definition handler]) = [.declared i definition handler] := by
  have hnone : (deeds.dropWhile fun d => !d.declares i) = [] := by
    rw [List.dropWhile_eq_nil_iff]
    intro d hd
    rw [h d hd]
    rfl
  rw [since, List.dropWhile_append, hnone]
  simp [declares]

end Deed

namespace ExposedThing

/-- The handlers of a Thing are those that were set. -/
structure Answering (deeds : List Deed) (x : ExposedThing) : Prop where
  general : ∀ kind, x.handlers.general kind = (Deed.latest (Deed.generalHandler? kind) deeds).getD .standard
  declared : ∀ i ∈ x.thing.interactions, Deed.since i deeds ≠ []
  own : ∀ i ∈ x.thing.interactions, ∀ kind,
    x.handlers.own? kind i.serial = Deed.latest (Deed.ownHandler? kind i) (Deed.since i deeds)

section Does
variable {x y : ExposedThing} {deeds more : List Deed}

/-- What sets no handler and declares nothing changes no handler. -/
theorem Answering.kept (h : Answering deeds x) (hgeneral : ∀ kind, Deed.latest (Deed.generalHandler? kind) more = none)
    (hown : ∀ kind i, Deed.latest (Deed.ownHandler? kind i) more = none) (hhandlers : y.handlers = x.handlers)
    (hsub : ∀ i ∈ y.thing.interactions, i ∈ x.thing.interactions) : Answering (deeds ++ more) y := by
  refine ⟨fun kind => ?_, fun i hi => ?_, fun i hi kind => ?_⟩
  · rw [hhandlers, h.general, Deed.latest_append, hgeneral, Option.none_or]
  · rw [Deed.since_append (h.declared i (hsub i hi))]
    exact List.append_ne_nil_of_left_ne_nil (h.declared i (hsub i hi)) more
  · rw [hhandlers, h.own i (hsub i hi), Deed.since_append (h.declared i (hsub i hi)), Deed.latest_append, hown,
      Option.none_or]

theorem Answering.afterDeclared (h : Answering deeds x) (htidy : Tidy x)
    (hissued : ∀ d ∈ deeds, ∀ i, d.about = some i → i.serial < x.nextSerial) (kind : InteractionKind) (s : String)
    (parsed : Value) (handler : Option Handler) :
    Answering (deeds ++ [.declared (interactionOf x.nextSerial kind s parsed) parsed handler])
      (x.declared kind s parsed handler) := by
  have hserial : (interactionOf x.nextSerial kind s parsed).serial = x.nextSerial := rfl
  generalize hnew : interactionOf x.nextSerial kind s parsed = new at hserial
  have hfresh : ∀ d ∈ deeds, d.declares new = false := by
    intro d hd
    cases d with
    | declared j definition handler =>
      have hlt : j.serial < x.nextSerial := hissued _ hd j rfl
      simp only [Deed.declares, hserial, decide_eq_false_iff_not]
      exact Nat.ne_of_lt hlt
    | _ => rfl
  have hhandlers : (x.declared kind s parsed handler).handlers =
      handler.elim x.handlers fun handler => x.handlers.set .invoke handler (some x.nextSerial) := by
    cases handler <;> rfl
  refine ⟨fun k => ?_, fun i hi => ?_, fun i hi k => ?_⟩
  · rw [Deed.latest_append, hhandlers, ← hnew]
    cases handler <;> exact h.general k
  · rcases List.mem_append.mp hi with hi | hi
    · rw [Deed.since_append (h.declared i hi)]
      exact List.append_ne_nil_of_left_ne_nil (h.declared i hi) _
    · obtain rfl : i = new := (List.mem_singleton.mp hi).trans hnew
      rw [Deed.since_declared hfresh]
      exact List.cons_ne_nil _ _
  · rcases List.mem_append.mp hi with hi | hi
    · have hne : x.nextSerial ≠ i.serial := (Nat.ne_of_lt (htidy.issued i hi)).symm
      have hnone : Deed.latest (Deed.ownHandler? k i) [.declared new parsed handler] = none :=
        Deed.latest_eq_none (by simp [Deed.ownHandler?, hserial, hne])
      rw [Deed.since_append (h.declared i hi), Deed.latest_append, hnone, Option.none_or, ← h.own i hi, hhandlers]
      cases handler with
      | none => rfl
      | some handler => simp [Handlers.own?_set_some, hne]
    · obtain rfl : i = new := (List.mem_singleton.mp hi).trans hnew
      have hnone : x.handlers.own? k x.nextSerial = none :=
        Handlers.own?_of_absent (fun e he => Nat.ne_of_lt (htidy.own e he)) k
      rw [Deed.since_declared hfresh, hserial, hhandlers]
      cases handler with
      | none => simp [hnone, Deed.latest, Deed.ownHandler?]
      | some handler =>
        simp only [Option.elim_some, Handlers.own?_set_some, hnone, Deed.latest, Deed.ownHandler?, List.filterMap_cons,
          List.filterMap_nil]
        by_cases hk : k = .invoke <;> simp [hk, eq_comm]

theorem Answering.does (h : Answering deeds x) (htidy : Tidy x)
    (hissued : ∀ d ∈ deeds, ∀ i, d.about = some i → i.serial < x.nextSerial) (hd : x.Does more y) :
    Answering (deeds ++ more) y := by
  cases hd with
  | nothing => exact h.kept (fun _ => rfl) (fun _ _ => rfl) rfl fun _ hi => hi
  | declared parsed handler fresh => exact h.afterDeclared htidy hissued _ _ parsed handler
  | withdrawn there =>
    exact h.kept (fun _ => rfl) (fun _ _ => rfl) rfl fun i hi => List.mem_of_mem_filter hi
  | written v there property own => exact h.kept (fun _ => rfl) (fun _ _ => rfl) rfl fun _ hi => hi
  | passed v there property other => exact h.kept (fun _ => rfl) (fun _ _ => rfl) rfl fun _ hi => hi
  | handledAll kind handler =>
    refine ⟨fun k => ?_, fun i hi => ?_, fun i hi k => ?_⟩
    · rw [Deed.latest_append]
      by_cases hk : kind = k
      · subst hk
        simp [Handlers.set, Deed.latest, Deed.generalHandler?]
      · simp [Handlers.set, Deed.latest, Deed.generalHandler?, hk, Ne.symm hk, h.general]
    · rw [Deed.since_append (h.declared i hi)]
      exact List.append_ne_nil_of_left_ne_nil (h.declared i hi) _
    · rw [Deed.since_append (h.declared i hi), Deed.latest_append]
      exact h.own i hi k
  | @handledOne j kind handler there =>
    refine ⟨fun k => ?_, fun i hi => ?_, fun i hi k => ?_⟩
    · rw [Deed.latest_append]
      exact h.general k
    · rw [Deed.since_append (h.declared i hi)]
      exact List.append_ne_nil_of_left_ne_nil (h.declared i hi) _
    · -- Of those declared now, the one that has the name is the one that has the number.
      have hsame : j.serial = i.serial ↔ j.name = i.name :=
        ⟨fun hs => htidy.eq_of_serial there hi hs ▸ rfl, fun hn => htidy.eq_of_name there hi hn ▸ rfl⟩
      rw [Deed.since_append (h.declared i hi), Deed.latest_append, ← h.own i hi, Handlers.own?_set_some]
      by_cases hk : kind = k ∧ j.name = i.name
      · simp [Deed.latest, Deed.ownHandler?, hsame, hk]
      · simp [Deed.latest, Deed.ownHandler?, hsame, hk]

/-- The handlers of a Thing are those of its past. -/
theorem Past.answering (h : Past deeds x) : Answering deeds x := by
  induction h with
  | new servient id name description =>
    refine ⟨fun kind => rfl, fun i hi => ?_, fun i hi => ?_⟩
    · cases hi
    · cases hi
  | does past deed bus ih =>
    have hy := ih.does past.tidy past.issued deed
    exact ⟨hy.general, hy.declared, hy.own⟩

/-- Who answers a call. -/
theorem Past.get (h : Past deeds x) {i : Interaction} (hi : i ∈ x.thing.interactions) (kind : CallKind) :
    x.handlers.get kind (some i.serial) = Deed.answering deeds kind i := by
  rw [Handlers.get, h.answering.own i hi, h.answering.general]
  rfl

end Does

end ExposedThing
end ThingHost
