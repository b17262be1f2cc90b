import ThingHost.Proofs.Host.Handle
import ThingHost.Proofs.Host.Production
import ThingHost.Proofs.Servient.Acts

/-! The registry of a servient in a run. Whatever is asked of a host, its servients know what was done on them and no more:
    every Thing is registered until it is removed, in the order of registration, and is enabled if it was enabled since it
    was registered, and not disabled after that. -/

namespace ThingHost
namespace Host

/-! ### What is done on a servient -/

/-- What an operation asks to be done, and on which servient. -/
def asked? (h : Host) : Operation → Option (Nat × Act)
  | .produce n definition freshId => some (n, .registered ((definition.text? "id").getD freshId) h.things.length)
  | .register n t => h.things[t]?.map fun x => (n, .registered x.id t)
  | .enable n id => id.asText?.map fun id => (n, .enabled id)
  | .disable n id => id.asText?.map fun id => (n, .disabled id)
  | .removeThing n id => id.asText?.map fun id => (n, .removed id)
  | .expose t => h.things[t]?.map fun x => (x.servient, .enabled x.id)
  | .destroy t => h.things[t]?.map fun x => (x.servient, .removed x.id)
  | _ => none

/-- A servient writes to the log that something is done. -/
def tells (out : List Output) : Bool := out.any fun
  | .log ⟨none, _⟩ => true
  | _ => false

/-- What an input does on a servient. -/
def act? (n : Nat) (h : Host) : Input → Option Act
  | .operate op => ((asked? h op).filter fun a => a.1 = n ∧ tells (h.operate op).2).map (·.2)
  | _ => none

/-- What a run does on a servient. -/
def acts (n : Nat) (inputs : List Input) : List Act := seen (act? n) .new inputs

/-- An operation succeeds that asks for something to be done on a servient. To destroy a Thing succeeds if one is
    registered under its id; it is then removed before those who listen to it are told, and before the operation is over. -/
def Obtains (n : Nat) (h : Host) (a : Act) : Operation → Prop
  | .destroy _ => (h.registered? n (.string a.id)).isSome
  | op => ∃ r, .returned (.ok r) ∈ (h.step (.operate op)).2

section Statement
variable (inputs : List Input) (n : Nat)

/-- What a servient knows after a run. -/
structure Registry : Prop where
  done : ∀ op a, asked? (reached inputs) op = some (n, a) →
    (act? n (reached inputs) (.operate op) = some a ↔ Obtains n (reached inputs) a op)
  refused : ∀ i, act? n (reached inputs) i = none →
    (reached (inputs ++ [i])).entry n = (reached inputs).entry n
  listed : ((reached inputs).thingsOf n).map (fun y => (y.2.id, y.1)) = Act.standing (acts n inputs)
  distinct : (((reached inputs).thingsOf n).map (·.2.id)).Nodup
  found : ∀ id t, (reached inputs).registered? n (.string id) = some t ↔
    ∃ x, (t, x) ∈ (reached inputs).thingsOf n ∧ x.id = id
  since : ∀ id t, (reached inputs).registered? n (.string id) = some t ↔ ∃ since, Act.Since (acts n inputs) id t since
  /-- A registration is never replaced, but goes only when it is removed. -/
  kept : ∀ id t i, (reached inputs).registered? n (.string id) = some t → act? n (reached inputs) i ≠ some (.removed id) →
    (reached (inputs ++ [i])).registered? n (.string id) = some t
  known : ∀ v, (reached inputs).isEnabled n v = true → ((reached inputs).registered? n v).isSome
  /-- A Thing is enabled if it was since it was registered, and was not disabled later. -/
  enabled : ∀ id t since, Act.Since (acts n inputs) id t since →
    ((reached inputs).isEnabled n (.string id) = true ↔ Act.EnabledIn since id)
  fresh : ∀ i id t, act? n (reached inputs) i = some (.registered id t) →
    (reached inputs).entry n (.string id) = (none, false) ∧ (reached (inputs ++ [i])).entry n (.string id) = (some t, false)
  enabledThings : (reached inputs).enabledThingsOf n =
    ((reached inputs).thingsOf n).filter fun y => (reached inputs).isEnabled n (.string y.2.id)
  named : ∀ name, (reached inputs).byUrlName? n (.string name) =
    (((reached inputs).thingsOf n).find? fun y => y.2.thing.urlName = name).map (·.1)

end Statement

section Tells

theorem tells_append (a b : List Output) : tells (a ++ b) = (tells a || tells b) := List.any_append

theorem tells_noted (id : String) (notes : List Note) : tells (noted (some id) notes) = false := by
  induction notes with
  | nil => rfl
  | cons note notes ih => exact ih

theorem tells_follow (h : Host) (ref : BusRef) (after : After) (turn : Turn Listener) :
    tells (h.follow ref after turn).2 = false := by
  have hfinish : tells (h.finish after).2 = false := by cases after <;> rfl
  rcases turn with _ | d | c
  · exact hfinish
  · simp only [follow]
    split <;> rfl
  · simp only [follow]
    split
    · rfl
    · exact hfinish

/-- What the bus of a Thing has to tell, the Thing tells. -/
theorem tells_complete {h : Host} {t : Nat} {x : ExposedThing} (hx : h.things[t]? = some x) (after : After) :
    tells (h.complete (.own t) after).2 = false := by
  have hbus : h.bus? (.own t) = some x.bus := by simp [bus?, hx]
  have hthing : h.busThing (.own t) = some x.id := by simp [busThing, hx]
  simp only [Host.complete, hbus, onBus, prepend, hthing]
  rw [tells_append, tells_noted, tells_follow]
  rfl

end Tells

/-! ### What a step does -/

/-- What is asked for is done on the servient, and the servient tells, or nothing is done. -/
inductive Does (h : Host) (asked : Option (Nat × Act)) (s : Step) : Prop where
  | nothing (quiet : asked = none ∨ tells s.2 = false) (same : s.1.servients = h.servients)
  | opened (nobody : asked = none) (grown : s.1.servients = h.servients ++ [.empty])
  | done {n : Nat} {a : Act} {was now : Servient} (asked : asked = some (n, a)) (told : tells s.2 = true)
      (there : h.servients[n]? = some was) (performed : was.perform a = .ok now) (set : s.1.servients = h.servients.set n now)

section Steps
variable {h : Host}

theorem onServient_does (n : Nat) {f : Servient → Except ThingError Servient} (note : Note) {a : Act}
    (hf : ∀ s, f s = s.perform a) : Does h (some (n, a)) (h.onServient n f note) := by
  unfold onServient
  cases hs : h.servients[n]? with
  | none => exact .nothing (.inr rfl) rfl
  | some s =>
    dsimp only
    cases hok : f s with
    | error e => exact .nothing (.inr rfl) rfl
    | ok s' => exact .done rfl rfl hs (by rw [← hf, hok]) rfl

theorem require_of_no_text (s : Servient) {v : Value} (hv : v.asText? = none) : s.require v = .error (.thingNotFound v) := by
  cases v with
  | string id => cases hv
  | _ => rfl

/-- What is no id is refused. -/
theorem onServient_asks (n : Nat) {f : Servient → Value → Except ThingError Servient} (note : Note) {act : String → Act}
    (hf : ∀ s id, f s (.string id) = s.perform (act id)) (hno : ∀ s v e, s.require v = .error e → f s v = .error e) (v : Value) :
    Does h (v.asText?.map fun id => (n, act id)) (h.onServient n (f · v) note) := by
  rcases hv : v.asText? with _ | id
  · refine .nothing (.inl rfl) ?_
    unfold onServient
    rcases h.servients[n]? with _ | s
    · rfl
    · dsimp only
      rw [hno s v _ (require_of_no_text s hv)]
      rfl
  · cases v with
    | string i =>
      cases hv
      exact onServient_does n note fun s => hf s _
    | _ => cases hv

theorem onServient_returns (n : Nat) (f : Servient → Except ThingError Servient) (note : Note) :
    tells (h.onServient n f note).2 = true ↔ ∃ r, .returned (.ok r) ∈ (h.onServient n f note).2 := by
  unfold onServient
  cases hs : h.servients[n]? with
  | none => simp [tells]
  | some s =>
    dsimp only
    cases hok : f s with
    | error e => simp [tells, returns, refuse]
    | ok s' => simp [tells, returns, prepend, noted]

/-- A Thing that is built aside tells what it does, but the servient does not. -/
theorem does_of_refused (asked : Option (Nat × Act)) {s : Step} (id : String) (notes : List Note) (t : Thrown)
    (hs : s = prepend (noted (some id) notes) (h.returns (.error t))) :
    Does h asked s ∧ (tells s.2 = true ↔ ∃ r, .returned (.ok r) ∈ s.2) := by
  have hquiet : tells s.2 = false := by
    rw [hs, prepend, tells_append, tells_noted]
    rfl
  refine ⟨.nothing (.inr hquiet) (by rw [hs]; rfl), ?_⟩
  rw [hquiet, hs]
  simp [prepend, noted, returns]

theorem produce_does (h : Host) (n : Nat) (definition : Value) (freshId : String) :
    Does h (asked? h (.produce n definition freshId)) (h.produce n definition freshId) ∧
      (tells (h.produce n definition freshId).2 = true ↔ ∃ r, .returned (.ok r) ∈ (h.produce n definition freshId).2) := by
  rcases hs : h.servients[n]? with _ | s
  · have hproduce : h.produce n definition freshId = (h, []) := by simp [produce, hs]
    rw [hproduce]
    exact ⟨.nothing (.inr rfl) rfl, by simp [tells]⟩
  · rcases hp : thingSchema.parse definition with issues | parsed
    · exact does_of_refused _ freshId [] (.ofRefusal (.invalidThing issues)) (by
        simp [produce, hs, hp, prepend, noted, returns, refuse])
    · have hparsed : (parsed.text? "id").getD freshId = (definition.text? "id").getD freshId := by
        rw [id_of_check (Schema.parse_eq_ok.mp hp)]
      cases hid : s.has ((definition.text? "id").getD freshId) with
      | true =>
        exact does_of_refused _ freshId [] (.ofRefusal (.duplicateThing ((definition.text? "id").getD freshId))) (by
          simp [produce, hs, hp, hparsed, hid, prepend, noted, returns, refuse])
      | false =>
        rcases hd : declareAll (ExposedThing.new n (.new ((definition.text? "id").getD freshId)
            ((parsed.text? "name").getD "") (parsed.text? "description"))) (declarations parsed) with ⟨t | x, notes⟩
        · exact does_of_refused _ ((definition.text? "id").getD freshId) notes t (by
            simp [produce, hs, hp, hparsed, hid, hd])
        · rcases hr : s.register ((definition.text? "id").getD freshId) h.things.length with e | s'
          · exact does_of_refused _ ((definition.text? "id").getD freshId) notes (.ofRefusal e) (by
              simp [produce, hs, hp, hparsed, hid, hd, hr, refuse])
          · have hproduce : h.produce n definition freshId =
                prepend (noted (some ((definition.text? "id").getD freshId)) notes)
                  (prepend (noted none [.thingRegistered ((definition.text? "id").getD freshId) ((parsed.text? "name").getD "")])
                    (({ h with things := h.things ++ [x] }.setServient n s').returns (.ok (.thing h.things.length)))) := by
              simp [produce, hs, hp, hparsed, hid, hd, hr]
            have htold : tells (h.produce n definition freshId).2 = true := by
              rw [hproduce, prepend, tells_append]
              exact Bool.or_eq_true_iff.mpr (.inr rfl)
            refine ⟨.done rfl htold hs hr ?_, ?_⟩
            · rw [hproduce]
              rfl
            · rw [htold, hproduce]
              simp [prepend, returns, noted]

theorem destroy_does {t : Nat} {x : ExposedThing} (hx : h.things[t]? = some x) :
    Does h (some (x.servient, .removed x.id)) (h.destroy t) := by
  simp only [destroy, withThing, hx]
  rcases hs : h.servients[x.servient]? with _ | s
  · exact .nothing (.inr rfl) rfl
  · dsimp only
    rcases hr : s.remove (.string x.id) with e | s'
    · exact .nothing (.inr (tells_complete hx _)) (complete_servients h _ _)
    · exact .done rfl rfl hs hr (complete_servients _ _ _)

theorem operate_does (h : Host) (op : Operation) : Does h (asked? h op) (h.operate op) := by
  cases op with
  | newServient => exact .opened rfl rfl
  | produce n definition freshId => exact (produce_does h n definition freshId).1
  | register n t =>
    rcases hx : h.things[t]? with _ | x
    · simp only [asked?, operate, withThing, hx]
      exact .nothing (.inr rfl) rfl
    · simp only [asked?, operate, withThing, hx]
      exact onServient_does n _ fun s => rfl
  | enable n v =>
    refine onServient_asks n (f := Servient.enable) _ (fun s id => rfl) (fun s v e he => ?_) v
    rw [Servient.enable, he]
    rfl
  | disable n v =>
    refine onServient_asks n (f := Servient.disable) _ (fun s id => rfl) (fun s v e he => ?_) v
    rw [Servient.disable, he]
    rfl
  | removeThing n v =>
    refine onServient_asks n (f := Servient.remove) _ (fun s id => rfl) (fun s v e he => ?_) v
    rw [Servient.remove, he]
    rfl
  | expose t =>
    rcases hx : h.things[t]? with _ | x
    · simp only [asked?, operate, withThing, hx]
      exact .nothing (.inl rfl) rfl
    · simp only [asked?, operate, withThing, hx]
      exact onServient_does x.servient _ fun s => rfl
  | destroy t =>
    rcases hx : h.things[t]? with _ | x
    · have hstep : h.operate (.destroy t) = (h, []) := by simp [operate, destroy, withThing, hx]
      rw [hstep]
      exact .nothing (.inr rfl) rfl
    · have hasked : asked? h (.destroy t) = some (x.servient, .removed x.id) := by simp [asked?, hx]
      rw [hasked]
      exact destroy_does hx
  | _ => exact .nothing (.inl rfl) (operate_servients h rfl)

/-- Of a servient that is there only what is done on it changes anything; one that is not there is empty when it comes. -/
theorem step_acts (n : Nat) (h : Host) (i : Input) : match h.servients[n]? with
    | some s => ∃ s', (h.step i).1.servients[n]? = some s' ∧ match act? n h i with
      | some a => s.perform a = .ok s'
      | none => s' = s
    | none => act? n h i = none ∧ ∀ s', (h.step i).1.servients[n]? = some s' → s' = .empty := by
  -- Where nothing is done, whoever is there stays.
  have hidle : ∀ {j : Input}, act? n h j = none → (h.step j).1.servients = h.servients → match h.servients[n]? with
      | some s => ∃ s', (h.step j).1.servients[n]? = some s' ∧ match act? n h j with
        | some a => s.perform a = .ok s'
        | none => s' = s
      | none => act? n h j = none ∧ ∀ s', (h.step j).1.servients[n]? = some s' → s' = .empty := by
    intro j hnone hsame
    rw [hnone, hsame]
    rcases h.servients[n]? with _ | s
    · exact ⟨rfl, fun s' hs' => by cases hs'⟩
    · exact ⟨s, rfl, rfl⟩
  cases i with
  | operate op =>
    rcases operate_does h op with ⟨hquiet, hsame⟩ | ⟨hnobody, hgrown⟩ | @⟨m, a, was, now, hasked, htold, hthere, hperformed, hset⟩
    · refine hidle ?_ hsame
      rcases hquiet with hquiet | hquiet <;> simp [act?, hquiet]
    · have hnone : act? n h (.operate op) = none := by simp [act?, hnobody]
      rw [hnone, show (h.step (.operate op)).1.servients = h.servients ++ [.empty] from hgrown]
      rcases hs : h.servients[n]? with _ | s
      · refine ⟨rfl, fun s' hs' => ?_⟩
        rw [List.getElem?_append_right (List.getElem?_eq_none_iff.mp hs)] at hs'
        exact List.mem_singleton.mp (List.mem_of_getElem? hs')
      · obtain ⟨hlt, -⟩ := List.getElem?_eq_some_iff.mp hs
        exact ⟨s, by rw [List.getElem?_append_left hlt, hs], rfl⟩
    · have hstep : (h.step (.operate op)).1.servients = h.servients.set m now := hset
      obtain ⟨hlt, -⟩ := List.getElem?_eq_some_iff.mp hthere
      by_cases hm : m = n
      · subst hm
        have hdone : act? m h (.operate op) = some a := by simp [act?, hasked, htold]
        rw [hthere, hdone, hstep]
        exact ⟨now, List.getElem?_set_self hlt, hperformed⟩
      · have hnone : act? n h (.operate op) = none := by simp [act?, hasked, hm]
        rw [hnone, hstep, List.getElem?_set_ne hm]
        rcases h.servients[n]? with _ | s
        · exact ⟨rfl, fun s' hs' => by cases hs'⟩
        · exact ⟨s, rfl, rfl⟩
  | _ => exact hidle rfl (step_servients h (by simp))

end Steps

/-! ### A run -/

theorem acts_snoc (n : Nat) (inputs : List Input) (i : Input) :
    acts n (inputs ++ [i]) = acts n inputs ++ (act? n (reached inputs) i).toList := seen_snoc _ inputs i

theorem account_run (n : Nat) (inputs : List Input) : match (reached inputs).servients[n]? with
    | some s => Servient.Account (acts n inputs) s
    | none => acts n inputs = [] := by
  induction inputs using List.reverseRecOn with
  | nil =>
    cases n with
    | zero => exact Servient.account_empty
    | succ n => rfl
  | append_singleton inputs i ih =>
    have hstep := step_acts n (reached inputs) i
    rw [acts_snoc, reached_snoc]
    rcases hs : (reached inputs).servients[n]? with _ | s
    · rw [hs] at ih hstep
      dsimp only at ih hstep
      obtain ⟨hnone, hempty⟩ := hstep
      rw [ih, hnone]
      rcases hs' : ((reached inputs).step i).1.servients[n]? with _ | s'
      · rfl
      · obtain rfl := hempty s' hs'
        exact Servient.account_empty
    · rw [hs] at ih hstep
      dsimp only at ih hstep
      obtain ⟨s', hs', hdone⟩ := hstep
      rw [hs']
      dsimp only
      rcases ha : act? n (reached inputs) i with _ | a
      · rw [ha] at hdone
        rw [show s' = s from hdone, Option.toList_none, List.append_nil]
        exact ih
      · rw [ha] at hdone
        exact ih.perform hdone

section Law
variable {inputs : List Input} {n : Nat} {s : Servient}

theorem account_reached (hs : (reached inputs).servients[n]? = some s) : Servient.Account (acts n inputs) s := by
  have h := account_run n inputs
  rw [hs] at h
  exact h

theorem registered_of_there {h : Host} (hs : h.servients[n]? = some s) (id : String) :
    h.registered? n (.string id) = s.get? id := congrArg Prod.fst (entry_string hs id)

theorem isEnabled_of_there {h : Host} (hs : h.servients[n]? = some s) (id : String) :
    h.isEnabled n (.string id) = s.isEnabled id := congrArg Prod.snd (entry_string hs id)

/-- The Things of a servient are those that are registered on it, in this order. -/
theorem thingsOf_pairs {h : Host} (hs : h.servients[n]? = some s) (order : Servient.Orderly h.things s) :
    (h.thingsOf n).map (fun y => (y.2.id, y.1)) = s.registered := by
  simp only [thingsOf, hs]
  rw [List.map_filterMap]
  refine (List.filterMap_congr fun e he => ?_).trans List.filterMap_some
  obtain ⟨y, hy, hid⟩ := order.of_mem he
  simp [hy, hid]

theorem thingsOf_of_absent {h : Host} (hs : h.servients[n]? = none) : h.thingsOf n = [] := by simp [thingsOf, hs]

theorem get?_iff_mem (hdistinct : s.ids.Nodup) {id : String} {t : Nat} : s.get? id = some t ↔ (id, t) ∈ s.registered := by
  constructor
  · intro h
    obtain ⟨e, he, rfl⟩ := Option.map_eq_some_iff.mp h
    obtain rfl : e.1 = id := by simpa using List.find?_some he
    exact List.mem_of_find?_eq_some he
  · exact Servient.get?_of_mem hdistinct

/-- What is registered is what was, and was not removed since. -/
theorem registered_iff_since (inputs : List Input) (n : Nat) (id : String) (t : Nat) :
    (reached inputs).registered? n (.string id) = some t ↔ ∃ since, Act.Since (acts n inputs) id t since := by
  rcases hs : (reached inputs).servients[n]? with _ | s
  · have hacts := account_run n inputs
    rw [hs] at hacts
    rw [show acts n inputs = [] from hacts, ← Act.mem_standing]
    simp [registered?, Value.asText?, hs, Act.standing]
  · rw [registered_of_there hs, get?_iff_mem (orderly_reached inputs s (List.mem_of_getElem? hs)).distinct,
      (account_reached hs).registered, Act.mem_standing]

theorem registered_kept {id : String} {t : Nat} {i : Input} (hreg : (reached inputs).registered? n (.string id) = some t)
    (hi : act? n (reached inputs) i ≠ some (.removed id)) : (reached (inputs ++ [i])).registered? n (.string id) = some t := by
  obtain ⟨since, hsince⟩ := (registered_iff_since inputs n id t).mp hreg
  rw [registered_iff_since, acts_snoc]
  rcases ha : act? n (reached inputs) i with _ | a
  · exact ⟨since, by rw [Option.toList_none, List.append_nil]; exact hsince⟩
  · have hne : a ≠ .removed id := fun h => hi (h ▸ ha)
    exact ⟨_, Act.since_concat.mpr (.inr ⟨since, rfl, hsince, hne⟩)⟩

theorem entry_of_empty {h : Host} (hs : h.servients[n]? = some .empty) (v : Value) : h.entry n v = (none, false) := by
  cases v with
  | string id =>
    rw [entry_string hs]
    rfl
  | _ => rfl

theorem entry_at {h h' : Host} (hs : h'.servients[n]? = h.servients[n]?) : h'.entry n = h.entry n := by
  funext v
  simp only [entry, registered?, isEnabled, hs]

/-- Where nothing is done on a servient, it knows what it knew. -/
theorem entry_of_idle {i : Input} (hidle : act? n (reached inputs) i = none) :
    (reached (inputs ++ [i])).entry n = (reached inputs).entry n := by
  have hstep := step_acts n (reached inputs) i
  rw [hidle] at hstep
  rw [reached_snoc]
  rcases hs : (reached inputs).servients[n]? with _ | s
  · rw [hs] at hstep
    funext v
    rw [entry_of_absent hs]
    rcases hs' : ((reached inputs).step i).1.servients[n]? with _ | s'
    · exact entry_of_absent hs' v
    · rw [hstep.2 s' hs'] at hs'
      exact entry_of_empty hs' v
  · rw [hs] at hstep
    obtain ⟨s', hs', hsame⟩ := hstep
    refine entry_at ?_
    rw [hs', hs, show s' = s from hsame]

/-- Whoever is registered anew was not known, and is not enabled. -/
theorem entry_of_fresh {i : Input} {id : String} {t : Nat} (ha : act? n (reached inputs) i = some (.registered id t)) :
    (reached inputs).entry n (.string id) = (none, false) ∧ (reached (inputs ++ [i])).entry n (.string id) = (some t, false) := by
  have hstep := step_acts n (reached inputs) i
  rw [ha] at hstep
  rcases hs : (reached inputs).servients[n]? with _ | s
  · rw [hs] at hstep
    cases hstep.1
  · rw [hs] at hstep
    obtain ⟨s', hs', hdone⟩ := hstep
    obtain ⟨hfree, hsets⟩ := Servient.register_sets hdone
    have hbefore := (orderly_reached inputs s (List.mem_of_getElem? hs)).entry_of_free hfree
    refine ⟨(entry_string hs id).trans hbefore, ?_⟩
    rw [reached_snoc, entry_string hs', hsets id, if_pos rfl]
    exact congrArg (Prod.mk _) (congrArg Prod.snd hbefore)

theorem enabledThingsOf_filter {h : Host} (hs : h.servients[n]? = some s) (order : Servient.Orderly h.things s) :
    h.enabledThingsOf n = (h.thingsOf n).filter fun y => h.isEnabled n (.string y.2.id) := by
  simp only [enabledThingsOf, thingsOf, hs, Servient.enabledThings, isEnabled_of_there hs]
  rw [List.filterMap_filter, List.filter_filterMap]
  refine List.filterMap_congr fun e he => ?_
  obtain ⟨y, hy, hid⟩ := order.of_mem he
  rw [hy, Option.map_some, Option.filter_some, hid]

theorem byUrlName?_find {h : Host} (hs : h.servients[n]? = some s) (name : String) : h.byUrlName? n (.string name) =
    ((h.thingsOf n).find? fun y => y.2.thing.urlName = name).map (·.1) := by
  simp only [byUrlName?, thingsOf, hs, Value.asText?, Option.bind_some]
  rw [List.find?_filterMap]
  simp only [Option.any_map]
  rcases hf : s.registered.find? _ with _ | e
  · rfl
  · have hany := List.find?_some hf
    rcases hx : h.things[e.2]? with _ | x
    · simp [hx] at hany
    · simp [hx]

/-- What is asked for is done if the operation succeeds. -/
theorem act?_of_asked {h : Host} {op : Operation} {a : Act} (hasked : asked? h op = some (n, a)) :
    act? n h (.operate op) = some a ↔ tells (h.operate op).2 = true := by
  simp [act?, hasked]

theorem tells_destroy {h : Host} {t : Nat} {x : ExposedThing} (hx : h.things[t]? = some x) :
    tells (h.operate (.destroy t)).2 = true ↔ (h.registered? x.servient (.string x.id)).isSome := by
  simp only [operate, destroy, withThing, hx]
  rcases hs : h.servients[x.servient]? with _ | s
  · simp [tells, registered?, Value.asText?, hs]
  · rw [registered_of_there hs]
    dsimp only
    rcases hr : s.remove (.string x.id) with e | s'
    · rw [Servient.free_of_refused hr]
      dsimp only
      rw [tells_complete hx]
      simp
    · obtain ⟨id, hid, hhas, -⟩ := Servient.remove_sets hr
      cases hid
      exact ⟨fun _ => hhas, fun _ => rfl⟩

theorem done_of_asked {h : Host} {op : Operation} {a : Act} (hasked : asked? h op = some (n, a)) :
    act? n h (.operate op) = some a ↔ Obtains n h a op := by
  rw [act?_of_asked hasked]
  cases op with
  | produce m definition freshId => exact (produce_does h m definition freshId).2
  | register m t =>
    obtain ⟨x, hx, -⟩ := Option.map_eq_some_iff.mp hasked
    simp only [Obtains, step, operate, withThing, hx]
    exact onServient_returns m _ _
  | enable m id => exact onServient_returns m _ _
  | disable m id => exact onServient_returns m _ _
  | removeThing m id => exact onServient_returns m _ _
  | expose t =>
    obtain ⟨x, hx, -⟩ := Option.map_eq_some_iff.mp hasked
    simp only [Obtains, step, operate, withThing, hx]
    exact onServient_returns _ _ _
  | destroy t =>
    obtain ⟨x, hx, hsame⟩ := Option.map_eq_some_iff.mp hasked
    cases hsame
    exact tells_destroy hx
  | _ => cases hasked

/-- The registry of a servient is what was done on it, whatever else was done and whatever failed. -/
theorem registry_law (inputs : List Input) (n : Nat) : Registry inputs n := by
  have hsince := registered_iff_since inputs n
  rcases hs : (reached inputs).servients[n]? with _ | s
  · have hacts := account_run n inputs
    rw [hs] at hacts
    have hnone : acts n inputs = [] := hacts
    have hthings := thingsOf_of_absent hs
    refine ⟨fun op a => done_of_asked, fun i => entry_of_idle, ?_, ?_, ?_, hsince, fun id t i => registered_kept, ?_, ?_,
      fun i id t => entry_of_fresh, ?_, ?_⟩
    · rw [hthings, hnone]
      rfl
    · rw [hthings]
      exact List.nodup_nil
    · intro id t
      have hfree : (reached inputs).registered? n (.string id) = none := congrArg Prod.fst (entry_of_absent hs (.string id))
      rw [hthings, hfree]
      simp
    · intro v hv
      have hoff : (reached inputs).isEnabled n v = false := congrArg Prod.snd (entry_of_absent hs v)
      rw [hoff] at hv
      cases hv
    · rintro id t since ⟨hlog, -⟩
      rw [hnone] at hlog
      exact absurd (List.suffix_nil.mp hlog) (by simp)
    · rw [hthings]
      simp [enabledThingsOf, hs]
    · intro name
      rw [hthings]
      simp [byUrlName?, Value.asText?, hs]
  · have order := orderly_reached inputs s (List.mem_of_getElem? hs)
    have haccount := account_reached hs
    have hpairs := thingsOf_pairs hs order
    refine ⟨fun op a => done_of_asked, fun i => entry_of_idle, ?_, ?_, ?_, hsince, fun id t i => registered_kept, ?_, ?_,
      fun i id t => entry_of_fresh, enabledThingsOf_filter hs order, byUrlName?_find hs⟩
    · rw [hpairs, haccount.registered]
    · have hids : ((reached inputs).thingsOf n).map (·.2.id) = s.ids := by
        rw [Servient.ids, ← hpairs, List.map_map]
        rfl
      rw [hids]
      exact order.distinct
    · intro id t
      rw [registered_of_there hs, get?_iff_mem order.distinct, ← hpairs]
      simp only [List.mem_map, Prod.mk.injEq, Prod.exists]
      constructor
      · rintro ⟨u, x, hx, hid, rfl⟩
        exact ⟨x, hx, hid⟩
      · rintro ⟨x, hx, hid⟩
        exact ⟨t, x, hx, hid, rfl⟩
    · intro v hv
      cases v with
      | string id =>
        rw [isEnabled_of_there hs] at hv
        rw [registered_of_there hs]
        by_contra hfree
        rw [order.enabled id (by simpa using hfree)] at hv
        cases hv
      | _ => cases hv
    · intro id t since h
      rw [isEnabled_of_there hs]
      exact haccount.enabled h

end Law

end Host
end ThingHost
