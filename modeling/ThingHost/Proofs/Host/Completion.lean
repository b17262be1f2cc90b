import ThingHost.Proofs.Host.Roll

/-! The law of completion, for every bus of a host and everything that can be done with the host: nothing is
    delivered any more, and everybody who wants to know is told once. -/

namespace ThingHost
namespace Host

/-- The owner of a subscription is being told of the completion of a bus. -/
def completing (ref : BusRef) (h : Host) : Bool := h.stack.any fun f =>
  match f.on? ref with
  | some (.complete _) => true
  | _ => false

/-- The members that want to know of the completion. -/
def Roll.askers (members : List Member) : List Nat := (members.filter (·.completes)).map (·.id)

/-- What follows when the completion of an open bus is asked for by the input `i` after the run `earlier`; `later` is
    what comes then. -/
structure Completes (ref : BusRef) (earlier : List Input) (i : Input) (later : List Input) : Prop where
  /-- No observer is handed any event from then on. -/
  mute : ∀ id, seen (handed? ⟨ref, id⟩) (reached earlier) (i :: later) = []
  /-- Those who were there and want to know are told in their order, -/
  told : seen (told? ref) .new (earlier ++ i :: later) <+: Roll.askers (roll ref earlier).present
  /-- and all of them are told when the completion is over. -/
  all : completing ref (reached (earlier ++ i :: later)) = false →
    seen (told? ref) .new (earlier ++ i :: later) = Roll.askers (roll ref earlier).present
  /-- Whoever subscribes later is told in the step that makes the subscription, if it wants to know, -/
  greeted : ∀ a j b, later = a ++ j :: b → ∀ m, joined? ref (earlier ++ i :: a) j = some m →
    greeted? ref (reached (earlier ++ i :: a)) j = if m.completes then some m.id else none
  /-- and nobody else is. -/
  others : seen (greeted? ref) .new (earlier ++ i :: later) =
    Roll.askers ((roll ref (earlier ++ i :: later)).members.drop (roll ref earlier).members.length)
  /-- Whoever left before is never told. -/
  spared : ∀ id ∈ (roll ref earlier).left, id ∉ seen (notified? ref) .new (earlier ++ i :: later)
  /-- When the completion is over, every subscription that was ever made is closed. -/
  closed : completing ref (reached (earlier ++ i :: later)) = false →
    ∀ m ∈ (roll ref (earlier ++ i :: later)).members, (reached (earlier ++ i :: later)).isClosed ⟨ref, m.id⟩ = true

/-- What the completion of a bus comes to in the course of a run. -/
structure CompletesOnce (ref : BusRef) (inputs : List Input) : Prop where
  /-- A bus is completed just if somebody asked for it. -/
  completed : ((reached inputs).bus ref).completed = (roll ref inputs).ended
  /-- Until then nobody is told. -/
  untold : (roll ref inputs).ended = false → seen (notified? ref) .new inputs = []
  /-- Nobody is told twice. -/
  once : (seen (notified? ref) .new inputs).Nodup
  /-- Whoever is told is told with one call of its client. -/
  called : ∀ earlier i later, inputs = earlier ++ i :: later → ∀ m ∈ (roll ref inputs).members, ∀ n,
    notified? ref (reached earlier) i = some m.id → m.client = some n →
      ((reached earlier).step i).2.filter (·.calls) = [.callComplete n]
  effect : ∀ earlier i later, inputs = earlier ++ i :: later → (roll ref earlier).ended = false →
    ends ref (reached earlier) i = true → Completes ref earlier i later

/-! ### The record of a completed bus -/

section Record
variable {ref : BusRef} {earlier : List Input} {i : Input}

theorem completing_eq (h : Host) (ref : BusRef) : completing ref h = (h.view ref).running.any fun r =>
    match r with
    | .complete _ => true
    | _ => false := by
  simp only [completing, view, List.any_filterMap]
  congr 1
  funext f
  cases f.on? ref with
  | none => rfl
  | some r => cases r <;> rfl

theorem notified_eq (ref : BusRef) (inputs : List Input) :
    seen (notified? ref) .new inputs = (record ref inputs).started.filterMap Bus.Running.notified? := by
  rw [record_started, seen_filterMap]
  refine seen_congr (fun h g i => ?_) grounded_new inputs
  rw [notified?, told?_eq g, greeted?_eq g]
  cases startedOn ref h i <;> rfl

/-- Those notified are those told by the completion and those told when they were made. -/
theorem notified_perm (ref : BusRef) (inputs : List Input) :
    (seen (notified? ref) .new inputs).Perm ((record ref inputs).told ++ (record ref inputs).greeted) := by
  have hperm : ∀ l : List (Bus.Running Listener), (l.filterMap Bus.Running.notified?).Perm
      (l.filterMap Bus.Running.told? ++ l.filterMap Bus.Running.greeted?) := by
    intro l
    induction l with
    | nil => exact .nil
    | cons r l ih =>
      cases r with
      | next d => exact ih
      | complete c => exact ih.cons _
      | late id => exact (ih.cons _).trans List.perm_middle.symm
  exact notified_eq ref inputs ▸ hperm _

theorem handed?_of_completed {inputs : List Input} (hdone : ((reached inputs).bus ref).completed = true) (id : Nat)
    (j : Input) : handed? ⟨ref, id⟩ (reached inputs) j = none := by
  rw [handed?_eq (grounded_reached inputs), startedOn]
  cases moveOn ref (reached inputs) j with
  | none => rfl
  | some m =>
    have hmute := (record_sound ref inputs).mute ((record_bus ref inputs).symm ▸ hdone) m
    rw [record_live] at hmute
    cases hs : ((reached inputs).view ref).started m with
    | none => simp [hs]
    | some r =>
      cases r with
      | next d => exact absurd hs (hmute d)
      | complete c => simp [hs, Bus.Running.for?]
      | late s => simp [hs, Bus.Running.for?]

/-- Neither is one in the step that completes the bus. -/
theorem handed?_of_complete {h : Host} (g : Grounded h) {j : Input} (hm : moveOn ref h j = some .complete) (id : Nat) :
    handed? ⟨ref, id⟩ h j = none := by
  rw [handed?_eq g, startedOn, hm]
  cases hdone : (h.view ref).bus.completed with
  | true => simp [Bus.Live.started, Bus.react_complete hdone]
  | false =>
    obtain ⟨gone, k⟩ := Bus.complete_closes hdone
    cases hs : (h.view ref).started .complete with
    | none => simp [hs]
    | some r =>
      obtain ⟨c, rfl, -⟩ := k.code r hs
      simp [hs, Bus.Running.for?]

/-- A subscription that is made on a completed bus is told at once, if it wants to know. -/
theorem greeted?_of_completed {inputs : List Input} (hdone : ((reached inputs).bus ref).completed = true) {j : Input}
    {s : Sink Listener} (hs : made? ref (reached inputs) j = some s) :
    greeted? ref (reached inputs) j = if s.completes then some s.id else none := by
  rw [greeted?_eq (grounded_reached inputs), startedOn]
  obtain ⟨m, hm, hs⟩ := Option.bind_eq_some_iff.mp hs
  rw [hm]
  cases m with
  | attach screen completes l =>
    cases hs
    have hview : ((reached inputs).view ref).bus.completed = true := hdone
    simp only [Option.bind_some, Bus.Live.started, Bus.Live.react, hview, Bool.true_and]
    cases completes with
    | false => rfl
    | true => simp [Bus.Running.greeted?, Bus.attach, hview]
  | _ => cases hs

/-- How far the completion of a bus is; when nobody is being told, it is over. -/
theorem telling {inputs : List Input} (hdone : ((reached inputs).bus ref).completed = true) :
    ∃ above, Bus.Telling (record ref inputs) above ∧
      (completing ref (reached inputs) = false → Bus.remaining above = []) := by
  obtain ⟨above, base, hrun, -, -, hcomp⟩ := (record_sound ref inputs).frames
  refine ⟨above, hcomp.after ((record_bus ref inputs).symm ▸ hdone), fun hidle => ?_⟩
  rw [completing_eq, ← record_live, hrun, List.any_append, Bool.or_eq_false_iff] at hidle
  refine Bus.remaining_eq_nil fun c hmem => ?_
  have := List.any_eq_false.mp hidle.1 _ hmem
  simp at this

theorem closed_of_completed {inputs : List Input} (hdone : ((reached inputs).bus ref).completed = true)
    (hidle : completing ref (reached inputs) = false) {s : Sink Listener} (hs : s ∈ made ref inputs) :
    (reached inputs).isClosed ⟨ref, s.id⟩ = true := by
  obtain ⟨above, t, hover⟩ := telling hdone
  have hclosed : s.id ∈ ((reached inputs).bus ref).closed := by
    rw [← record_bus]
    rcases t.closed s (record_attached ref _ ▸ hs) with hcl | hrem
    · exact hcl
    · rw [hover hidle] at hrem
      cases hrem
  rw [isClosed_eq]
  simpa [Bus.isClosed] using hclosed

end Record

/-! ### From the completion on -/

section Onwards
variable {ref : BusRef} {earlier : List Input} {i : Input} (hopen : ((reached earlier).bus ref).completed = false)
  (hdone : ((reached (earlier ++ [i])).bus ref).completed = true)
include hopen hdone

theorem moveOn_of_completes : moveOn ref (reached earlier) i = some .complete := by
  rwa [completed_snoc, hopen, Bool.false_or, ends_iff] at hdone

theorem record_of_completes (later : List Input) :
    (record ref (earlier ++ i :: later)).live.bus.completed = true ∧
      (record ref (earlier ++ i :: later)).leaving = ((reached earlier).bus ref).sinks ∧
      (record ref (earlier ++ i :: later)).latecomers = seen (made? ref) (reached (earlier ++ [i])) later := by
  have hmove := moveOn_of_completes hopen hdone
  have hbefore : (record ref earlier).live.bus.completed = false := (record_bus ref earlier).symm ▸ hopen
  obtain ⟨_, _, _, _, _, hcomp⟩ := (record_sound ref earlier).frames
  induction later using List.reverseRecOn with
  | nil =>
    refine ⟨(record_bus ref _).symm ▸ hdone, ?_, ?_⟩ <;> rw [record_snoc, hmove]
    · show (if (record ref earlier).live.bus.completed then (record ref earlier).leaving
        else (record ref earlier).live.bus.sinks) = _
      rw [hbefore, record_bus]
      rfl
    · simp [Bus.Chronicle.step, Bus.Live.made, (hcomp.before hbefore).latecomers, seen]
  | append_singleton later j ih =>
    obtain ⟨hc, hleaving, hlate⟩ := ih
    have hsplit : earlier ++ i :: (later ++ [j]) = (earlier ++ i :: later) ++ [j] := by simp
    rw [hsplit, record_snoc, seen_concat, ← reached_cons, made?]
    cases moveOn ref (reached (earlier ++ i :: later)) j with
    | none => exact ⟨hc, hleaving, hlate.trans (List.append_nil _).symm⟩
    | some m =>
      refine ⟨(Bus.step_completed _ m).mpr (.inl hc), ?_, ?_⟩
      · rw [← hleaving]
        cases m <;> simp [Bus.Chronicle.step, hc]
      · rw [← hlate, Option.bind_some, ← record_live]
        simp only [Bus.Chronicle.step, hc, ↓reduceIte]

theorem completed_later (later : List Input) :
    ((reached (earlier ++ i :: later)).bus ref).completed = true :=
  record_bus ref _ ▸ (record_of_completes hopen hdone later).1

theorem mute_of_completes (later : List Input) (id : Nat) :
    seen (handed? ⟨ref, id⟩) (reached earlier) (i :: later) = [] := by
  refine seen_eq_nil _ fun a j b hs => ?_
  cases a with
  | nil =>
    cases hs
    exact handed?_of_complete (grounded_reached earlier) (moveOn_of_completes hopen hdone) id
  | cons _ a =>
    cases hs
    have := handed?_of_completed (completed_later hopen hdone a) id j
    rwa [reached_append] at this

/-- The completion tells those who were attached, in their order, and when it is over all of them. -/
theorem told_of_completes (later : List Input) :
    ∃ gone left, ((reached earlier).bus ref).sinks = gone ++ left ∧
      seen (told? ref) .new (earlier ++ i :: later) = Bus.tellable gone ∧
      (completing ref (reached (earlier ++ i :: later)) = false → left = []) := by
  obtain ⟨-, hleaving, -⟩ := record_of_completes hopen hdone later
  obtain ⟨above, t, hover⟩ := telling (completed_later hopen hdone later)
  obtain ⟨gone, hgone, htold⟩ := t.told
  exact ⟨gone, Bus.remaining above, hleaving.symm.trans hgone, (told_eq ref _).trans htold, hover⟩

theorem greeted_of_completes (later : List Input) :
    seen (greeted? ref) .new (earlier ++ i :: later) =
      Bus.tellable (seen (made? ref) (reached (earlier ++ [i])) later) := by
  obtain ⟨-, -, hlate⟩ := record_of_completes hopen hdone later
  obtain ⟨above, t, -⟩ := telling (completed_later hopen hdone later)
  rw [greeted_eq, t.greeted, hlate]

theorem made_of_completes (later : List Input) :
    made ref (earlier ++ i :: later) = made ref earlier ++ seen (made? ref) (reached (earlier ++ [i])) later := by
  have hi : made? ref (reached earlier) i = none := by
    rw [made?, moveOn_of_completes hopen hdone]
    rfl
  rw [made, seen_cons, hi]
  rfl

/-- Who was closed before the completion is not told: the completion tells subscriptions that were attached,
    those made later come after it, and no two have one number. -/
theorem spared_of_completes (later : List Input) {s : Sink Listener}
    (hs : s ∈ made ref earlier) (hout : s ∉ ((reached earlier).bus ref).sinks) :
    s.id ∉ seen (notified? ref) .new (earlier ++ i :: later) := by
  intro hnot
  have hnodup : ((made ref (earlier ++ i :: later)).map (·.id)).Nodup :=
    record_attached ref _ ▸ (record_sound ref _).numbered.ids_nodup
  rw [made_of_completes hopen hdone, List.map_append, List.nodup_append] at hnodup
  rcases List.mem_append.mp ((notified_perm ref _).mem_iff.mp hnot) with htold | hgreeted
  · obtain ⟨gone, left, hsinks, hgone, -⟩ := told_of_completes hopen hdone later
    rw [← told_eq, hgone] at htold
    obtain ⟨s', hs', hid⟩ := List.mem_map.mp ((Bus.tellable_sublist gone).subset htold)
    have hsink : s' ∈ ((reached earlier).bus ref).sinks := hsinks ▸ List.mem_append_left _ hs'
    have hmade : s' ∈ made ref earlier := by
      rw [← record_attached]
      rw [← record_bus] at hsink
      exact List.mem_append_left _ ((record_sound ref earlier).numbered.sinks.subset hsink)
    exact hout (List.inj_on_of_nodup_map hnodup.1 hs hmade hid.symm ▸ hsink)
  · rw [← greeted_eq, greeted_of_completes hopen hdone] at hgreeted
    exact hnodup.2.2 s.id (List.mem_map_of_mem hs) s.id ((Bus.tellable_sublist _).subset hgreeted) rfl

end Onwards

/-! ### By the roll -/

section Roll
variable {ref : BusRef} {earlier : List Input} {i : Input}

theorem askers_map (sinks : List (Sink Listener)) : Roll.askers (sinks.map Member.of) = Bus.tellable sinks := by
  rw [Roll.askers, Bus.tellable, List.filter_map, List.map_map]
  rfl

theorem askers_present (ref : BusRef) (inputs : List Input) :
    Roll.askers (roll ref inputs).present = Bus.tellable ((reached inputs).bus ref).sinks := by
  rw [present_eq, askers_map]

/-- Whoever left is closed, and attached no longer. -/
theorem gone_of_left (hended : (roll ref earlier).ended = false) {id : Nat} (hid : id ∈ (roll ref earlier).left) :
    ∃ s ∈ made ref earlier, s.id = id ∧ s ∉ ((reached earlier).bus ref).sinks := by
  have htallies := tallies ref earlier
  obtain ⟨s, hs, rfl⟩ := htallies.known id hid
  refine ⟨s, hs, rfl, fun hsink => ?_⟩
  have hclosed := (htallies.left hended s hs).mp hid
  rw [← record_bus] at hsink hclosed
  exact (record_sound ref earlier).numbered.opened s hsink hclosed

theorem completes (hended : (roll ref earlier).ended = false) (hends : ends ref (reached earlier) i = true)
    (later : List Input) : Completes ref earlier i later := by
  have hopen : ((reached earlier).bus ref).completed = false := (tallies ref earlier).ended ▸ hended
  have hdone : ((reached (earlier ++ [i])).bus ref).completed = true := by rw [completed_snoc, hends, Bool.or_true]
  have hdone' := completed_later hopen hdone
  obtain ⟨gone, left, hsinks, htold, hover⟩ := told_of_completes hopen hdone later
  refine ⟨fun id => mute_of_completes hopen hdone later id, ?_, fun hidle => ?_, fun a j b _ m hm => ?_, ?_,
    fun id hid => ?_, fun hidle m hm => ?_⟩
  · rw [htold, askers_present, hsinks, Bus.tellable_append]
    exact List.prefix_append _ _
  · rw [htold, askers_present, hsinks, hover hidle, List.append_nil]
  · rw [joined?_eq] at hm
    obtain ⟨s, hs, rfl⟩ := Option.map_eq_some_iff.mp hm
    exact greeted?_of_completed (hdone' a) hs
  · rw [greeted_of_completes hopen hdone, (tallies ref earlier).members, (tallies ref _).members,
      made_of_completes hopen hdone, List.length_map, ← List.map_drop, List.drop_left, askers_map]
  · obtain ⟨s, hs, rfl, hout⟩ := gone_of_left hended hid
    exact spared_of_completes hopen hdone later hs hout
  · obtain ⟨s, hs, rfl⟩ := mem_members.mp hm
    exact closed_of_completed (hdone' later) hidle hs

/-- A step that tells of the completion ends with a call of the client that is told. -/
theorem called_of_notified {a more : List Input} {s : Sink Listener} {n : Nat} (hs : s ∈ made ref (a ++ i :: more))
    (howner : s.owner.client? = some n) (hn : notified? ref (reached a) i = some s.id) :
    ((reached a).step i).2.filter (·.calls) = [.callComplete n] := by
  have g := grounded_reached a
  rw [notified?, told?_eq g, greeted?_eq g] at hn
  obtain ⟨code, hstarted, hid⟩ : ∃ code, startedOn ref (reached a) i = some code ∧
      (code.told?.or code.greeted?) = some s.id := by
    cases hstarted : startedOn ref (reached a) i with
    | none => simp [hstarted] at hn
    | some code => exact ⟨code, rfl, by simpa [hstarted] using hn⟩
  obtain ⟨m, hm, hlive⟩ := Option.bind_eq_some_iff.mp hstarted
  cases code with
  | next d => cases hid
  | complete c =>
    have hcurrent : c.current = s := by
      rw [← record_live] at hlive
      exact made_unique (made_append a (i :: more) (made_of_early ((record_sound ref a).early_of_told hlive))) hs
        (Option.some.inj hid)
    rcases step_code g i with ⟨-, hnone⟩ | ⟨f, before, o, -, hout, hopens, hquiet, hon⟩
    · rw [hnone] at hstarted
      cases hstarted
    · rw [hout, hopens.only hquiet]
      rw [hon] at hstarted
      cases hopens with
      | complete owner =>
        obtain ⟨-, hc⟩ := Option.ite_none_right_eq_some.mp hstarted
        cases hc
        rw [hcurrent] at owner
        rw [owner] at howner
        cases howner
        rfl
      | handler => cases hstarted
      | posting => cases hstarted
      | woken => cases hstarted
      | _ =>
        obtain ⟨-, hc⟩ := Option.ite_none_right_eq_some.mp hstarted
        cases hc
  | late id =>
    obtain ⟨hnew, hdone, screen, owner, rfl⟩ := Bus.attach_of_late hlive
    obtain ⟨client, rfl, hout⟩ := step_of_late hm hdone
    have hmade : made? ref (reached a) i = some ⟨id, screen, true, .client client⟩ := by
      rw [made?, hm, hnew]
      rfl
    obtain rfl := made_unique ((mem_seen _).mpr ⟨a, i, more, rfl, hmade⟩) hs (Option.some.inj hid)
    cases howner
    rw [hout]
    rfl

end Roll

/-- Whatever the clients of a host do, a bus completes once and for all, and tells everybody once. -/
theorem completion_law (ref : BusRef) (inputs : List Input) : CompletesOnce ref inputs := by
  have law := record_sound ref inputs
  have htallies := tallies ref inputs
  have hperm := notified_perm ref inputs
  refine ⟨htallies.ended.symm, fun hended => ?_, ?_, ?_, fun earlier i later _ hended hends => completes hended hends later⟩
  · obtain ⟨_, _, _, _, _, hcomp⟩ := law.frames
    have u := hcomp.before (by rw [record_bus, ← htallies.ended, hended])
    rw [u.told, u.greeted] at hperm
    exact hperm.eq_nil
  · exact hperm.nodup_iff.mpr (law.told_greeted.nodup law.numbered.ids_nodup)
  · rintro earlier i later rfl m hm n hn hclient
    obtain ⟨s, hs, rfl⟩ := mem_members.mp hm
    exact called_of_notified hs hclient hn

/-- A bus that is completed while an event is being handed out. The completion calls back, and meanwhile somebody
    subscribes and is told at once; then the first of those who are told complains. A fourth one had left before. -/
def curfew : List Input :=
  [ .operate .newBus,
    .operate (.subscribe (.bus 0 fun _ => .ok true) 1 true),
    .operate (.subscribe (.bus 0 fun _ => .ok true) 2 true),
    .operate (.subscribe (.bus 0 fun _ => .ok true) 3 false),
    .operate (.subscribe (.bus 0 fun _ => .ok true) 4 true),
    .operate (.unsubscribe ⟨.alone 0, 4⟩),
    .operate (.publish 0 (.user (.string "a") .null)),
    .operate (.complete 0),
    .operate (.subscribe (.bus 0 fun _ => .ok true) 5 true),
    .reply (.done .undefined),
    .reply (.threw (.failure "Error" "no")),
    .reply (.done .undefined),
    .operate (.publish 0 (.user (.string "b") .null)),
    .operate (.complete 0),
    .reply (.done .undefined) ]

theorem curfew_completes : CompletesOnce (.alone 0) curfew ∧ (roll (.alone 0) curfew).ended = true ∧
    seen (told? (.alone 0)) .new curfew = [1, 2] ∧ seen (greeted? (.alone 0)) .new curfew = [5] ∧
    received ⟨.alone 0, 1⟩ curfew = [.user (.string "a") .null] ∧ received ⟨.alone 0, 2⟩ curfew = [] ∧
    [1, 2, 3, 4, 5].map (fun id => (reached curfew).isClosed ⟨.alone 0, id⟩) = [true, true, true, true, true] ∧
    (reached curfew).stack = [] :=
  ⟨completion_law (.alone 0) curfew, by rfl, by rfl, by rfl, by rfl, by rfl, by rfl, by rfl⟩

end Host
end ThingHost
