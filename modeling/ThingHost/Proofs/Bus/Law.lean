import Mathlib.Data.List.Perm.Subperm
import ThingHost.Proofs.Bus.Delivery
import ThingHost.Proofs.Bus.Numbers

/-! What holds of a bus at any time: of its numbers, of the code that runs on it, of its deliveries and of
    its completion. Every move keeps it, so it holds whatever is done with a bus. -/

namespace ThingHost.Bus

variable {κ : Type}

/-- The deliveries so far: to whom they went, and what the subscriptions received of them. -/
structure Faithful (c : Chronicle κ) : Prop where
  audience : ∀ r ∈ c.rounds, r.audience.Sublist c.early
  received : ∀ id, c.received id = (c.rounds.filter (·.reaches id)).map (·.event)

/-- The law of a bus: the code that runs belongs to a delivery at most, and above it to a completion and
    to subscriptions that came late. -/
structure Sound (c : Chronicle κ) : Prop where
  numbered : Numbered c
  faithful : Faithful c
  frames : ∃ above base, c.live.running = above ++ (base.map Running.next).toList ∧ (∀ d, .next d ∉ above) ∧
    Delivering c.live.bus c.rounds c.published base ∧ Completing c above

theorem sound_new : Sound (Chronicle.new : Chronicle κ) where
  numbered := ⟨rfl, rfl, List.Sublist.refl _, by simp [Chronicle.new, Live.new, Bus.new],
    by simp [Chronicle.new, Live.new, Bus.new]⟩
  faithful := ⟨by simp [Chronicle.new], fun _ => rfl⟩
  frames := ⟨[], none, rfl, by simp, ⟨rfl, rfl, by simp [Chronicle.new], fun _ => rfl, List.prefix_rfl⟩,
    ⟨fun _ => ⟨rfl, rfl, rfl, rfl, rfl, by simp [Chronicle.new]⟩, fun h => by cases h⟩⟩

section Step
variable {c : Chronicle κ} {m : Move κ}

theorem Faithful.still (h : Faithful c) (hrounds : (c.step m).rounds = c.rounds)
    (hs : ∀ d, c.live.started m ≠ some (.next d)) : Faithful (c.step m) := by
  refine ⟨fun r hr => ?_, fun id => ?_⟩
  · rw [hrounds] at hr
    exact (h.audience r hr).trans (early_sublist m)
  · rw [received_of_quiet hs, hrounds]
    exact h.received id

/-- Delivering, and going on with the queue, changes no subscription and starts no code but an observer's. -/
theorem Completing.of_alike {above : List (Running κ)} (h : Completing c above) (hm : c.live.made m = none)
    (hl : (c.step m).leaving = c.leaving) (hb : Alike c.live.bus (c.live.react m).1)
    (hstart : ∀ r, c.live.started m = some r → ∃ d, r = .next d) : Completing (c.step m) above := by
  refine h.of_quiet hm hl (fun t ht => ?_) (fun id hid => ?_) hb.completed ?_ ?_ ?_
  · obtain ⟨d, hd⟩ := hstart _ ht
    cases hd
  · obtain ⟨d, hd⟩ := hstart _ hid
    cases hd
  · rw [hb.sinks]
    exact List.Subset.refl _
  · rw [hb.closed]
    exact List.Subset.refl _
  · rw [hb.sinks]
    exact fun s hs => .inl hs

theorem Completing.unsubscribe {above : List (Running κ)} (h : Completing c above) (id : Nat) :
    Completing (c.step (.unsubscribe id)) above := by
  have hreact : (c.live.react (.unsubscribe id)).1 = c.live.bus.unsubscribe id := rfl
  have hst : c.live.started (.unsubscribe id) = none := rfl
  rcases unsubscribe_cases c.live.bus id with heq | ⟨-, heq⟩
  · refine h.of_alike rfl rfl ?_ (by simp [hst])
    rw [hreact, heq]
    exact ⟨rfl, rfl, rfl, rfl⟩
  · refine h.of_quiet rfl rfl (by simp [hst]) (by simp [hst]) ?_ ?_ ?_ ?_ <;> rw [hreact, heq]
    · exact List.filter_subset_self _
    · exact List.subset_cons_self _ _
    · intro s hs
      by_cases hid : s.id = id
      · exact .inr (by simp [hid])
      · exact .inl (by simp [hs, hid])

/-! ### Moves that start nothing -/

/-- A move that starts nothing and delivers nothing keeps the law with what it keeps of the bus. -/
theorem Sound.still (h : Sound c) (hs : c.live.started m = none) (hrest : c.live.rest m = c.live.running)
    (hrounds : (c.step m).rounds = c.rounds) (hn : Numbered (c.step m))
    (hd : ∀ base, Delivering c.live.bus c.rounds c.published base →
      Delivering (c.live.react m).1 c.rounds (c.step m).published base)
    (hc : ∀ above, Completing c above → Completing (c.step m) above) : Sound (c.step m) := by
  obtain ⟨above, base, hrun, hno, hdel, hcomp⟩ := h.frames
  refine ⟨hn, h.faithful.still hrounds (by simp [hs]), above, base, ?_, hno, hrounds ▸ hd base hdel, hc above hcomp⟩
  show (c.live.started m).toList ++ c.live.rest m = _
  rw [hs, hrest, hrun]
  rfl

theorem Sound.unsubscribe (h : Sound c) (id : Nat) : Sound (c.step (.unsubscribe id)) := by
  refine h.still rfl rfl rfl (h.numbered.unsubscribe id) (fun base hdel => ?_) fun above hcomp => hcomp.unsubscribe id
  have hreact : (c.live.react (.unsubscribe id)).1 = c.live.bus.unsubscribe id := rfl
  rw [step_published rfl, hreact]
  rcases unsubscribe_cases c.live.bus id with heq | ⟨-, heq⟩ <;> rw [heq]
  · exact hdel
  · exact hdel.congr rfl rfl fun hc => hc

/-! ### Publishing -/

/-- Publishing on a completed bus, or while an event is being delivered, starts nothing. -/
theorem Sound.publish_busy (h : Sound c) {e : Event} (ht : (c.live.bus.publish e).2.2 = .over)
    (hbusy : (c.live.bus.completed || c.live.bus.draining) = true)
    (hd : ∀ base, Delivering c.live.bus c.rounds c.published base →
      Delivering (c.live.bus.publish e).1 c.rounds (c.step (.publish e)).published base) :
    Sound (c.step (.publish e)) := by
  have halike : Alike c.live.bus (c.live.react (.publish e)).1 := publish_alike _ _
  refine h.still ?_ rfl ?_ (h.numbered.of_alike rfl halike) hd fun above hcomp =>
    hcomp.of_alike rfl rfl halike fun r hr => publish_started hr
  · simp only [Live.started, Live.react, ht, code?]
  · simp only [Chronicle.step, Live.rounds, hbusy, ↓reduceIte]

theorem Sound.publish_idle (h : Sound c) {e : Event} (hc : c.live.bus.completed = false)
    (hd : c.live.bus.draining = false) (hb : c.live.bus.publish e = c.live.bus.drain (c.live.bus.pending ++ [e])) :
    Sound (c.step (.publish e)) := by
  obtain ⟨above, base, hrun, hno, hdel, hcomp⟩ := h.frames
  obtain ⟨rfl, hrest⟩ := hdel.at_rest hd
  obtain rfl := (hcomp.before hc).above
  have halike : Alike c.live.bus (c.live.react (.publish e)).1 := publish_alike _ _
  have hrounds : (c.step (.publish e)).rounds = c.rounds ++ roundsOf c.live.bus (c.live.bus.pending ++ [e]) := by
    simp only [Chronicle.step, Live.rounds, hc, hd, Bool.or_self, Bool.false_eq_true, ↓reduceIte]
  have hpub : (c.step (.publish e)).published = c.published ++ [e] := by
    simp only [Chronicle.step, Live.taken, hc, Bool.false_eq_true, ↓reduceIte, Option.toList_some]
  have hst : c.live.started (.publish e) = code? (c.live.bus.drain (c.live.bus.pending ++ [e])).2.2 := by
    simp only [Live.started, Live.react, hb]
  have hall : c.rounds.map (·.event) ++ (c.live.bus.pending ++ [e]) = c.published ++ [e] := by
    rw [hrest.pending, hrest.all hc]
    rfl
  obtain ⟨base, hbase, hdel'⟩ := Delivering.drain hc hrest.finished hall
  refine ⟨h.numbered.of_alike rfl halike, ⟨fun r hr => ?_, fun id => ?_⟩, [], base, ?_, hno, ?_,
    hcomp.of_alike rfl rfl halike fun r hr => publish_started hr⟩
  · rw [hrounds] at hr
    rw [step_early rfl]
    rcases List.mem_append.mp hr with hr | hr
    · exact h.faithful.audience r hr
    · exact roundsOf_audience hr ▸ h.numbered.sinks
  · rw [hrounds, received_step, hst, List.filter_append, List.map_append, roundsOf_reaches, h.faithful.received]
  · show (c.live.started _).toList ++ c.live.running = _
    rw [hst, hbase, hrun]
    simp
  · rw [hrounds, hpub]
    show Delivering (c.live.bus.publish e).1 _ _ _
    rw [hb]
    exact hdel'

theorem Sound.publish (h : Sound c) (e : Event) : Sound (c.step (.publish e)) := by
  rcases publish_cases c.live.bus e with ⟨hc, hb, ht⟩ | ⟨hc, hd, hb, ht⟩ | ⟨hc, hd, hb⟩
  · refine h.publish_busy ht (by simp [hc]) fun base hdel => ?_
    rw [hb, step_published (by simp [Live.taken, hc])]
    exact hdel
  · refine h.publish_busy ht (by simp [hd]) fun base hdel => ?_
    have hpub : (c.step (.publish e)).published = c.published ++ [e] := by simp [Chronicle.step, Live.taken, hc]
    rw [hb, hpub]
    exact hdel.wait hd e
  · exact h.publish_idle hc hd hb

/-! ### Subscribing and completing -/

theorem Sound.attach (h : Sound c) (screen : Event → Screening) (completes : Bool) (owner : κ) :
    Sound (c.step (.attach screen completes owner)) := by
  obtain ⟨above, base, hrun, hno, hdel, hcomp⟩ := h.frames
  have hst : ∀ d, c.live.started (.attach screen completes owner) ≠ some (.next d) := by
    intro d hd
    simp only [Live.started, Live.react] at hd
    split at hd <;> cases hd
  refine ⟨h.numbered.attach (hcomp.attached_step _), h.faithful.still rfl hst,
    (c.live.started (.attach screen completes owner)).toList ++ above, base, ?_, ?_, ?_, hcomp.attach _ _ _⟩
  · show (c.live.started _).toList ++ c.live.running = _
    rw [hrun, List.append_assoc]
  · intro d hd
    rcases List.mem_append.mp hd with hd | hd
    · exact hst d (Option.mem_toList.mp hd)
    · exact hno d hd
  · rw [step_published rfl]
    show Delivering (c.live.bus.attach screen completes owner).1 c.rounds c.published base
    cases hc : c.live.bus.completed with
    | true =>
      rw [attach_late hc]
      exact hdel.congr rfl rfl fun hc => hc
    | false =>
      rw [attach_open hc]
      exact hdel.congr rfl rfl fun hc => hc

theorem Sound.complete_again (h : Sound c) (hdone : c.live.bus.completed = true) : Sound (c.step .complete) := by
  have hreact := react_complete hdone
  have hst : c.live.started .complete = none := by rw [Live.started, hreact]
  have halike : Alike c.live.bus (c.live.react .complete).1 := by
    rw [hreact]
    exact ⟨rfl, rfl, rfl, rfl⟩
  refine h.still hst rfl rfl (h.numbered.of_alike rfl halike) (fun base hdel => ?_) fun above hcomp =>
    hcomp.of_alike rfl (by simp [Chronicle.step, hdone]) halike (by simp [hst])
  rw [hreact, step_published rfl]
  exact hdel

theorem Sound.complete (h : Sound c) : Sound (c.step .complete) := by
  cases hc : c.live.bus.completed with
  | true => exact h.complete_again hc
  | false =>
    obtain ⟨above, base, hrun, -, hdel, hcomp⟩ := h.frames
    have u := hcomp.before hc
    obtain rfl := u.above
    obtain ⟨gone, k⟩ := complete_closes hc
    have hn : Numbered (c.step .complete) := h.numbered.of_closes rfl k rfl rfl rfl fun s hs =>
      List.mem_append_left _ (h.numbered.sinks.subset hs)
    refine ⟨hn, h.faithful.still rfl k.not_next, (c.live.started .complete).toList, base, ?_,
      fun d hd => k.not_next d (Option.mem_toList.mp hd), ?_, ⟨fun hopen => ?_, fun _ => u.complete hc h.numbered.sinks⟩⟩
    · show (c.live.started _).toList ++ c.live.running = _
      rw [hrun]
      rfl
    · rw [step_published rfl]
      show Delivering (c.live.react .complete).1 c.rounds c.published base
      rw [k.bus]
      exact hdel.congr rfl rfl fun hopen => by cases hopen
    · rw [show (c.step .complete).live.bus = _ from k.bus] at hopen
      cases hopen

/-! ### Code that is done -/

/-- A delivery runs below everything else. -/
theorem Sound.of_next (h : Sound c) {d : Delivery κ} {rest : List (Running κ)} (hrun : c.live.running = .next d :: rest) :
    rest = [] ∧ Underway c.live.bus c.rounds c.published d ∧ Completing c [] := by
  obtain ⟨above, base, hframes, hno, hdel, hcomp⟩ := h.frames
  rw [hrun] at hframes
  cases above with
  | nil =>
    cases base with
    | none => cases hframes
    | some d' =>
      simp only [Option.map_some, Option.toList_some, List.nil_append, List.cons.injEq, Running.next.injEq] at hframes
      obtain ⟨rfl, rfl⟩ := hframes
      exact ⟨rfl, hdel, hcomp⟩
  | cons r above =>
    obtain ⟨rfl, -⟩ := List.cons.inj hframes
    exact absurd List.mem_cons_self (hno d)

/-- Code that is not an observer's is that of the completion, or of a subscription that came late. -/
theorem Sound.of_other (h : Sound c) {r : Running κ} {rest : List (Running κ)} (hrun : c.live.running = r :: rest)
    (hr : ∀ d, r ≠ .next d) : ∃ above base, rest = above ++ (base.map Running.next).toList ∧
      (∀ d, .next d ∉ above) ∧ Delivering c.live.bus c.rounds c.published base ∧ c.live.bus.completed = true ∧
      Telling c (r :: above) := by
  obtain ⟨above, base, hframes, hno, hdel, hcomp⟩ := h.frames
  rw [hrun] at hframes
  cases above with
  | nil =>
    cases base with
    | none => cases hframes
    | some d => exact absurd (List.cons.inj hframes).1 (hr d)
  | cons r' above =>
    obtain ⟨rfl, rfl⟩ := List.cons.inj hframes
    refine ⟨above, base, rfl, fun d hd => hno d (List.mem_cons_of_mem _ hd), hdel, ?_⟩
    cases hc : c.live.bus.completed with
    | true => exact ⟨rfl, hcomp.after hc⟩
    | false => cases (hcomp.before hc).above

/-- On a completed bus the rest of the audience is closed when a delivery goes on. -/
theorem Sound.rest_quiet (h : Sound c) {d : Delivery κ} {rest : List (Running κ)}
    (hrun : c.live.running = .next d :: rest) (hdone : c.live.bus.completed = true) :
    ∀ s ∈ d.rest, calls c.live.bus.closed d.event s = false := by
  obtain ⟨-, hund, hcomp⟩ := h.of_next hrun
  intro s hs
  obtain ⟨past, r, hr, -, -, haud⟩ := hund.last
  have hsr : s ∈ r.audience := haud ▸ List.mem_append_right _ hs
  have hse : s ∈ c.early := (h.faithful.audience r (by rw [hr]; simp)).subset hsr
  rcases (hcomp.after hdone).closed s (List.mem_append_left _ hse) with hcl | hrem
  · simp [calls, hcl]
  · cases hrem

/-- What runs after an observer is the next one, of this delivery or of a later one. -/
theorem Sound.afterNext (h : Sound c) {d : Delivery κ} {rest : List (Running κ)}
    (hrun : c.live.running = .next d :: rest) (thrown : Option Thrown) :
    ∃ base, code? (c.live.bus.afterNext d thrown).2.2 = base.map .next ∧
      Delivering (c.live.bus.afterNext d thrown).1 (c.live.bus.roundsAfter d c.rounds) c.published base := by
  obtain ⟨-, hund, -⟩ := h.of_next hrun
  cases hc : c.live.bus.completed with
  | false => exact Delivering.afterNext hc hund thrown
  | true => exact ⟨none, Delivering.afterNext_of_completed hc hund (h.rest_quiet hrun hc) thrown⟩

theorem Sound.done_next (h : Sound c) {d : Delivery κ} {rest : List (Running κ)} (hrun : c.live.running = .next d :: rest)
    (thrown : Option Thrown) : Sound (c.step (.done thrown)) := by
  obtain ⟨rfl, hund, hcomp⟩ := h.of_next hrun
  have halike := next_alike hrun thrown
  have hreact := react_next hrun thrown
  have hst : c.live.started (.done thrown) = code? (c.live.bus.afterNext d thrown).2.2 := by
    rw [Live.started, hreact]
  have hrounds : (c.step (.done thrown)).rounds = c.live.bus.roundsAfter d c.rounds := by
    simp only [Chronicle.step, Live.rounds, hrun]
  have hnodup : ∀ r ∈ c.rounds, (r.audience.map (·.id)).Nodup := fun r hr =>
    List.Sublist.nodup ((h.faithful.audience r hr).map _) h.numbered.early_ids_nodup
  obtain ⟨base, hbase, hdel⟩ := h.afterNext hrun thrown
  refine ⟨h.numbered.of_alike rfl halike, ⟨fun r hr => ?_, fun id => ?_⟩, [], base, ?_, by simp, ?_,
    hcomp.of_alike rfl rfl halike fun r hr => next_started hrun hr⟩
  · rw [hrounds, roundsAfter] at hr
    rw [step_early rfl]
    rcases List.mem_append.mp hr with hr | hr
    · obtain ⟨x, hx, hxr, -⟩ := mem_extend hr
      exact hxr ▸ h.faithful.audience x hx
    · split at hr
      · cases hr
      · exact roundsOf_audience hr ▸ h.numbered.sinks
  · rw [received_step, hst, hrounds, roundsAfter_reaches hund hnodup thrown, h.faithful.received]
  · show (c.live.started (.done thrown)).toList ++ c.live.running.tail = _
    rw [hst, hbase, hrun]
    simp
  · rw [hrounds, step_published rfl]
    show Delivering (c.live.react (.done thrown)).1 _ _ _
    rw [hreact]
    exact hdel

theorem Sound.done_complete (h : Sound c) {t : Completion κ} {rest : List (Running κ)}
    (hrun : c.live.running = .complete t :: rest) (thrown : Option Thrown) : Sound (c.step (.done thrown)) := by
  obtain ⟨above, base, rfl, hno, hdel, hdone, k⟩ := h.of_other hrun (by simp)
  obtain ⟨gone, go⟩ := done_closes hrun thrown
  have hrounds : (c.step (.done thrown)).rounds = c.rounds := by simp only [Chronicle.step, Live.rounds, hrun]
  have hrest : ∀ s ∈ t.rest, s ∈ c.attached := by
    intro s hs
    obtain ⟨before, hleaving, -⟩ := k.told
    have : s ∈ c.leaving := by
      rw [hleaving]
      exact List.mem_append_right _ (List.mem_append_left (remaining above) hs)
    exact List.mem_append_left _ (k.leaving.subset this)
  refine ⟨h.numbered.of_closes rfl go rfl k.sinks rfl hrest, h.faithful.still hrounds go.not_next,
    (c.live.started (.done thrown)).toList ++ above, base, ?_, ?_, ?_, ⟨fun hopen => ?_, fun _ => k.done hrun thrown⟩⟩
  · show (c.live.started (.done thrown)).toList ++ c.live.running.tail = _
    rw [hrun, List.tail_cons, List.append_assoc]
  · intro d hd
    rcases List.mem_append.mp hd with hd | hd
    · exact go.not_next d (Option.mem_toList.mp hd)
    · exact hno d hd
  · rw [hrounds, step_published rfl]
    show Delivering (c.live.react (.done thrown)).1 c.rounds c.published base
    rw [go.bus]
    exact hdel.congr rfl rfl fun hc => hc
  · rw [show (c.step (.done thrown)).live.bus = _ from go.bus, closing_completed] at hopen
    exact absurd (hdone.symm.trans hopen) (by simp)

/-- The code that runs is gone, and nothing else changes. -/
theorem Sound.done_late (h : Sound c) {id : Nat} {rest : List (Running κ)} (hrun : c.live.running = .late id :: rest)
    (thrown : Option Thrown) : Sound (c.step (.done thrown)) := by
  obtain ⟨above, base, rfl, hno, hdel, hdone, k⟩ := h.of_other hrun (by simp)
  have hstep : c.step (.done thrown) = { c with live := ⟨c.live.bus, above ++ (base.map Running.next).toList⟩ } := by
    simp [Chronicle.step, Live.step, Live.react, Live.started, Live.rest, Live.rounds, Live.taken, Live.made, hrun]
  rw [hstep]
  refine ⟨⟨h.numbered.ids, h.numbered.nextId, h.numbered.sinks, h.numbered.opened, h.numbered.closed⟩,
    ⟨h.faithful.audience, h.faithful.received⟩, above, base, rfl, hno, hdel, ⟨fun hopen => ?_, fun _ => ?_⟩⟩
  · exact absurd (hdone.symm.trans hopen) (by simp)
  · exact ⟨k.sinks, k.leaving, k.told, k.closed, k.greeted⟩

theorem step_idle (hrun : c.live.running = []) (thrown : Option Thrown) : c.step (.done thrown) = c := by
  obtain ⟨⟨bus, running⟩, published, rounds, started, early, latecomers, leaving⟩ := c
  simp only at hrun
  subst hrun
  simp [Chronicle.step, Live.step, Live.react, Live.started, Live.rest, Live.rounds, Live.taken, Live.made]

theorem Sound.step (h : Sound c) (m : Move κ) : Sound (c.step m) := by
  cases m with
  | publish e => exact h.publish e
  | attach screen completes owner => exact h.attach screen completes owner
  | unsubscribe id => exact h.unsubscribe id
  | complete => exact h.complete
  | done thrown =>
    rcases hrun : c.live.running with _ | ⟨r, rest⟩
    · rw [step_idle hrun]
      exact h
    · cases r with
      | next d => exact h.done_next hrun thrown
      | complete t => exact h.done_complete hrun thrown
      | late id => exact h.done_late hrun thrown

end Step

/-- The law holds whatever is done with a bus. -/
theorem Sound.run {c : Chronicle κ} (h : Sound c) (moves : List (Move κ)) : Sound (c.run moves) := by
  induction moves generalizing c with
  | nil => exact h
  | cons m moves ih => exact ih (h.step m)

namespace Sound
variable {c : Chronicle κ}

theorem attached_step (h : Sound c) (m : Move κ) : (c.step m).attached = c.attached ++ (c.live.made m).toList := by
  obtain ⟨above, base, -, -, -, hcomp⟩ := h.frames
  exact hcomp.attached_step m

/-- Until the completion the subscriptions that are attached are those that were made and are not closed. -/
theorem sinks_eq (h : Sound c) (hopen : c.live.bus.completed = false) :
    c.live.bus.sinks = c.attached.filter fun s => !c.live.bus.closed.contains s.id := by
  obtain ⟨above, base, -, -, -, hcomp⟩ := h.frames
  have u := hcomp.before hopen
  have hatt : c.attached = c.early := by simp [Chronicle.attached, u.latecomers]
  have hnd : c.early.Nodup := List.Nodup.of_map _ h.numbered.early_ids_nodup
  have hsub : c.live.bus.sinks.Sublist (c.early.filter fun s => !c.live.bus.closed.contains s.id) := by
    have hself : c.live.bus.sinks.filter (fun s => !c.live.bus.closed.contains s.id) = c.live.bus.sinks := by
      rw [List.filter_eq_self]
      intro s hs
      simpa using h.numbered.opened s hs
    exact hself ▸ h.numbered.sinks.filter _
  have hmem : (c.early.filter fun s => !c.live.bus.closed.contains s.id) ⊆ c.live.bus.sinks := by
    intro s hs
    obtain ⟨hse, hso⟩ := List.mem_filter.mp hs
    rcases u.closed s hse with hs | hs
    · exact hs
    · simp [hs] at hso
  rw [hatt]
  exact hsub.eq_of_length_le (List.Nodup.subperm (List.Nodup.filter _ hnd) hmem).length_le

/-- Those who are told are subscriptions that were made, each of them once. -/
theorem told_greeted (h : Sound c) : (c.told ++ c.greeted).Sublist (c.attached.map (·.id)) := by
  obtain ⟨above, base, -, -, -, hcomp⟩ := h.frames
  cases hc : c.live.bus.completed with
  | false =>
    have u := hcomp.before hc
    rw [u.told, u.greeted]
    exact List.nil_sublist _
  | true =>
    have t := hcomp.after hc
    obtain ⟨gone, hgone, htold⟩ := t.told
    have hsub : gone.Sublist c.early := (hgone ▸ List.sublist_append_left _ _ : gone.Sublist c.leaving).trans t.leaving
    rw [htold, t.greeted, Chronicle.attached, List.map_append]
    exact ((tellable_sublist _).trans (hsub.map _)).append (tellable_sublist _)

theorem mute (h : Sound c) (hdone : c.live.bus.completed = true) (m : Move κ) (d : Delivery κ) :
    c.live.started m ≠ some (.next d) := by
  intro hs
  cases starts_of_started hs with
  | publish opened => exact absurd (hdone.symm.trans opened) (by simp)
  | @handed d' _ _ thrown top =>
    obtain ⟨-, hund, -⟩ := h.of_next top
    rw [Live.started, react_next top,
      (Delivering.afterNext_of_completed hdone hund (h.rest_quiet top hdone) thrown).1] at hs
    cases hs

end Sound

/-- Only completing a bus completes it, and nothing undoes it. -/
theorem step_completed (l : Live κ) (m : Move κ) : (l.step m).bus.completed = true ↔
    l.bus.completed = true ∨ m = .complete := by
  have same : (l.react m).1.completed = l.bus.completed → m ≠ .complete →
      ((l.step m).bus.completed = true ↔ l.bus.completed = true ∨ m = .complete) := by
    intro hsame hm
    show (l.react m).1.completed = true ↔ _
    rw [hsame]
    simp [hm]
  cases m with
  | publish e => exact same (publish_alike l.bus e).completed (by simp)
  | attach screen completes owner =>
    refine same ?_ (by simp)
    simp only [Live.react, Bus.attach]
    split <;> rfl
  | unsubscribe id =>
    refine same ?_ (by simp)
    simp only [Live.react, Bus.unsubscribe]
    split <;> rfl
  | complete =>
    show (l.react .complete).1.completed = true ↔ _
    cases hc : l.bus.completed with
    | true => simp [react_complete hc, hc]
    | false =>
      obtain ⟨gone, k⟩ := complete_closes hc
      simp [k.bus]
  | done thrown =>
    refine same ?_ (by simp)
    rcases hrun : l.running with _ | ⟨r, rest⟩
    · simp [Live.react, hrun]
    · cases r with
      | next d => exact (next_alike hrun thrown).completed
      | complete t =>
        obtain ⟨gone, go⟩ := done_closes hrun thrown
        rw [go.bus, closing_completed]
      | late id => simp [Live.react, hrun]

end ThingHost.Bus
