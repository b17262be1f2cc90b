import ThingHost.Proofs.Bus.Chronicle

/-! The law of completion. Completing a bus closes the subscriptions that are attached, one after another,
    and tells those that want to know; one made later is closed and told when it is made. Nobody is told
    twice, and nothing is delivered any more. -/

namespace ThingHost.Bus

variable {κ : Type}

/-- The subscriptions that a completion under way has still to close. -/
def remaining (above : List (Running κ)) : List (Sink κ) := above.flatMap fun
  | .complete t => t.rest
  | _ => []

/-- The numbers of the subscriptions that are told when they are closed. -/
def tellable (sinks : List (Sink κ)) : List Nat := (sinks.filter (·.completes)).map (·.id)

@[simp] theorem tellable_nil : tellable ([] : List (Sink κ)) = [] := rfl

@[simp] theorem tellable_append (a b : List (Sink κ)) : tellable (a ++ b) = tellable a ++ tellable b := by
  simp [tellable]

theorem tellable_of_quiet {sinks : List (Sink κ)} (h : ∀ s ∈ sinks, s.completes = false) : tellable sinks = [] := by
  simpa [tellable] using h

theorem tellable_of_told {passed : List (Sink κ)} {s : Sink κ} (h : ∀ x ∈ passed, x.completes = false)
    (hs : s.completes = true) : tellable (passed ++ [s]) = [s.id] := by
  rw [tellable_append, tellable_of_quiet h]
  simp [tellable, hs]

theorem tellable_sublist (sinks : List (Sink κ)) : (tellable sinks).Sublist (sinks.map (·.id)) :=
  List.filter_sublist.map _

/-- A bus before its completion: every subscription is attached or closed. -/
structure Untold (c : Chronicle κ) (above : List (Running κ)) : Prop where
  above : above = []
  latecomers : c.latecomers = []
  leaving : c.leaving = []
  told : c.told = []
  greeted : c.greeted = []
  closed : ∀ s ∈ c.early, s ∈ c.live.bus.sinks ∨ s.id ∈ c.live.bus.closed

/-- A completed bus: those who were attached are closed and told in their order, up to those remaining. -/
structure Telling (c : Chronicle κ) (above : List (Running κ)) : Prop where
  sinks : c.live.bus.sinks = []
  leaving : c.leaving.Sublist c.early
  told : ∃ gone, c.leaving = gone ++ remaining above ∧ c.told = tellable gone
  closed : ∀ s ∈ c.attached, s.id ∈ c.live.bus.closed ∨ s ∈ remaining above
  greeted : c.greeted = tellable c.latecomers

/-- How far the completion of a bus is. -/
structure Completing (c : Chronicle κ) (above : List (Running κ)) : Prop where
  before : c.live.bus.completed = false → Untold c above
  after : c.live.bus.completed = true → Telling c above

@[simp] theorem closing_completed (b : Bus κ) (sinks : List (Sink κ)) : (b.closing sinks).completed = b.completed := rfl

@[simp] theorem closing_sinks (b : Bus κ) (sinks : List (Sink κ)) : (b.closing sinks).sinks = b.sinks := rfl

theorem mem_closing_closed {b : Bus κ} {sinks : List (Sink κ)} {id : Nat} :
    id ∈ (b.closing sinks).closed ↔ (∃ s ∈ sinks, s.id = id) ∨ id ∈ b.closed := by
  simp [closing]

@[simp] theorem remaining_append (a b : List (Running κ)) : remaining (a ++ b) = remaining a ++ remaining b := by
  simp [remaining]

theorem remaining_eq_nil {above : List (Running κ)} (h : ∀ c, .complete c ∉ above) : remaining above = [] := by
  rw [remaining, List.flatMap_eq_nil_iff]
  intro r hr
  cases r with
  | complete c => exact absurd hr (h c)
  | _ => rfl

/-- A move goes on closing the subscriptions `sinks` of a bus: those `gone` are closed, and told if they want
    to know, up to one whose code runs; the others remain. -/
structure Closes (l : Live κ) (m : Move κ) (b : Bus κ) (sinks gone : List (Sink κ)) : Prop where
  bus : (l.react m).1 = b.closing gone
  split : sinks = gone ++ remaining (l.started m).toList
  told : (l.started m).toList.filterMap Running.told? = tellable gone
  code : ∀ r, l.started m = some r → ∃ t, r = .complete t ∧ t.current ∈ gone ∧ t.current.completes = true

theorem closes_of_react {l : Live κ} {m : Move κ} {b : Bus κ} {sinks : List (Sink κ)} (total : Nat)
    (h : l.react m = ((b.closeAll total sinks).1, code? (b.closeAll total sinks).2.2)) :
    ∃ gone, Closes l m b sinks gone := by
  have hs : l.started m = code? (b.closeAll total sinks).2.2 := by rw [Live.started, h]
  rcases closeAll_cases b total sinks with ⟨hb, ht, hq⟩ | ⟨t, passed, rfl, hb, ht, hc, hq⟩
  · rw [ht] at hs
    refine ⟨sinks, by rw [h, hb], ?_, ?_, ?_⟩ <;> rw [hs]
    · simp [code?, remaining]
    · rw [tellable_of_quiet hq]
      rfl
    · intro r hr
      cases hr
  · rw [ht] at hs
    refine ⟨passed ++ [t.current], by rw [h, hb], ?_, ?_, ?_⟩ <;> rw [hs]
    · simp [code?, remaining]
    · rw [tellable_of_told hq hc]
      rfl
    · intro r hr
      exact ⟨t, (Option.some.inj hr).symm, by simp, hc⟩

/-- Completing an open bus takes every subscription off it and starts closing them. -/
theorem complete_closes {l : Live κ} (hopen : l.bus.completed = false) :
    ∃ gone, Closes l .complete { l.bus with completed := true, sinks := [] } l.bus.sinks gone :=
  closes_of_react l.bus.sinks.length (by simp [Live.react, Bus.complete, hopen])

/-- When the code of a subscription that was told is done, the completion goes on to the others. -/
theorem done_closes {l : Live κ} {t : Completion κ} {rest : List (Running κ)} (hrun : l.running = .complete t :: rest)
    (thrown : Option Thrown) : ∃ gone, Closes l (.done thrown) l.bus t.rest gone :=
  closes_of_react t.total (by simp [Live.react, hrun, afterComplete])

namespace Closes
variable {l : Live κ} {m : Move κ} {b : Bus κ} {sinks gone : List (Sink κ)}

theorem not_next (k : Closes l m b sinks gone) (d : Delivery κ) : l.started m ≠ some (.next d) := by
  intro hs
  obtain ⟨t, ht, -⟩ := k.code _ hs
  cases ht

theorem not_late (k : Closes l m b sinks gone) (id : Nat) : l.started m ≠ some (.late id) := by
  intro hs
  obtain ⟨t, ht, -⟩ := k.code _ hs
  cases ht

theorem mem_gone (k : Closes l m b sinks gone) {s : Sink κ} (hs : s ∈ gone) : s ∈ sinks := by
  rw [k.split]
  exact List.mem_append_left _ hs

/-- Each of those to be closed is closed, or remains. -/
theorem closed (k : Closes l m b sinks gone) {s : Sink κ} (hs : s ∈ sinks) :
    s.id ∈ (l.react m).1.closed ∨ s ∈ remaining (l.started m).toList := by
  rw [k.split] at hs
  rw [k.bus]
  exact (List.mem_append.mp hs).imp_left fun hs => mem_closing_closed.mpr (.inl ⟨s, hs, rfl⟩)

theorem still_closed (k : Closes l m b sinks gone) {id : Nat} (hid : id ∈ b.closed) :
    id ∈ (l.react m).1.closed := by
  rw [k.bus]
  exact mem_closing_closed.mpr (.inr hid)

end Closes

theorem react_complete {l : Live κ} (hdone : l.bus.completed = true) : l.react .complete = (l.bus, none) := by
  simp [Live.react, Bus.complete, hdone, code?]

theorem attach_open {b : Bus κ} (hopen : b.completed = false) (screen : Event → Screening) (completes : Bool)
    (owner : κ) : (b.attach screen completes owner).1 =
      { b with nextId := b.nextId + 1, sinks := b.sinks ++ [⟨b.nextId, screen, completes, owner⟩] } := by
  simp [Bus.attach, hopen]

theorem attach_late {b : Bus κ} (hdone : b.completed = true) (screen : Event → Screening) (completes : Bool)
    (owner : κ) : (b.attach screen completes owner).1 =
      { b with nextId := b.nextId + 1, closed := b.nextId :: b.closed } := by
  simp [Bus.attach, hdone]

theorem attach_id (b : Bus κ) (screen : Event → Screening) (completes : Bool) (owner : κ) :
    (b.attach screen completes owner).2.id = b.nextId := by
  simp only [Bus.attach]
  split <;> rfl

theorem started_open {l : Live κ} (hopen : l.bus.completed = false) (screen : Event → Screening) (completes : Bool)
    (owner : κ) : l.started (.attach screen completes owner) = none := by
  simp [Live.started, Live.react, hopen]

/-- A subscription made on a completed bus is told at once, if it wants to know. -/
theorem started_late {l : Live κ} (hdone : l.bus.completed = true) (screen : Event → Screening) (completes : Bool)
    (owner : κ) : l.started (.attach screen completes owner) = if completes then some (.late l.bus.nextId) else none := by
  simp [Live.started, Live.react, hdone, Bus.attach]

/-! ### How far the completion of a bus is -/

section Step
variable {c : Chronicle κ} {above : List (Running κ)} {m : Move κ}

theorem Completing.attached_step (h : Completing c above) (m : Move κ) :
    (c.step m).attached = c.attached ++ (c.live.made m).toList := by
  cases hc : c.live.bus.completed with
  | true => simp [Chronicle.attached, Chronicle.step, hc]
  | false => simp [Chronicle.attached, Chronicle.step, hc, (h.before hc).latecomers]

/-- A move that tells nobody, and does nothing to the subscriptions but close some. -/
theorem Completing.of_quiet (h : Completing c above) (hm : c.live.made m = none) (hl : (c.step m).leaving = c.leaving)
    (htold : ∀ t, c.live.started m ≠ some (.complete t)) (hgreeted : ∀ id, c.live.started m ≠ some (.late id))
    (hc : (c.live.react m).1.completed = c.live.bus.completed)
    (hsinks : (c.live.react m).1.sinks ⊆ c.live.bus.sinks) (hclosed : c.live.bus.closed ⊆ (c.live.react m).1.closed)
    (hleft : ∀ s ∈ c.live.bus.sinks, s ∈ (c.live.react m).1.sinks ∨ s.id ∈ (c.live.react m).1.closed) :
    Completing (c.step m) above := by
  refine ⟨fun hc' => ?_, fun hc' => ?_⟩
  · have u := h.before (hc.symm.trans hc')
    refine ⟨u.above, (step_latecomers hm).trans u.latecomers, hl.trans u.leaving, (told_of_quiet htold).trans u.told,
      (greeted_of_quiet hgreeted).trans u.greeted, ?_⟩
    rw [step_early hm]
    intro s hs
    rcases u.closed s hs with hs | hs
    · exact hleft s hs
    · exact .inr (hclosed hs)
  · have t := h.after (hc.symm.trans hc')
    refine ⟨List.subset_nil.mp (t.sinks ▸ hsinks), ?_, ?_, ?_, ?_⟩
    · rw [hl, step_early hm]
      exact t.leaving
    · rw [hl, told_of_quiet htold]
      exact t.told
    · rw [step_attached hm]
      exact fun s hs => (t.closed s hs).imp_left fun hs => hclosed hs
    · rw [greeted_of_quiet hgreeted, step_latecomers hm]
      exact t.greeted

theorem Untold.attach (u : Untold c above) (hopen : c.live.bus.completed = false) (screen : Event → Screening)
    (completes : Bool) (owner : κ) : Untold (c.step (.attach screen completes owner)) above := by
  have hst := started_open hopen screen completes owner
  have hearly : (c.step (.attach screen completes owner)).early =
      c.early ++ [⟨c.live.bus.nextId, screen, completes, owner⟩] := by simp [Chronicle.step, Live.made, hopen]
  refine ⟨u.above, by simp [Chronicle.step, hopen, u.latecomers], u.leaving, ?_, ?_, ?_⟩
  · exact (told_of_quiet (by simp [hst])).trans u.told
  · exact (greeted_of_quiet (by simp [hst])).trans u.greeted
  · rw [hearly]
    show ∀ s ∈ _, s ∈ (c.live.bus.attach screen completes owner).1.sinks ∨
      s.id ∈ (c.live.bus.attach screen completes owner).1.closed
    rw [attach_open hopen]
    intro s hs
    rcases List.mem_append.mp hs with hs | hs
    · exact (u.closed s hs).imp_left fun hs => List.mem_append_left _ hs
    · exact .inl (List.mem_append_right _ hs)

/-- A subscription made on a completed bus is closed, and told apart from those who were attached. -/
theorem Telling.attach (t : Telling c above) (hdone : c.live.bus.completed = true) (screen : Event → Screening)
    (completes : Bool) (owner : κ) : Telling (c.step (.attach screen completes owner))
      ((c.live.started (.attach screen completes owner)).toList ++ above) := by
  obtain ⟨s, hs⟩ : ∃ s : Sink κ, s = ⟨c.live.bus.nextId, screen, completes, owner⟩ := ⟨_, rfl⟩
  have hst := started_late hdone screen completes owner
  have hrem : remaining ((c.live.started (.attach screen completes owner)).toList ++ above) = remaining above := by
    rw [hst]
    cases completes <;> rfl
  have hearly : (c.step (.attach screen completes owner)).early = c.early := by simp [Chronicle.step, hdone]
  have hlate : (c.step (.attach screen completes owner)).latecomers = c.latecomers ++ [s] := by
    simp [Chronicle.step, Live.made, hdone, hs]
  have hbus : (c.step (.attach screen completes owner)).live.bus =
      { c.live.bus with nextId := c.live.bus.nextId + 1, closed := c.live.bus.nextId :: c.live.bus.closed } :=
    attach_late hdone screen completes owner
  refine ⟨?_, ?_, ?_, ?_, ?_⟩
  · rw [hbus]
    exact t.sinks
  · rw [hearly]
    exact t.leaving
  · rw [hrem, told_of_quiet (by rw [hst]; cases completes <;> simp)]
    exact t.told
  · rw [Chronicle.attached, hearly, hlate, hbus, hrem, ← List.append_assoc]
    intro x hx
    rcases List.mem_append.mp hx with hx | hx
    · exact (t.closed x hx).imp_left fun hx => List.mem_cons_of_mem _ hx
    · obtain rfl := List.mem_singleton.mp hx
      exact .inl (by simp [hs])
  · rw [greeted_step, hst, hlate, tellable_append, t.greeted, hs]
    cases completes <;> simp [Running.greeted?, tellable]

theorem Completing.attach (h : Completing c above) (screen : Event → Screening) (completes : Bool) (owner : κ) :
    Completing (c.step (.attach screen completes owner))
      ((c.live.started (.attach screen completes owner)).toList ++ above) := by
  have hc : (c.step (.attach screen completes owner)).live.bus.completed = c.live.bus.completed := by
    show (c.live.bus.attach screen completes owner).1.completed = _
    simp only [Bus.attach]
    split <;> rfl
  refine ⟨fun hopen => ?_, fun hdone => ?_⟩
  · rw [hc] at hopen
    rw [started_open hopen]
    exact (h.before hopen).attach hopen screen completes owner
  · exact (h.after (hc ▸ hdone)).attach (hc ▸ hdone) screen completes owner

theorem Untold.complete (u : Untold c above) (hopen : c.live.bus.completed = false)
    (hsinks : c.live.bus.sinks.Sublist c.early) : Telling (c.step .complete) (c.live.started .complete).toList := by
  obtain ⟨gone, k⟩ := complete_closes hopen
  have hleaving : (c.step .complete).leaving = c.live.bus.sinks := by simp [Chronicle.step, hopen]
  refine ⟨by rw [show (c.step .complete).live.bus = _ from k.bus]; rfl, ?_, ⟨gone, hleaving.trans k.split, ?_⟩, ?_, ?_⟩
  · rw [hleaving, step_early rfl]
    exact hsinks
  · rw [told_step, u.told, k.told]
    rfl
  · rw [step_attached rfl, Chronicle.attached, u.latecomers, List.append_nil]
    intro s hs
    rcases u.closed s hs with hs | hs
    · exact k.closed hs
    · exact .inl (k.still_closed hs)
  · rw [greeted_of_quiet k.not_late, u.greeted, step_latecomers rfl, u.latecomers]
    rfl

theorem Telling.done {t : Completion κ} (k : Telling c (.complete t :: above)) {rest : List (Running κ)}
    (hrun : c.live.running = .complete t :: rest) (thrown : Option Thrown) :
    Telling (c.step (.done thrown)) ((c.live.started (.done thrown)).toList ++ above) := by
  obtain ⟨gone, go⟩ := done_closes hrun thrown
  obtain ⟨before, hleaving, htold⟩ := k.told
  have hrem : remaining (.complete t :: above) = t.rest ++ remaining above := rfl
  refine ⟨by rw [show (c.step (.done thrown)).live.bus = _ from go.bus]; exact k.sinks, ?_,
    ⟨before ++ gone, ?_, ?_⟩, ?_, ?_⟩
  · rw [step_early rfl]
    exact k.leaving
  · show c.leaving = _
    rw [hleaving, hrem, remaining_append, List.append_assoc, ← List.append_assoc gone, ← go.split]
  · rw [told_step, go.told, htold, tellable_append]
  · rw [step_attached rfl, remaining_append]
    intro s hs
    rcases k.closed s hs with hs | hs
    · exact .inl (go.still_closed hs)
    · rcases List.mem_append.mp (hrem ▸ hs) with hs | hs
      · exact (go.closed hs).imp_right fun hs => List.mem_append_left _ hs
      · exact .inr (List.mem_append_right _ hs)
  · rw [greeted_of_quiet go.not_late, step_latecomers rfl]
    exact k.greeted

end Step

end ThingHost.Bus
