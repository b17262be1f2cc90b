import ThingHost.Proofs.Bus.Newcomer
import ThingHost.Proofs.Bus.Owners

/-! A subscription that leaves. Nothing is delivered to a subscription that is closed: every delivery looks again
    before it hands out an event. A completion does not look again: it tells all those that were attached when it
    started. So one that leaves is never called again unless a completion has still to come to it. -/

namespace ThingHost.Bus

variable {κ : Type} {c : Chronicle κ} {id : Nat} {m : Move κ}

/-! ### What stays -/

theorem closed_run (hcl : id ∈ c.live.bus.closed) (moves : List (Move κ)) : id ∈ (c.run moves).live.bus.closed := by
  induction moves generalizing c with
  | nil => exact hcl
  | cons m moves ih => exact ih (c := c.step m) (step_closed c.live m hcl)

theorem received_of_closed (h : Sound c) (hcl : id ∈ c.live.bus.closed) (moves : List (Move κ)) :
    (c.run moves).received id = c.received id := by
  induction moves generalizing c with
  | nil => rfl
  | cons m moves ih =>
    have hcl' : id ∈ (c.step m).live.bus.closed := step_closed c.live m hcl
    exact (ih (h.step m) hcl').trans (received_of_left h (.inl hcl'))

theorem Sound.nextId_step (h : Sound c) (m : Move κ) : c.live.bus.nextId ≤ (c.step m).live.bus.nextId := by
  rw [h.numbered.nextId, (h.step m).numbered.nextId, h.attached_step, List.length_append]
  omega

theorem leaving_run (hdone : c.live.bus.completed = true) (moves : List (Move κ)) :
    (c.run moves).leaving = c.leaving ∧ (c.run moves).live.bus.completed = true := by
  induction moves generalizing c with
  | nil => exact ⟨rfl, hdone⟩
  | cons m moves ih =>
    have hdone' : (c.step m).live.bus.completed = true := (step_completed c.live m).mpr (.inl hdone)
    have hsame : (c.step m).leaving = c.leaving := by cases m <;> simp [Chronicle.step, hdone]
    obtain ⟨hleaving, hlast⟩ := ih hdone'
    exact ⟨hleaving.trans hsame, hlast⟩

/-! ### Never called again -/

theorem made_id {l : Live κ} {s : Sink κ} (hs : l.made m = some s) : s.id = l.bus.nextId := by
  cases m with
  | attach screen completes owner =>
    cases hs
    rfl
  | _ => cases hs

/-- Only a subscription that is being made on a completed bus is greeted. -/
theorem attach_of_late {l : Live κ} (hs : l.started m = some (.late id)) :
    id = l.bus.nextId ∧ l.bus.completed = true ∧ ∃ screen owner, m = .attach screen true owner := by
  cases starts_of_started hs with
  | greet done => exact ⟨rfl, done, _, _, rfl⟩

/-- A number that was given out, and under which nobody is attached or has still to be told. -/
structure Gone (id : Nat) (l : Live κ) : Prop where
  issued : id < l.bus.nextId
  uncalled : l.All (·.id ≠ id)

theorem Gone.step (h : Sound c) (g : Gone id c.live) (m : Move κ) : Gone id (c.step m).live := by
  refine ⟨Nat.lt_of_lt_of_le g.issued (h.nextId_step m), g.uncalled.step fun s hs => ?_⟩
  rw [made_id hs]
  exact Nat.ne_of_gt g.issued

theorem Gone.not_notified {l : Live κ} (g : Gone id l) {r : Running κ} (hs : l.started m = some r) :
    r.notified? ≠ some id := by
  cases r with
  | next d => exact fun h => by cases h
  | complete t =>
    intro h
    exact (g.uncalled.told hs).1 (Option.some.inj h)
  | late other =>
    intro h
    obtain rfl := Option.some.inj h
    exact Nat.ne_of_lt g.issued (attach_of_late hs).1

/-- From then on nobody is notified under the number. -/
theorem Gone.run (h : Sound c) (g : Gone id c.live) (moves : List (Move κ)) :
    ∃ more, (c.run moves).started = c.started ++ more ∧ id ∉ more.filterMap Running.notified? := by
  induction moves generalizing c with
  | nil => exact ⟨[], (List.append_nil _).symm, List.not_mem_nil⟩
  | cons m moves ih =>
    obtain ⟨more, hmore, hnone⟩ := ih (h.step m) (g.step h m)
    refine ⟨(c.live.started m).toList ++ more, ?_, ?_⟩
    · rw [← List.append_assoc]
      exact hmore
    · rw [List.filterMap_append, List.mem_append, not_or]
      refine ⟨fun hmem => ?_, hnone⟩
      obtain ⟨r, hr, hid⟩ := List.mem_filterMap.mp hmem
      exact g.not_notified (Option.mem_toList.mp hr) hid

/-! ### Leaving -/

theorem Sound.gone (h : Sound c) (hid : id < c.live.bus.nextId) (hfree : ∀ s ∈ remaining c.live.running, s.id ≠ id) :
    Gone id (c.step (.unsubscribe id)).live := by
  refine ⟨Nat.lt_of_lt_of_le hid (h.nextId_step _), fun s hs heq => ?_, hfree⟩
  have hclosed : id ∈ (c.step (.unsubscribe id)).live.bus.closed := closed_of_unsubscribe hid
  exact (h.step (.unsubscribe id)).numbered.opened s hs (heq ▸ hclosed)

/-- How far the completion is shows in what is running. -/
theorem Sound.telling (h : Sound c) (hdone : c.live.bus.completed = true) : Telling c c.live.running := by
  obtain ⟨above, base, hrun, -, -, hcomp⟩ := h.frames
  have hrem : remaining c.live.running = remaining above := by
    rw [hrun, remaining_append]
    cases base <;> exact List.append_nil _
  have t := hcomp.after hdone
  exact ⟨t.sinks, t.leaving, hrem ▸ t.told, hrem ▸ t.closed, t.greeted⟩

section Remaining
variable {s : Sink κ}

theorem Sound.completed_of_remaining (h : Sound c) (hs : s ∈ remaining c.live.running) :
    c.live.bus.completed = true := by
  obtain ⟨above, base, hrun, -, -, hcomp⟩ := h.frames
  by_contra hopen
  have u := hcomp.before (Bool.eq_false_iff.mpr hopen)
  rw [hrun, u.above] at hs
  cases base <;> cases hs

theorem Sound.leaving_of_remaining (h : Sound c) (hs : s ∈ remaining c.live.running) : s ∈ c.leaving := by
  obtain ⟨gone, hgone, -⟩ := (h.telling (h.completed_of_remaining hs)).told
  rw [hgone]
  exact List.mem_append_right _ hs

theorem Sound.early_of_remaining (h : Sound c) (hs : s ∈ remaining c.live.running) : s ∈ c.early :=
  (h.telling (h.completed_of_remaining hs)).leaving.subset (h.leaving_of_remaining hs)

/-- Whoever is told by a completion was attached before it. -/
theorem Sound.early_of_told (h : Sound c) {t : Completion κ} (hs : c.live.started m = some (.complete t)) :
    t.current ∈ c.early := by
  cases starts_of_started hs with
  | complete opened closes among => exact h.numbered.sinks.subset (closes.mem_gone among)
  | told top closes among =>
    refine h.early_of_remaining ?_
    rw [top]
    exact List.mem_append_left _ (closes.mem_gone among)

theorem Sound.untold_of_remaining (h : Sound c) (hs : s ∈ remaining c.live.running) : s.id ∉ c.told ++ c.greeted := by
  have t := h.telling (h.completed_of_remaining hs)
  obtain ⟨gone, hgone, htold⟩ := t.told
  have hnodup : (c.attached.map (·.id)).Nodup := h.numbered.ids_nodup
  rw [Chronicle.attached, List.map_append, List.nodup_append] at hnodup
  obtain ⟨hearly, -, hapart⟩ := hnodup
  intro hmem
  rcases List.mem_append.mp hmem with hmem | hmem
  · -- Those who were told come before those who remain.
    have hids : (c.leaving.map (·.id)).Nodup := (t.leaving.map _).nodup hearly
    rw [hgone, List.map_append, List.nodup_append] at hids
    rw [htold] at hmem
    exact hids.2.2 _ ((tellable_sublist gone).subset hmem) _ (List.mem_map_of_mem hs) rfl
  · rw [t.greeted] at hmem
    exact hapart _ (List.mem_map_of_mem (h.early_of_remaining hs)) _ ((tellable_sublist _).subset hmem) rfl

/-- A subscription that a completion has still to come to is told by the end of it, even if it leaves. -/
theorem Sound.told_of_remaining (h : Sound c) (hs : s ∈ remaining c.live.running) (hwants : s.completes = true)
    (moves : List (Move κ)) (hover : remaining (c.run moves).live.running = []) : s.id ∈ (c.run moves).told := by
  obtain ⟨hsame, hlast⟩ := leaving_run (h.completed_of_remaining hs) moves
  obtain ⟨gone, hgone, htold⟩ := ((h.run moves).telling hlast).told
  rw [hover, List.append_nil, hsame] at hgone
  rw [htold, ← hgone]
  exact List.mem_map_of_mem (List.mem_filter.mpr ⟨h.leaving_of_remaining hs, hwants⟩)

end Remaining

/-! ### Who is told -/

theorem exists_of_tellable {sinks : List (Sink κ)} (h : id ∈ tellable sinks) :
    ∃ s ∈ sinks, s.id = id ∧ s.completes = true := by
  obtain ⟨s, hs, rfl⟩ := List.mem_map.mp h
  obtain ⟨hs, hwants⟩ := List.mem_filter.mp hs
  exact ⟨s, hs, rfl, hwants⟩

/-- Whoever is told wants to know. -/
theorem Sound.wants_of_told (h : Sound c) (htold : id ∈ c.told ++ c.greeted) :
    ∃ s ∈ c.attached, s.id = id ∧ s.completes = true := by
  obtain ⟨above, base, -, -, -, hcomp⟩ := h.frames
  cases hc : c.live.bus.completed with
  | false =>
    have u := hcomp.before hc
    rw [u.told, u.greeted] at htold
    cases htold
  | true =>
    have t := hcomp.after hc
    rcases List.mem_append.mp htold with htold | hgreeted
    · obtain ⟨gone, hgone, heq⟩ := t.told
      obtain ⟨s, hs, hid, hwants⟩ := exists_of_tellable (heq ▸ htold)
      have hleaving : s ∈ c.leaving := hgone ▸ List.mem_append_left _ hs
      exact ⟨s, List.mem_append_left _ (t.leaving.subset hleaving), hid, hwants⟩
    · obtain ⟨s, hs, hid, hwants⟩ := exists_of_tellable (t.greeted ▸ hgreeted)
      exact ⟨s, List.mem_append_right _ hs, hid, hwants⟩

end ThingHost.Bus
