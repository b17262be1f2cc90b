import Mathlib.Data.List.Nodup
import ThingHost.Proofs.Bus.Completion

/-! The numbers of the subscriptions of a bus. They are given out in the order in which subscriptions are
    made, so no two subscriptions have the same, and the closed ones are known by them. -/

namespace ThingHost.Bus

variable {κ : Type}

/-! ### What delivering leaves alone -/

/-- Two buses with the same subscriptions, that differ at most in what is delivered and what waits. -/
structure Alike (b b' : Bus κ) : Prop where
  sinks : b'.sinks = b.sinks
  completed : b'.completed = b.completed
  nextId : b'.nextId = b.nextId
  closed : b'.closed = b.closed

theorem drain_alike (b : Bus κ) (queue : List Event) : Alike b (b.drain queue).1 := by
  cases hc : b.completed with
  | true =>
    rw [drain_of_completed hc]
    exact ⟨rfl, rfl, rfl, rfl⟩
  | false =>
    rcases drain_cases hc queue with ⟨hb, -⟩ | ⟨_, _, _, _, -, hb, -⟩ <;> rw [hb] <;> exact ⟨rfl, rfl, rfl, rfl⟩

theorem afterNext_alike (b : Bus κ) (d : Delivery κ) (thrown : Option Thrown) : Alike b (b.afterNext d thrown).1 := by
  rcases afterNext_cases b d thrown with ⟨-, hb, -⟩ | ⟨_, _, hb, -⟩
  · exact hb ▸ drain_alike b b.pending
  · rw [hb]
    exact ⟨rfl, rfl, rfl, rfl⟩

/-- What publishing does: nothing on a completed bus, else the event waits or the queue is drained. -/
theorem publish_cases (b : Bus κ) (e : Event) :
    (b.completed = true ∧ (b.publish e).1 = b ∧ (b.publish e).2.2 = .over) ∨
    (b.completed = false ∧ b.draining = true ∧ (b.publish e).1 = { b with pending := b.pending ++ [e] } ∧
      (b.publish e).2.2 = .over) ∨
    (b.completed = false ∧ b.draining = false ∧ b.publish e = b.drain (b.pending ++ [e])) := by
  cases hc : b.completed with
  | true => exact Or.inl ⟨rfl, by simp [publish, hc], by simp [publish, hc]⟩
  | false =>
    cases hd : b.draining with
    | true => exact Or.inr (Or.inl ⟨rfl, rfl, by simp [publish, hc, hd], by simp [publish, hc, hd]⟩)
    | false => exact Or.inr (Or.inr ⟨rfl, rfl, by simp [publish, hc, hd]⟩)

theorem publish_alike (b : Bus κ) (e : Event) : Alike b (b.publish e).1 := by
  rcases publish_cases b e with ⟨-, hb, -⟩ | ⟨-, -, hb, -⟩ | ⟨-, -, hb⟩
  · rw [hb]
    exact ⟨rfl, rfl, rfl, rfl⟩
  · rw [hb]
    exact ⟨rfl, rfl, rfl, rfl⟩
  · exact hb ▸ drain_alike b _

theorem drain_code? {b : Bus κ} {queue : List Event} {r : Running κ} (h : code? (b.drain queue).2.2 = some r) :
    ∃ d, r = .next d := by
  cases hc : b.completed with
  | true => simp [drain_of_completed hc, code?] at h
  | false =>
    rcases drain_cases hc queue with ⟨-, ht, -⟩ | ⟨_, d, _, _, -, -, ht, -⟩ <;> rw [ht] at h
    · cases h
    · exact ⟨d, (Option.some.inj h).symm⟩

theorem publish_started {l : Live κ} {e : Event} {r : Running κ} (h : l.started (.publish e) = some r) :
    ∃ d, r = .next d := by
  simp only [Live.started, Live.react] at h
  rcases publish_cases l.bus e with ⟨-, -, ht⟩ | ⟨-, -, -, ht⟩ | ⟨-, -, hb⟩
  · rw [ht] at h
    cases h
  · rw [ht] at h
    cases h
  · rw [hb] at h
    exact drain_code? h

section Next
variable {l : Live κ} {d : Delivery κ} {rest : List (Running κ)}

theorem react_next (hrun : l.running = .next d :: rest) (thrown : Option Thrown) :
    l.react (.done thrown) = ((l.bus.afterNext d thrown).1, code? (l.bus.afterNext d thrown).2.2) := by
  simp only [Live.react, hrun]

theorem next_started (hrun : l.running = .next d :: rest) {thrown : Option Thrown} {r : Running κ}
    (h : l.started (.done thrown) = some r) : ∃ d', r = .next d' := by
  rw [Live.started, react_next hrun] at h
  rcases afterNext_cases l.bus d thrown with ⟨-, -, ht⟩ | ⟨d', _, -, ht, -⟩ <;> simp only [ht] at h
  · exact drain_code? h
  · exact ⟨d', (Option.some.inj h).symm⟩

theorem next_alike (hrun : l.running = .next d :: rest) (thrown : Option Thrown) :
    Alike l.bus (l.react (.done thrown)).1 := by
  rw [react_next hrun]
  exact afterNext_alike l.bus d thrown

end Next

/-! ### What a move starts -/

/-- The code that a move starts, and where it comes from. -/
inductive Starts (l : Live κ) : Move κ → Running κ → Prop where
  | publish {e : Event} {queue : List Event} {d : Delivery κ} (opened : l.bus.completed = false)
      (drains : code? (l.bus.drain queue).2.2 = some (.next d)) : Starts l (.publish e) (.next d)
  /-- Whoever is made on a completed bus is told at once. -/
  | greet {screen : Event → Screening} {owner : κ} (done : l.bus.completed = true) :
      Starts l (.attach screen true owner) (.late l.bus.nextId)
  | complete {t : Completion κ} {gone : List (Sink κ)} (opened : l.bus.completed = false)
      (closes : Closes l .complete { l.bus with completed := true, sinks := [] } l.bus.sinks gone)
      (among : t.current ∈ gone) (asks : t.current.completes = true) : Starts l .complete (.complete t)
  | handed {d d' : Delivery κ} {rest : List (Running κ)} {thrown : Option Thrown} (top : l.running = .next d :: rest)
      (goes : code? (l.bus.drain l.bus.pending).2.2 = some (.next d') ∨ ∃ passed, Stops l.bus.closed d.rest passed d') :
      Starts l (.done thrown) (.next d')
  | told {t t' : Completion κ} {rest : List (Running κ)} {thrown : Option Thrown} {gone : List (Sink κ)}
      (top : l.running = .complete t :: rest) (closes : Closes l (.done thrown) l.bus t.rest gone)
      (among : t'.current ∈ gone) (asks : t'.current.completes = true) : Starts l (.done thrown) (.complete t')

theorem starts_of_started {l : Live κ} {m : Move κ} {r : Running κ} (hs : l.started m = some r) : Starts l m r := by
  cases m with
  | publish e =>
    obtain ⟨d, rfl⟩ := publish_started hs
    simp only [Live.started, Live.react] at hs
    rcases publish_cases l.bus e with ⟨-, -, ht⟩ | ⟨-, -, -, ht⟩ | ⟨hopen, -, hb⟩
    · rw [ht] at hs
      cases hs
    · rw [ht] at hs
      cases hs
    · exact .publish hopen (hb ▸ hs)
  | attach screen completes owner =>
    cases hc : l.bus.completed with
    | false => simp [started_open hc] at hs
    | true =>
      rw [started_late hc] at hs
      split at hs
      · rename_i hcompletes
        subst hcompletes
        cases hs
        exact .greet hc
      · cases hs
  | unsubscribe id => cases hs
  | complete =>
    cases hc : l.bus.completed with
    | true => simp [Live.started, react_complete hc] at hs
    | false =>
      obtain ⟨gone, k⟩ := complete_closes hc
      obtain ⟨t, rfl, hgone, hasks⟩ := k.code r hs
      exact .complete hc k hgone hasks
  | done thrown =>
    rcases hrun : l.running with _ | ⟨below, rest⟩
    · simp [Live.started, Live.react, hrun] at hs
    · cases below with
      | next d =>
        obtain ⟨d', rfl⟩ := next_started hrun hs
        rw [Live.started, react_next hrun] at hs
        rcases afterNext_cases l.bus d thrown with ⟨-, -, ht⟩ | ⟨d'', passed, -, ht, -, hstop⟩ <;> simp only [ht] at hs
        · exact .handed hrun (.inl hs)
        · cases hs
          exact .handed hrun (.inr ⟨passed, hstop⟩)
      | complete t =>
        obtain ⟨gone, go⟩ := done_closes hrun thrown
        obtain ⟨t', rfl, hgone, hasks⟩ := go.code r hs
        exact .told hrun go hgone hasks
      | late id => simp [Live.started, Live.react, hrun] at hs

/-- Closing a subscription takes it out of the attached ones and does nothing else. -/
theorem unsubscribe_cases (b : Bus κ) (id : Nat) :
    b.unsubscribe id = b ∨ (id < b.nextId ∧
      b.unsubscribe id = { b with closed := id :: b.closed, sinks := b.sinks.filter (·.id ≠ id) }) := by
  by_cases hmade : b.nextId ≤ id
  · exact Or.inl (by simp [Bus.unsubscribe, hmade])
  · by_cases hcl : b.isClosed id = true
    · exact Or.inl (by simp [Bus.unsubscribe, hcl])
    · exact Or.inr ⟨by omega, by simp [Bus.unsubscribe, hmade, hcl]⟩

theorem closed_of_unsubscribe {b : Bus κ} {id : Nat} (hid : id < b.nextId) : id ∈ (b.unsubscribe id).closed := by
  by_cases hcl : id ∈ b.closed
  · simp [Bus.unsubscribe, Bus.isClosed, hcl]
  · simp [Bus.unsubscribe, Bus.isClosed, hcl, Nat.not_le.mpr hid]

/-! ### Numbers -/

/-- Subscriptions are numbered in the order in which they are made; those attached are open. -/
structure Numbered (c : Chronicle κ) : Prop where
  ids : c.attached.map (·.id) = List.range' 1 c.attached.length
  nextId : c.live.bus.nextId = c.attached.length + 1
  sinks : c.live.bus.sinks.Sublist c.early
  opened : ∀ s ∈ c.live.bus.sinks, s.id ∉ c.live.bus.closed
  closed : ∀ id ∈ c.live.bus.closed, id < c.live.bus.nextId

namespace Numbered
variable {c : Chronicle κ} {m : Move κ}

theorem ids_nodup (h : Numbered c) : (c.attached.map (·.id)).Nodup := by
  rw [h.ids]
  exact List.nodup_range'

theorem id_lt (h : Numbered c) {s : Sink κ} (hs : s ∈ c.attached) : s.id < c.live.bus.nextId := by
  have : s.id ∈ c.attached.map (·.id) := List.mem_map.mpr ⟨s, hs, rfl⟩
  rw [h.ids, List.mem_range'_1] at this
  rw [h.nextId]
  omega

theorem early_ids_nodup (h : Numbered c) : (c.early.map (·.id)).Nodup :=
  List.Sublist.nodup ((List.sublist_append_left _ _).map _) h.ids_nodup

/-- A move that makes no subscription, and closes some at most. -/
theorem of_closing (h : Numbered c) (hm : c.live.made m = none)
    (hnext : (c.live.react m).1.nextId = c.live.bus.nextId)
    (hsinks : (c.live.react m).1.sinks.Sublist c.live.bus.sinks)
    (hopened : ∀ s ∈ (c.live.react m).1.sinks, s.id ∉ (c.live.react m).1.closed)
    (hclosed : ∀ id ∈ (c.live.react m).1.closed, id < c.live.bus.nextId) : Numbered (c.step m) := by
  have hatt := step_attached hm
  refine ⟨hatt ▸ h.ids, ?_, ?_, hopened, fun id hid => ?_⟩
  · rw [hatt, ← h.nextId]
    exact hnext
  · rw [step_early hm]
    exact hsinks.trans h.sinks
  · exact Nat.lt_of_lt_of_eq (hclosed id hid) hnext.symm

theorem of_alike (h : Numbered c) (hm : c.live.made m = none) (hb : Alike c.live.bus (c.live.react m).1) :
    Numbered (c.step m) := by
  refine h.of_closing hm hb.nextId (by rw [hb.sinks]) ?_ ?_
  · rw [hb.sinks, hb.closed]
    exact h.opened
  · rw [hb.closed]
    exact h.closed

theorem of_closes {b : Bus κ} {sinks gone : List (Sink κ)} (h : Numbered c) (hm : c.live.made m = none)
    (k : Closes c.live m b sinks gone) (hnext : b.nextId = c.live.bus.nextId) (hempty : b.sinks = [])
    (hclosed : b.closed = c.live.bus.closed) (hsinks : ∀ s ∈ sinks, s ∈ c.attached) : Numbered (c.step m) := by
  refine h.of_closing hm ?_ ?_ ?_ fun id hid => ?_
  · rw [k.bus]
    exact hnext
  · rw [k.bus, closing_sinks, hempty]
    exact List.nil_sublist _
  · rw [k.bus, closing_sinks, hempty]
    simp
  · rw [k.bus] at hid
    rcases mem_closing_closed.mp hid with ⟨s, hs, rfl⟩ | hid
    · exact h.id_lt (hsinks s (k.mem_gone hs))
    · exact h.closed id (hclosed ▸ hid)

theorem unsubscribe (h : Numbered c) (id : Nat) : Numbered (c.step (.unsubscribe id)) := by
  have hreact : (c.live.react (.unsubscribe id)).1 = c.live.bus.unsubscribe id := rfl
  rcases unsubscribe_cases c.live.bus id with heq | ⟨hlt, heq⟩
  · exact h.of_alike rfl (by rw [hreact, heq]; exact ⟨rfl, rfl, rfl, rfl⟩)
  · refine h.of_closing rfl ?_ ?_ ?_ ?_ <;> rw [hreact, heq]
    · exact List.filter_sublist
    · intro s hs hcl
      obtain ⟨hs, hne⟩ := List.mem_filter.mp hs
      rcases List.mem_cons.mp hcl with hid | hcl
      · simp [hid] at hne
      · exact h.opened s hs hcl
    · intro x hx
      rcases List.mem_cons.mp hx with rfl | hx
      · exact hlt
      · exact h.closed x hx

theorem attach (h : Numbered c) {screen : Event → Screening} {completes : Bool} {owner : κ}
    (hatt : (c.step (.attach screen completes owner)).attached =
      c.attached ++ [⟨c.live.bus.nextId, screen, completes, owner⟩]) :
    Numbered (c.step (.attach screen completes owner)) := by
  have hlive : (c.step (.attach screen completes owner)).live.bus = (c.live.bus.attach screen completes owner).1 := rfl
  have hids : (c.step (.attach screen completes owner)).attached.map (·.id) =
      List.range' 1 (c.step (.attach screen completes owner)).attached.length := by
    rw [hatt, List.map_append, h.ids, List.length_append, List.length_singleton, List.range'_1_concat,
      Nat.add_comm 1, ← h.nextId]
    rfl
  have hlen : c.live.bus.nextId + 1 = (c.step (.attach screen completes owner)).attached.length + 1 := by
    rw [hatt, List.length_append, h.nextId]
    rfl
  cases hc : c.live.bus.completed with
  | false =>
    have hearly : (c.step (.attach screen completes owner)).early =
        c.early ++ [⟨c.live.bus.nextId, screen, completes, owner⟩] := by simp [Chronicle.step, Live.made, hc]
    refine ⟨hids, ?_, ?_, ?_, ?_⟩ <;> rw [hlive, attach_open hc]
    · exact hlen
    · rw [hearly]
      exact h.sinks.append_right _
    · intro x hx hcl
      rcases List.mem_append.mp hx with hx | hx
      · exact h.opened x hx hcl
      · obtain rfl := List.mem_singleton.mp hx
        exact Nat.lt_irrefl _ (h.closed _ hcl)
    · exact fun id hid => Nat.lt_succ_of_lt (h.closed id hid)
  | true =>
    have hearly : (c.step (.attach screen completes owner)).early = c.early := by simp [Chronicle.step, hc]
    refine ⟨hids, ?_, ?_, ?_, ?_⟩ <;> rw [hlive, attach_late hc]
    · exact hlen
    · rw [hearly]
      exact h.sinks
    · intro x hx hcl
      rcases List.mem_cons.mp hcl with hcl | hcl
      · exact Nat.lt_irrefl _ (hcl ▸ h.id_lt (List.mem_append_left _ (h.sinks.subset hx)))
      · exact h.opened x hx hcl
    · intro id hid
      rcases List.mem_cons.mp hid with rfl | hid
      · exact Nat.lt_succ_self _
      · exact Nat.lt_succ_of_lt (h.closed id hid)

end Numbered

end ThingHost.Bus
