import ThingHost.Proofs.Bus.Numbers

/-! Whose code runs on a bus. What holds of every subscription when it is made holds of those that a bus may
    still call. -/

namespace ThingHost.Bus

variable {κ : Type}

/-- Every subscription that a bus may still call holds `P`. -/
structure Live.All (P : Sink κ → Prop) (l : Live κ) : Prop where
  sinks : ∀ s ∈ l.bus.sinks, P s
  remaining : ∀ s ∈ remaining l.running, P s

namespace Live.All
variable {P : Sink κ → Prop} {l : Live κ} {m : Move κ}

/-- The subscriptions that remain after a move are among those of the code that it starts and those that
    remained. -/
theorem of_parts (hsinks : ∀ s ∈ (l.react m).1.sinks, P s) (hnew : ∀ s ∈ Bus.remaining (l.started m).toList, P s)
    (hold : ∀ s ∈ Bus.remaining (l.rest m), P s) : (l.step m).All P := by
  refine ⟨hsinks, fun s hs => ?_⟩
  rw [show (l.step m).running = (l.started m).toList ++ l.rest m from rfl, remaining_append] at hs
  exact (List.mem_append.mp hs).elim (hnew s) (hold s)

theorem still (h : l.All P) (hsinks : (l.react m).1.sinks ⊆ l.bus.sinks)
    (hnew : Bus.remaining (l.started m).toList = []) (hold : ∀ s ∈ Bus.remaining (l.rest m), P s) :
    (l.step m).All P :=
  of_parts (fun s hs => h.sinks s (hsinks hs)) (by simp [hnew]) hold

theorem delivering (h : l.All P) (hb : Alike l.bus (l.react m).1)
    (hstart : ∀ r, l.started m = some r → ∃ d, r = .next d) (hold : ∀ s ∈ Bus.remaining (l.rest m), P s) :
    (l.step m).All P := by
  refine h.still (hb.sinks ▸ List.Subset.refl _) (remaining_eq_nil fun t ht => ?_) hold
  obtain ⟨d, hd⟩ := hstart _ (Option.mem_toList.mp ht)
  cases hd

theorem closing {b : Bus κ} {sinks gone : List (Sink κ)} (k : Closes l m b sinks gone) (hb : b.sinks ⊆ l.bus.sinks)
    (h : l.All P) (hs : ∀ s ∈ sinks, P s) (hold : ∀ s ∈ Bus.remaining (l.rest m), P s) : (l.step m).All P := by
  refine of_parts (fun s hs' => ?_) (fun s hs' => hs s ?_) hold
  · rw [k.bus, closing_sinks] at hs'
    exact h.sinks s (hb hs')
  · rw [k.split]
    exact List.mem_append_right _ hs'

theorem attach (h : l.All P) (screen : Event → Screening) (completes : Bool) (owner : κ)
    (hmade : P ⟨l.bus.nextId, screen, completes, owner⟩) : (l.step (.attach screen completes owner)).All P := by
  cases hc : l.bus.completed with
  | true =>
    refine h.still ?_ ?_ h.remaining
    · show (l.bus.attach screen completes owner).1.sinks ⊆ l.bus.sinks
      rw [attach_late hc]
      exact List.Subset.refl _
    · rw [started_late hc]
      cases completes <;> rfl
  | false =>
    refine of_parts ?_ (by simp [started_open hc, Bus.remaining]) h.remaining
    show ∀ s ∈ (l.bus.attach screen completes owner).1.sinks, P s
    rw [attach_open hc]
    intro s hs
    rcases List.mem_append.mp hs with hs | hs
    · exact h.sinks s hs
    · obtain rfl := List.mem_singleton.mp hs
      exact hmade

theorem of_cons {r : Running κ} {rest : List (Running κ)} (h : l.All P) (hrun : l.running = r :: rest) :
    (∀ s ∈ Bus.remaining [r], P s) ∧ ∀ s ∈ Bus.remaining rest, P s := by
  have hrem : Bus.remaining l.running = Bus.remaining [r] ++ Bus.remaining rest := by
    rw [hrun, ← List.singleton_append, remaining_append]
  exact ⟨fun s hs => h.remaining s (hrem ▸ List.mem_append_left _ hs),
    fun s hs => h.remaining s (hrem ▸ List.mem_append_right _ hs)⟩

theorem done (h : l.All P) (thrown : Option Thrown) : (l.step (.done thrown)).All P := by
  rcases hrun : l.running with _ | ⟨r, rest⟩
  · have hreact : l.react (.done thrown) = (l.bus, none) := by simp only [Live.react, hrun]
    refine h.still ?_ ?_ ?_
    · rw [hreact]
      exact List.Subset.refl _
    · rw [Live.started, hreact]
      rfl
    · simp [Live.rest, hrun, Bus.remaining]
  · obtain ⟨hr, hrest⟩ := h.of_cons hrun
    have hold : ∀ s ∈ Bus.remaining (l.rest (.done thrown)), P s := by
      rw [Live.rest, hrun]
      exact hrest
    cases r with
    | next d => exact h.delivering (next_alike hrun thrown) (fun r hs => next_started hrun hs) hold
    | complete t =>
      obtain ⟨gone, go⟩ := done_closes hrun thrown
      exact closing go (List.Subset.refl _) h (fun s hs => hr s (by simpa [Bus.remaining] using hs)) hold
    | late id =>
      have hreact : l.react (.done thrown) = (l.bus, none) := by simp only [Live.react, hrun]
      refine h.still ?_ ?_ hold
      · rw [hreact]
        exact List.Subset.refl _
      · rw [Live.started, hreact]
        rfl

theorem complete (h : l.All P) : (l.step .complete).All P := by
  cases hc : l.bus.completed with
  | true =>
    have hreact := react_complete hc
    refine h.still ?_ ?_ h.remaining
    · rw [hreact]
      exact List.Subset.refl _
    · rw [Live.started, hreact]
      rfl
  | false =>
    obtain ⟨gone, k⟩ := complete_closes hc
    exact closing k (List.nil_subset _) h h.sinks h.remaining

theorem step (h : l.All P) (hmade : ∀ s, l.made m = some s → P s) : (l.step m).All P := by
  cases m with
  | publish e => exact h.delivering (publish_alike _ _) (fun r hs => publish_started hs) h.remaining
  | attach screen completes owner => exact h.attach screen completes owner (hmade _ rfl)
  | unsubscribe id =>
    refine h.still ?_ rfl h.remaining
    show (l.bus.unsubscribe id).sinks ⊆ l.bus.sinks
    rcases unsubscribe_cases l.bus id with heq | ⟨-, heq⟩ <;> rw [heq]
    · exact List.Subset.refl _
    · exact List.filter_subset_self _
  | complete => exact h.complete
  | done thrown => exact h.done thrown

/-- The completion tells only subscriptions of which `P` holds, and that want to know. -/
theorem told (h : l.All P) {t : Completion κ} (hs : l.started m = some (.complete t)) :
    P t.current ∧ t.current.completes = true := by
  cases starts_of_started hs with
  | complete opened closes among asks => exact ⟨h.sinks _ (closes.mem_gone among), asks⟩
  | told top closes among asks =>
    refine ⟨(h.of_cons top).1 _ ?_, asks⟩
    simpa [Bus.remaining] using closes.mem_gone among

end Live.All

end ThingHost.Bus
