import Mathlib.Data.List.Nodup
import Mathlib.Data.List.Perm.Basic
import ThingHost.Proofs.Host.Desk

/-! The postings of a host, apart from everything else. A posting is answered at most once, by the code of its
    broker, which is done or throws, or by the answer that it promised; and every answer is noted once, at
    once or when its turn in the queue comes. -/

namespace ThingHost

/-- The line that notes how a posting was answered. -/
def receipt (thing event : Value) : Option Thrown → LogLine
  | none => ⟨none, .relayed thing event⟩
  | some t => ⟨none, .relayFailed t thing event⟩

structure Outbox where
  postings : List Posting
  /-- The postings whose broker's code runs, last called first. -/
  taking : List Nat
  /-- The answers that wait in the queue to be noted. -/
  queue : List (Nat × Option Thrown)

namespace Outbox

/-- What happens to postings. -/
inductive Move where
  /-- A message is handed to a broker. -/
  | start (thing event : Value)
  /-- A message cannot be written. -/
  | refuse (thing event : Value)
  /-- The broker that was called last is done. -/
  | reply (r : Reply)
  /-- The answer that a broker promised is there. -/
  | acknowledge (posting : Nat) (failure : Option Thrown)
  /-- The first answer in the queue is noted. -/
  | note

def setStage (k : Outbox) (n : Nat) (s : Stage) : List Posting := k.postings.modify n fun p => { p with stage := s }

def step (k : Outbox) : Move → Outbox
  | .start thing event =>
    { k with postings := k.postings ++ [⟨thing, event, .running⟩], taking := k.postings.length :: k.taking }
  | .refuse thing event => { k with postings := k.postings ++ [⟨thing, event, .over⟩] }
  | .reply r =>
    match k.taking, r with
    | n :: taking, .done _ => ⟨k.setStage n .answered, taking, k.queue ++ [(n, none)]⟩
    | n :: taking, .threw _ => ⟨k.setStage n .over, taking, k.queue⟩
    | n :: taking, .promised => ⟨k.setStage n .waiting, taking, k.queue⟩
    | [], _ => k
  | .acknowledge n failure =>
    match k.postings[n]? with
    | some { stage := .waiting, .. } =>
      { k with postings := k.setStage n .answered, queue := k.queue ++ [(n, failure)] }
    | _ => k
  | .note =>
    match k.queue with
    | [] => k
    | (n, _) :: queue => { k with postings := k.setStage n .over, queue }

/-- The answer to a posting that a move brings. -/
def answered (k : Outbox) : Move → Option (Nat × Option Thrown)
  | .refuse .. => some (k.postings.length, some (.fault .unwritableNumber))
  | .reply r =>
    match k.taking, r with
    | n :: _, .done _ => some (n, none)
    | n :: _, .threw t => some (n, some t)
    | _, _ => none
  | .acknowledge n failure =>
    match k.postings[n]? with
    | some { stage := .waiting, .. } => some (n, failure)
    | _ => none
  | _ => none

/-- An answer, as it is noted. -/
def receipt? (k : Outbox) (a : Nat × Option Thrown) : Option (Nat × LogLine) :=
  k.postings[a.1]?.map fun p => (a.1, receipt p.thing p.event a.2)

/-- The answer that a move notes. -/
def noted (k : Outbox) : Move → Option (Nat × LogLine)
  | .refuse thing event => some (k.postings.length, receipt thing event (some (.fault .unwritableNumber)))
  | .reply r =>
    match k.taking, r with
    | n :: _, .threw t => k.receipt? (n, some t)
    | _, _ => none
  | .note => k.queue.head?.bind k.receipt?
  | _ => none

/-- The outbox after a move, if there is one. -/
def after (k : Outbox) : Option Move → Outbox
  | some m => k.step m
  | none => k

/-! ### What a move leaves -/

section Steps
variable {k : Outbox} {n m : Nat} {p : Posting}

theorem setStage_self (hp : k.postings[n]? = some p) (s : Stage) :
    (k.setStage n s)[n]? = some { p with stage := s } := by
  simp [setStage, hp]

theorem setStage_ne (k : Outbox) (h : m ≠ n) (s : Stage) : (k.setStage m s)[n]? = k.postings[n]? := by
  simp [setStage, h]

theorem setStage_get (hp : k.postings[n]? = some p) (m : Nat) (s : Stage) :
    ∃ s', (k.setStage m s)[n]? = some { p with stage := s' } := by
  by_cases hm : m = n
  · subst hm
    exact ⟨s, setStage_self hp s⟩
  · exact ⟨p.stage, (setStage_ne k hm s).trans hp⟩

/-- A move takes postings further, or adds one. -/
theorem postings_cases (k : Outbox) (m : Move) : (k.step m).postings = k.postings ∨
    (∃ n s, (k.step m).postings = k.setStage n s) ∨ ∃ p, (k.step m).postings = k.postings ++ [p] := by
  cases m with
  | start thing event => exact .inr (.inr ⟨_, rfl⟩)
  | refuse thing event => exact .inr (.inr ⟨_, rfl⟩)
  | reply r =>
    rcases ht : k.taking with _ | ⟨n, taking⟩
    · exact .inl (by simp [step, ht])
    · cases r <;> exact .inr (.inl ⟨n, _, by simp only [step, ht]; rfl⟩)
  | acknowledge n failure =>
    simp only [step]
    split
    · exact .inr (.inl ⟨_, _, rfl⟩)
    · exact .inl rfl
  | note =>
    simp only [step]
    split
    · exact .inl rfl
    · exact .inr (.inl ⟨_, _, rfl⟩)

/-- What a posting is about stays. -/
theorem keeps (hp : k.postings[n]? = some p) (m : Move) :
    ∃ s, (k.step m).postings[n]? = some { p with stage := s } := by
  rcases k.postings_cases m with h | ⟨j, s, h⟩ | ⟨q, h⟩ <;> rw [h]
  · exact ⟨p.stage, hp⟩
  · exact setStage_get hp j s
  · rw [List.getElem?_append_left (List.getElem?_eq_some_iff.mp hp).1]
    exact ⟨p.stage, hp⟩

theorem receipt?_step {a : Nat × Option Thrown} (hp : k.postings[a.1]? = some p) (m : Move) :
    (k.step m).receipt? a = k.receipt? a := by
  obtain ⟨s, hs⟩ := keeps hp m
  simp [receipt?, hs, hp]

end Steps

/-! ### The law of postings -/

/-- The answers that were given so far, and what was noted of them. -/
structure Kept (k : Outbox) (answers : List (Nat × Option Thrown)) (noted : List (Nat × LogLine)) : Prop where
  /-- Nobody is answered twice, or while its broker's code runs. -/
  once : (answers.map (·.1) ++ k.taking).Nodup
  /-- Those are postings that wait for no answer. -/
  known : ∀ n ∈ answers.map (·.1) ++ k.taking, ∃ p, k.postings[n]? = some p ∧ p.stage ≠ .waiting
  queued : ∀ a ∈ k.queue, a ∈ answers
  /-- What was answered is noted, or waits in the queue. -/
  balance : (answers.filterMap k.receipt?).Perm (noted ++ k.queue.filterMap k.receipt?)

namespace Kept
variable {k : Outbox} {answers : List (Nat × Option Thrown)} {noted : List (Nat × LogLine)} {n : Nat}

theorem new : Kept ⟨[], [], []⟩ [] [] := ⟨List.nodup_nil, by simp, by simp, List.Perm.refl _⟩

theorem there (h : Kept k answers noted) {a : Nat × Option Thrown} (ha : a ∈ answers) :
    ∃ p, k.postings[a.1]? = some p := by
  obtain ⟨p, hp, -⟩ := h.known a.1 (List.mem_append_left _ (List.mem_map_of_mem ha))
  exact ⟨p, hp⟩

theorem fresh (h : Kept k answers noted) : k.postings.length ∉ answers.map (·.1) ++ k.taking := by
  intro hmem
  obtain ⟨p, hp, -⟩ := h.known _ hmem
  simp at hp

/-- Receipts for what was answered before are written as before. -/
theorem receipts (h : Kept k answers noted) (m : Move) {some : List (Nat × Option Thrown)} (hs : some ⊆ answers) :
    some.filterMap (k.step m).receipt? = some.filterMap k.receipt? := by
  refine List.filterMap_congr fun a ha => ?_
  obtain ⟨p, hp⟩ := h.there (hs ha)
  exact receipt?_step hp m

theorem balance_step (h : Kept k answers noted) (m : Move) :
    (answers.filterMap (k.step m).receipt?).Perm (noted ++ k.queue.filterMap (k.step m).receipt?) := by
  rw [h.receipts m (List.Subset.refl _), h.receipts m h.queued]
  exact h.balance

/-- Moving a posting on leaves the others as they are. -/
theorem known_setStage (h : Kept k answers noted) {s : Stage} (hs : s ≠ .waiting) (m : Nat) :
    ∀ n ∈ answers.map (·.1) ++ k.taking, ∃ p, (k.setStage m s)[n]? = some p ∧ p.stage ≠ .waiting := by
  intro n hn
  obtain ⟨p, hp, hstage⟩ := h.known n hn
  by_cases hm : m = n
  · subst hm
    exact ⟨_, setStage_self hp s, hs⟩
  · exact ⟨p, (setStage_ne k hm s).trans hp, hstage⟩

theorem start (h : Kept k answers noted) (thing event : Value) :
    Kept (k.step (.start thing event)) answers noted := by
  refine ⟨?_, fun n hn => ?_, h.queued, h.balance_step (.start thing event)⟩
  · show (answers.map (·.1) ++ k.postings.length :: k.taking).Nodup
    exact List.nodup_middle.mpr (List.nodup_cons.mpr ⟨h.fresh, h.once⟩)
  · have hn : n = k.postings.length ∨ n ∈ answers.map (·.1) ++ k.taking := by
      rw [show (k.step (.start thing event)).taking = k.postings.length :: k.taking from rfl] at hn
      simpa [or_left_comm] using hn
    rcases hn with rfl | hn
    · exact ⟨_, List.getElem?_concat_length, by simp⟩
    · obtain ⟨p, hp, hstage⟩ := h.known n hn
      exact ⟨p, (List.getElem?_append_left (List.getElem?_eq_some_iff.mp hp).1).trans hp, hstage⟩

theorem refuse (h : Kept k answers noted) (thing event : Value) :
    Kept (k.step (.refuse thing event)) (answers ++ [(k.postings.length, some (.fault .unwritableNumber))])
      (noted ++ [(k.postings.length, receipt thing event (some (.fault .unwritableNumber)))]) := by
  refine ⟨?_, fun n hn => ?_, fun a ha => List.mem_append_left _ (h.queued a ha), ?_⟩
  · rw [List.map_append, List.append_assoc]
    exact List.nodup_middle.mpr (List.nodup_cons.mpr ⟨h.fresh, h.once⟩)
  · have hn : n = k.postings.length ∨ n ∈ answers.map (·.1) ++ k.taking := by
      rw [show (k.step (.refuse thing event)).taking = k.taking from rfl] at hn
      simpa [or_left_comm, or_assoc] using hn
    rcases hn with rfl | hn
    · exact ⟨_, List.getElem?_concat_length, by simp⟩
    · obtain ⟨p, hp, hstage⟩ := h.known n hn
      exact ⟨p, (List.getElem?_append_left (List.getElem?_eq_some_iff.mp hp).1).trans hp, hstage⟩
  · have hnew : (k.step (.refuse thing event)).receipt? (k.postings.length, some (.fault .unwritableNumber)) =
        some (k.postings.length, receipt thing event (some (.fault .unwritableNumber))) := by
      simp [receipt?, step]
    rw [List.filterMap_append, List.filterMap_cons_some hnew, List.filterMap_nil, List.append_assoc]
    refine ((h.balance_step (.refuse thing event)).append_right _).trans ?_
    rw [List.append_assoc]
    exact (List.perm_append_comm).append_left noted

/-- The broker's code is done: its posting is answered, or waits. -/
theorem reply (h : Kept k answers noted) (r : Reply) : Kept (k.step (.reply r))
    (answers ++ (k.answered (.reply r)).toList) (noted ++ (k.noted (.reply r)).toList) := by
  rcases ht : k.taking with _ | ⟨n, taking⟩
  · have hstep : k.step (.reply r) = k := by simp [step, ht]
    simpa [hstep, answered, Outbox.noted, ht] using h
  have honce := h.once
  rw [ht] at honce
  obtain ⟨p, hp, -⟩ := h.known n (by simp [ht])
  -- Whoever was taking is now answered, so the numbers are the same as before.
  have hsame : (answers ++ [(n, (none : Option Thrown))]).map (·.1) ++ taking = answers.map (·.1) ++ k.taking := by
    simp [ht]
  have hbal := h.balance_step (.reply r)
  cases r with
  | done v =>
    have hstep : k.step (.reply (.done v)) = ⟨k.setStage n .answered, taking, k.queue ++ [(n, none)]⟩ := by
      simp [step, ht]
    have hans : k.answered (.reply (.done v)) = some (n, none) := by simp [answered, ht]
    have hnot : k.noted (.reply (.done v)) = none := by simp [Outbox.noted, ht]
    rw [hans, hnot]
    rw [hstep] at hbal ⊢
    refine ⟨?_, fun j hj => ?_, fun a ha => ?_, ?_⟩
    · rw [Option.toList_some, hsame]
      exact h.once
    · rw [Option.toList_some, hsame] at hj
      exact h.known_setStage (by simp) n j hj
    · rcases List.mem_append.mp ha with ha | ha
      · exact List.mem_append_left _ (h.queued a ha)
      · exact List.mem_append_right _ ha
    · simp only [List.filterMap_append, Option.toList_none, List.append_nil, ← List.append_assoc]
      exact hbal.append_right _
  | threw t =>
    have hstep : k.step (.reply (.threw t)) = ⟨k.setStage n .over, taking, k.queue⟩ := by simp [step, ht]
    have hans : k.answered (.reply (.threw t)) = some (n, some t) := by simp [answered, ht]
    have hnot : k.noted (.reply (.threw t)) = k.receipt? (n, some t) := by simp [Outbox.noted, ht]
    have hnew : (k.step (.reply (.threw t))).receipt? (n, some t) = k.receipt? (n, some t) := receipt?_step hp _
    rw [hans, hnot, ← hnew]
    rw [hstep] at hbal ⊢
    refine ⟨?_, fun j hj => ?_, fun a ha => List.mem_append_left _ (h.queued a ha), ?_⟩
    · simpa [ht] using h.once
    · have hj : j ∈ answers.map (·.1) ++ k.taking := by simpa [ht] using hj
      exact h.known_setStage (by simp) n j hj
    · rw [List.filterMap_append]
      refine (hbal.append_right _).trans ?_
      rw [List.append_assoc, List.append_assoc]
      refine List.Perm.append_left noted (List.perm_append_comm.trans (List.Perm.of_eq ?_))
      rw [Option.toList_some, List.filterMap_cons, List.filterMap_nil]
      cases receipt? ⟨k.setStage n .over, taking, k.queue⟩ (n, some t) <;> rfl
  | promised =>
    have hstep : k.step (.reply .promised) = ⟨k.setStage n .waiting, taking, k.queue⟩ := by simp [step, ht]
    have hans : k.answered (.reply .promised) = none := by simp [answered, ht]
    have hnot : k.noted (.reply .promised) = none := by simp [Outbox.noted, ht]
    obtain ⟨hfree, hrest⟩ := List.nodup_cons.mp (List.nodup_middle.mp honce)
    rw [hans, hnot]
    rw [hstep] at hbal ⊢
    simp only [Option.toList_none, List.append_nil]
    refine ⟨hrest, fun j hj => ?_, h.queued, hbal⟩
    have hne : n ≠ j := by
      rintro rfl
      exact hfree hj
    obtain ⟨q, hq, hstage⟩ := h.known j (by
      rw [ht]
      exact (List.Sublist.append_left (List.sublist_cons_self n taking) _).subset hj)
    exact ⟨q, (setStage_ne k hne _).trans hq, hstage⟩

theorem acknowledge (h : Kept k answers noted) (n : Nat) (failure : Option Thrown) :
    Kept (k.step (.acknowledge n failure)) (answers ++ (k.answered (.acknowledge n failure)).toList)
      (noted ++ (k.noted (.acknowledge n failure)).toList) := by
  have hbal := h.balance_step (.acknowledge n failure)
  have idle : k.step (.acknowledge n failure) = k → k.answered (.acknowledge n failure) = none →
      Kept (k.step (.acknowledge n failure)) (answers ++ (k.answered (.acknowledge n failure)).toList)
        (noted ++ (k.noted (.acknowledge n failure)).toList) := by
    intro hstep hans
    simpa [hstep, hans, Outbox.noted] using h
  rcases hp : k.postings[n]? with _ | ⟨thing, event, stage⟩
  · exact idle (by simp [step, hp]) (by simp [answered, hp])
  · cases stage with
    | waiting =>
      have hstep : k.step (.acknowledge n failure) =
          ⟨k.setStage n .answered, k.taking, k.queue ++ [(n, failure)]⟩ := by
        simp [step, hp]
      have hans : k.answered (.acknowledge n failure) = some (n, failure) := by simp [answered, hp]
      have hfree : n ∉ answers.map (·.1) ++ k.taking := by
        intro hmem
        obtain ⟨q, hq, hstage⟩ := h.known n hmem
        rw [hp] at hq
        exact hstage (by rw [← Option.some.inj hq])
      have hnumbers : (answers ++ [(n, failure)]).map (·.1) ++ k.taking = answers.map (·.1) ++ n :: k.taking := by simp
      rw [hans, show k.noted (.acknowledge n failure) = none from rfl]
      rw [hstep] at hbal ⊢
      simp only [Option.toList_some, Option.toList_none, List.append_nil]
      refine ⟨?_, fun j hj => ?_, fun a ha => ?_, ?_⟩
      · rw [hnumbers]
        exact List.nodup_middle.mpr (List.nodup_cons.mpr ⟨hfree, h.once⟩)
      · rw [hnumbers] at hj
        have hj : j = n ∨ j ∈ answers.map (·.1) ++ k.taking := by simpa [or_left_comm] using hj
        rcases hj with rfl | hj
        · exact ⟨_, setStage_self hp _, by simp⟩
        · exact h.known_setStage (by simp) n j hj
      · rcases List.mem_append.mp ha with ha | ha
        · exact List.mem_append_left _ (h.queued a ha)
        · exact List.mem_append_right _ ha
      · simp only [List.filterMap_append, ← List.append_assoc]
        exact hbal.append_right _
    | _ => exact idle (by simp [step, hp]) (by simp [answered, hp])

theorem note (h : Kept k answers noted) : Kept (k.step .note) answers (noted ++ (k.noted .note).toList) := by
  have hbal := h.balance_step .note
  rcases hq : k.queue with _ | ⟨⟨n, failure⟩, queue⟩
  · have hstep : k.step .note = k := by simp [step, hq]
    simpa [hstep, Outbox.noted, hq] using h
  · have hstep : k.step .note = ⟨k.setStage n .over, k.taking, queue⟩ := by simp [step, hq]
    obtain ⟨p, hp⟩ := h.there (h.queued (n, failure) (by simp [hq]))
    have hnew : (k.step .note).receipt? (n, failure) = k.receipt? (n, failure) := receipt?_step hp _
    have hnot : k.noted .note = k.receipt? (n, failure) := by simp [Outbox.noted, hq]
    rw [hnot, ← hnew]
    rw [hstep] at hbal ⊢
    refine ⟨h.once, h.known_setStage (by simp) n, fun a ha => h.queued a (by simp [hq, show a ∈ queue from ha]), ?_⟩
    refine hbal.trans (List.Perm.of_eq ?_)
    rw [List.append_assoc, hq, List.filterMap_cons]
    cases receipt? ⟨k.setStage n .over, k.taking, queue⟩ (n, failure) <;> rfl

theorem step (h : Kept k answers noted) (m : Move) :
    Kept (k.step m) (answers ++ (k.answered m).toList) (noted ++ (k.noted m).toList) := by
  cases m with
  | start thing event => simpa [answered, Outbox.noted] using h.start thing event
  | refuse thing event => exact h.refuse thing event
  | reply r => exact h.reply r
  | acknowledge n failure => exact h.acknowledge n failure
  | note => simpa [answered] using h.note

theorem after (h : Kept k answers noted) (m : Option Move) :
    Kept (k.after m) (answers ++ (m.bind k.answered).toList) (noted ++ (m.bind k.noted).toList) := by
  cases m with
  | none => simpa [Outbox.after] using h
  | some m => exact h.step m

/-! ### One posting -/

theorem about_map (k : Outbox) {p : Posting} (hp : k.postings[n]? = some p) (answers : List (Nat × Option Thrown)) :
    about n (answers.filterMap k.receipt?) = (about n answers).map (receipt p.thing p.event) := by
  induction answers with
  | nil => rfl
  | cons a answers ih =>
    obtain ⟨m, f⟩ := a
    by_cases hm : m = n
    · subst hm
      have ha : k.receipt? (m, f) = some (m, receipt p.thing p.event f) := by simp [receipt?, hp]
      rw [List.filterMap_cons_some ha, Ledger.about_self, Ledger.about_self, List.map_cons, ih]
    · rw [Ledger.about_ne hm, ← ih, List.filterMap_cons]
      cases ha : k.receipt? (m, f) with
      | none => rfl
      | some b =>
        obtain ⟨q, -, rfl⟩ := Option.map_eq_some_iff.mp ha
        exact Ledger.about_ne hm _ _

theorem answered_once (h : Kept k answers noted) (n : Nat) : (about n answers).length ≤ 1 := by
  have hkeys : (answers.map (·.1)).Nodup := (List.nodup_append.mp h.once).1
  clear h
  induction answers with
  | nil => exact Nat.zero_le _
  | cons a answers ih =>
    obtain ⟨m, f⟩ := a
    obtain ⟨hfree, hrest⟩ := List.nodup_cons.mp hkeys
    by_cases hm : m = n
    · subst hm
      have hnone : about m answers = [] := by
        refine List.filterMap_eq_nil_iff.mpr fun b hb => ?_
        rw [if_neg]
        exact fun hmb => hfree (List.mem_map.mpr ⟨b, hb, hmb⟩)
      rw [Ledger.about_self, hnone]
      exact Nat.le_refl 1
    · rw [Ledger.about_ne hm]
      exact ih hrest

/-- What is noted of a posting is how it was answered, unless that still waits. -/
theorem noted_of (h : Kept k answers noted) {p : Posting} (hp : k.postings[n]? = some p) :
    about n noted <+: (about n answers).map (receipt p.thing p.event) ∧
      (k.queue = [] → about n noted = (about n answers).map (receipt p.thing p.event)) := by
  have hperm : ((about n answers).map (receipt p.thing p.event)).Perm
      (about n noted ++ about n (k.queue.filterMap k.receipt?)) := by
    rw [← about_map k hp, ← Ledger.about_append]
    exact h.balance.filterMap _
  have honce := h.answered_once n
  rcases hans : about n answers with _ | ⟨a, _ | ⟨b, rest⟩⟩
  · rw [hans] at hperm
    have hnil := List.append_eq_nil_iff.mp (List.nil_perm.mp hperm)
    rw [hnil.1]
    exact ⟨List.prefix_rfl, fun _ => rfl⟩
  · rw [hans, List.map_singleton, List.singleton_perm] at hperm
    rw [List.map_singleton]
    refine ⟨⟨_, hperm.symm⟩, fun hq => ?_⟩
    rw [hperm, hq]
    exact (List.append_nil _).symm
  · rw [hans] at honce
    simp at honce

end Kept

end Outbox
end ThingHost
