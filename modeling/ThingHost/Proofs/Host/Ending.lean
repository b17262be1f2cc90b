import Mathlib.Data.Nat.Find
import ThingHost.Proofs.Bus.Ending
import ThingHost.Proofs.Host.Containment
import ThingHost.Proofs.Host.Representation

/-! Publishing comes to an end. While an event is handed out, observers may publish, subscribe, leave and complete the
    bus, and so may whoever they call; as long as each of them is done some time, and only so many events are
    published, whoever published first goes on. -/

namespace ThingHost
namespace Host

/-- The first inputs of a sequence. -/
def first (feed : ℕ → Input) (n : ℕ) : List Input := (List.range n).map feed

/-- Before each of the first inputs of a sequence, an event of the bus is being handed out. -/
def Underway (ref : BusRef) (start : List Input) (feed : ℕ → Input) (n : ℕ) : Prop :=
  ∀ k < n, delivering ref (reached (start ++ first feed k)) = true

/-- The code of an observer that runs meanwhile is done some time, whatever runs before that. -/
def Returns (ref : BusRef) (start : List Input) (feed : ℕ → Input) : Prop :=
  ∀ n, Underway ref start feed (n + 1) → ∀ f rest d, (reached (start ++ first feed n)).stack = f :: rest →
    f.on? ref = some (.next d) → ∃ m, n ≤ m ∧ (reached (start ++ first feed m)).stack = f :: rest ∧ ∃ r, feed m = .reply r

/-- Meanwhile the bus takes no more than so many events. -/
def TakesAtMost (ref : BusRef) (start : List Input) (feed : ℕ → Input) (most : ℕ) : Prop :=
  ∀ n, Underway ref start feed n → (seen (taken? ref) (reached start) (first feed n)).length ≤ most

/-- How it ends that an event is published by the input `i` after the run `earlier`, when `n` inputs of a sequence have
    come since. -/
structure Drains (ref : BusRef) (earlier : List Input) (i : Input) (feed : ℕ → Input) (most n : ℕ) : Prop where
  underway : Underway ref (earlier ++ [i]) feed n
  quiet : delivering ref (reached (earlier ++ i :: first feed n)) = false
  idle : ((reached (earlier ++ i :: first feed n)).bus ref).draining = false ∧
    ((reached (earlier ++ i :: first feed n)).bus ref).pending = []
  /-- Whatever ran when the event was published goes on, -/
  back : (reached (earlier ++ i :: first feed n)).stack = (reached earlier).stack
  /-- and whoever published it is answered well. -/
  answered : ∃ o, conclusion? (reached earlier).stack.length (reached earlier) (i :: first feed n) = some o ∧
    (o = .returned (.ok .none) ∨ ∃ call v, o = .settled call (.ok v))
  /-- There is one delivery for each event at most, and all of them are finished. -/
  rounds : ∃ new, rounds ref (earlier ++ i :: first feed n) = rounds ref earlier ++ new ∧ new.length ≤ most + 1 ∧
    ∀ r ∈ new, r.Finished
  /-- Each is for those who are attached when it starts, and stays so whoever comes or leaves meanwhile. -/
  snapshot : ∀ a j b, i :: first feed n = a ++ j :: b → ∃ begun : List (Bus.Round Listener),
    (Host.rounds ref (earlier ++ a ++ [j])).map Bus.Round.head =
      (Host.rounds ref (earlier ++ a)).map Bus.Round.head ++ begun.map Bus.Round.head ∧
    ∀ r ∈ begun, r.audience = ((reached (earlier ++ a)).bus ref).sinks

section Steps
variable {ref : BusRef} {inputs : List Input} {f : Frame} {rest base : List Frame} {d : Delivery Listener} {most : ℕ}

theorem delivering_iff (ref : BusRef) (h : Host) :
    delivering ref h = true ↔ ∃ f ∈ h.stack, ∃ d, f.on? ref = some (.next d) := by
  rw [delivering, List.any_eq_true]
  refine exists_congr fun f => and_congr_right fun _ => ⟨fun hf => ?_, fun hf => ?_⟩
  · split at hf
    · rename_i d hd
      exact ⟨d, hd⟩
    · cases hf
  · obtain ⟨d, hd⟩ := hf
    rw [hd]

/-! ### What is ahead -/

theorem record_running (hs : (reached inputs).stack = f :: rest) (hon : f.on? ref = some (.next d)) :
    (record ref inputs).live.running = .next d :: rest.filterMap (Frame.on? ref) := by
  rw [record_live, view, hs, List.filterMap_cons, hon]

/-- Below an observer that is handed an event of a bus, no other one is. -/
theorem apart_of_top (hs : (reached inputs).stack = f :: rest) (hon : f.on? ref = some (.next d)) :
    ∀ x ∈ rest, ∀ d', x.on? ref ≠ some (.next d') := by
  obtain ⟨hnone, -, -⟩ := (record_sound ref inputs).of_next (record_running hs hon)
  intro x hx d' hon'
  rw [List.filterMap_eq_nil_iff.mp hnone x hx] at hon'
  cases hon'

/-- If an event is being handed out after a step, and not by what was there before, then it has just called the observer. -/
theorem top_of_delivering {h : Host} {new : Option Frame} (hs : h.stack = new.toList ++ base)
    (hbase : ∀ x ∈ base, ∀ d, x.on? ref ≠ some (.next d)) (hdel : delivering ref h = true) :
    ∃ f d, h.stack = f :: base ∧ f.on? ref = some (.next d) := by
  obtain ⟨f, hf, d, hon⟩ := (delivering_iff ref h).mp hdel
  rw [hs] at hf
  rcases List.mem_append.mp hf with hf | hf
  · refine ⟨f, d, ?_, hon⟩
    rw [hs, Option.mem_toList.mp hf]
    rfl
  · exact absurd hon (hbase f hf d)

theorem record_reply (hs : (reached inputs).stack = f :: rest) (hon : f.on? ref = some (.next d)) (r : Reply) :
    ∃ thrown, record ref (inputs ++ [.reply r]) = (record ref inputs).step (.done thrown) := by
  obtain ⟨thrown, hmove⟩ := moveOn_reply hs r
  refine ⟨thrown, ?_⟩
  rw [record_snoc, hmove, hon]
  rfl

theorem record_draining (hdel : delivering ref (reached inputs) = true) : (record ref inputs).live.bus.draining = true := by
  rw [record_bus, draining_reached, hdel]

/-- While an event is handed out, nothing takes the bus farther from its end. -/
theorem ahead_snoc {i : Input} (hdel : delivering ref (reached inputs) = true)
    (hdel' : delivering ref (reached (inputs ++ [i])) = true) (hmost : (published ref (inputs ++ [i])).length ≤ most) :
    (record ref (inputs ++ [i])).ahead most ≤ (record ref inputs).ahead most := by
  have hdraining := record_draining hdel'
  rw [← record_published] at hmost
  rw [record_snoc] at hdraining hmost ⊢
  cases hm : moveOn ref (reached inputs) i with
  | none => exact le_rfl
  | some m =>
    rw [hm] at hdraining hmost
    exact (record_sound ref inputs).ahead_step (record_draining hdel) hdraining hmost

/-- When an observer is done, the bus is nearer to its end, and the next observer is called. -/
theorem ahead_reply (hs : (reached inputs).stack = f :: rest) (hon : f.on? ref = some (.next d)) {r : Reply}
    (hdel : delivering ref (reached (inputs ++ [.reply r])) = true) (most : ℕ) :
    (record ref (inputs ++ [.reply r])).ahead most < (record ref inputs).ahead most ∧
      ∃ f' d', (reached (inputs ++ [.reply r])).stack = f' :: rest ∧ f'.on? ref = some (.next d') := by
  have hdraining := record_draining hdel
  obtain ⟨thrown, hrecord⟩ := record_reply hs hon r
  obtain ⟨new, hstack, -⟩ := (step_effect (grounded_reached inputs) (.reply r)).code
  rw [show (reached inputs).base (.reply r) = rest by rw [Host.base, hs]; rfl, ← reached_snoc] at hstack
  rw [hrecord] at hdraining ⊢
  exact ⟨(record_sound ref inputs).ahead_done (record_running hs hon) thrown hdraining most,
    top_of_delivering hstack (apart_of_top hs hon) hdel⟩

end Steps

/-! ### Coming to an end -/

section Ending
variable {ref : BusRef} {start : List Input} {feed : ℕ → Input} {most n : ℕ}

theorem first_succ (feed : ℕ → Input) (n : ℕ) : first feed (n + 1) = first feed n ++ [feed n] := by
  rw [first, List.range_succ, List.map_append]
  rfl

theorem first_take (feed : ℕ → Input) {k n : ℕ} (h : k ≤ n) : first feed k = (first feed n).take k := by
  rw [first, first, ← List.map_take, List.take_range, Nat.min_eq_left h]

theorem first_split (feed : ℕ → Input) {k n : ℕ} (h : k ≤ n) : first feed n = first feed k ++ (first feed n).drop k := by
  rw [first_take feed h, List.take_append_drop]

theorem published_first (hmost : TakesAtMost ref start feed most) (hunder : Underway ref start feed n) :
    (published ref (start ++ first feed n)).length ≤ (published ref start).length + most := by
  rw [published, seen_append, List.length_append]
  exact Nat.add_le_add_left (hmost n hunder) _

/-- If whoever is called first is an observer, the last observer is done some time. -/
theorem over_of_returns (hreturns : Returns ref start feed) (hmost : TakesAtMost ref start feed most)
    (htop : delivering ref (reached start) = true → ∃ f rest d, (reached start).stack = f :: rest ∧
      f.on? ref = some (.next d)) : ∃ n, delivering ref (reached (start ++ first feed n)) = false := by
  by_contra hnever
  have hdel : ∀ n, delivering ref (reached (start ++ first feed n)) = true := by simpa using hnever
  have hunder : ∀ n, Underway ref start feed n := fun _ k _ => hdel k
  let limit := (published ref start).length + most
  have hdown : Antitone fun n => (record ref (start ++ first feed n)).ahead limit := by
    refine antitone_nat_of_succ_le fun n => ?_
    have hsucc : start ++ first feed (n + 1) = start ++ first feed n ++ [feed n] := by
      rw [first_succ, List.append_assoc]
    have hlimit := published_first hmost (hunder (n + 1))
    have hnext := hdel (n + 1)
    rw [hsucc] at hlimit hnext ⊢
    exact ahead_snoc (hdel n) hnext hlimit
  -- What is ahead when an observer is called grows less with every observer, which cannot go on for ever.
  have hcalled : ∀ (a : ℕ ×ₗ ℕ) n f rest d, (record ref (start ++ first feed n)).ahead limit = a →
      (reached (start ++ first feed n)).stack = f :: rest → f.on? ref ≠ some (.next d) := by
    intro a
    induction a using WellFoundedLT.induction with
    | ind a ih =>
      rintro n f rest d rfl hs hon
      obtain ⟨m, hnm, hs', r, hr⟩ := hreturns n (hunder _) f rest d hs hon
      have hsucc : start ++ first feed (m + 1) = start ++ first feed m ++ [.reply r] := by
        rw [first_succ, hr, List.append_assoc]
      obtain ⟨hless, f', d', hs'', hon'⟩ := ahead_reply hs' hon (hsucc ▸ hdel (m + 1)) limit
      rw [← hsucc] at hless hs''
      exact ih _ (lt_of_lt_of_le hless (hdown hnm)) (m + 1) f' rest d' rfl hs'' hon'
  obtain ⟨f, rest, d, hs, hon⟩ := htop (by simpa [first] using hdel 0)
  exact hcalled _ 0 f rest d rfl (by simpa [first] using hs) hon

/-! ### Sequences after which nothing runs -/

section Clear
variable (hclear : (reached (start ++ first feed n)).stack = [])
include hclear

theorem le_of_underway {k : ℕ} (hunder : Underway ref start feed k) : k ≤ n := by
  by_contra hlt
  obtain ⟨x, hx, -⟩ := (delivering_iff ref _).mp (hunder n (Nat.lt_of_not_le hlt))
  rw [hclear] at hx
  cases hx

theorem takes_of_clear : TakesAtMost ref start feed (seen (taken? ref) (reached start) (first feed n)).length := by
  intro k hunder
  rw [first_split feed (le_of_underway hclear hunder), seen_append, List.length_append]
  exact Nat.le_add_right _ _

/-- Then all that was called is done. -/
theorem returns_of_clear : Returns ref start feed := by
  intro k hunder f rest d hs hon
  have hlt : k < n := le_of_underway hclear hunder
  have hsplit := first_split feed hlt.le
  have hover : ((reached (start ++ first feed k)).run ((first feed n).drop k)).1.stack.length ≤ rest.length := by
    rw [← reached_append, List.append_assoc, ← hsplit, hclear]
    exact Nat.zero_le _
  have hstack : (reached (start ++ first feed k)).stack = [] ++ f :: rest := hs
  obtain ⟨a, r, b, hlater, ha, -⟩ := code_ends (grounded_reached _) hstack hover
  rw [hlater, ← List.append_assoc] at hsplit
  have hlength : k + a.length = (first feed k ++ a).length := by simp [first]
  have hm : k + a.length < n := by
    have htotal := congrArg List.length hsplit
    simp only [first, List.length_append, List.length_map, List.length_range, List.length_cons] at htotal
    omega
  have hfirst : first feed (k + a.length) = first feed k ++ a := by
    rw [first_take feed hm.le, hsplit, hlength, List.take_left]
  have hreply : feed (k + a.length) = .reply r := by
    have hget : (first feed n)[k + a.length]? = some (feed (k + a.length)) := by simp [first, hm]
    have hthere : (first feed k ++ a ++ .reply r :: b)[(first feed k ++ a).length]? = some (.reply r) := by
      rw [List.getElem?_append_right le_rfl, Nat.sub_self]
      rfl
    rw [← hsplit, ← hlength] at hthere
    exact Option.some.inj (hget.symm.trans hthere)
  refine ⟨k + a.length, Nat.le_add_right _ _, ?_, r, hreply⟩
  rw [hfirst, ← List.append_assoc, reached_append]
  exact ha

end Clear

end Ending

/-! ### Going back -/

section Back
variable {h : Host} {ref : BusRef} {after : After} {base : List Frame} {i : Input}

/-- An observer stands right above what was there when an event was published. -/
def Atop (ref : BusRef) (after : After) (base : List Frame) (h : Host) : Prop :=
  ∃ above f d, h.stack = above ++ f :: base ∧ f.after? = some after ∧ f.on? ref = some (.next d)

theorem Atop.delivering (hs : Atop ref after base h) : delivering ref h = true := by
  obtain ⟨above, f, d, hstack, -, hon⟩ := hs
  exact (delivering_iff ref h).mpr ⟨f, by simp [hstack], d, hon⟩

theorem on_of_after {f : Frame} (hf : f.after? = some after) : ∃ ref r, f.on? ref = some r := by
  cases f with
  | next ref d after => exact ⟨ref, .next d, by simp [Frame.on?]⟩
  | complete ref c after => exact ⟨ref, .complete c, by simp [Frame.on?]⟩
  | relaying n ref d after => exact ⟨ref, .next d, by simp [Frame.on?]⟩
  | _ => cases hf

/-- A step of a bus that starts no code but an observer's either calls one, or goes back to what was there before. -/
theorem atop_of_goes (g : Grounded h) {m : Bus.Move Listener} (hm : h.move? i = some (ref, m))
    (hnext : ∀ r, (h.view ref).started m = some r → ∃ d, r = .next d) (hgoes : Goes (h.base i) after (h.step i)) :
    Atop ref after (h.base i) (h.step i).1 ∨ (h.step i).1.stack = h.base i := by
  rcases hgoes with ⟨hstack, -⟩ | ⟨f, hstack, hf⟩
  · exact .inr hstack
  · obtain ⟨new, hnew, -, hon⟩ := (step_effect g i).code
    obtain rfl : new = some f := by
      cases new with
      | none =>
        have hlength := congrArg List.length (hstack.symm.trans hnew)
        simp at hlength
      | some x => exact congrArg some (List.cons.inj (hnew.symm.trans hstack)).1
    obtain ⟨ref', r, hr⟩ := on_of_after hf
    have hstarted := (hon ref').symm.trans hr
    rw [hm] at hstarted
    obtain ⟨m', hm', hstarted⟩ := Option.bind_eq_some_iff.mp hstarted
    obtain ⟨rfl, rfl⟩ := Prod.mk.inj (Option.some.inj (on_eq_some.mp hm'))
    obtain ⟨d, rfl⟩ := hnext r hstarted
    exact .inl ⟨[], f, d, hstack, hf, hr⟩

theorem Atop.step (g : Grounded h) (hs : Atop ref after base h) (i : Input) :
    Atop ref after base (h.step i).1 ∨ (h.step i).1.stack = base := by
  obtain ⟨above, f, d, hstack, hf, hon⟩ := hs
  rcases stays_or_done hstack i with ⟨rfl, r, rfl⟩ | ⟨above', hbase⟩
  · have hbase : h.base (.reply r) = base := by
      rw [Host.base, hstack]
      rfl
    obtain ⟨thrown, hmove⟩ := moveOn_reply hstack r
    have hm : h.move? (.reply r) = some (ref, .done thrown) := on_eq_some.mp ((hmove ref).trans (by rw [hon]; rfl))
    have hrun : (h.view ref).running = .next d :: base.filterMap (Frame.on? ref) := by
      rw [view, hstack, List.nil_append, List.filterMap_cons, hon]
    have hgo := atop_of_goes g hm (fun r hr => Bus.next_started hrun hr) (hbase.symm ▸ reply_goes g hstack hf r)
    rwa [hbase] at hgo
  · obtain ⟨new, hnew, -⟩ := (step_effect g i).code
    exact .inl ⟨new.toList ++ above', f, d, by rw [hnew, hbase, List.append_assoc], hf, hon⟩

/-- Publishing is done by an operation, or by the rest of a call; both end well. -/
theorem goes_of_publish {e : Event} (hm : h.move? i = some (ref, .publish e)) : h.base i = h.stack ∧
    ∃ after, Goes h.stack after (h.step i) ∧
      (after.output = .returned (.ok .none) ∨ ∃ call v, after.output = .settled call (.ok v)) := by
  cases i with
  | operate op => exact ⟨rfl, _, operate_goes hm, .inl rfl⟩
  | reply r =>
    simp only [move?] at hm
    split at hm <;> cases hm
  | tick =>
    refine ⟨rfl, ?_⟩
    simp only [move?] at hm
    split at hm
    · rename_i hstack
      obtain ⟨⟨ref', e'⟩, hresumed, heq⟩ := Option.map_eq_some_iff.mp hm
      cases heq
      unfold resumed? at hresumed
      split at hresumed
      · rename_i n answer queue hqueue
        cases answer with
        | error t => cases hresumed
        | ok v =>
          obtain ⟨c, hc, hcall⟩ := Option.bind_eq_some_iff.mp hresumed
          obtain ⟨e'', he, -⟩ := Option.bind_eq_some_iff.mp hcall
          exact ⟨_, tick_goes (List.isEmpty_iff.mp hstack) hqueue hc he, .inr ⟨n, _, rfl⟩⟩
      · cases hresumed
    · cases hm
  | _ => cases hm

end Back

/-! ### The law -/

section Law
variable {ref : BusRef} {earlier start inputs : List Input} {i : Input} {feed : ℕ → Input} {most n : ℕ} {e : Event}

theorem back_of_over {after : After} {base : List Frame}
    (hstart : Atop ref after base (reached start) ∨ (reached start).stack = base)
    (hbase : ∀ f ∈ base, ∀ d, f.on? ref ≠ some (.next d)) (hunder : Underway ref start feed n)
    (hover : delivering ref (reached (start ++ first feed n)) = false) :
    (reached (start ++ first feed n)).stack = base := by
  have hatop : ∀ k ≤ n, Atop ref after base (reached (start ++ first feed k)) ∨
      (reached (start ++ first feed k)).stack = base := by
    intro k hk
    induction k with
    | zero => simpa [first] using hstart
    | succ k ih =>
      rw [first_succ, ← List.append_assoc, reached_snoc]
      rcases ih (Nat.le_of_succ_le hk) with hs | hback
      · exact hs.step (grounded_reached _) (feed k)
      · obtain ⟨f, hf, d, hon⟩ := (delivering_iff ref _).mp (hunder k hk)
        exact absurd hon (hbase f (hback ▸ hf) d)
  rcases hatop n le_rfl with hs | hback
  · exact absurd (hs.delivering.symm.trans hover) (by simp)
  · exact hback

/-- On a completed bus nothing is handed out. -/
theorem quiet_of_dropped (hmove : moveOn ref (reached earlier) i = some (.publish e))
    (hidle : delivering ref (reached earlier) = false) (hdone : ((reached earlier).bus ref).completed = true) :
    delivering ref (reached (earlier ++ [i])) = false ∧ rounds ref (earlier ++ [i]) = rounds ref earlier := by
  have hrecord : record ref (earlier ++ [i]) = (record ref earlier).step (.publish e) := by rw [record_snoc, hmove]
  rw [← record_bus] at hdone
  refine ⟨?_, ?_⟩
  · rw [← draining_reached, ← record_bus, hrecord]
    rcases Bus.publish_cases (record ref earlier).live.bus e with ⟨-, hb, -⟩ | ⟨hopen, -⟩ | ⟨hopen, -⟩
    · show (Bus.publish _ e).1.draining = false
      rw [hb, record_bus, draining_reached, hidle]
    · cases hdone.symm.trans hopen
    · cases hdone.symm.trans hopen
  · rw [rounds, hrecord]
    simp [Bus.Chronicle.step, Bus.Live.rounds, hdone, rounds]

/-- While an event is handed out, no more deliveries start than events are taken. -/
theorem rounds_of_over (hmove : moveOn ref (reached earlier) i = some (.publish e))
    (hidle : delivering ref (reached earlier) = false) (hmost : TakesAtMost ref (earlier ++ [i]) feed most)
    (hunder : Underway ref (earlier ++ [i]) feed n) :
    ∃ new, rounds ref (earlier ++ [i] ++ first feed n) = rounds ref earlier ++ new ∧ new.length ≤ most + 1 := by
  cases hc : ((reached earlier).bus ref).completed with
  | true =>
    obtain ⟨hquiet, hsame⟩ := quiet_of_dropped hmove hidle hc
    obtain rfl : n = 0 := by
      by_contra hn
      have hbusy := hunder 0 (Nat.pos_of_ne_zero hn)
      simp [first, hquiet] at hbusy
    exact ⟨[], by simpa [first] using hsame, Nat.zero_le _⟩
  | false =>
    have hrest := at_rest hidle
    obtain ⟨new, hnew, -⟩ : Bus.Since (rounds ref earlier) (record ref (earlier ++ ([i] ++ first feed n))) := by
      rw [record_append]
      refine (record_sound ref earlier).since ?_ _
      rw [record_bus]
      exact hrest.draining
    rw [← List.append_assoc] at hnew
    refine ⟨new, hnew, ?_⟩
    have hall : (rounds ref earlier).length = (published ref earlier).length := by
      rw [← hrest.all hc, List.length_map]
    have hordered : (rounds ref (earlier ++ [i] ++ first feed n)).length ≤
        (published ref (earlier ++ [i] ++ first feed n)).length := by
      obtain ⟨above, base, -, -, hdel, -⟩ := (record_sound ref (earlier ++ [i] ++ first feed n)).frames
      have hlength := hdel.ordered.length_le
      rwa [List.length_map, record_published] at hlength
    have hfirst : (published ref (earlier ++ [i])).length ≤ (published ref earlier).length + 1 := by
      rw [published, seen_snoc, List.length_append]
      exact Nat.add_le_add_left (Option.length_toList_le) _
    have hlimit := published_first hmost hunder
    rw [show rounds ref (earlier ++ [i] ++ first feed n) = rounds ref earlier ++ new from hnew, List.length_append] at hordered
    omega

theorem begun_snoc (ref : BusRef) (inputs : List Input) (j : Input) : ∃ begun : List (Bus.Round Listener),
    (rounds ref (inputs ++ [j])).map Bus.Round.head = (rounds ref inputs).map Bus.Round.head ++ begun.map Bus.Round.head ∧
      ∀ r ∈ begun, r.audience = ((reached inputs).bus ref).sinks := by
  rw [rounds, rounds, record_snoc, ← record_bus]
  cases moveOn ref (reached inputs) j with
  | none => exact ⟨[], by simp, by simp⟩
  | some m => exact Bus.step_begun _ m

theorem drains_of_returns (hmove : moveOn ref (reached earlier) i = some (.publish e))
    (hidle : delivering ref (reached earlier) = false) (hreturns : Returns ref (earlier ++ [i]) feed)
    (hmost : TakesAtMost ref (earlier ++ [i]) feed most) : ∃ n, Drains ref earlier i feed most n := by
  have g := grounded_reached earlier
  have hm := on_eq_some.mp hmove
  obtain ⟨hbase, after, hgoes, hgood⟩ := goes_of_publish hm
  have hapart : ∀ f ∈ (reached earlier).stack, ∀ d, f.on? ref ≠ some (.next d) := fun f hf d hon =>
    absurd ((delivering_iff ref _).mpr ⟨f, hf, d, hon⟩) (by simp [hidle])
  have hatop := atop_of_goes g hm (fun r hr => Bus.publish_started hr) (hbase.symm ▸ hgoes)
  obtain ⟨new, hnew, -⟩ := (step_effect g i).code
  rw [hbase, ← reached_snoc] at hatop hnew
  have htop : delivering ref (reached (earlier ++ [i])) = true → ∃ f rest d,
      (reached (earlier ++ [i])).stack = f :: rest ∧ f.on? ref = some (.next d) := by
    intro hdel
    obtain ⟨f, d, hs, hon⟩ := top_of_delivering hnew hapart hdel
    exact ⟨f, _, d, hs, hon⟩
  obtain ⟨n, hover, hunder⟩ : ∃ n, delivering ref (reached (earlier ++ [i] ++ first feed n)) = false ∧
      Underway ref (earlier ++ [i]) feed n := by
    have hends := over_of_returns hreturns hmost htop
    exact ⟨Nat.find hends, Nat.find_spec hends, fun k hk => by simpa using Nat.find_min hends hk⟩
  have hback := back_of_over hatop hapart hunder hover
  obtain ⟨more, hmore, hlength⟩ := rounds_of_over hmove hidle hmost hunder
  have hrest := at_rest hover
  have hsplit : earlier ++ i :: first feed n = earlier ++ [i] ++ first feed n := List.append_cons ..
  refine ⟨n, hunder, ?_, ?_, ?_, ⟨after.output, ?_, hgood⟩, ⟨more, ?_, hlength, ?_⟩, ?_⟩
  · rw [hsplit]
    exact hover
  · rw [hsplit]
    exact ⟨hrest.draining, hrest.pending⟩
  · rw [hsplit]
    exact hback
  · refine concludes_of_goes g hgoes _ ?_
    rw [← reached_append, hsplit, hback]
  · rw [hsplit]
    exact hmore
  · exact fun r hr => hrest.finished r (hmore ▸ List.mem_append_right _ hr)
  · exact fun a j b _ => begun_snoc ref (earlier ++ a) j

/-- Whoever publishes goes on some time, if all observers that are called are done some time: after one delivery for
    each event that is published, if there are no more of them than some number, and after a single one if observers
    only subscribe, leave or complete the bus. -/
theorem ending_law (hmove : moveOn ref (reached earlier) i = some (.publish e))
    (hidle : delivering ref (reached earlier) = false) (hreturns : Returns ref (earlier ++ [i]) feed) :
    (∀ most, TakesAtMost ref (earlier ++ [i]) feed most → ∃ n, Drains ref earlier i feed most n) ∧
    ((∀ n, Underway ref (earlier ++ [i]) feed (n + 1) →
        taken? ref (reached (earlier ++ [i] ++ first feed n)) (feed n) = none) →
      ∃ n, Drains ref earlier i feed 0 n) := by
  refine ⟨fun most hmost => drains_of_returns hmove hidle hreturns hmost, fun hnone => ?_⟩
  refine drains_of_returns hmove hidle hreturns fun n hunder => ?_
  induction n with
  | zero => exact Nat.le_refl _
  | succ n ih =>
    rw [first_succ, seen_concat, ← reached_append, hnone n hunder, Option.toList_none, List.append_nil]
    exact ih fun k hk => hunder k (Nat.lt_succ_of_lt hk)

/-- A gong that is struck again while it sounds, and to which somebody else comes running meanwhile. -/
def gong : List Input := [.operate .newBus, .operate (.subscribe (.bus 0 fun _ => .ok true) 1 false)]

def strike : Input := .operate (.publish 0 (.user (.string "strike") .undefined))

/-- The second who hears the gong is angry. -/
def sounding : ℕ → Input
  | 0 => strike
  | 1 => .operate (.subscribe (.bus 0 fun _ => .ok true) 2 false)
  | 2 => .reply (.done .undefined)
  | 3 => .reply (.threw (.failure "Error" "again"))
  | 4 => .reply (.done .undefined)
  | _ => .setClock 0

/-- The gong sounds twice, the second time for both. -/
theorem gong_sounds_twice : (∃ n, Drains (.alone 0) gong strike sounding 1 n) ∧
    (rounds (.alone 0) (gong ++ [strike] ++ first sounding 5)).map (fun r => r.turns.map (·.1.id)) = [[1], [1, 2]] := by
  have hclear : (reached (gong ++ [strike] ++ first sounding 5)).stack = [] := by rfl
  have hmost : TakesAtMost (.alone 0) (gong ++ [strike]) sounding 1 := takes_of_clear hclear
  exact ⟨(ending_law (e := .user (.string "strike") .undefined) (by rfl) (by rfl) (returns_of_clear hclear)).1 1 hmost, by rfl⟩

end Law

end Host
end ThingHost
