import ThingHost.Proofs.Host.Attached
import ThingHost.Proofs.Host.Mailing

/-! What becomes of a posting in a run: how it is answered, and what is noted of that. All of this can be read
    off the inputs and the outputs, and is what the outbox says. -/

namespace ThingHost

/-- A line of a posting's own: no Thing's logger writes it. -/
def Output.receipt? : Output → Option LogLine := Output.logged? fun line => line.thing.isNone && line.note.relays

namespace Host

/-! ### What is seen of a posting -/

/-- The answer to a posting that an input brings: its broker is done, or throws, or keeps a promise; what
    cannot be written is answered when it is made. -/
def verdict? (h : Host) : Input → Option (Nat × Option Thrown)
  | .operate (.post _ _ e) =>
    if Instant.isValid h.clock && !Relay.writable e then some (h.postings.length, some (.fault .unwritableNumber))
    else none
  | .reply r =>
    match h.stack.head?.bind Frame.posting?, r with
    | some n, .done _ => some (n, none)
    | some n, .threw t => some (n, some t)
    | _, _ => none
  | .acknowledge n failure =>
    match h.postings[n]? with
    | some { stage := .waiting, .. } => some (n, failure)
    | _ => none
  | _ => none

/-- How a posting is answered in the course of a run. -/
def verdicts (n : Nat) (inputs : List Input) : List (Option Thrown) := about n (seen verdict? .new inputs)

/-- The postings whose answer is noted in the course of a run, with the lines that note it. -/
def noticed (inputs : List Input) : List (Nat × LogLine) :=
  ((outputs inputs).filterMap Output.answered?).zip ((outputs inputs).filterMap Output.receipt?)

/-- What is noted of a posting in the course of a run. -/
def receipts (n : Nat) (inputs : List Input) : List LogLine := about n (noticed inputs)

/-! ### The lines of a step -/

/-- What a bus writes about relaying is written by the logger of a Thing. -/
theorem busLines_own {inputs : List Input} {i : Input} {line : LogLine}
    (hl : line ∈ (reached inputs).busLines ((reached inputs).move? i)) (hrelays : line.note.relays = true) :
    ∃ (t : Nat) (x : ExposedThing), (reached inputs).things[t]? = some x ∧ line.thing = some x.id := by
  rcases hm : (reached inputs).move? i with _ | ⟨ref, m⟩
  · rw [hm] at hl
    cases hl
  · rw [hm] at hl
    obtain ⟨note, hnote, rfl⟩ := List.mem_map.mp hl
    cases ref with
    | own t =>
      obtain ⟨b, hb⟩ := Option.isSome_iff_exists.mp (move?_there (grounded_reached inputs) hm)
      obtain ⟨x, hx, -⟩ := Option.map_eq_some_iff.mp hb
      exact ⟨t, x, hx, by simp [busThing, hx]⟩
    | alone n =>
      have hnil := dealt_snoc (.alone n) inputs i
      rw [dealt_alone, dealt_alone, moveOn, on_eq_some.mpr hm] at hnil
      have hnone : (((reached inputs).view (.alone n)).noted m).filter Note.relays = [] := hnil.symm
      exact absurd hrelays (List.filter_eq_nil_iff.mp hnone note (List.mem_filter.mp hnote).1)

theorem reports_of_relays {note : Note} (hn : note.relays = true) : note.reports = true := by
  cases note <;> first | rfl | cases hn

/-- Whatever is noted about relaying is among what a step reports. -/
theorem logged?_relays (kind : LogLine → Bool) (out : List Output) :
    out.filterMap (Output.logged? fun line => kind line && line.note.relays) =
      (out.filterMap Output.reports?).filter fun line => kind line && line.note.relays := by
  induction out with
  | nil => rfl
  | cons o out ih =>
    rw [List.filterMap_cons, List.filterMap_cons, ih]
    cases o with
    | log line =>
      cases hk : kind line && line.note.relays with
      | true =>
        have hreports := reports_of_relays ((Bool.and_eq_true _ _).mp hk).2
        simp [Output.reports?, Output.logged?, hk, hreports]
      | false => cases hr : line.note.reports <;> simp [Output.reports?, Output.logged?, hk, hr]
    | _ => rfl

theorem verdict?_eq (h : Host) (i : Input) : (h.mail? i).bind h.outbox.answered = verdict? h i := by
  cases i with
  | operate op =>
    cases op with
    | post broker thing e =>
      simp only [mail?, verdict?]
      split <;> rfl
    | _ => rfl
  | reply r =>
    cases hs : h.stack with
    | nil => simp [mail?, verdict?, hs]
    | cons f stack =>
      cases hf : f.posting? with
      | none => simp [mail?, verdict?, hs, hf]
      | some n => cases r <;> simp [mail?, verdict?, hs, hf, Outbox.answered, outbox]
  | acknowledge n failure => rfl
  | tick =>
    simp only [mail?, verdict?]
    split <;> rfl
  | _ => rfl

theorem noted_receipt {k : Outbox} {m : Option Outbox.Move} {a : Nat × LogLine} (ha : m.bind k.noted = some a) :
    a.2.thing = none ∧ a.2.note.relays = true := by
  have of_receipt : ∀ {x : Nat × Option Thrown}, k.receipt? x = some a → a.2.thing = none ∧ a.2.note.relays = true := by
    intro x hx
    obtain ⟨p, -, rfl⟩ := Option.map_eq_some_iff.mp hx
    rcases x with ⟨n, _ | t⟩ <;> exact ⟨rfl, rfl⟩
  obtain ⟨m, -, hm⟩ := Option.bind_eq_some_iff.mp ha
  cases m with
  | start thing event => cases hm
  | refuse thing event =>
    cases hm
    exact ⟨rfl, rfl⟩
  | reply r =>
    simp only [Outbox.noted] at hm
    split at hm
    · exact of_receipt hm
    · cases hm
  | acknowledge n failure => cases hm
  | note =>
    obtain ⟨x, -, hx⟩ := Option.bind_eq_some_iff.mp hm
    exact of_receipt hx

theorem step_receipts (inputs : List Input) (i : Input) : ((reached inputs).step i).2.filterMap Output.receipt? =
    ((((reached inputs).mail? i).bind (reached inputs).outbox.noted).map (·.2)).toList := by
  rw [Output.receipt?, logged?_relays, (step_mails (grounded_reached inputs) i).lines, List.filter_append]
  have hbus : ((reached inputs).busLines ((reached inputs).move? i)).filter
      (fun line => line.thing.isNone && line.note.relays) = [] := by
    rw [List.filter_eq_nil_iff]
    intro line hl hpick
    obtain ⟨hnone, hrelays⟩ := (Bool.and_eq_true _ _).mp hpick
    obtain ⟨t, x, -, hthing⟩ := busLines_own hl hrelays
    rw [hthing] at hnone
    cases hnone
  rw [hbus, List.append_nil, List.filter_eq_self]
  intro line hl
  obtain ⟨a, ha, rfl⟩ := Option.map_eq_some_iff.mp (Option.mem_toList.mp hl)
  obtain ⟨hthing, hrelays⟩ := noted_receipt ha
  simp [hthing, hrelays]

/-! ### A run -/

/-- Every answer is noted in one line, and every such line notes an answer. -/
theorem noticed_paired (inputs : List Input) : ((outputs inputs).filterMap Output.answered?).length =
    ((outputs inputs).filterMap Output.receipt?).length := by
  induction inputs using List.reverseRecOn with
  | nil => rfl
  | append_singleton inputs i ih =>
    rw [outputs_snoc, List.filterMap_append, List.filterMap_append, List.length_append, List.length_append, ih,
      step_receipts, (step_mails (grounded_reached inputs) i).answered]
    cases ((reached inputs).mail? i).bind (reached inputs).outbox.noted <;> rfl

theorem noticed_snoc (inputs : List Input) (i : Input) : noticed (inputs ++ [i]) =
    noticed inputs ++ (((reached inputs).mail? i).bind (reached inputs).outbox.noted).toList := by
  rw [noticed, outputs_snoc, List.filterMap_append, List.filterMap_append, List.zip_append (noticed_paired inputs),
    step_receipts, (step_mails (grounded_reached inputs) i).answered]
  cases ((reached inputs).mail? i).bind (reached inputs).outbox.noted <;> rfl

theorem kept_reached (inputs : List Input) :
    (reached inputs).outbox.Kept (seen verdict? .new inputs) (noticed inputs) := by
  induction inputs using List.reverseRecOn with
  | nil => exact Outbox.Kept.new
  | append_singleton inputs i ih =>
    rw [reached_snoc, seen_snoc, noticed_snoc, ← verdict?_eq]
    have hafter := ih.after ((reached inputs).mail? i)
    rcases (step_mails (grounded_reached inputs) i).starts with ⟨hbox, -⟩ | @⟨f, below, thing, e, broker, out, -, -, hbox, -, -⟩
    · exact hbox ▸ hafter
    · exact hbox ▸ hafter.start thing e.name

/-- What a posting is about stays. -/
theorem posting_kept (a b : List Input) {n : Nat} {p : Posting} (hp : (reached a).postings[n]? = some p) :
    ∃ stage, (reached (a ++ b)).postings[n]? = some { p with stage } := by
  induction b using List.reverseRecOn with
  | nil => exact ⟨p.stage, by simpa using hp⟩
  | append_singleton b i ih =>
    obtain ⟨stage, hstage⟩ := ih
    rw [← List.append_assoc, reached_snoc]
    have hafter : ∃ stage, ((reached (a ++ b)).outbox.after ((reached (a ++ b)).mail? i)).postings[n]? =
        some { p with stage } := by
      cases (reached (a ++ b)).mail? i with
      | none => exact ⟨stage, hstage⟩
      | some m => exact Outbox.keeps (k := (reached (a ++ b)).outbox) hstage m
    obtain ⟨later, hlater⟩ := hafter
    rcases (step_mails (grounded_reached (a ++ b)) i).starts with ⟨hbox, -⟩ | @⟨f, below, thing, e, broker, out, -, -, hbox, -, -⟩
    · exact ⟨later, (congrArg (·.postings[n]?) hbox).trans hlater⟩
    · obtain ⟨last, hlast⟩ := Outbox.keeps hlater (.start thing e.name)
      exact ⟨last, (congrArg (·.postings[n]?) hbox).trans hlast⟩

end Host
end ThingHost
