import ThingHost.Proofs.Exposed.Standing
import ThingHost.Proofs.Host.Order
import ThingHost.Proofs.Host.Past

/-! What has become of an interaction by the time a call to it is announced. The call goes on with the interaction
    that it was checked against, and its announcement bears the name of it; the Thing may have withdrawn that
    interaction meanwhile, and even declared another one under the name. -/

namespace ThingHost
namespace Host

/-- What was done to a Thing by the inputs `more`, after the run `earlier`. -/
def meanwhile (t : Nat) (earlier more : List Input) : List Deed :=
  (seen (fun h i => some (deeds t h i)) (reached earlier) more).flatten

/-- A write or an invocation of the Thing `t` succeeds after the run `inputs` and is announced by the event `e`. It
    was made after the inputs `earlier`, when the Thing was `x`, and checked against the interaction `i`; the
    Thing is `y` by now. -/
structure Announcing (t : Nat) (earlier : List Input) (ask : Ask) (later : List Input) (e : Event) (x y : ExposedThing)
    (i : Interaction) : Prop where
  before : (reached earlier).things[t]? = some x
  now : (reached (during earlier t ask later)).things[t]? = some y
  found : x.thing.findKind? (ExposedThing.target ask.kind) ask.name = some i
  tells : ∃ v, announcement? ask v = some e
  /-- What is declared under the name is the very interaction unless it was withdrawn since the call was made, -/
  same : y.thing.findKind? (ExposedThing.target ask.kind) ask.name = some i ↔
    .withdrawn i ∉ meanwhile t earlier (.operate (.call t ask) :: later)
  /-- and anything else that is declared under the name is new: it was declared after the withdrawal. -/
  other : ∀ kind j, y.thing.findKind? kind ask.name = some j → j ≠ i → i.serial < j.serial ∧
    ∃ before definition handler after, meanwhile t earlier (.operate (.call t ask) :: later) =
      before ++ .declared j definition handler :: after ∧ .withdrawn i ∈ before

section Runs
variable {earlier more inputs : List Input} {t n : Nat} {x : ExposedThing} {e : Event}

theorem meanwhile_concat (t : Nat) (earlier more : List Input) (i : Input) :
    meanwhile t earlier (more ++ [i]) = meanwhile t earlier more ++ deeds t (reached (earlier ++ more)) i := by
  simp [meanwhile, seen_concat, reached_append]

theorem standing_reached (hx : (reached earlier).things[t]? = some x) (more : List Input) :
    ∃ y, (reached (earlier ++ more)).things[t]? = some y ∧ ExposedThing.Standing x (meanwhile t earlier more) y := by
  induction more using List.reverseRecOn with
  | nil => exact ⟨x, by simpa using hx, .refl x⟩
  | append_singleton more i ih =>
    obtain ⟨y, hy, hstanding⟩ := ih
    obtain ⟨z, b, hd, hz⟩ := step_does hy i
    have hnext := hstanding.does (tidy_reached hx) (tidy_reached hy) hd
    refine ⟨{ z with bus := b }, ?_, ?_⟩
    · rw [← List.append_assoc, reached_snoc]
      exact hz
    · rw [meanwhile_concat]
      exact ⟨hnext.stays, hnext.serials, hnext.new⟩

/-- A call that goes on was checked, when it was made, against the interaction that was found under its name. -/
theorem found_of_success {j : Input} (hs : success? t (reached inputs) j = some (some n, e)) :
    ∃ earlier ask later x i, inputs = during earlier t ask later ∧ callNumber earlier = n ∧
      (reached earlier).things[t]? = some x ∧ x.thing.findKind? (ExposedThing.target ask.kind) ask.name = some i ∧
      ∃ v, announcement? ask v = some e := by
  obtain ⟨-, hstack, v, queue, c, hqueue, hc, rfl, he⟩ := success?_call.mp hs
  obtain ⟨earlier, later, x, hsplit, hn, hx, hacc⟩ := made_at hc
  obtain ⟨hans, -⟩ := resumed_by hstack hqueue
  have hstand := stands inputs n
  rw [hc] at hstand
  cases hi : x.thing.findKind? (ExposedThing.target c.ask.kind) c.ask.name with
  | some i => exact ⟨earlier, c.ask, later, x, i, hsplit, hn, hx, hi, v, he⟩
  | none =>
    -- The call was refused, and so it has no answer to go on with.
    have hnone : c.accepted = none := by
      rw [hacc, ExposedThing.accept_of_missing hi]
      rfl
    rw [(hstand.of_refused hnone).2.1] at hans
    cases hans

/-- Whatever happens while a call is under way, what is declared under its name when it is announced is the
    interaction that it was checked against, unless this was withdrawn meanwhile. -/
theorem announcing_law {j : Input} (hs : success? t (reached inputs) j = some (some n, e)) :
    ∃ earlier ask later x y i, inputs = during earlier t ask later ∧ callNumber earlier = n ∧
      Announcing t earlier ask later e x y i := by
  obtain ⟨earlier, ask, later, x, i, hsplit, hn, hx, hi, htells⟩ := found_of_success hs
  obtain ⟨y, hy, hstanding⟩ := standing_reached hx (.operate (.call t ask) :: later)
  refine ⟨earlier, ask, later, x, y, i, hsplit, hn, hx, hy, hi, htells, hstanding.found_iff (tidy_reached hy) hi, ?_⟩
  exact fun kind k hk hne => hstanding.other (tidy_reached hx) hi hk hne

/-- A socket whose switch is withdrawn, and declared anew, while the handler of a write to it has only promised an
    answer. -/
def socket : List Input :=
  [ .operate (.newThing 0 "socket" "Socket" none),
    .operate (.add 0 .property (.string "on") .undefined none),
    .operate (.setHandler 0 .write 7 none),
    .operate (.call 0 (.write (.string "on") (.bool true))),
    .reply .promised,
    .answer 0 (.ok .null),
    .operate (.remove 0 .property (.string "on")),
    .operate (.add 0 .property (.string "on") .undefined none) ]

theorem socket_announces : ∃ earlier ask later x y i, socket = during earlier 0 ask later ∧ callNumber earlier = 0 ∧
    Announcing 0 earlier ask later (.propertyChange (.string "on") (.bool true)) x y i :=
  announcing_law (j := .tick) (by rfl)

/-- The change is announced when nothing has the name any more, or what has it is another property. -/
theorem announced_for_another : let ask : Ask := .write (.string "on") (.bool true)
    let found (inputs : List Input) := (reached inputs).things[0]?.bind (·.thing.findKind? .property ask.name)
    socket = during (socket.take 3) 0 ask (socket.drop 4) ∧
    (found (socket.take 3)).map (·.serial) = some 0 ∧ (found socket).map (·.serial) = some 1 ∧
    taken? (.own 0) (reached socket) .tick = some (.propertyChange (.string "on") (.bool true)) ∧
    found (socket.take 7) = none ∧
    taken? (.own 0) (reached (socket.take 7)) .tick = some (.propertyChange (.string "on") (.bool true)) :=
  ⟨by rfl, by rfl, by rfl, by rfl, by rfl, by rfl⟩

end Runs

end Host
end ThingHost
