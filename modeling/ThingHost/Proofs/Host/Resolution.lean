import ThingHost.Proofs.Exposed.Resolution
import ThingHost.Proofs.Host.Isolation
import ThingHost.Proofs.Host.Past

/-! Who answers a call depends on what was done to the Thing before, and on nothing else: the handler that
    was last set for the interaction that is called, else the one that was last set for all, else the host. -/

namespace ThingHost
namespace Host

section Statement
variable (earlier : List Input) (t : Nat) (ask : Ask) (later : List Input) (x : ExposedThing) (i : Interaction)

/-- A handler answers the call, and no other does. Only the host itself reads and writes the store. -/
def AnsweredBy : Handler → Prop
  | .client c =>
    ((reached earlier).step (.operate (.call t ask))).2 =
      [.log ⟨some x.id, callNote i.name ask⟩, .callHandler c (callNumber earlier) ask.arguments] ∧
    invocations (callNumber earlier) (during earlier t ask later) = [(c, ask.arguments)] ∧
    (reached (during earlier t ask [])).things[t]? = some x
  | .broken =>
    invocations (callNumber earlier) (during earlier t ask later) = [] ∧
    answers (callNumber earlier) (during earlier t ask later) = [.error (.fault .notCallable)] ∧
    (reached (during earlier t ask [])).things[t]? = some x
  | .standard =>
    invocations (callNumber earlier) (during earlier t ask later) = [] ∧
    match ask with
    | .read _ =>
      answers (callNumber earlier) (during earlier t ask later) = [.ok (x.store.get i.serial)] ∧
      (reached (during earlier t ask [])).things[t]? = some x
    | .write _ v =>
      answers (callNumber earlier) (during earlier t ask later) = [.ok .undefined] ∧
      (reached (during earlier t ask [])).things[t]? = some { x with store := x.store.set i.serial v }
    | .invoke .. =>
      answers (callNumber earlier) (during earlier t ask later) = [refuse .undefinedActionHandler] ∧
      (reached (during earlier t ask [])).things[t]? = some x

/-- The call is answered by the handler that the past of the Thing calls for, and settles with what that
    handler's answer comes to. -/
structure Resolves : Prop where
  handler : AnsweredBy earlier t ask later x i (Deed.answering (history t earlier) ask.kind i)
  answered : (answers (callNumber earlier) (during earlier t ask later)).length ≤ 1
  settled : settlements (callNumber earlier) (during earlier t ask later) <+:
    (answers (callNumber earlier) (during earlier t ask later)).map (settlement ask)

end Statement

section Law
variable {earlier : List Input} {t : Nat} {ask : Ask} {x : ExposedThing} {i : Interaction}

/-- What a call that is accepted leaves of the Thing. -/
theorem thing_of_call (hx : (reached earlier).things[t]? = some x) {handler : Handler}
    (ha : x.accept ask = .ok (i, handler)) : (reached (during earlier t ask [])).things[t]? =
      some (if handler = .standard then (x.answer ask).1 else x) := by
  obtain ⟨hlt, -⟩ := List.getElem?_eq_some_iff.mp hx
  have hstep : (reached earlier).step (.operate (.call t ask)) = (reached earlier).call t ask := rfl
  rw [during, reached_snoc, hstep]
  cases handler with
  | client c => simp [call, withThing, hx, ha, prepend, startCall, push]
  | broken => simp [call, withThing, hx, ha, prepend, returns, answered, enqueue, setProgress_things, startCall]
  | standard =>
    have hthings : ((reached earlier).call t ask).1.things = (reached earlier).things.set t (x.answer ask).1 := by
      simp [call, withThing, hx, ha, prepend, returns, answered, enqueue, setProgress_things, startCall, setThing]
    rw [hthings]
    exact List.getElem?_set_self hlt

/-- A call is answered by the handler that was last set for what it calls, else by the one that was last set
    for all, else by the host. -/
theorem resolution_law (hx : (reached earlier).things[t]? = some x)
    (hi : x.thing.findKind? (ExposedThing.target ask.kind) ask.name = some i)
    (hw : ask.kind = .write → i.writable = true) (later : List Input) : Resolves earlier t ask later x i := by
  have hget := (past_reached hx).get (ExposedThing.mem_of_findKind? hi).1 ask.kind
  have ha := ExposedThing.accept_of_open hi hw
  have haccepted := accepted_of_accept hx ha later
  have hresolved := haccepted.resolved
  have hthing := thing_of_call hx ha
  refine ⟨?_, haccepted.answered, haccepted.settled⟩
  rw [← hget]
  cases hh : x.handlers.get ask.kind (some i.serial) with
  | client c =>
    rw [hh] at hresolved hthing
    exact ⟨hresolved.1, hresolved.2, hthing⟩
  | broken =>
    rw [hh] at hresolved hthing
    exact ⟨hresolved.2.1, hresolved.2.2, hthing⟩
  | standard =>
    rw [hh] at hresolved hthing
    obtain ⟨-, hquiet, hanswers⟩ := hresolved
    have hanswer := ExposedThing.answer_of_found hi
    refine ⟨hquiet, ?_⟩
    cases ask with
    | read property =>
      rw [hanswer] at hanswers hthing
      exact ⟨hanswers, hthing⟩
    | write property v =>
      rw [hanswer] at hanswers hthing
      exact ⟨hanswers, hthing⟩
    | invoke action arguments =>
      rw [hanswer] at hanswers hthing
      exact ⟨hanswers, hthing⟩

/-- A name that is a property, then an action, then a property again, with handlers set for each of them and
    for all. -/
def dial : List Input :=
  [ .operate (.newThing 0 "dial" "Dial" none),
    .operate (.add 0 .property (.string "on") .undefined none),
    .operate (.setHandler 0 .read 5 (some (.string "on"))),
    .operate (.setHandler 0 .read 6 none),
    .operate (.setHandler 0 .write 8 none),
    .operate (.remove 0 .property (.string "on")),
    .operate (.add 0 .action (.string "on") .undefined (some 7)),
    .operate (.setHandler 0 .read 9 (some (.string "on"))),
    .operate (.remove 0 .action (.string "on")),
    .operate (.add 0 .property (.string "on") .undefined none),
    .operate (.setHandler 0 .write 4 (some (.string "on"))) ]

theorem dial_resolves : (∃ x i, (reached (dial.take 8)).things[0]? = some x ∧
      x.thing.findKind? .action (.string "on") = some i ∧
      Resolves (dial.take 8) 0 (.invoke (.string "on") [.null]) [.reply (.done (.bool true)), .tick] x i ∧
      invocations 0 (during (dial.take 8) 0 (.invoke (.string "on") [.null]) [.reply (.done (.bool true)), .tick]) =
        [(7, [.null])]) ∧
    ∃ x i, (reached dial).things[0]? = some x ∧
    x.thing.findKind? .property (.string "on") = some i ∧ i.writable = true ∧
    Resolves dial 0 (.read (.string "on")) [] x i ∧
    Resolves dial 0 (.write (.string "on") (.bool true)) [.reply (.done .null), .tick] x i ∧
    invocations 0 (during dial 0 (.read (.string "on")) []) = [(6, [.string "on"])] ∧
    invocations 0 (during dial 0 (.write (.string "on") (.bool true)) [.reply (.done .null), .tick]) =
      [(4, [.string "on", .bool true])] := by
  refine ⟨⟨_, _, by rfl, by rfl, ?_, by rfl⟩, _, _, by rfl, by rfl, by rfl, ?_, ?_, by rfl, by rfl⟩
  · exact resolution_law (by rfl) (by rfl) (by rintro ⟨⟩) _
  · exact resolution_law (by rfl) (by rfl) (by rintro ⟨⟩) []
  · exact resolution_law (by rfl) (by rfl) (fun _ => by rfl) _

end Law

end Host
end ThingHost
