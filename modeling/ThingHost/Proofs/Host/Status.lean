import ThingHost.Proofs.Exposed.Resolution
import ThingHost.Proofs.Host.Address
import ThingHost.Proofs.Host.Past

/-! The status of a reply. A request that finds no Thing, no interaction, no leave to write or nobody who answers is
    told so by a status of its own. What the handler of a client throws is told as if the host had thrown it, so the
    same statuses also come from a handler that ends with such a refusal, be it its own or that of another call; and
    every other error is the host's failure. -/

namespace ThingHost

/-! ### The status that is asked for -/

namespace Http

/-- A member of something thrown gives a status: as a number it is neither below 400 nor above 599, and what stands
    behind its point is cut off. -/
def Gives (v : Value) (status : Nat) : Prop :=
  (Schema.toNumber v).below 400 = false ∧ (Schema.toNumber v).above 599 = false ∧
    (Schema.toNumber v).truncated?.map Int.toNat = some status

/-- A status that something thrown asks for: three of the host's refusals have one, and a value that is no error may
    carry one. -/
inductive AsksFor : Nat → Thrown → Prop where
  | notFound (kind : InteractionKind) (name : Value) : AsksFor 404 (.refusal (.notFound kind name))
  | notWritable (property : String) : AsksFor 405 (.refusal (.notWritable property))
  | noHandler : AsksFor 501 (.refusal .undefinedActionHandler)
  | statusCode {v : Value} {status : Nat} (writable : Json.holdsBigint v = false)
      (given : Gives (v.member "statusCode") status) : AsksFor status (.value v)
  | status {v : Value} {status : Nat} (writable : Json.holdsBigint v = false)
      (none : ∀ other, ¬Gives (v.member "statusCode") other) (given : Gives (v.member "status") status) :
      AsksFor status (.value v)
  | neither {v : Value} (writable : Json.holdsBigint v = false) (none : ∀ other, ¬Gives (v.member "statusCode") other)
      (nor : ∀ other, ¬Gives (v.member "status") other) : AsksFor 500 (.value v)

theorem gives_iff {v : Value} {status : Nat} : Gives v status ↔ asStatus? v = some status := by
  cases hb : (Schema.toNumber v).below 400 <;> cases ha : (Schema.toNumber v).above 599 <;> simp [Gives, asStatus?, hb, ha]

theorem gives_none {v : Value} : (∀ status, ¬Gives v status) ↔ asStatus? v = none := by
  simp only [gives_iff, Option.eq_none_iff_forall_ne_some, ne_eq]

/-- A value that is no error asks for just one status. -/
theorem asksFor_value {v : Value} {status : Nat} (writable : Json.holdsBigint v = false) :
    AsksFor status (.value v) ↔ statusOf v = status := by
  unfold statusOf
  constructor
  · intro h
    cases h with
    | statusCode _ given => simp [gives_iff.mp given]
    | status _ none given => simp [gives_none.mp none, gives_iff.mp given]
    | neither _ none nor => simp [gives_none.mp none, gives_none.mp nor]
  · rintro rfl
    cases hcode : asStatus? (v.member "statusCode") with
    | some code => exact .statusCode writable (gives_iff.mpr hcode)
    | none =>
      cases hstatus : asStatus? (v.member "status") with
      | some code => exact .status writable (gives_none.mpr hcode) (gives_iff.mpr hstatus)
      | none => exact .neither writable (gives_none.mpr hcode) (gives_none.mpr hstatus)

theorem AsksFor.writable {v : Value} {status : Nat} (h : AsksFor status (.value v)) : Json.holdsBigint v = false := by
  cases h with
  | statusCode writable _ => exact writable
  | status writable _ _ => exact writable
  | neither writable _ _ => exact writable

theorem failed_value (v : Value) : (failed (.value v)).status = if Json.holdsBigint v then 500 else statusOf v := by
  cases v with
  | undefined => decide
  | string s =>
    have hnone : statusOf (.string s) = 500 := by
      rw [show statusOf (.string s) = statusOf .undefined from rfl]
      decide
    rw [hnone]
    rfl
  | _ =>
    simp only [failed]
    split <;> rfl

theorem status_of_asksFor {status : Nat} {thrown : Thrown} (h : AsksFor status thrown) :
    (failed thrown).status = status := by
  cases thrown with
  | value v =>
    have hwritable := h.writable
    rw [failed_value, hwritable]
    exact (asksFor_value hwritable).mp h
  | _ => cases h <;> rfl

/-- What asks for no status is a failure of the host. -/
theorem failed_status (thrown : Thrown) : AsksFor (failed thrown).status thrown ∨ (failed thrown).status = 500 := by
  cases thrown with
  | fault f => exact .inr rfl
  | failure name message => exact .inr rfl
  | value v =>
    cases hv : Json.holdsBigint v with
    | true => exact .inr (by rw [failed_value, hv]; rfl)
    | false =>
      have hstatus : (failed (.value v)).status = statusOf v := by rw [failed_value, hv]; rfl
      exact .inl (hstatus ▸ (asksFor_value hv).mpr rfl)
  | refusal e =>
    cases e with
    | notFound kind name => exact .inl (.notFound kind name)
    | notWritable property => exact .inl (.notWritable property)
    | undefinedActionHandler => exact .inl .noHandler
    | _ => exact .inr rfl

theorem failed_status_iff {thrown : Thrown} {status : Nat} (hne : status ≠ 500) :
    (failed thrown).status = status ↔ AsksFor status thrown := by
  constructor
  · rintro rfl
    exact (failed_status thrown).resolve_right hne
  · exact status_of_asksFor

theorem success_status (kind : CallKind) (v : Value) :
    (answer kind (.ok v)).status = 200 ∨ (answer kind (.ok v)).status = 204 ∨ (answer kind (.ok v)).status = 500 := by
  have hsuccess : ∀ key, (success key v).status = 200 ∨ (success key v).status = 500 := by
    intro key
    unfold success
    split
    · exact .inl rfl
    · exact .inr rfl
  cases kind with
  | read => exact (hsuccess "value").imp_right .inr
  | write => exact .inr (.inl rfl)
  | invoke => exact (hsuccess "result").imp_right .inr

end Http

/-! ### Handlers that nobody set -/

namespace Deed
variable {deeds : List Deed} {kind : CallKind} {i : Interaction}

/-- The handler that comes with what was done. -/
def given? : Deed → Option Handler
  | .declared _ _ handler => handler
  | .handled _ handler _ => some handler
  | _ => none

/-- No handler was set for the interaction since it was declared, and none for all. -/
def Unhandled (deeds : List Deed) (kind : CallKind) (i : Interaction) : Prop :=
  latest (ownHandler? kind i) (since i deeds) = none ∧ latest (generalHandler? kind) deeds = none

theorem of_latest {α : Type} {look : Deed → Option α} {a : α} (h : latest look deeds = some a) : ∃ d ∈ deeds, look d = some a :=
  List.mem_filterMap.mp (List.mem_of_getLast? h)

theorem given_of_own {d : Deed} {handler : Handler} (h : ownHandler? kind i d = some handler) : d.given? = some handler := by
  unfold ownHandler? at h
  split at h
  · split at h
    · exact h
    · cases h
  · split at h
    · exact h
    · cases h
  · cases h

theorem given_of_general {d : Deed} {handler : Handler} (h : generalHandler? kind d = some handler) :
    d.given? = some handler := by
  unfold generalHandler? at h
  split at h
  · split at h
    · exact h
    · cases h
  · cases h

/-- The host itself answers where no handler was set. -/
theorem answering_standard (hgiven : ∀ d ∈ deeds, d.given? ≠ some .standard) :
    answering deeds kind i = .standard ↔ Unhandled deeds kind i := by
  constructor
  · intro h
    rcases hown : latest (ownHandler? kind i) (since i deeds) with _ | handler
    · rcases hgeneral : latest (generalHandler? kind) deeds with _ | handler
      · exact ⟨hown, hgeneral⟩
      · obtain ⟨d, hd, hlook⟩ := of_latest hgeneral
        rw [answering, hown, hgeneral] at h
        obtain rfl : handler = .standard := h
        exact absurd (given_of_general hlook) (hgiven d hd)
    · obtain ⟨d, hd, hlook⟩ := of_latest hown
      rw [answering, hown] at h
      obtain rfl : handler = .standard := h
      exact absurd (given_of_own hlook) (hgiven d ((List.dropWhile_suffix _).subset hd))
  · rintro ⟨hown, hgeneral⟩
    rw [answering, hown, hgeneral]
    rfl

end Deed

namespace ExposedThing

theorem given_deed? {x : ExposedThing} {op : Operation} {d : Deed} (hd : x.deed? op = some d) : d.given? ≠ some .standard := by
  cases op with
  | add t kind name definition handler =>
    obtain ⟨s, -, hd⟩ := Option.bind_eq_some_iff.mp hd
    obtain ⟨parsed, -, rfl⟩ := Option.map_eq_some_iff.mp hd
    exact brought_ne kind definition handler
  | remove t kind name =>
    obtain ⟨i, -, rfl⟩ := Option.map_eq_some_iff.mp hd
    exact fun h => by cases h
  | setHandler t kind handler name =>
    cases hd
    exact fun h => by cases h
  | call t ask =>
    cases ask with
    | write property v =>
      obtain ⟨i, -, rfl⟩ := Option.map_eq_some_iff.mp hd
      exact fun h => by cases h
    | _ => cases hd
  | _ => cases hd

end ExposedThing

namespace Host

open Http

theorem given_deeds {t : Nat} {h : Host} {i : Input} {d : Deed} (hd : d ∈ deeds t h i) : d.given? ≠ some .standard := by
  rcases deeds_cases hd with ⟨_, _, _, _, -, -, -, hd⟩ | ⟨op, x, -, -, -, -, hd⟩
  · obtain ⟨kind, _, definition, -, _, _, rfl⟩ := ExposedThing.mem_declaredFrom hd
    exact ExposedThing.brought_ne kind definition none
  · exact ExposedThing.given_deed? hd

/-- Only clients set handlers. -/
theorem given_history {t : Nat} {inputs : List Input} : ∀ d ∈ history t inputs, d.given? ≠ some .standard := by
  induction inputs using List.reverseRecOn with
  | nil => exact fun d hd => by cases hd
  | append_singleton inputs i ih =>
    intro d hd
    rw [history_snoc] at hd
    exact (List.mem_append.mp hd).elim (ih d) given_deeds

section Statement
variable (earlier : List Input) (t : Nat) (ask : Ask) (later : List Input) (x : ExposedThing)

/-- The call finds the interaction `i`, and the handler of a client that answers for it is called and ends with
    something thrown. -/
def Raises (i : Interaction) (thrown : Thrown) : Prop :=
  x.thing.findKind? (ExposedThing.target ask.kind) ask.name = some i ∧
  ∃ c, Deed.answering (history t earlier) ask.kind i = .client c ∧
    invocations (callNumber earlier) (during earlier t ask later) = [(c, ask.arguments)] ∧
    answers (callNumber earlier) (during earlier t ask later) = [.error thrown]

def RaisesFor (status : Nat) : Prop := ∃ i thrown, Raises earlier t ask later x i thrown ∧ AsksFor status thrown

/-- What the status of the reply to a request for an interaction of the Thing `x` says of it. -/
structure Verdict (status : Nat) : Prop where
  notFound : status = 404 ↔ x.thing.findKind? (ExposedThing.target ask.kind) ask.name = none ∨
    RaisesFor earlier t ask later x 404
  notAllowed : status = 405 ↔ (ask.kind = .write ∧ ∃ i, x.thing.findKind? .property ask.name = some i ∧ i.writable = false) ∨
    RaisesFor earlier t ask later x 405
  notImplemented : status = 501 ↔ (ask.kind = .invoke ∧ ∃ i, x.thing.findKind? .action ask.name = some i ∧
    Deed.Unhandled (history t earlier) .invoke i) ∨ RaisesFor earlier t ask later x 501
  failed : ∀ i thrown, Raises earlier t ask later x i thrown → (∀ s, ¬AsksFor s thrown) → status = 500

/-- A request that asks for an interaction of the Thing with a key. -/
structure Answers (earlier : List Input) (servient : Nat) (r : Request) (key : String) (ask : Ask) : Prop where
  absent : resolve (taking earlier servient) key = none → (reached earlier).receive servient r =
    (.replied ⟨404, some "application/json; charset=utf-8", if r.method = "HEAD" then "" else
      Json.write (.object [("error", .string "Thing not found")])⟩, reached earlier, [])
  asked : ∀ t x, resolve (taking earlier servient) key = some (t, x) → (reached earlier).receive servient r =
    (.waits (callNumber earlier) ask.kind r.method, (reached earlier).step (.operate (.call t ask)))
  verdict : ∀ t x later response, resolve (taking earlier servient) key = some (t, x) →
    (Exchange.waits (callNumber earlier) ask.kind r.method).response? (reached (during earlier t ask later)) = some response →
    Verdict earlier t ask later x response.status
  /-- When nothing is left to do there is a reply, unless the handler of a client has still to answer. -/
  replies : ∀ t x later, resolve (taking earlier servient) key = some (t, x) →
    (reached (during earlier t ask later)).stack = [] → (reached (during earlier t ask later)).queue = [] →
    (invocations (callNumber earlier) (during earlier t ask later) = [] ∨
      answers (callNumber earlier) (during earlier t ask later) ≠ []) →
    ∃ response, (Exchange.waits (callNumber earlier) ask.kind r.method).response? (reached (during earlier t ask later)) =
      some response

end Statement

section Law
variable {earlier : List Input} {t : Nat} {ask : Ask} {later : List Input} {x : ExposedThing} {i : Interaction}

theorem raisesFor_iff {thrown : Thrown} (hraises : Raises earlier t ask later x i thrown) (status : Nat) :
    RaisesFor earlier t ask later x status ↔ AsksFor status thrown := by
  constructor
  · rintro ⟨j, thrown', ⟨-, c', -, -, hanswers'⟩, hasks⟩
    obtain ⟨-, c, -, -, hanswers⟩ := hraises
    rw [hanswers] at hanswers'
    cases hanswers'
    exact hasks
  · exact fun hasks => ⟨i, thrown, hraises, hasks⟩

theorem calm_of_quiet (h : invocations (callNumber earlier) (during earlier t ask later) = []) (i : Interaction)
    (thrown : Thrown) : ¬Raises earlier t ask later x i thrown := by
  rintro ⟨-, c, -, hinvoked, -⟩
  rw [h] at hinvoked
  cases hinvoked

theorem calm_of_answered {v : Value} (h : answers (callNumber earlier) (during earlier t ask later) = [.ok v])
    (i : Interaction) (thrown : Thrown) : ¬Raises earlier t ask later x i thrown := by
  rintro ⟨-, c, -, -, hanswers⟩
  rw [h] at hanswers
  cases hanswers

/-- Where no handler of a client has thrown anything, only the host itself can have refused the request. -/
theorem verdict_of_calm {status : Nat} (hcalm : ∀ i thrown, ¬Raises earlier t ask later x i thrown)
    (hfound : status = 404 ↔ x.thing.findKind? (ExposedThing.target ask.kind) ask.name = none)
    (hallowed : status = 405 ↔ ask.kind = .write ∧ ∃ i, x.thing.findKind? .property ask.name = some i ∧ i.writable = false)
    (himplemented : status = 501 ↔ ask.kind = .invoke ∧ ∃ i, x.thing.findKind? .action ask.name = some i ∧
      Deed.Unhandled (history t earlier) .invoke i) : Verdict earlier t ask later x status := by
  have hnone : ∀ s, ¬RaisesFor earlier t ask later x s := by
    rintro s ⟨i, thrown, hraises, -⟩
    exact hcalm i thrown hraises
  refine ⟨?_, ?_, ?_, fun i thrown hraises => absurd hraises (hcalm i thrown)⟩
  · rw [or_iff_left (hnone 404)]
    exact hfound
  · rw [or_iff_left (hnone 405)]
    exact hallowed
  · rw [or_iff_left (hnone 501)]
    exact himplemented

/-- Where the handler of a client has thrown something, nothing is told but what was thrown. -/
theorem verdict_of_raised {thrown : Thrown} (hraises : Raises earlier t ask later x i thrown)
    (hwritable : ask.kind = .write → i.writable = true) : Verdict earlier t ask later x (failed thrown).status := by
  have ⟨hi, c, hc, _, hanswers⟩ := hraises
  refine ⟨?_, ?_, ?_, ?_⟩
  · rw [raisesFor_iff hraises, hi, failed_status_iff (by decide)]
    simp
  · rw [raisesFor_iff hraises, failed_status_iff (by decide), or_iff_right]
    rintro ⟨hkind, j, hj, hlocked⟩
    rw [hkind, show ExposedThing.target .write = .property from rfl, hj] at hi
    cases hi
    rw [hwritable hkind] at hlocked
    cases hlocked
  · rw [raisesFor_iff hraises, failed_status_iff (by decide), or_iff_right]
    rintro ⟨hkind, j, hj, hstandard⟩
    rw [hkind, show ExposedThing.target .invoke = .action from rfl, hj] at hi
    cases hi
    rw [hkind, (Deed.answering_standard given_history).mpr hstandard] at hc
    cases hc
  · intro j thrown' hraises' hnone
    obtain ⟨-, c', -, -, hanswers'⟩ := hraises'
    rw [hanswers] at hanswers'
    cases hanswers'
    exact (failed_status thrown).resolve_left (hnone _)

/-- Where a call is accepted and no handler of a client has thrown anything, only an action without a handler is refused. -/
theorem verdict_of_found {status : Nat} (hcalm : ∀ i thrown, ¬Raises earlier t ask later x i thrown)
    (hi : x.thing.findKind? (ExposedThing.target ask.kind) ask.name = some i) (hw : ask.kind = .write → i.writable = true)
    (hstatus : status ≠ 404 ∧ status ≠ 405)
    (himplemented : status = 501 ↔ ask.kind = .invoke ∧ Deed.answering (history t earlier) ask.kind i = .standard) :
    Verdict earlier t ask later x status := by
  refine verdict_of_calm hcalm ?_ ?_ ?_
  · rw [hi]
    exact ⟨fun h => absurd h hstatus.1, fun h => by cases h⟩
  · refine ⟨fun h => absurd h hstatus.2, ?_⟩
    rintro ⟨hkind, j, hj, hlocked⟩
    rw [hkind, show ExposedThing.target .write = .property from rfl, hj] at hi
    cases hi
    rw [hw hkind] at hlocked
    cases hlocked
  · rw [himplemented]
    refine and_congr_right fun hkind => ?_
    rw [hkind, show ExposedThing.target .invoke = .action from rfl] at hi
    rw [hkind, hi, Deed.answering_standard given_history]
    simp

/-- Of the host's own answers to what it finds only that for an action is a refusal. -/
theorem own_status (hi : x.thing.findKind? (ExposedThing.target ask.kind) ask.name = some i) :
    (answer ask.kind (settlement ask (x.answer ask).2)).status ≠ 404 ∧
      (answer ask.kind (settlement ask (x.answer ask).2)).status ≠ 405 ∧
      ((answer ask.kind (settlement ask (x.answer ask).2)).status = 501 ↔ ask.kind = .invoke) := by
  have hanswer := ExposedThing.answer_of_found hi
  cases ask with
  | read property =>
    have hread : settlement (.read property) (x.answer (.read property)).2 = .ok (x.store.get i.serial) := by
      rw [hanswer]
      rfl
    have hstatus := success_status .read (x.store.get i.serial)
    rw [hread, show (Ask.read property).kind = .read from rfl]
    exact ⟨by omega, by omega, fun h => by omega, fun h => by cases h⟩
  | write property v =>
    have hwrite : settlement (.write property v) (x.answer (.write property v)).2 = .ok .undefined := by
      rw [hanswer]
      rfl
    have hstatus : (answer .write (.ok .undefined)).status = 204 := rfl
    rw [hwrite, show (Ask.write property v).kind = .write from rfl, hstatus]
    exact ⟨by decide, by decide, by decide⟩
  | invoke action arguments =>
    have hinvoke : settlement (.invoke action arguments) (x.answer (.invoke action arguments)).2 =
        refuse .undefinedActionHandler := rfl
    have hstatus : (answer .invoke (refuse .undefinedActionHandler)).status = 501 := rfl
    rw [hinvoke, show (Ask.invoke action arguments).kind = .invoke from rfl, hstatus]
    exact ⟨by decide, by decide, by decide⟩

/-- What the reply says when an accepted call has settled. -/
theorem verdict_of_accepted (hx : (reached earlier).things[t]? = some x)
    (hi : x.thing.findKind? (ExposedThing.target ask.kind) ask.name = some i) (hw : ask.kind = .write → i.writable = true)
    {o : Outcome} (hs : settlements (callNumber earlier) (during earlier t ask later) = [o]) :
    Verdict earlier t ask later x (answer ask.kind o).status := by
  have hget := (past_reached hx).get (ExposedThing.mem_of_findKind? hi).1 ask.kind
  obtain ⟨hresolved, honce, hsettled, -, -⟩ := accepted_of_accept hx (ExposedThing.accept_of_open hi hw) later
  obtain ⟨a, hanswers⟩ : ∃ a, answers (callNumber earlier) (during earlier t ask later) = [a] := by
    rw [hs] at hsettled
    rcases hl : answers (callNumber earlier) (during earlier t ask later) with _ | ⟨a, _ | ⟨b, rest⟩⟩
    · rw [hl] at hsettled
      exact absurd (List.prefix_nil.mp hsettled) (by simp)
    · exact ⟨a, rfl⟩
    · rw [hl] at honce
      simp at honce
  obtain rfl : o = settlement ask a := by
    rw [hs, hanswers] at hsettled
    exact (List.prefix_cons_iff.mp hsettled).elim (fun h => by cases h) fun ⟨l, h, _⟩ => (List.cons.inj h).1
  rw [hget] at hresolved
  rcases hhandler : Deed.answering (history t earlier) ask.kind i with _ | c | _
  · -- The host answers itself.
    rw [hhandler] at hresolved
    obtain ⟨-, hquiet, hown⟩ := hresolved
    obtain rfl : a = (x.answer ask).2 := (List.cons.inj (hanswers.symm.trans hown)).1
    obtain ⟨hfound, hallowed, himplemented⟩ := own_status hi
    refine verdict_of_found (calm_of_quiet hquiet) hi hw ⟨hfound, hallowed⟩ ?_
    rw [himplemented, hhandler]
    exact (and_iff_left rfl).symm
  · -- The handler of a client answers.
    rw [hhandler] at hresolved
    obtain ⟨-, hinvoked⟩ := hresolved
    rcases a with thrown | v
    · have hraises : Raises earlier t ask later x i thrown := ⟨hi, c, hhandler, hinvoked, hanswers⟩
      exact verdict_of_raised hraises hw
    · have hstatus : (answer ask.kind (settlement ask (.ok v))).status = 200 ∨
          (answer ask.kind (settlement ask (.ok v))).status = 204 ∨
          (answer ask.kind (settlement ask (.ok v))).status = 500 := by
        cases ask <;> exact success_status _ _
      refine verdict_of_found (calm_of_answered hanswers) hi hw (by omega) ⟨fun h => by omega, ?_⟩
      rintro ⟨-, hstandard⟩
      rw [hhandler] at hstandard
      cases hstandard
  · -- What was given for a handler is no code.
    rw [hhandler] at hresolved
    obtain ⟨-, hquiet, hown⟩ := hresolved
    obtain rfl : a = .error (.fault .notCallable) := (List.cons.inj (hanswers.symm.trans hown)).1
    have hstatus : (answer ask.kind (settlement ask (.error (.fault .notCallable)))).status = 500 := by
      cases ask <;> rfl
    refine verdict_of_found (calm_of_quiet hquiet) hi hw (by omega) ⟨fun h => by omega, ?_⟩
    rintro ⟨-, hstandard⟩
    rw [hhandler] at hstandard
    cases hstandard

/-- A call that finds nothing is told so. -/
theorem verdict_of_missing (hx : (reached earlier).things[t]? = some x) (hname : ∃ name, ask.name = .string name)
    (hi : x.thing.findKind? (ExposedThing.target ask.kind) ask.name = none) {o : Outcome}
    (hs : settlements (callNumber earlier) (during earlier t ask later) = [o]) :
    Verdict earlier t ask later x (answer ask.kind o).status := by
  have hrefused := refused_of_accept hx (ExposedThing.accept_of_missing hi) later
  have hstatus : (answer ask.kind o).status = 404 := by
    obtain ⟨name, hname⟩ := hname
    rw [hrefused.settled, hname] at hs
    rw [← (List.cons.inj hs).1]
    rfl
  rw [hstatus]
  refine verdict_of_calm (calm_of_quiet hrefused.quiet) ⟨fun _ => hi, fun _ => rfl⟩ ⟨fun h => (by cases h), ?_⟩
    ⟨fun h => (by cases h), ?_⟩
  · rintro ⟨hkind, j, hj, -⟩
    rw [hkind, show ExposedThing.target .write = .property from rfl, hj] at hi
    cases hi
  · rintro ⟨hkind, j, hj, -⟩
    rw [hkind, show ExposedThing.target .invoke = .action from rfl, hj] at hi
    cases hi

/-- A call that finds what may not be written is told so. -/
theorem verdict_of_locked (hx : (reached earlier).things[t]? = some x)
    (hi : x.thing.findKind? (ExposedThing.target ask.kind) ask.name = some i) (hkind : ask.kind = .write)
    (hw : i.writable = false) {o : Outcome} (hs : settlements (callNumber earlier) (during earlier t ask later) = [o]) :
    Verdict earlier t ask later x (answer ask.kind o).status := by
  have hrefused := refused_of_accept hx (ExposedThing.accept_of_locked hi hkind hw) later
  have hstatus : (answer ask.kind o).status = 405 := by
    rw [hrefused.settled] at hs
    rw [← (List.cons.inj hs).1]
    rfl
  rw [hstatus]
  refine verdict_of_calm (calm_of_quiet hrefused.quiet) ?_ ⟨fun _ => ⟨hkind, i, ?_, hw⟩, fun _ => rfl⟩
    ⟨fun h => (by cases h), ?_⟩
  · rw [hi]
    exact ⟨fun h => (by cases h), fun h => (by cases h)⟩
  · rw [← hi, hkind]
    rfl
  · rintro ⟨hinvoke, -⟩
    rw [hkind] at hinvoke
    cases hinvoke

/-- What the reply says when the call has settled. -/
theorem verdict_of_settled (hx : (reached earlier).things[t]? = some x) (hname : ∃ name, ask.name = .string name) {o : Outcome}
    (hs : settlements (callNumber earlier) (during earlier t ask later) = [o]) :
    Verdict earlier t ask later x (answer ask.kind o).status := by
  rcases hi : x.thing.findKind? (ExposedThing.target ask.kind) ask.name with _ | i
  · exact verdict_of_missing hx hname hi hs
  · by_cases hlocked : ask.kind = .write ∧ i.writable = false
    · exact verdict_of_locked hx hi hlocked.1 hlocked.2 hs
    · refine verdict_of_accepted hx hi (fun hkind => ?_) hs
      by_contra hwritable
      exact hlocked ⟨hkind, by simpa using hwritable⟩

/-- When nothing is left to do, only a call that waits for the handler of a client has not settled. -/
theorem settled_of_rest (hx : (reached earlier).things[t]? = some x) (hstack : (reached (during earlier t ask later)).stack = [])
    (hqueue : (reached (during earlier t ask later)).queue = [])
    (hanswered : invocations (callNumber earlier) (during earlier t ask later) = [] ∨
      answers (callNumber earlier) (during earlier t ask later) ≠ []) :
    ∃ o, settlements (callNumber earlier) (during earlier t ask later) = [o] := by
  rcases ha : x.accept ask with error | ⟨i, handler⟩
  · exact ⟨_, (refused_of_accept hx ha later).settled⟩
  · obtain rfl := (ExposedThing.found_of_accept ha).2
    obtain ⟨hresolved, honce, -, hsettles, -⟩ := accepted_of_accept hx ha later
    have hsome : answers (callNumber earlier) (during earlier t ask later) ≠ [] := by
      rcases hanswered with hquiet | hsome
      · intro hnone
        rw [hquiet, hnone] at hresolved
        rcases hhandler : x.handlers.get ask.kind (some i.serial) with _ | c | _
        · rw [hhandler] at hresolved
          cases hresolved.2.2
        · rw [hhandler] at hresolved
          cases hresolved.2
        · rw [hhandler] at hresolved
          cases hresolved.2.2
      · exact hsome
    obtain ⟨a, ha'⟩ := List.length_eq_one_iff.mp (Nat.le_antisymm honce (List.length_pos_iff.mpr hsome))
    exact ⟨settlement ask a, by rw [hsettles hstack hqueue, ha']; rfl⟩

theorem status_law {servient : Nat} {r : Request} {route : Route} {key : String} {body : Value}
    (hroute : Http.route r.method r.target = .found route) (hkey : route.called? = some key)
    (hbody : r.value = .ok body) (hask : route.ask? body = some ask) : Answers earlier servient r key ask := by
  have hname := asked_name hask
  refine ⟨?_, ?_, ?_, ?_⟩
  · intro hnone
    have hcalled := planRoute_of_called ((reached earlier).enabledThingsOf servient) hkey body
    rw [show resolve ((reached earlier).enabledThingsOf servient) key = none from hnone] at hcalled
    simp only [receive, plan, hroute, hbody, hcalled, Plan.sent, thingNotFound, sent_refusal]
    rfl
  · intro t x hfound
    exact receive_of_resolve hroute hkey hbody hask hfound
  · intro t x later response hfound hresponse
    have hx := thing_of_enabled (mem_of_resolve hfound)
    obtain ⟨o, ho, rfl⟩ := Option.map_eq_some_iff.mp hresponse
    rw [settled?_eq] at ho
    have hs : settlements (callNumber earlier) (during earlier t ask later) = [o] := by
      have hone := (stands (during earlier t ask later) (callNumber earlier)).once.2
      rcases hl : settlements (callNumber earlier) (during earlier t ask later) with _ | ⟨o', _ | ⟨o'', rest⟩⟩
      · rw [hl] at ho
        cases ho
      · rw [hl] at ho
        cases ho
        rfl
      · rw [hl] at hone
        simp at hone
    rw [sent_status]
    exact verdict_of_settled hx hname hs
  · intro t x later hfound hstack hqueue hanswered
    obtain ⟨o, ho⟩ := settled_of_rest (thing_of_enabled (mem_of_resolve hfound)) hstack hqueue hanswered
    exact ⟨_, response?_of_settled ho ask.kind r.method⟩

end Law

/-- A thermometer that a client answers for. -/
def thermometer : List Input :=
  [ .operate (.newThing 0 "urn:thermometer" "Thermometer" none),
    .operate (.add 0 .property (.string "degrees") .undefined none),
    .operate (.setHandler 0 .read 4 (some (.string "degrees"))),
    .operate (.register 0 0),
    .operate (.expose 0) ]

/-- A request to read it. -/
def measure : Request := ⟨"GET", "/api/v1/things/thermometer/properties/degrees", .none⟩

theorem thermometer_answers : Http.route measure.method measure.target = .found (.read "thermometer" "degrees") ∧
    measure.value = .ok .undefined ∧ Answers thermometer 0 measure "thermometer" (.read (.string "degrees")) ∧
    ∃ x, resolve (taking thermometer 0) "thermometer" = some (0, x) := by
  have hroute : Http.route measure.method measure.target = .found (.read "thermometer" "degrees") := by decide +kernel
  exact ⟨hroute, rfl, status_law hroute rfl rfl rfl, _, by rfl⟩

/-- The property is found, and its handler says that something else is not: the request is told that what it asked for is
    not found. -/
theorem found_and_not_found : let ask : Ask := .read (.string "degrees")
    let later : List Input := [.reply (.threw (.refusal (.notFound .property (.string "mercury")))), .tick]
    ∃ x i response, resolve (taking thermometer 0) "thermometer" = some (0, x) ∧
      x.thing.findKind? .property (.string "degrees") = some i ∧
      (reached thermometer).receive 0 measure =
        (.waits 0 .read "GET", (reached thermometer).step (.operate (.call 0 ask))) ∧
      (Exchange.waits 0 .read "GET").response? (reached (during thermometer 0 ask later)) = some response ∧
      response.status = 404 := by
  have hroute : Http.route measure.method measure.target = .found (.read "thermometer" "degrees") := by decide +kernel
  refine ⟨_, _, _, by rfl, by rfl, ?_, by rfl, by rfl⟩
  exact receive_of_resolve hroute rfl rfl rfl (by rfl)

end Host
end ThingHost
