import ThingHost.Proofs.Host.Adapter
import ThingHost.Proofs.Host.Mirror

/-! Over HTTP nothing can be told of what is not enabled. Two hosts that show the same Things reply alike to the same
    requests, whatever else they have registered; and what they do not show is left alone. A host is compared with
    the smallest one that shows the same: the one is part of the other, and stays so as long as nobody who knows more
    has a part in it. -/

namespace ThingHost

/-! ### Visits -/

/-- A request to a servient, or what a client does. -/
inductive Visit where
  | request (r : Http.Request)
  | input (i : Input)

namespace Visit

def rename (ρ : Naming) : Visit → Visit
  | .request r => .request r
  | .input i => .input (i.rename ρ)

def registers : Visit → Bool
  | .request _ => false
  | .input i => i.registers

theorem registers_rename (ρ : Naming) (v : Visit) : (v.rename ρ).registers = v.registers := by
  cases v with
  | request r => rfl
  | input i => exact i.registers_rename ρ

/-- The input that a visit comes to. A request may be replied to at once. -/
def input? (h : Host) (servient : Nat) : Visit → Option Input
  | .request r =>
    match Http.plan (h.enabledThingsOf servient) r with
    | .reply _ => none
    | .call t ask => some (.operate (.call t ask))
  | .input i => some i

/-- What becomes of a request. -/
def exchange? (h : Host) (servient : Nat) : Visit → Option Http.Exchange
  | .request r => some (h.receive servient r).1
  | .input _ => none

end Visit

def Http.Exchange.rename (ρ : Naming) : Exchange → Exchange
  | .replied r => .replied r
  | .waits n kind method => .waits (ρ.call n) kind method

/-- What is shown: the enabled Things, others that clients know, and what is no Thing. -/
structure Front where
  enabled : List ExposedThing
  known : List ExposedThing
  buses : List (Bus Listener)
  clock : Int

/-- The host with nothing else in it. -/
def Front.host (f : Front) : Host where
  servients := [⟨f.enabled.zipIdx.map fun e => (e.1.id, e.2), f.enabled.map (·.id)⟩]
  things := f.enabled ++ f.known
  buses := f.buses
  calls := []
  postings := []
  queue := []
  stack := []
  clock := f.clock

namespace Host

def visit (h : Host) (servient : Nat) : Visit → Step
  | .request r => (h.receive servient r).2
  | .input i => h.step i

/-- What visits put into a host, one after another. -/
def entries (h : Host) (servient : Nat) : List Visit → List Input
  | [] => []
  | v :: rest => (v.input? h servient).toList ++ (h.visit servient v).1.entries servient rest

/-- What becomes of the requests among them. -/
def exchanges (h : Host) (servient : Nat) : List Visit → List Http.Exchange
  | [] => []
  | v :: rest => (v.exchange? h servient).toList ++ (h.visit servient v).1.exchanges servient rest

/-- The replies to the requests among some visits, as far as they are there after them. -/
def replies (h : Host) (servient : Nat) (visits : List Visit) : List (Option Http.Response) :=
  (h.exchanges servient visits).map (Http.Exchange.response? (h.run (h.entries servient visits)).1)

/-! ### What is shown -/

/-- The numbers of the enabled Things of a servient. -/
def enabledNumbers (h : Host) (servient : Nat) : List Nat := (h.servients[servient]?.map (·.enabledNumbers)).getD []

/-- The numbers of what is shown, and of what comes to be. Those who are shown a host count from the first enabled
    Thing on, then the others they know, then what is new. -/
def naming (h : Host) (servient : Nat) (known : List Nat) : Naming where
  thing := Naming.counting (h.enabledNumbers servient ++ known) h.things.length
  call := Naming.counting [] h.calls.length
  posting := Naming.counting [] h.postings.length

/-- A host at rest shows a front. Besides the enabled Things clients know those with some other numbers. -/
structure Shows (h : Host) (servient : Nat) (known : List Nat) (f : Front) : Prop where
  enabled : (h.enabledThingsOf servient).map (·.2) = f.enabled
  there : known.map (h.things[·]?) = f.known.map some
  distinct : known.Nodup
  apart : ∀ t ∈ known, t ∉ h.enabledNumbers servient
  buses : h.buses = f.buses
  clock : h.clock = f.clock
  stack : h.stack = []
  queue : h.queue = []

/-- What is done after a run has nothing to do with a Thing: it stays as it is, with its values and all that is
    declared of it, it publishes nothing, no call is made to it, and no handler is called for one that was. -/
structure Unseen (earlier more : List Input) (t : Nat) : Prop where
  thing : (reached (earlier ++ more)).things[t]? = (reached earlier).things[t]?
  quiet : published (.own t) (earlier ++ more) = published (.own t) earlier
  uncalled : ∀ n c, (reached (earlier ++ more)).calls[n]? = some c → c.thing = t →
    (reached earlier).calls[n]? = some c ∧ invocations n (earlier ++ more) = invocations n earlier

section Statement
variable (earlier : List Input) (servient : Nat) (known : List Nat) (visits : List Visit)

/-- The visits, by the numbers of a host. -/
def called : List Visit := visits.map (Visit.rename (naming (reached earlier) servient known))

/-- What they put into it. -/
def entered : List Input := (reached earlier).entries servient (called earlier servient known visits)

/-- The visits have nothing to do with a Thing that is disabled, nor with any other that is not shown. -/
structure Spares : Prop where
  disabled : ∀ id t, (reached earlier).registered? servient id = some t → (reached earlier).isEnabled servient id = false →
    t ∉ known → Unseen earlier (entered earlier servient known visits) t
  hidden : ∀ t x, (reached earlier).things[t]? = some x → t ∉ (reached earlier).enabledNumbers servient → t ∉ known →
    Unseen earlier (entered earlier servient known visits) t

end Statement

/-- Two hosts reply alike to the same visits, and put out the same. -/
structure Alike (first second : List Input) (servient : Nat) (known₁ known₂ : List Nat) (visits : List Visit) : Prop where
  replies : (reached first).replies servient (called first servient known₁ visits) =
    (reached second).replies servient (called second servient known₂ visits)
  outputs : ∃ out : List Output,
    ((reached first).run (entered first servient known₁ visits)).2 =
      out.map (Output.rename (naming (reached first) servient known₁)) ∧
    ((reached second).run (entered second servient known₂ visits)).2 =
      out.map (Output.rename (naming (reached second) servient known₂))
  first : Spares first servient known₁ visits
  second : Spares second servient known₂ visits

/-! ### Visits to a part -/

section Visits
variable {ρ : Naming} {b p h : Host} {servient : Nat} {v : Visit}

theorem visit_eq (h : Host) (servient : Nat) (v : Visit) :
    h.visit servient v = h.run (v.input? h servient).toList := by
  cases v with
  | request r =>
    simp only [visit, receive, Visit.input?]
    cases Http.plan (h.enabledThingsOf servient) r with
    | reply response => rfl
    | call t ask => exact Prod.ext rfl (List.append_nil _).symm
  | input i => exact Prod.ext rfl (List.append_nil _).symm

theorem input?_registers (h : Host) (servient : Nat) (hv : v.registers = false) {i : Input}
    (hi : i ∈ (v.input? h servient).toList) : i.registers = false := by
  rw [Option.mem_toList] at hi
  cases v with
  | request r =>
    simp only [Visit.input?] at hi
    cases hp : Http.plan (h.enabledThingsOf servient) r with
    | reply response =>
      rw [hp] at hi
      cases hi
    | call t ask =>
      rw [hp] at hi
      cases hi
      rfl
  | input j =>
    cases hi
    exact hv

theorem visit_servients (hv : v.registers = false) : (h.visit servient v).1.servients = h.servients := by
  rw [visit_eq]
  cases hi : v.input? h servient with
  | none => rfl
  | some i => exact step_keeps_servients h (input?_registers h servient hv (by simp [hi]))

theorem enabledThingsOf_eq (h : Host) (servient : Nat) : h.enabledThingsOf servient =
    (h.enabledNumbers servient).filterMap fun t => h.things[t]?.map (t, ·) := by
  rw [enabledThingsOf, enabledNumbers]
  cases h.servients[servient]? with
  | none => rfl
  | some s =>
    simp only [Option.map_some, Option.getD_some, Servient.enabledNumbers, List.filterMap_map]
    rfl

/-- The host `p` is part of `h`, and has the Things that `h` has enabled. -/
structure Fronts (ρ : Naming) (b : Host) (servient : Nat) (p h : Host) : Prop where
  embeds : Embeds ρ b p h
  enabled : h.enabledNumbers servient = (p.enabledNumbers 0).map ρ.thing

theorem Fronts.things (f : Fronts ρ b servient p h) :
    h.enabledThingsOf servient = (p.enabledThingsOf 0).map (Prod.map ρ.thing id) := by
  rw [enabledThingsOf_eq, enabledThingsOf_eq, f.enabled, List.filterMap_map, List.map_filterMap]
  refine List.filterMap_congr fun t _ => ?_
  rw [Function.comp, f.embeds.thing, Option.map_map]
  rfl

theorem Fronts.plan (f : Fronts ρ b servient p h) (r : Http.Request) :
    Http.plan (h.enabledThingsOf servient) r = (Http.plan (p.enabledThingsOf 0) r).renumber ρ.thing := by
  rw [f.things, Http.plan_renumber]

theorem Fronts.input? (f : Fronts ρ b servient p h) (v : Visit) :
    (v.rename ρ).input? h servient = (v.input? p 0).map (Input.rename ρ) := by
  cases v with
  | request r =>
    simp only [Visit.rename, Visit.input?, f.plan]
    cases Http.plan (p.enabledThingsOf 0) r <;> rfl
  | input i => rfl

theorem Fronts.exchange? (f : Fronts ρ b servient p h) (v : Visit) :
    (v.rename ρ).exchange? h servient = (v.exchange? p 0).map (Http.Exchange.rename ρ) := by
  cases v with
  | request r =>
    simp only [Visit.rename, Visit.exchange?, receive, f.plan]
    cases Http.plan (p.enabledThingsOf 0) r with
    | reply response => rfl
    | call t ask => exact congrArg (fun n => some (Http.Exchange.waits n ask.kind r.method)) f.embeds.call_eq
  | input i => rfl

theorem Fronts.mirrors (f : Fronts ρ b servient p h) (hv : v.registers = false) :
    Mirrors ρ b (p.visit 0 v) (h.visit servient (v.rename ρ)) := by
  rw [visit_eq, visit_eq, f.input?, Option.toList_map]
  exact f.embeds.run fun i => input?_registers p 0 hv

theorem Fronts.visit (f : Fronts ρ b servient p h) (hv : v.registers = false) :
    Fronts ρ b servient (p.visit 0 v).1 (h.visit servient (v.rename ρ)).1 := by
  refine ⟨(f.mirrors hv).embeds, ?_⟩
  rw [enabledNumbers, enabledNumbers, visit_servients hv, visit_servients ((v.registers_rename ρ).trans hv)]
  exact f.enabled

section Many
variable {visits : List Visit}

theorem entries_registers (h : Host) (servient : Nat) (hv : ∀ v ∈ visits, v.registers = false) :
    ∀ i ∈ h.entries servient visits, i.registers = false := by
  induction visits generalizing h with
  | nil => exact fun i hi => absurd hi List.not_mem_nil
  | cons v rest ih =>
    intro i hi
    rcases List.mem_append.mp hi with hi | hi
    · exact input?_registers h servient (hv v List.mem_cons_self) hi
    · exact ih _ (fun w hw => hv w (List.mem_cons_of_mem v hw)) i hi

theorem Fronts.entries (f : Fronts ρ b servient p h) (hv : ∀ v ∈ visits, v.registers = false) :
    h.entries servient (visits.map (Visit.rename ρ)) = (p.entries 0 visits).map (Input.rename ρ) := by
  induction visits generalizing p h with
  | nil => rfl
  | cons v rest ih =>
    have hrest := ih (f.visit (hv v List.mem_cons_self)) fun w hw => hv w (List.mem_cons_of_mem v hw)
    simp only [List.map_cons, Host.entries, List.map_append, hrest, f.input?, Option.toList_map]

theorem Fronts.exchanges (f : Fronts ρ b servient p h) (hv : ∀ v ∈ visits, v.registers = false) :
    h.exchanges servient (visits.map (Visit.rename ρ)) = (p.exchanges 0 visits).map (Http.Exchange.rename ρ) := by
  induction visits generalizing p h with
  | nil => rfl
  | cons v rest ih =>
    have hrest := ih (f.visit (hv v List.mem_cons_self)) fun w hw => hv w (List.mem_cons_of_mem v hw)
    simp only [List.map_cons, Host.exchanges, List.map_append, hrest, f.exchange?, Option.toList_map]

theorem Embeds.response? (e : Embeds ρ b p h) (x : Http.Exchange) : (x.rename ρ).response? h = x.response? p := by
  cases x with
  | replied r => rfl
  | waits n kind method =>
    refine congrArg (Option.map _) ?_
    rw [settled?, settled?, e.call]
    cases p.calls[n]? with
    | none => rfl
    | some c =>
      obtain ⟨t, ask, accepted, progress⟩ := c
      cases progress <;> rfl

theorem Fronts.run (f : Fronts ρ b servient p h) (hv : ∀ v ∈ visits, v.registers = false) :
    Mirrors ρ b (p.run (p.entries 0 visits)) (h.run (h.entries servient (visits.map (Visit.rename ρ)))) := by
  rw [f.entries hv]
  exact f.embeds.run (entries_registers p 0 hv)

/-- A host replies as any part of it that has all that is enabled. -/
theorem Fronts.replies (f : Fronts ρ b servient p h) (hv : ∀ v ∈ visits, v.registers = false) :
    h.replies servient (visits.map (Visit.rename ρ)) = p.replies 0 visits := by
  rw [Host.replies, Host.replies, f.exchanges hv, List.map_map]
  exact List.map_congr_left fun x _ => (f.run hv).embeds.response? x

end Many

end Visits

/-! ### What is left alone -/

section Apart
variable {ρ : Naming} {b p h : Host} {t : Nat} {inputs : List Input}

theorem Embeds.untaken (e : Embeds ρ b p h) (hi : ∀ i ∈ inputs, i.registers = false) (ht : ∀ k, ρ.thing k ≠ t) :
    seen (taken? (.own t)) h (inputs.map (Input.rename ρ)) = [] := by
  induction inputs generalizing p h with
  | nil => rfl
  | cons i rest ih =>
    have hstep := e.step (hi i List.mem_cons_self)
    have hrest := ih hstep.embeds fun j hj => hi j (List.mem_cons_of_mem i hj)
    have hnone : taken? (.own t) h (i.rename ρ) = none := by
      rw [taken?, e.moveOn_eq_none (hi i List.mem_cons_self) ht]
    rw [List.map_cons, seen, hrest, hnone]
    rfl

/-- No handler is called for a call that bears none of the numbers. -/
theorem invoked_rename (ρ : Naming) {n : Nat} (hn : ∀ k, ρ.call k ≠ n) (out : List Output) :
    about n ((out.map (Output.rename ρ)).filterMap Output.invoked?) = [] := by
  refine List.filterMap_eq_nil_iff.mpr fun a ha => if_neg fun heq => ?_
  obtain ⟨o, ho, ha⟩ := List.mem_filterMap.mp ha
  obtain ⟨o, -, rfl⟩ := List.mem_map.mp ho
  cases o with
  | callHandler client k arguments =>
    cases ha
    exact hn k heq
  | _ => cases ha

theorem Embeds.unseen {earlier : List Input} (e : Embeds ρ (reached earlier) p (reached earlier))
    (hi : ∀ i ∈ inputs, i.registers = false) (ht : ∀ k, ρ.thing k ≠ t) :
    Unseen earlier (inputs.map (Input.rename ρ)) t := by
  have hrun := e.run hi
  have hafter := reached_append earlier (inputs.map (Input.rename ρ))
  refine ⟨?_, ?_, fun n c hc hthing => ?_⟩
  · rw [hafter]
    exact hrun.embeds.things.apart t ht
  · rw [published, seen_append]
    exact (congrArg _ (e.untaken hi ht)).trans (List.append_nil _)
  · rw [hafter] at hc
    -- Those calls that bear one of the numbers are made to Things that do.
    have hn : ∀ k, ρ.call k ≠ n := by
      rintro k rfl
      rw [hrun.embeds.call] at hc
      obtain ⟨made, -, rfl⟩ := Option.map_eq_some_iff.mp hc
      exact ht made.thing hthing
    refine ⟨(hrun.embeds.calls.apart n hn).symm.trans hc, ?_⟩
    rw [invocations, invocations, outputs_append, List.filterMap_append, Ledger.about_append, hrun.outputs,
      invoked_rename ρ hn, List.append_nil]

end Apart

/-! ### The front of a host -/

section Shown
variable {earlier : List Input} {servient t : Nat} {known : List Nat} {f : Front}

theorem enabledNumbers_cases (earlier : List Input) (servient : Nat) :
    (reached earlier).servients[servient]? = none ∧ (reached earlier).enabledNumbers servient = [] ∨
    ∃ s, (reached earlier).servients[servient]? = some s ∧ Servient.Orderly (reached earlier).things s ∧
      (reached earlier).enabledNumbers servient = s.enabledNumbers := by
  cases hs : (reached earlier).servients[servient]? with
  | none => exact .inl ⟨rfl, by simp [enabledNumbers, hs]⟩
  | some s => exact .inr ⟨s, rfl, orderly_reached earlier s (List.mem_of_getElem? hs), by simp [enabledNumbers, hs]⟩

theorem enabledNumbers_nodup (earlier : List Input) (servient : Nat) :
    ((reached earlier).enabledNumbers servient).Nodup := by
  rcases enabledNumbers_cases earlier servient with ⟨-, hnone⟩ | ⟨s, -, horder, hsome⟩
  · exact hnone ▸ List.nodup_nil
  · exact hsome ▸ horder.nodup

theorem thing_of_number (ht : t ∈ (reached earlier).enabledNumbers servient) :
    ∃ x, (reached earlier).things[t]? = some x := by
  rcases enabledNumbers_cases earlier servient with ⟨-, hnone⟩ | ⟨s, -, horder, hsome⟩
  · rw [hnone] at ht
    cases ht
  · exact horder.there (hsome ▸ ht)

/-- What is disabled is there, and not enabled. -/
theorem hidden_of_disabled {id : Value} (hget : (reached earlier).registered? servient id = some t)
    (hoff : (reached earlier).isEnabled servient id = false) :
    (∃ x, (reached earlier).things[t]? = some x) ∧ t ∉ (reached earlier).enabledNumbers servient := by
  obtain ⟨name, hname, hget⟩ := Option.bind_eq_some_iff.mp hget
  obtain ⟨s, hs, hget⟩ := Option.bind_eq_some_iff.mp hget
  have hoff : s.isEnabled name = false := by simpa [isEnabled, hname, hs] using hoff
  have horder := orderly_reached earlier s (List.mem_of_getElem? hs)
  obtain ⟨x, hx, -⟩ := horder.named name t hget
  refine ⟨⟨x, hx⟩, ?_⟩
  simpa [enabledNumbers, hs] using horder.disabled hget hoff

theorem found_of_there {things : List ExposedThing} {numbers : List Nat} (h : ∀ t ∈ numbers, ∃ x, things[t]? = some x) :
    numbers.map (things[·]?) = ((numbers.filterMap fun t => things[t]?.map (t, ·)).map (·.2)).map some := by
  induction numbers with
  | nil => rfl
  | cons t rest ih =>
    obtain ⟨x, hx⟩ := h t List.mem_cons_self
    have hrest := ih fun u hu => h u (List.mem_cons_of_mem t hu)
    simp [hx, hrest]

theorem Shows.numbers (hs : Shows (reached earlier) servient known f) :
    ((reached earlier).enabledNumbers servient).map ((reached earlier).things[·]?) = f.enabled.map some := by
  rw [found_of_there fun t ht => thing_of_number ht, ← enabledThingsOf_eq, hs.enabled]

theorem front_numbers (f : Front) : f.host.enabledNumbers 0 = List.range f.enabled.length := by
  have hall : (f.enabled.zipIdx.map fun e => (e.1.id, e.2)).filter (fun e => (f.enabled.map (·.id)).contains e.1) =
      f.enabled.zipIdx.map fun e => (e.1.id, e.2) := by
    refine List.filter_eq_self.mpr fun e he => ?_
    obtain ⟨⟨x, k⟩, hx, rfl⟩ := List.mem_map.mp he
    simpa using ⟨x, List.fst_mem_of_mem_zipIdx hx, rfl⟩
  have hnumbers : f.host.enabledNumbers 0 = ((f.enabled.zipIdx.map fun e => (e.1.id, e.2)).filter
      fun e => (f.enabled.map (·.id)).contains e.1).map (·.2) := rfl
  rw [hnumbers, hall, List.map_map, List.range_eq_range']
  exact List.zipIdx_map_snd 0 f.enabled

theorem Shows.fronts (hs : Shows (reached earlier) servient known f) :
    Fronts (naming (reached earlier) servient known) (reached earlier) servient f.host (reached earlier) := by
  have hlen : ((reached earlier).enabledNumbers servient).length = f.enabled.length := by
    simpa using congrArg List.length hs.numbers
  refine ⟨⟨Carries.start ?_ ?_, Carries.start List.nodup_nil rfl, Carries.start List.nodup_nil rfl, hs.buses, hs.queue,
    hs.stack, hs.clock⟩, ?_⟩
  · exact List.nodup_append.mpr ⟨enabledNumbers_nodup earlier servient, hs.distinct,
      fun t ht u hu heq => hs.apart u hu (heq ▸ ht)⟩
  · exact (List.map_append ..).trans ((congr (congrArg _ hs.numbers) hs.there).trans (List.map_append ..).symm)
  -- The first of the given numbers are those of the enabled Things, in their order.
  · rw [front_numbers]
    refine List.ext_getElem (by simpa using hlen) fun k hk _ => ?_
    rw [List.getElem_map, List.getElem_range]
    show _ = Naming.counting _ _ k
    rw [Naming.counting_lt (by rw [List.length_append]; omega), List.getElem_append_left hk]

/-- What is not shown bears none of the numbers. -/
theorem apart_of_hidden {x : ExposedThing} (hx : (reached earlier).things[t]? = some x)
    (hoff : t ∉ (reached earlier).enabledNumbers servient) (hknown : t ∉ known) (k : Nat) :
    (naming (reached earlier) servient known).thing k ≠ t := by
  intro heq
  have heq : Naming.counting ((reached earlier).enabledNumbers servient ++ known) (reached earlier).things.length k = t :=
    heq
  obtain ⟨hlt, -⟩ := List.getElem?_eq_some_iff.mp hx
  rcases Nat.lt_or_ge k ((reached earlier).enabledNumbers servient ++ known).length with hk | hk
  · rw [Naming.counting_lt hk] at heq
    rcases List.mem_append.mp (heq ▸ List.getElem_mem hk) with h | h
    · exact hoff h
    · exact hknown h
  · rw [Naming.counting_ge hk] at heq
    omega

theorem Shows.spares (hs : Shows (reached earlier) servient known f) {visits : List Visit}
    (hv : ∀ v ∈ visits, v.registers = false) : Spares earlier servient known visits := by
  have hunseen : ∀ t x, (reached earlier).things[t]? = some x → t ∉ (reached earlier).enabledNumbers servient →
      t ∉ known → Unseen earlier (entered earlier servient known visits) t := by
    intro t x hx hoff hknown
    rw [entered, called, hs.fronts.entries hv]
    exact hs.fronts.embeds.unseen (entries_registers f.host 0 hv) (apart_of_hidden hx hoff hknown)
  refine ⟨fun id t hget hoff hknown => ?_, hunseen⟩
  obtain ⟨⟨x, hx⟩, hout⟩ := hidden_of_disabled hget hoff
  exact hunseen t x hx hout hknown

end Shown

/-! ### The law -/

section Law
variable {first second : List Input} {servient : Nat} {known₁ known₂ : List Nat} {f : Front} {visits : List Visit}

/-- What is not shown makes no difference to those who visit a host, and they make none to it. -/
theorem invisible_law (h₁ : Shows (reached first) servient known₁ f) (h₂ : Shows (reached second) servient known₂ f)
    (hv : ∀ v ∈ visits, v.registers = false) : Alike first second servient known₁ known₂ visits where
  replies := (h₁.fronts.replies hv).trans (h₂.fronts.replies hv).symm
  outputs := ⟨_, (h₁.fronts.run hv).outputs, (h₂.fronts.run hv).outputs⟩
  first := h₁.spares hv
  second := h₂.spares hv

/-- The porch, with another bell of the same name, registered first but never enabled. -/
def decoy : List Input :=
  [ .operate (.newThing 0 "urn:decoy" "Porch Bell" none),
    .operate (.add 0 .action (.string "ring") .undefined (some 8)),
    .operate (.register 0 0),
    .operate (.newThing 0 "urn:bell" "Porch Bell" none),
    .operate (.add 1 .action (.string "ring") .undefined (some 7)),
    .operate (.register 0 1),
    .operate (.expose 1) ]

/-- What both show. -/
def porchFront : Front := ⟨((reached porch).enabledThingsOf 0).map (·.2), [], [], 0⟩

/-- The bell is rung, and its handler is done. -/
def rung : List Visit := [.request ring, .input (.reply (.done .null)), .input .tick]

theorem decoy_invisible : Shows (reached porch) 0 [] porchFront ∧ Shows (reached decoy) 0 [] porchFront ∧
    Alike porch decoy 0 [] [] rung ∧
    (reached decoy).registered? 0 (.string "urn:decoy") = some 0 ∧
    (reached decoy).isEnabled 0 (.string "urn:decoy") = false ∧
    (reached decoy).replies 0 (called decoy 0 [] rung) =
      [some ⟨200, some Http.jsonType, Json.write (.object [("result", .null)])⟩] := by
  have h₁ : Shows (reached porch) 0 [] porchFront :=
    ⟨rfl, rfl, List.nodup_nil, fun t ht => (by cases ht), rfl, rfl, rfl, rfl⟩
  have h₂ : Shows (reached decoy) 0 [] porchFront :=
    ⟨rfl, rfl, List.nodup_nil, fun t ht => (by cases ht), rfl, rfl, rfl, rfl⟩
  exact ⟨h₁, h₂, invisible_law h₁ h₂ (by decide), rfl, rfl, by decide +kernel⟩

end Law

end Host
end ThingHost
