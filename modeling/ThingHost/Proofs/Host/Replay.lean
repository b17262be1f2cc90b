import ThingHost.Proofs.Bus.Newcomer
import ThingHost.Proofs.Exposed.Description
import ThingHost.Proofs.Host.Past

/-! Whoever is told of description changes knows what a Thing declares. Declaring and withdrawing take effect at
    once, also in the middle of a delivery, and their announcements wait; but each says what the Thing declared
    when it was made, so that they can be followed one after another. -/

namespace ThingHost

/-- What is announced of a deed that changes what a Thing declares; the document is that of the Thing after it. -/
def Deed.news? (description : Value) : Deed → Option Event
  | .declared i definition _ => some (.notification .descriptionChange
      [("changeType", Host.changeType i.kind), ("method", .string "add"), ("name", .string i.name), ("data", definition),
        ("description", description)])
  | .withdrawn i => some (.notification .descriptionChange
      [("changeType", Host.changeType i.kind), ("method", .string "remove"), ("name", .string i.name)])
  | _ => none

namespace Host

/-- What an observer reads of a description change: what was done, and the kind and the name of the interaction. -/
structure ReadsAs (e : Event) (method : String) (kind : InteractionKind) (name : String) : Prop where
  type : e.typeName = "descriptionchange"
  method : e.data.member "method" = .string method
  changeType : e.data.member "changeType" = Host.changeType kind
  name : e.data.member "name" = .string name

/-- Following description changes leads from one list of interactions to another. What is added has a name that
    is not in the list yet, and its document names just what is in the list from then on; what is removed is in
    the list, with its kind. -/
inductive Replay : List (InteractionKind × String) → List Event → List (InteractionKind × String) → Prop where
  | done (listed : List (InteractionKind × String)) : Replay listed [] listed
  | added {listed last : List (InteractionKind × String)} {kind : InteractionKind} {name : String} {e : Event}
      {events : List Event} (reads : ReadsAs e "add" kind name) (fresh : ∀ k, (k, name) ∉ listed)
      (document : Thing.Documents (e.data.member "description") (listed ++ [(kind, name)]))
      (rest : Replay (listed ++ [(kind, name)]) events last) : Replay listed (e :: events) last
  | removed {listed last : List (InteractionKind × String)} {kind : InteractionKind} {name : String} {e : Event}
      {events : List Event} (reads : ReadsAs e "remove" kind name) (there : (kind, name) ∈ listed)
      (rest : Replay (listed.erase (kind, name)) events last) : Replay listed (e :: events) last

section Replay
variable {a b c : List (InteractionKind × String)} {events more : List Event}

theorem Replay.append (h : Replay a events b) (hmore : Replay b more c) : Replay a (events ++ more) c := by
  induction h with
  | done => exact hmore
  | added reads fresh document rest ih => exact .added reads fresh document (ih hmore)
  | removed reads there rest ih => exact .removed reads there (ih hmore)

theorem Replay.take (h : Replay a events c) (hpre : more <+: events) : ∃ b, Replay a more b := by
  induction h generalizing more with
  | done l =>
    obtain rfl := List.prefix_nil.mp hpre
    exact ⟨l, .done l⟩
  | added reads fresh document rest ih =>
    cases more with
    | nil => exact ⟨_, .done _⟩
    | cons e more =>
      obtain ⟨rfl, hmore⟩ := List.cons_prefix_cons.mp hpre
      obtain ⟨b, hb⟩ := ih hmore
      exact ⟨b, .added reads fresh document hb⟩
  | removed reads there rest ih =>
    cases more with
    | nil => exact ⟨_, .done _⟩
    | cons e more =>
      obtain ⟨rfl, hmore⟩ := List.cons_prefix_cons.mp hpre
      obtain ⟨b, hb⟩ := ih hmore
      exact ⟨b, .removed reads there hb⟩

end Replay

/-! ### One step -/

section Step
variable {h : Host} {t : Nat} {x y : ExposedThing} {deeds : List Deed}

theorem withdrawn_listed (htidy : ExposedThing.Tidy x) {i : Interaction} (hi : i ∈ x.thing.interactions) :
    (x.thing.remove i.name).listed = x.thing.listed.erase (i.kind, i.name) := by
  have hnodup : x.thing.listed.Nodup := by
    refine List.Nodup.of_map Prod.snd ?_
    rw [Thing.listed, List.map_map]
    exact htidy.names
  rw [hnodup.erase_eq_filter, Thing.listed, Thing.listed, Thing.remove, List.filter_map]
  congr 1
  refine List.filter_congr fun j hj => ?_
  by_cases hn : j.name = i.name
  · obtain rfl := htidy.eq_of_name hj hi hn
    simp
  · simp [hn]

/-- What is done to a Thing can be followed. -/
theorem replay_does (htidy : ExposedThing.Tidy x) (hd : x.Does deeds y) :
    Replay x.thing.listed (deeds.filterMap (Deed.news? y.thing.toDescription)) y.thing.listed := by
  have hnames := (htidy.does hd).names
  cases hd with
  | @declared kind s parsed handler fresh =>
    have hlisted : (x.declared kind s parsed handler).thing.listed = x.thing.listed ++ [(kind, s)] := by
      simp only [ExposedThing.declared, Thing.listed, List.map_append, List.map_cons, List.map_nil, interactionOf_kind]
      rfl
    have hfresh : ∀ k, (k, s) ∉ x.thing.listed := by
      intro k hmem
      obtain ⟨i, hi, heq⟩ := List.mem_map.mp hmem
      have hnone := List.find?_eq_none.mp (Option.isNone_iff_eq_none.mp (Option.isSome_eq_false_iff.mp fresh)) i hi
      exact hnone (by simpa using congrArg Prod.snd heq)
    have hdoc := Thing.documents (x.declared kind s parsed handler).thing hnames
    rw [hlisted] at hdoc ⊢
    simp only [List.filterMap_cons, List.filterMap_nil, Deed.news?, interactionOf_kind]
    exact .added ⟨rfl, rfl, rfl, rfl⟩ hfresh hdoc (.done _)
  | @withdrawn i there =>
    rw [withdrawn_listed htidy there]
    exact .removed ⟨rfl, rfl, rfl, rfl⟩ (List.mem_map_of_mem there) (.done _)
  | _ => exact .done _

theorem add_news (hx : h.things[t]? = some x) (t' : Nat) (kind : InteractionKind) (name definition : Value)
    (handler : Option Nat) (hy : (h.step (.operate (.add t' kind name definition handler))).1.things[t]? = some y) :
    ((success? t h (.operate (.add t' kind name definition handler))).map (·.2)).toList.filter (·.isDescriptionChange) =
      (Host.deeds t h (.operate (.add t' kind name definition handler))).filterMap (Deed.news? y.thing.toDescription) := by
  have hstep : h.step (.operate (.add t' kind name definition handler)) =
      h.operate (.add t' kind name definition handler) := rfl
  simp only [success?, Host.deeds, Operation.changes?, Option.some.injEq, hx, hy, ← hstep]
  by_cases hc : t' = t ∧ clean (h.step (.operate (.add t' kind name definition handler))) = true
  · rw [if_pos hc, if_pos hc]
    cases name with
    | string s =>
      cases hp : ExposedThing.parsed? kind (.string s) definition with
      | none => simp [ExposedThing.deed?, Value.asText?, hp]
      | some parsed =>
        simp [ExposedThing.deed?, Value.asText?, hp, Deed.news?, interactionOf_kind, Event.isDescriptionChange]
        rfl
    | _ => simp [ExposedThing.deed?, Value.asText?]
  · rw [if_neg hc, if_neg hc]
    rfl

theorem remove_news (hx : h.things[t]? = some x) (t' : Nat) (kind : InteractionKind) (name description : Value) :
    ((success? t h (.operate (.remove t' kind name))).map (·.2)).toList.filter (·.isDescriptionChange) =
      (Host.deeds t h (.operate (.remove t' kind name))).filterMap (Deed.news? description) := by
  obtain ⟨hlt, -⟩ := List.getElem?_eq_some_iff.mp hx
  have hstep : h.step (.operate (.remove t' kind name)) = h.operate (.remove t' kind name) := rfl
  simp only [success?, Host.deeds, Operation.changes?, Option.some.injEq, hx, hlt, true_and, ← hstep]
  by_cases hc : t' = t ∧ clean (h.step (.operate (.remove t' kind name))) = true
  · rw [if_pos hc, if_pos hc]
    obtain ⟨rfl, hclean⟩ := hc
    rw [hstep, operate_remove hx, announce_clean] at hclean
    rcases hr : (x.remove kind name).mapError Thrown.ofRefusal with e | r
    · rw [hr] at hclean
      cases hclean
    · obtain ⟨j, hj, -⟩ := ExposedThing.remove_eq_ok.mp (ExposedThing.mapError_eq_ok.mp hr)
      have hfind := ExposedThing.findKind?_of_require hj
      obtain rfl := ExposedThing.name_of_require hj
      obtain ⟨-, rfl⟩ := ExposedThing.mem_of_findKind? hfind
      simp [ExposedThing.deed?, Value.asText?, hfind, Deed.news?, Event.isDescriptionChange]
  · rw [if_neg hc, if_neg hc]
    rfl

/-- What a bus takes in a step of what changes the description is what is done to the Thing in the step. -/
theorem taken?_news (hopen : (h.bus (.own t)).completed = false)
    (there : ∀ (n : Nat) (c : Call), h.calls[n]? = some c → (h.bus? (.own c.thing)).isSome)
    (hx : h.things[t]? = some x) {i : Input} (hy : (h.step i).1.things[t]? = some y) :
    (taken? (.own t) h i).toList.filter (·.isDescriptionChange) =
      (Host.deeds t h i).filterMap (Deed.news? y.thing.toDescription) := by
  obtain ⟨hlt, -⟩ := List.getElem?_eq_some_iff.mp hx
  rw [taken?_eq hopen there]
  cases i with
  | operate op =>
    cases op with
    | add t' kind name definition handler => exact add_news hx t' kind name definition handler hy
    | remove t' kind name => exact remove_news hx t' kind name _
    | emit t' name payload =>
      simp only [success?, Host.deeds, Operation.changes?, reduceCtorEq, false_and, ↓reduceIte, List.filterMap_nil]
      split <;> rfl
    | produce servient definition freshId =>
      have hne : ¬(t = h.things.length ∧ t < (h.produce servient definition freshId).1.things.length) :=
        fun hc => Nat.ne_of_lt hlt hc.1
      simp [success?, Host.deeds, hne]
    | setHandler t' kind handler name =>
      simp only [success?, Host.deeds, hx]
      split <;> rfl
    | call t' ask =>
      simp only [success?, Host.deeds, hx]
      split
      · cases ask with
        | write property v =>
          simp only [Option.bind_some, ExposedThing.deed?]
          cases (x.thing.findKind? .property property).filter (·.writable) <;> rfl
        | _ => rfl
      · rfl
    | _ => simp [success?, Host.deeds, Operation.changes?]
  | tick =>
    -- A call that goes on changes no description.
    refine List.filter_eq_nil_iff.mpr fun e he => ?_
    obtain ⟨⟨n, e⟩, hs, rfl⟩ := Option.map_eq_some_iff.mp (Option.mem_toList.mp he)
    cases succeeds hs with
    | @resumed n v queue c e stack first call thing announced =>
      cases hask : c.ask <;> rw [hask] at announced <;> cases announced <;> exact Bool.false_ne_true
  | _ => rfl

end Step

/-! ### A run -/

section Run
variable {earlier later : List Input} {t : Nat} {x y : ExposedThing}

/-- As long as the bus is open, the description changes that it takes can be followed, and lead to what the Thing
    declares. -/
theorem replay_published (hx : (reached earlier).things[t]? = some x) (later : List Input)
    (hopen : ((reached (earlier ++ later)).bus (.own t)).completed = false) :
    ∃ y, (reached (earlier ++ later)).things[t]? = some y ∧ Replay x.thing.listed
      ((seen (taken? (.own t)) (reached earlier) later).filter (·.isDescriptionChange)) y.thing.listed := by
  induction later using List.reverseRecOn with
  | nil => exact ⟨x, by simpa using hx, .done _⟩
  | append_singleton later i ih =>
    rw [← List.append_assoc] at hopen
    have hbefore := open_before hopen
    obtain ⟨y, hy, hreplay⟩ := ih hbefore
    obtain ⟨z, b, hd, hz⟩ := step_does hy i
    have hnews := taken?_news hbefore (fun n c hc => call_there hc) hy hz
    refine ⟨{ z with bus := b }, ?_, ?_⟩
    · rw [← List.append_assoc, reached_snoc]
      exact hz
    · rw [seen_concat, ← reached_append, List.filter_append, hnews]
      have hstep := replay_does (tidy_reached hy) hd
      exact hreplay.append hstep

end Run

/-! ### The law -/

/-- Subscribing to the description changes of a Thing. -/
def watch (t client : Nat) (completes : Bool) : Input := .operate (.subscribe (.topic t .description) client completes)

/-- The subscription that this makes. -/
def watcher (id client : Nat) (completes : Bool) : Sink Listener :=
  ⟨id, ExposedThing.screenBy fun e => .ok e.isDescriptionChange, completes, .client client⟩

theorem wants_watcher (id client : Nat) (completes : Bool) :
    Bus.wants (watcher id client completes) = Event.isDescriptionChange := by
  funext e
  refine Bool.eq_iff_iff.mpr ((wants_iff _ _ _ _ e).trans ?_)
  simp

/-- The description changes that a subscription has received can be followed from what the Thing `x` declares. -/
structure Replays (t : Nat) (x : ExposedThing) (s : SubscriptionRef) (inputs : List Input) : Prop where
  always : ∃ listed, Replay x.thing.listed (received s inputs) listed
  /-- When no event is being handed out they lead to what the Thing declares by now, if the subscription has not
      been closed. -/
  current : delivering (.own t) (reached inputs) = false → (reached inputs).isClosed s = false →
    ∃ y, (reached inputs).things[t]? = some y ∧ Replay x.thing.listed (received s inputs) y.thing.listed

section Law
variable {earlier later : List Input} {t client : Nat} {completes : Bool} {x : ExposedThing} {s : SubscriptionRef}

theorem watch_eq (hx : (reached earlier).things[t]? = some x) (hopen : ((reached earlier).bus (.own t)).completed = false)
    (client : Nat) (completes : Bool) : ((reached earlier).step (watch t client completes)).2 =
      [.returned (.ok (.subscription ⟨.own t, ((reached earlier).bus (.own t)).nextId⟩))] := by
  have hbus : (reached earlier).bus (.own t) = x.bus := by simp [Host.bus, bus?, hx]
  rw [hbus] at hopen ⊢
  have hb : (reached earlier).bus? (.own t) = some x.bus := by simp [bus?, hx]
  have hstep : (reached earlier).step (watch t client completes) = (reached earlier).attach (.own t)
      (ExposedThing.screenBy fun e => .ok e.isDescriptionChange) completes (.client client) := by
    simp [watch, step, operate, subscribe, withThing, hx, ExposedThing.screen]
  rw [hstep]
  simp [Host.attach, hb, hopen, returns, Bus.attach]

/-- What the watcher of a Thing has received is what the bus has taken since then of what changes the
    description, up to some event, and all of it when nothing is being delivered. -/
theorem received_of_watch (hx : (reached earlier).things[t]? = some x)
    (hidle : delivering (.own t) (reached earlier) = false)
    (hopen : ((reached (earlier ++ watch t client completes :: later)).bus (.own t)).completed = false)
    (hs : s = ⟨.own t, ((reached earlier).bus (.own t)).nextId⟩) :
    let news := (seen (taken? (.own t)) (reached (earlier ++ [watch t client completes])) later).filter
      (·.isDescriptionChange)
    received s (earlier ++ watch t client completes :: later) <+: news ∧
      (delivering (.own t) (reached (earlier ++ watch t client completes :: later)) = false →
        (reached (earlier ++ watch t client completes :: later)).isClosed s = false →
        received s (earlier ++ watch t client completes :: later) = news) := by
  subst hs
  intro news
  have hmove : moveOn (.own t) (reached earlier) (watch t client completes) = some (.attach
      (ExposedThing.screenBy fun e => .ok e.isDescriptionChange) completes (.client client)) := by
    simp [moveOn, on_eq_some, move?, asks?, watch, hx, ExposedThing.screen]
  have hsplit : earlier ++ watch t client completes :: later = earlier ++ [watch t client completes] ++ later := by simp
  have hrecord : record (.own t) (earlier ++ watch t client completes :: later) =
      ((record (.own t) earlier).step (.attach (ExposedThing.screenBy fun e => .ok e.isDescriptionChange) completes
        (.client client))).run (seen (moveOn (.own t)) (reached (earlier ++ [watch t client completes])) later) := by
    rw [hsplit, record_append, record_snoc, hmove]
  have hnow : ((record (.own t) earlier).live.bus).completed = false := by
    rw [record_bus]
    exact open_before hopen
  have hrest := at_rest hidle
  rw [← record_bus, ← record_published] at hrest
  obtain ⟨more, hmore, hpre, hall⟩ := Bus.received_of_newcomer (record_sound (.own t) earlier) hnow hrest
    (s := watcher ((reached earlier).bus (.own t)).nextId client completes) (by rw [record_bus]; rfl) _ hrecord
  -- What was published since then is what the bus has taken since then.
  have hpub : published (.own t) (earlier ++ watch t client completes :: later) = published (.own t) earlier ++
      seen (taken? (.own t)) (reached (earlier ++ [watch t client completes])) later := by
    have hnone : taken? (.own t) (reached earlier) (watch t client completes) = none := by simp only [taken?, hmove]
    rw [published, published, seen_cons, hnone]
    rfl
  rw [record_published, record_published, hpub, List.append_cancel_left_eq] at hmore
  rw [wants_watcher, ← hmore] at hpre hall
  rw [record_bus] at hall
  refine ⟨?_, fun hquiet hstays => ?_⟩
  · rw [received_eq]
    exact hpre
  · rw [received_eq]
    rw [isClosed_eq] at hstays
    exact hall (at_rest hquiet).draining hopen fun hcl =>
      Bool.false_ne_true (hstays.symm.trans (List.contains_iff_mem.mpr hcl))

/-- Until a Thing is destroyed, whoever starts watching its description while nothing is being delivered can
    follow it. -/
theorem replay_law (hx : (reached earlier).things[t]? = some x)
    (hidle : delivering (.own t) (reached earlier) = false)
    (hs : .returned (.ok (.subscription s)) ∈ ((reached earlier).step (watch t client completes)).2)
    (hopen : ((reached (earlier ++ watch t client completes :: later)).bus (.own t)).completed = false) :
    Replays t x s (earlier ++ watch t client completes :: later) := by
  rw [watch_eq hx (open_before hopen)] at hs
  have hs : s = ⟨.own t, ((reached earlier).bus (.own t)).nextId⟩ := by simpa using hs
  obtain ⟨hpre, hall⟩ := received_of_watch hx hidle hopen hs
  obtain ⟨y, b, hd, hy⟩ := step_does hx (watch t client completes)
  have hsame : x = y := by
    have hquiet : deeds t (reached earlier) (watch t client completes) = [] := by
      simp [deeds, watch, Operation.changes?]
    rw [hquiet] at hd
    cases hd
    rfl
  subst hsame
  rw [← reached_snoc] at hy
  have hsplit : earlier ++ watch t client completes :: later = earlier ++ [watch t client completes] ++ later := by simp
  obtain ⟨z, hz, hreplay⟩ := replay_published hy later (hsplit ▸ hopen)
  refine ⟨hreplay.take hpre, fun hquiet hstays => ⟨z, hsplit ▸ hz, ?_⟩⟩
  rw [hall hquiet hstays]
  exact hreplay

/-- A garden with a sun. -/
def garden : List Input :=
  [ .operate (.newThing 0 "garden" "Garden" none),
    .operate (.add 0 .property (.string "sun") .undefined none) ]

/-- Told that there is rain, the watcher withdraws the sun, and declares it again as something that happens. -/
def weather : List Input :=
  [ .operate (.add 0 .action (.string "rain") .undefined none),
    .operate (.remove 0 .property (.string "sun")),
    .operate (.add 0 .event (.string "sun") .undefined none),
    .reply (.done .undefined),
    .reply (.threw (.failure "Error" "clouds")),
    .reply (.done .undefined) ]

theorem garden_replays : let inputs := garden ++ watch 0 3 true :: weather
    ∃ x y, (reached garden).things[0]? = some x ∧ x.thing.listed = [(.property, "sun")] ∧
      Replays 0 x ⟨.own 0, 1⟩ inputs ∧ (reached inputs).things[0]? = some y ∧
      y.thing.listed = [(.action, "rain"), (.event, "sun")] ∧
      received ⟨.own 0, 1⟩ inputs =
        [ .notification .descriptionChange
            [("changeType", .string "action"), ("method", .string "add"), ("name", .string "rain"), ("data", .object []),
              ("description", .object
                [("@context", .string "https://www.w3.org/2019/wot/td/v1"), ("id", .string "garden"),
                  ("name", .string "Garden"),
                  ("properties", .object [("sun", .object [("writable", .bool true), ("observable", .bool true)])]),
                  ("actions", .object [("rain", .object [])]), ("events", .object [])])],
          .notification .descriptionChange
            [("changeType", .string "property"), ("method", .string "remove"), ("name", .string "sun")],
          .notification .descriptionChange
            [("changeType", .string "event"), ("method", .string "add"), ("name", .string "sun"), ("data", .object []),
              ("description", .object
                [("@context", .string "https://www.w3.org/2019/wot/td/v1"), ("id", .string "garden"),
                  ("name", .string "Garden"), ("properties", .object []), ("actions", .object [("rain", .object [])]),
                  ("events", .object [("sun", .object [])])])] ] := by
  refine ⟨_, _, by rfl, by rfl, ?_, by rfl, by rfl, by rfl⟩
  exact replay_law (by rfl) (by rfl) List.mem_cons_self (by rfl)

end Law

end Host
end ThingHost
