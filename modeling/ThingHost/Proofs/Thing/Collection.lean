import Mathlib.Data.List.Nodup
import ThingHost.Thing.Request

/-! A Thing keeps its interactions as a list without two of one name. What it replies to any requests, one after
    another, is what such a list replies: a new interaction goes to its end unless its name is taken, the one of a
    name is taken out and given back, and every reader tells the same of it. -/

namespace ThingHost.Thing

/-- No two interactions have one name. -/
def Distinct (interactions : List Interaction) : Prop := (interactions.map (·.name)).Nodup

/-! ### The list -/

/-- What a list of interactions replies to a request, and which list it is then. -/
inductive Replies : List Interaction → Request → Reply → List Interaction → Prop where
  | added {l : List Interaction} {i : Interaction} (free : ∀ j ∈ l, j.name ≠ i.name) :
      Replies l (.add i) .done (l ++ [i])
  /-- A name is taken by an interaction of whichever kind. -/
  | taken {l : List Interaction} {i j : Interaction} (there : j ∈ l) (same : j.name = i.name) :
      Replies l (.add i) (.refused (.duplicateInteraction i.name)) l
  | removed {before after : List Interaction} {i : Interaction} :
      Replies (before ++ i :: after) (.remove i.name) (.found (some i)) (before ++ after)
  | spared {l : List Interaction} {name : String} (absent : ∀ i ∈ l, i.name ≠ name) :
      Replies l (.remove name) (.found none) l
  | found {l : List Interaction} {i : Interaction} (there : i ∈ l) : Replies l (.find i.name) (.found (some i)) l
  | missed {l : List Interaction} {name : String} (absent : ∀ i ∈ l, i.name ≠ name) :
      Replies l (.find name) (.found none) l
  | foundKind {l : List Interaction} {i : Interaction} (there : i ∈ l) :
      Replies l (.findKind i.kind i.name) (.found (some i)) l
  /-- What has the name, if anything, is of another kind. -/
  | missedKind {l : List Interaction} {kind : InteractionKind} {name : String}
      (absent : ∀ i ∈ l, i.name = name → i.kind ≠ kind) : Replies l (.findKind kind name) (.found none) l
  | listed {l : List Interaction} : Replies l (.list none) (.listed l) l
  | listedKind {l part : List Interaction} {kind : InteractionKind} (order : part.Sublist l)
      (members : ∀ i ∈ l, i ∈ part ↔ i.kind = kind) : Replies l (.list (some kind)) (.listed part) l

/-- What a list of interactions replies to requests, one after another, and which list it is at the end. -/
inductive RepliesAll : List Interaction → List Request → List Reply → List Interaction → Prop where
  | nil {l : List Interaction} : RepliesAll l [] [] l
  | cons {l m n : List Interaction} {r : Request} {rest : List Request} {reply : Reply} {replies : List Reply}
      (first : Replies l r reply m) (others : RepliesAll m rest replies n) :
      RepliesAll l (r :: rest) (reply :: replies) n

/-! ### Lists without two of one name -/

section Lists
variable {l part : List Interaction} {i : Interaction} {name : String}

theorem find?_of_mem (h : Distinct l) (hi : i ∈ l) : l.find? (·.name = i.name) = some i := by
  cases hf : l.find? (·.name = i.name) with
  | none =>
    have hne := List.find?_eq_none.mp hf i hi
    simp at hne
  | some j =>
    have hj : j.name = i.name := by simpa using List.find?_some hf
    rw [List.inj_on_of_nodup_map h (List.mem_of_find?_eq_some hf) hi hj]

theorem find?_of_absent (h : ∀ i ∈ l, i.name ≠ name) : l.find? (·.name = name) = none :=
  List.find?_eq_none.mpr fun i hi => by simpa using h i hi

theorem filter_of_absent (h : ∀ i ∈ l, i.name ≠ name) : l.filter (·.name ≠ name) = l :=
  List.filter_eq_self.mpr fun i hi => by simpa using h i hi

/-- Whoever has a name is the only one who is taken out with it. -/
theorem filter_of_distinct {before after : List Interaction} (h : Distinct (before ++ i :: after)) :
    (before ++ i :: after).filter (·.name ≠ i.name) = before ++ after := by
  have hperm : (i.name :: (before ++ after).map (·.name)).Nodup := by
    refine (List.Perm.nodup_iff ?_).mp h
    rw [List.map_append, List.map_cons, List.map_append]
    exact List.perm_middle
  have habsent : ∀ j ∈ before ++ after, j.name ≠ i.name := fun j hj hname =>
    (List.nodup_cons.mp hperm).1 (List.mem_map.mpr ⟨j, hj, hname⟩)
  rw [List.filter_append, List.filter_cons_of_neg (by simp), ← List.filter_append, filter_of_absent habsent]

theorem distinct_concat (h : Distinct l) (free : ∀ j ∈ l, j.name ≠ i.name) : Distinct (l ++ [i]) := by
  rw [Distinct, List.map_append]
  refine List.nodup_append.mpr ⟨h, List.nodup_singleton _, ?_⟩
  intro a ha b hb hab
  obtain ⟨j, hj, rfl⟩ := List.mem_map.mp ha
  exact free j hj (hab.trans (List.mem_singleton.mp hb))

/-- A part of the list that has just the interactions of a kind, in the order of the list, is what a filter leaves. -/
theorem part_eq {kind : InteractionKind} (h : Distinct l) (order : part.Sublist l)
    (members : ∀ i ∈ l, i ∈ part ↔ i.kind = kind) : part = l.filter (·.kind = kind) := by
  have hpart : part.filter (·.kind = kind) = part :=
    List.filter_eq_self.mpr fun i hi => by simpa using (members i (order.subset hi)).mp hi
  have hsub : part.Sublist (l.filter (·.kind = kind)) := by
    have hfilter := order.filter (·.kind = kind)
    rwa [hpart] at hfilter
  have hnodup : l.Nodup := List.Nodup.of_map _ h
  -- A sublist of the same length is the whole list.
  have hperm : part.Perm (l.filter (·.kind = kind)) := by
    refine (List.perm_ext_iff_of_nodup (order.nodup hnodup) (hnodup.filter _)).mpr fun i => ⟨(hsub.subset ·), ?_⟩
    intro hi
    obtain ⟨hin, hkind⟩ := List.mem_filter.mp hi
    exact (members i hin).mpr (by simpa using hkind)
  exact hsub.eq_of_length hperm.length_eq

end Lists

/-! ### One request -/

section Step
variable {t : Thing} {r : Request} {reply : Reply} {l : List Interaction}

theorem add_of_free {i : Interaction} (h : ∀ j ∈ t.interactions, j.name ≠ i.name) :
    t.add i = .ok { t with interactions := t.interactions ++ [i] } := by
  rw [add, find?, find?_of_absent h]
  rfl

theorem add_of_taken {i j : Interaction} (hj : j ∈ t.interactions) (h : j.name = i.name) :
    t.add i = .error (.duplicateInteraction i.name) := by
  have hfound : (t.find? i.name).isSome := by
    rw [find?, List.find?_isSome]
    exact ⟨j, hj, by simpa using h⟩
  rw [add, if_pos hfound]

/-- The Thing's own reply is one that its list has. -/
theorem replies_serve (h : Distinct t.interactions) (r : Request) :
    Replies t.interactions r (t.serve r).2 (t.serve r).1.interactions := by
  have absent : ∀ {name : String}, t.find? name = none → ∀ i ∈ t.interactions, i.name ≠ name := by
    intro name hf i hi
    simpa using List.find?_eq_none.mp hf i hi
  cases r with
  | add i =>
    by_cases htaken : ∃ j ∈ t.interactions, j.name = i.name
    · obtain ⟨j, hj, hname⟩ := htaken
      rw [serve, add_of_taken hj hname]
      exact .taken hj hname
    · have hfree : ∀ j ∈ t.interactions, j.name ≠ i.name := fun j hj hname => htaken ⟨j, hj, hname⟩
      rw [serve, add_of_free hfree]
      exact .added hfree
  | remove name =>
    show Replies t.interactions _ (.found (t.find? name)) (t.interactions.filter (·.name ≠ name))
    cases hf : t.find? name with
    | none =>
      rw [filter_of_absent (absent hf)]
      exact .spared (absent hf)
    | some i =>
      obtain rfl : i.name = name := by simpa using List.find?_some hf
      obtain ⟨before, after, hl⟩ := List.append_of_mem (List.mem_of_find?_eq_some hf)
      rw [hl] at h ⊢
      rw [filter_of_distinct h]
      exact .removed
  | find name =>
    show Replies t.interactions _ (.found (t.find? name)) t.interactions
    cases hf : t.find? name with
    | none => exact .missed (absent hf)
    | some i =>
      obtain rfl : i.name = name := by simpa using List.find?_some hf
      exact .found (List.mem_of_find?_eq_some hf)
  | findKind kind name =>
    show Replies t.interactions _ (.found (t.findKind? kind (.string name))) t.interactions
    rw [findKind?]
    cases hf : t.find? name with
    | none => exact .missedKind fun i hi hname => absurd hname (absent hf i hi)
    | some i =>
      have hi := List.mem_of_find?_eq_some hf
      obtain rfl : i.name = name := by simpa using List.find?_some hf
      by_cases hkind : i.kind = kind
      · subst hkind
        rw [Option.filter_some_pos (by simp)]
        exact .foundKind hi
      · rw [Option.filter_some_neg (by simpa using hkind)]
        exact .missedKind fun j hj hname => List.inj_on_of_nodup_map h hj hi hname ▸ hkind
  | list kind =>
    cases kind with
    | none => exact .listed
    | some kind => exact .listedKind List.filter_sublist fun i hi => by simp [list, ofKind, hi]

/-- And the list has no other reply. -/
theorem serve_of_replies {m : List Interaction} (h : Distinct l) (hr : Replies l r reply m) (t : Thing) :
    { t with interactions := l }.serve r = ({ t with interactions := m }, reply) := by
  cases hr with
  | added free => rw [serve, add_of_free free]
  | taken there same => rw [serve, add_of_taken there same]
  | removed => simp only [serve, remove, find?, filter_of_distinct h, find?_of_mem h List.mem_append_cons_self]
  | spared absent => simp only [serve, remove, find?, filter_of_absent absent, find?_of_absent absent]
  | found there => simp only [serve, find?, find?_of_mem h there]
  | missed absent => simp only [serve, find?, find?_of_absent absent]
  | foundKind there => simp [serve, findKind?, find?, find?_of_mem h there]
  | @missedKind _ kind name absent =>
    rw [serve, findKind?, find?]
    cases hf : l.find? (·.name = name) with
    | none => rfl
    | some i =>
      have hkind := absent i (List.mem_of_find?_eq_some hf) (by simpa using List.find?_some hf)
      rw [Option.filter_some_neg (by simpa using hkind)]
  | listed => rfl
  | listedKind order members =>
    rw [part_eq h order members]
    rfl

theorem distinct_of_replies {m : List Interaction} (h : Distinct l) (hr : Replies l r reply m) : Distinct m := by
  cases hr with
  | added free => exact distinct_concat h free
  | removed => exact (((List.Sublist.refl _).append (List.sublist_cons_self _ _)).map _).nodup h
  | _ => exact h

end Step

/-! ### All requests -/

/-- What becomes of a new Thing by requests, and what it replies to them. -/
def served (id name : String) (description : Option String) (requests : List Request) : Thing × List Reply :=
  (Thing.new id name description).serveAll requests

/-- A Thing and its replies to requests are those of the list that begins empty. -/
structure Collects (requests : List Request) (t : Thing) (replies : List Reply) : Prop where
  /-- The list has these replies to the requests and no others, and it ends as what the Thing keeps. -/
  same : ∀ l others, RepliesAll [] requests others l ↔ t.interactions = l ∧ replies = others
  names : Distinct t.interactions
  /-- Each interaction is among those of one kind, and there it has its place in the order of all. -/
  parts : (InteractionKind.all.flatMap t.ofKind).Perm t.interactions
  order : ∀ kind, (t.ofKind kind).Sublist t.interactions
  kinds : ∀ kind, ∀ i ∈ t.ofKind kind, i.kind = kind

section Run
variable {l : List Interaction}

theorem distinct_serveAll {t : Thing} (h : Distinct t.interactions) (requests : List Request) :
    Distinct (t.serveAll requests).1.interactions := by
  induction requests generalizing t with
  | nil => exact h
  | cons r rest ih => exact ih (distinct_of_replies h (replies_serve h r))

theorem distinct_served (id name : String) (description : Option String) (requests : List Request) :
    Distinct (served id name description requests).1.interactions :=
  have hnew : Distinct (Thing.new id name description).interactions := List.nodup_nil
  distinct_serveAll hnew requests

theorem repliesAll_serveAll {t : Thing} (h : Distinct t.interactions) (requests : List Request) :
    RepliesAll t.interactions requests (t.serveAll requests).2 (t.serveAll requests).1.interactions := by
  induction requests generalizing t with
  | nil => exact .nil
  | cons r rest ih =>
    have hfirst := replies_serve h r
    exact .cons hfirst (ih (distinct_of_replies h hfirst))

theorem serveAll_of_replies {requests : List Request} {replies : List Reply} {m : List Interaction} (h : Distinct l)
    (hr : RepliesAll l requests replies m) (t : Thing) :
    { t with interactions := l }.serveAll requests = ({ t with interactions := m }, replies) := by
  induction hr with
  | nil => rfl
  | cons first others ih =>
    rw [serveAll, serve_of_replies h first]
    simp only [ih (distinct_of_replies h first)]

theorem kinds_perm (l : List Interaction) :
    (l.filter (·.kind = .property) ++ (l.filter (·.kind = .action) ++ l.filter (·.kind = .event))).Perm l := by
  induction l with
  | nil => exact .refl _
  | cons i rest ih =>
    cases hkind : i.kind with
    | property => simpa [hkind] using ih
    | action => simpa [hkind] using List.perm_middle.trans (ih.cons i)
    | event =>
      rw [← List.append_assoc] at ih ⊢
      simpa [hkind] using List.perm_middle.trans (ih.cons i)

/-- The interactions of the three kinds are all that there are. -/
theorem ofKind_perm (t : Thing) : (InteractionKind.all.flatMap t.ofKind).Perm t.interactions := by
  simpa [InteractionKind.all, ofKind] using kinds_perm t.interactions

end Run

/-- A Thing is a list of interactions without two of one name, whatever it was asked for since it was made. -/
theorem collection_law (id name : String) (description : Option String) (requests : List Request) :
    Collects requests (served id name description requests).1 (served id name description requests).2 := by
  have hnew : Distinct (Thing.new id name description).interactions := List.nodup_nil
  refine ⟨fun l others => ⟨fun hr => ?_, ?_⟩, distinct_served .., ofKind_perm _, fun _ => List.filter_sublist, ?_⟩
  · have hserved : served id name description requests = _ :=
      serveAll_of_replies hnew hr (Thing.new id name description)
    rw [hserved]
    exact ⟨rfl, rfl⟩
  · rintro ⟨rfl, rfl⟩
    exact repliesAll_serveAll hnew requests
  · intro kind i hi
    simpa using (List.mem_filter.mp hi).2

end ThingHost.Thing
