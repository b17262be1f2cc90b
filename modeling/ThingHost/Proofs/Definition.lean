import ThingHost.Host.Step
import ThingHost.Proofs.Schema

/-! What a definition says once it is accepted. The interactions that a Thing's definition declares come out of it
    one by one, each in the form that its own schema leaves as it is, under names that are all distinct. -/

namespace ThingHost

theorem distinct_interactionSchema (kind : InteractionKind) : (interactionSchema kind).Distinct := by
  cases kind <;>
    simp [interactionSchema, propertySchema, actionSchema, eventSchema, labelSchema, dataSchema, Schema.Distinct,
      Schema.DistinctFields]

theorem distinct_thingSchema : thingSchema.Distinct := by
  have property := distinct_interactionSchema .property
  have action := distinct_interactionSchema .action
  have event := distinct_interactionSchema .event
  simp only [interactionSchema] at property action event
  simp [thingSchema, Schema.Distinct, Schema.DistinctFields, property, action, event]

/-! ### Interactions -/

section Interaction
variable {kind : InteractionKind} {given parsed : Value}

/-- A part of a definition that holds a text or nothing is taken as it is. -/
theorem text_of_optional {limits : List TextLimit} {v w : Value} (h : Schema.check (.optional (.text limits)) v = .ok w) :
    w = v := by
  rcases Schema.check_optional h with ⟨rfl, rfl⟩ | h
  · rfl
  · exact (Schema.check_text h).1

/-- A data description is taken as it is, without the key that no object gets. -/
theorem data_of_check {v w : Value} (h : Schema.check dataSchema v = .ok w) : ∃ members, v = .object members ∧
    w = .object (Members.without Members.forbidden members) := by
  obtain ⟨members, all, rfl, rfl, hall⟩ := Schema.check_record.mp h
  refine ⟨members, rfl, ?_⟩
  have hsame : List.Forall₂ (· = ·) members all := by
    refine hall.imp ?_
    rintro ⟨k, v⟩ ⟨k', w⟩ ⟨hkey, -, hcheck⟩
    rw [Schema.check] at hcheck
    have hvalue : v = w := Option.some.inj (congrArg Report.result hcheck)
    exact Prod.ext hkey.symm hvalue
  rw [List.forall₂_eq_eq_eq] at hsame
  rw [hsame]

/-- The data description that stands under a key, without the key that no object gets. -/
def Value.described? (key : String) (v : Value) : Option Fields := (v.data? key).map (Members.without Members.forbidden)

theorem described_of_optional {key : String} (h : Schema.check (.optional dataSchema) (given.member key) = .ok (parsed.member key)) :
    parsed.data? key = given.described? key := by
  rw [Value.described?, Value.data?, Value.data?]
  rcases Schema.check_optional h with ⟨hgiven, hparsed⟩ | h
  · rw [hgiven, hparsed]
    rfl
  · obtain ⟨members, hgiven, hparsed⟩ := data_of_check h
    rw [hgiven, hparsed]
    rfl

theorem described_of_default {key : String}
    (h : Schema.check (.withDefault dataSchema (.object [])) (given.member key) = .ok (parsed.member key)) :
    (parsed.data? key).getD [] = (given.described? key).getD [] := by
  rw [Value.described?, Value.data?, Value.data?]
  rw [Schema.check] at h
  obtain ⟨members, hgiven, hparsed⟩ := data_of_check h
  rw [hparsed]
  cases hv : given.member key with
  | undefined =>
    rw [hv] at hgiven
    cases hgiven
    rfl
  | _ =>
    rw [hv] at hgiven
    cases hgiven <;> rfl

theorem flag_of_default {key : String}
    (h : Schema.check (.withDefault .flag (.bool true)) (given.member key) = .ok (parsed.member key)) :
    (parsed.flag? key).getD true = (given.flag? key).getD true := by
  rw [Value.flag?, Value.flag?]
  rw [Schema.check] at h
  obtain ⟨hparsed, b, hgiven⟩ := Schema.check_flag h
  rw [hparsed, hgiven]
  cases hv : given.member key with
  | undefined =>
    rw [hv] at hgiven
    cases hgiven
    rfl
  | _ =>
    rw [hv] at hgiven
    cases hgiven <;> rfl

/-- What a definition of an interaction offers. Without flags of its own a property may be written and observed. -/
def offered (definition : Value) : InteractionKind → Affordance
  | .property => .property ((definition.described? "description").getD []) ((definition.flag? "writable").getD true)
      ((definition.flag? "observable").getD true)
  | .action => .action (definition.described? "inputDataDescription") (definition.described? "outputDataDescription")
  | .event => .event (definition.described? "dataDescription")

/-- The fields of an interaction's schema. -/
def interactionFields : InteractionKind → List (String × Schema)
  | .property => [("label", labelSchema), ("value", .optional .unknown), ("description", .withDefault dataSchema (.object [])),
      ("writable", .withDefault .flag (.bool true)), ("observable", .withDefault .flag (.bool true))]
  | .action => [("label", labelSchema), ("inputDataDescription", .optional dataSchema),
      ("outputDataDescription", .optional dataSchema)]
  | .event => [("label", labelSchema), ("dataDescription", .optional dataSchema)]

theorem interactionSchema_eq (kind : InteractionKind) : interactionSchema kind = .shape (interactionFields kind) := by
  cases kind <;> rfl

theorem field_of_check (h : Schema.check (interactionSchema kind) given = .ok parsed) {f : String × Schema}
    (hf : f ∈ interactionFields kind) : Schema.check f.2 (given.member f.1) = .ok (parsed.member f.1) := by
  have hdistinct := distinct_interactionSchema kind
  rw [interactionSchema_eq] at h hdistinct
  exact Schema.member_of_shape hdistinct.1 h hf

theorem label_of_check (h : Schema.check (interactionSchema kind) given = .ok parsed) :
    parsed.text? "label" = given.text? "label" := by
  have hlabel : ("label", labelSchema) ∈ interactionFields kind := by cases kind <;> simp [interactionFields]
  rw [Value.text?, Value.text?, text_of_optional (field_of_check h hlabel)]

/-- An accepted definition offers what was given. -/
theorem affordanceOf_of_check (h : Schema.check (interactionSchema kind) given = .ok parsed) :
    affordanceOf parsed kind = offered given kind := by
  have field := fun f hf => field_of_check (f := f) h hf
  cases kind with
  | property =>
    rw [affordanceOf, offered, described_of_default (field ("description", _) (by simp [interactionFields])),
      flag_of_default (field ("writable", _) (by simp [interactionFields])),
      flag_of_default (field ("observable", _) (by simp [interactionFields]))]
  | action =>
    rw [affordanceOf, offered, described_of_optional (field ("inputDataDescription", _) (by simp [interactionFields])),
      described_of_optional (field ("outputDataDescription", _) (by simp [interactionFields]))]
  | event => rw [affordanceOf, offered, described_of_optional (field ("dataDescription", _) (by simp [interactionFields]))]

theorem value_of_check (h : Schema.check (interactionSchema .property) given = .ok parsed) :
    parsed.member "value" = given.member "value" := by
  have hvalue := field_of_check (f := ("value", .optional .unknown)) h (by simp [interactionFields])
  rcases Schema.check_optional hvalue with ⟨hgiven, hparsed⟩ | hany
  · rw [hgiven, hparsed]
  · rw [Schema.check] at hany
    exact (Option.some.inj (congrArg Report.result hany)).symm

/-- An accepted definition of an action has no handler left in it. -/
theorem handler_of_check (h : Schema.check (interactionSchema kind) given = .ok parsed) : parsed.member? "handler" = none := by
  rw [interactionSchema_eq] at h
  exact Schema.member_apart h (by cases kind <;> simp [interactionFields])

theorem object_of_check (h : Schema.check (interactionSchema kind) given = .ok parsed) : ∃ members, parsed = .object members := by
  rw [interactionSchema_eq] at h
  obtain ⟨_, all, _, hparsed, -⟩ := Schema.check_shape.mp h
  exact ⟨_, hparsed⟩

end Interaction

/-! ### Whole Things -/

/-- A name that an interaction may have. -/
def NameFits (name : String) : Prop := (Schema.checkText nameLimits (.string name)).issues = []

/-- A declaration in the form that the schemas leave as it is. -/
structure Fits (d : InteractionKind × String × Value) : Prop where
  name : NameFits d.2.1
  definition : Schema.check (interactionSchema d.1) d.2.2 = .ok d.2.2

section Thing
variable {definition parsed : Value}

/-- The fields of a Thing's schema. -/
def thingFields : List (String × Schema) :=
  [("id", .optional (.text [.least 1])), ("name", .text nameLimits), ("description", .optional (.text [])),
    ("properties", .withDefault (.record nameLimits propertySchema) (.object [])),
    ("actions", .withDefault (.record nameLimits actionSchema) (.object [])),
    ("events", .withDefault (.record nameLimits eventSchema) (.object []))]

/-- An accepted definition fits the shape of one, whichever names it declares. -/
theorem shape_of_check (h : Schema.check thingSchema definition = .ok parsed) :
    Schema.check (.shape thingFields) definition = .ok parsed := (Schema.check_lawful.mp h).1

theorem thing_field (h : Schema.check (.shape thingFields) definition = .ok parsed) {f : String × Schema}
    (hf : f ∈ thingFields) : Schema.check f.2 (definition.member f.1) = .ok (parsed.member f.1) := by
  have hdistinct : Schema.Distinct (.shape thingFields) := distinct_thingSchema
  exact Schema.member_of_shape hdistinct.1 h hf

theorem id_of_check (h : Schema.check thingSchema definition = .ok parsed) : parsed.text? "id" = definition.text? "id" := by
  have hid := thing_field (f := ("id", .optional (.text [.least 1]))) (shape_of_check h) (by simp [thingFields])
  rw [Value.text?, Value.text?, text_of_optional hid]

theorem name_of_check (h : Schema.check thingSchema definition = .ok parsed) :
    ∃ name, definition.member "name" = .string name ∧ parsed.text? "name" = some name := by
  have hname := thing_field (f := ("name", .text nameLimits)) (shape_of_check h) (by simp [thingFields])
  obtain ⟨hsame, name, hgiven⟩ := Schema.check_text hname
  exact ⟨name, hgiven, by rw [Value.text?, hsame, hgiven]; rfl⟩

theorem description_of_check (h : Schema.check thingSchema definition = .ok parsed) :
    parsed.text? "description" = definition.text? "description" := by
  have hdescription := thing_field (f := ("description", .optional (.text []))) (shape_of_check h) (by simp [thingFields])
  rw [Value.text?, Value.text?, text_of_optional hdescription]

theorem section_field (h : Schema.check (.shape thingFields) definition = .ok parsed) (kind : InteractionKind) :
    Schema.check (.withDefault (.record nameLimits (interactionSchema kind)) (.object [])) (definition.member (sectionKey kind)) =
      .ok (parsed.member (sectionKey kind)) := by
  have hfield := fun f hf => thing_field (f := f) h hf
  cases kind with
  | property => exact hfield ("properties", _) (by simp [thingFields, interactionSchema])
  | action => exact hfield ("actions", _) (by simp [thingFields, interactionSchema])
  | event => exact hfield ("events", _) (by simp [thingFields, interactionSchema])

/-- What becomes of a declaration that is given. -/
def Becomes (a b : InteractionKind × String × Value) : Prop :=
  b.1 = a.1 ∧ b.2.1 = a.2.1 ∧ NameFits a.2.1 ∧ Schema.check (interactionSchema a.1) a.2.2 = .ok b.2.2

theorem Becomes.fits {a b : InteractionKind × String × Value} (h : Becomes a b) : Fits b := by
  obtain ⟨kind, name, given⟩ := a
  obtain ⟨_, _, parsed⟩ := b
  obtain ⟨rfl, rfl, hname, hcheck⟩ := h
  exact ⟨hname, Schema.check_self (distinct_interactionSchema _) hcheck⟩

theorem section_of_check (h : Schema.check (.shape thingFields) definition = .ok parsed) (kind : InteractionKind) :
    List.Forall₂ Becomes
      (((definition.member (sectionKey kind)).fields.map fun m => (kind, m.1, m.2)).filter (·.2.1 ≠ Members.forbidden))
      ((parsed.member (sectionKey kind)).fields.map fun m => (kind, m.1, m.2)) := by
  have hfield := section_field h kind
  rw [Schema.check] at hfield
  obtain ⟨members, all, hgiven, hparsed, hall⟩ := Schema.check_record.mp hfield
  have hfields : (definition.member (sectionKey kind)).fields = members := by
    cases hv : definition.member (sectionKey kind) with
    | undefined =>
      rw [hv] at hgiven
      exact Value.object.inj hgiven
    | _ =>
      rw [hv] at hgiven
      cases hgiven <;> rfl
  rw [hfields, hparsed, List.filter_map, List.forall₂_map_left_iff]
  show List.Forall₂ _ _ ((Members.without Members.forbidden all).map _)
  rw [List.forall₂_map_right_iff]
  refine List.rel_filter ?_ (hall.imp fun a b hab => ⟨rfl, hab.1, hab.2⟩)
  intro a b hab
  have hkey : b.1 = a.1 := hab.2.1
  simp [hkey]

theorem map_eq_of_forall₂ {α β γ : Type} {f : α → γ} {g : β → γ} {as : List α} {bs : List β}
    (h : List.Forall₂ (fun a b => g b = f a) as bs) : bs.map g = as.map f := by
  induction h with
  | nil => rfl
  | cons hab _ ih => rw [List.map_cons, List.map_cons, hab, ih]

/-- A section keeps its names, but for the one that no object has. -/
theorem section_keys (h : Schema.check (.shape thingFields) definition = .ok parsed) (kind : InteractionKind) :
    Members.keys (parsed.member (sectionKey kind)).fields =
      (Members.keys (definition.member (sectionKey kind)).fields).filter (· ≠ Members.forbidden) := by
  have hnames := map_eq_of_forall₂ ((section_of_check h kind).imp fun a b hab => hab.2.1)
  simpa [Members.keys, List.filter_map, Function.comp_def] using hnames

/-- The declarations come out one by one, but for the one name that no object has. -/
theorem declarations_of_check (h : Schema.check thingSchema definition = .ok parsed) :
    List.Forall₂ Becomes ((Host.declarations definition).filter (·.2.1 ≠ Members.forbidden)) (Host.declarations parsed) := by
  have append := List.rel_append (R := Becomes)
  simp only [Host.declarations, InteractionKind.all, List.flatMap_cons, List.flatMap_nil, List.append_nil, List.filter_append]
  have hsection := section_of_check (shape_of_check h)
  exact append (hsection .property) (append (hsection .action) (hsection .event))

/-! ### Names -/

theorem takenNames_eq_nil {seen : List String} {names : List (InteractionKind × String)} :
    takenNames seen names = [] ↔ (names.map (·.2)).Nodup ∧ ∀ n ∈ names, n.2 ∉ seen := by
  induction names generalizing seen with
  | nil => simp [takenNames]
  | cons n rest ih =>
    obtain ⟨kind, name⟩ := n
    have hfree : (if seen.contains name then [Issue.mk [.key (sectionKey kind), .key name] (.nameTaken name)]
        else []) = [] ↔ name ∉ seen := by simp
    rw [takenNames, List.append_eq_nil_iff, hfree, ih, List.map_cons, List.nodup_cons, List.forall_mem_cons]
    have hname : name ∉ rest.map (·.2) ↔ ∀ n ∈ rest, n.2 ≠ name := by
      simp only [List.mem_map, not_exists, not_and, ne_eq]
    simp only [hname, List.mem_cons, not_or, forall_and]
    constructor
    · rintro ⟨hnew, hnodup, hne, hseen⟩
      exact ⟨⟨hne, hnodup⟩, hnew, hseen⟩
    · rintro ⟨⟨hne, hnodup⟩, hnew, hseen⟩
      exact ⟨hnew, hnodup, hne, hseen⟩

/-- No name is taken just if each is declared once. -/
theorem uniqueNames_eq_nil : uniqueNames definition = [] ↔ ((declaredNames definition).map (·.2)).Nodup := by
  simp [uniqueNames, takenNames_eq_nil]

/-- Each name is declared once. -/
theorem names_of_check (h : Schema.check thingSchema definition = .ok parsed) :
    ((Host.declarations parsed).map (·.2.1)).Nodup := by
  have hunique := uniqueNames_eq_nil.mp (Schema.check_lawful.mp h).2
  have hnames : (declaredNames parsed).map (·.2) = (Host.declarations parsed).map (·.2.1) := by
    simp [declaredNames, Host.declarations, Members.keys, List.map_flatMap, Function.comp_def]
  rwa [hnames] at hunique

end Thing

end ThingHost
