import Mathlib.Data.List.Pairwise
import ThingHost.Proofs.Definition
import ThingHost.Proofs.Schema.Acceptance

/-! The definitions of Things that are accepted, as a grammar says them, and the form they are given. The grammar knows
    nothing of schemas: it says which values may stand where, and that no name but the one that no object has is used
    in two sections. -/

namespace ThingHost

/-! ### The grammar -/

namespace Value

def IsObject (v : Value) : Prop := ∃ members, v = .object members

def IsFlag (v : Value) : Prop := ∃ b, v = .bool b

def IsText (v : Value) : Prop := ∃ text, v = .string text

/-- A text that is not empty. -/
def IsLabel (v : Value) : Prop := ∃ text, v = .string text ∧ text ≠ ""

end Value

/-- A text of 1 to 255 units. -/
def IsName (text : String) : Prop := 1 ≤ Text.length text ∧ Text.length text ≤ 255

/-- What may be missing or undefined, and else has a form. -/
def Optionally (form : Value → Prop) (v : Value) : Prop := v = .undefined ∨ form v

/-- A definition of an interaction of a kind. -/
def Defines : InteractionKind → Value → Prop
  | .property, v => v.IsObject ∧ Optionally Value.IsLabel (v.member "label") ∧
      Optionally Value.IsObject (v.member "description") ∧ Optionally Value.IsFlag (v.member "writable") ∧
      Optionally Value.IsFlag (v.member "observable")
  | .action, v => v.IsObject ∧ Optionally Value.IsLabel (v.member "label") ∧
      Optionally Value.IsObject (v.member "inputDataDescription") ∧
      Optionally Value.IsObject (v.member "outputDataDescription")
  | .event, v => v.IsObject ∧ Optionally Value.IsLabel (v.member "label") ∧
      Optionally Value.IsObject (v.member "dataDescription")

/-- Definitions of interactions of a kind, each under a name. -/
def DefinesAll (kind : InteractionKind) (v : Value) : Prop :=
  ∃ members, v = .object members ∧ ∀ m ∈ members, IsName m.1 ∧ Defines kind m.2

/-- The names that a definition of a Thing uses for a kind. -/
def Value.namesOf (v : Value) (kind : InteractionKind) : List String :=
  Members.keys (v.member (sectionKey kind)).fields

/-- No two kinds share a name, but for the one that no object has: nothing comes of that. -/
def Apart (names : InteractionKind → List String) : Prop :=
  ∀ kind kind', kind ≠ kind' → ∀ name ∈ names kind, name ∈ names kind' → name = Members.forbidden

/-- A definition of a Thing. -/
structure DefinesThing (v : Value) : Prop where
  object : v.IsObject
  id : Optionally Value.IsLabel (v.member "id")
  name : ∃ name, v.member "name" = .string name ∧ IsName name
  description : Optionally Value.IsText (v.member "description")
  sections : ∀ kind, Optionally (DefinesAll kind) (v.member (sectionKey kind))
  apart : Apart v.namesOf

/-! ### The form -/

/-- The members of a definition of an interaction in the form of its kind: what was given, and the defaults for what
    was not. -/
def formMembers (given : Value) : InteractionKind → Fields
  | .property => [("label", given.member "label"), ("value", given.member "value"),
      ("description", .object ((given.described? "description").getD [])),
      ("writable", .bool ((given.flag? "writable").getD true)),
      ("observable", .bool ((given.flag? "observable").getD true))]
  | .action => [("label", given.member "label"),
      ("inputDataDescription", ((given.described? "inputDataDescription").map .object).getD .undefined),
      ("outputDataDescription", ((given.described? "outputDataDescription").map .object).getD .undefined)]
  | .event => [("label", given.member "label"),
      ("dataDescription", ((given.described? "dataDescription").map .object).getD .undefined)]

/-- A definition of an interaction in the form of its kind, without members that are not known. -/
structure InForm (kind : InteractionKind) (given parsed : Value) : Prop where
  object : parsed.IsObject
  members : ∀ m ∈ formMembers given kind, parsed.member m.1 = m.2
  known : ∀ key, key ∉ Members.keys (formMembers given kind) → parsed.member? key = none

/-- A definition of a Thing in its form: all its sections are there, and no two interactions have one name. -/
structure ThingInForm (given parsed : Value) : Prop where
  kept : ∀ key ∈ ["id", "name", "description"], parsed.member key = given.member key
  sections : ∀ kind, ∃ members, parsed.member (sectionKey kind) = .object members ∧
    List.Forall₂ (fun g p => p.1 = g.1 ∧ InForm kind g.2 p.2)
      ((given.member (sectionKey kind)).fields.filter (·.1 ≠ Members.forbidden)) members
  known : ∀ key, key ∉ ["id", "name", "description", "properties", "actions", "events"] → parsed.member? key = none
  names : (InteractionKind.all.flatMap parsed.namesOf).Nodup

/-! ### What the schemas accept -/

section Accepts
variable {v : Value} {kind : InteractionKind}

theorem units_ne_nil (c : Char) : Text.charUnits c ≠ [] := by
  unfold Text.charUnits
  split
  · exact List.cons_ne_nil _ _
  · split <;> exact List.cons_ne_nil _ _

theorem length_pos_iff {text : String} : 1 ≤ Text.length text ↔ text ≠ "" := by
  rw [Text.length, Nat.one_le_iff_ne_zero, ne_eq, List.length_eq_zero_iff, Text.units, List.flatMap_eq_nil_iff, ne_eq,
    ← String.toList_eq_nil_iff]
  refine not_congr ⟨fun h => List.eq_nil_iff_forall_not_mem.mpr fun c hc => units_ne_nil c (h c hc), fun h => ?_⟩
  rw [h]
  exact List.forall_mem_nil _

theorem least_check {n : Nat} {text : String} : (TextLimit.least n).check text = [] ↔ n ≤ Text.length text := by
  simp [TextLimit.check]

theorem most_check {n : Nat} {text : String} : (TextLimit.most n).check text = [] ↔ Text.length text ≤ n := by
  simp [TextLimit.check]

theorem nameLimits_check {text : String} : (∀ limit ∈ nameLimits, limit.check text = []) ↔ IsName text := by
  simp [nameLimits, least_check, most_check, IsName]

theorem accepts_name : Schema.Accepts (.text nameLimits) v ↔ ∃ name, v = .string name ∧ IsName name := by
  simp only [Schema.accepts_text, nameLimits_check]

theorem accepts_prose : Schema.Accepts (.text []) v ↔ v.IsText := by
  simp [Schema.accepts_text, Value.IsText]

theorem accepts_nonempty : Schema.Accepts (.text [.least 1]) v ↔ v.IsLabel := by
  simp [Schema.accepts_text, least_check, length_pos_iff, Value.IsLabel]

theorem accepts_label : Schema.Accepts labelSchema v ↔ Optionally Value.IsLabel v :=
  Schema.accepts_optional.trans (or_congr_right accepts_nonempty)

theorem accepts_data : Schema.Accepts dataSchema v ↔ v.IsObject := by
  simp [dataSchema, Schema.accepts_record, Schema.accepts_unknown, Value.IsObject]

theorem accepts_flag : Schema.Accepts (.withDefault .flag (.bool true)) v ↔ Optionally Value.IsFlag v :=
  (Schema.accepts_withDefault (Schema.accepts_flag.mpr ⟨true, rfl⟩)).trans (or_congr_right Schema.accepts_flag)

theorem accepts_interaction : Schema.Accepts (interactionSchema kind) v ↔ Defines kind v := by
  have hempty : Schema.Accepts dataSchema (.object []) := accepts_data.mpr ⟨[], rfl⟩
  rw [interactionSchema_eq, Schema.accepts_shape]
  cases kind <;>
    simp [interactionFields, Defines, accepts_label, accepts_flag, Schema.accepts_optional, accepts_data,
      Schema.accepts_withDefault hempty, Schema.accepts_unknown, Optionally, Value.IsObject]

theorem accepts_section (kind : InteractionKind) :
    Schema.Accepts (.withDefault (.record nameLimits (interactionSchema kind)) (.object [])) v ↔
      Optionally (DefinesAll kind) v := by
  have hempty : Schema.Accepts (.record nameLimits (interactionSchema kind)) (.object []) :=
    Schema.accepts_record.mpr ⟨[], rfl, by simp⟩
  rw [Schema.accepts_withDefault hempty, Schema.accepts_record]
  simp [Optionally, DefinesAll, nameLimits_check, accepts_interaction]

theorem accepts_shape : Schema.Accepts (.shape thingFields) v ↔
    v.IsObject ∧ Optionally Value.IsLabel (v.member "id") ∧ (∃ name, v.member "name" = .string name ∧ IsName name) ∧
      Optionally Value.IsText (v.member "description") ∧
      ∀ kind, Optionally (DefinesAll kind) (v.member (sectionKey kind)) := by
  have hkinds : (Optionally (DefinesAll .property) (v.member "properties") ∧
      Optionally (DefinesAll .action) (v.member "actions") ∧ Optionally (DefinesAll .event) (v.member "events")) ↔
      ∀ kind, Optionally (DefinesAll kind) (v.member (sectionKey kind)) := by
    constructor
    · rintro ⟨hproperty, haction, hevent⟩ kind
      cases kind <;> assumption
    · exact fun h => ⟨h .property, h .action, h .event⟩
  rw [Schema.accepts_shape, ← hkinds]
  simp only [thingFields, List.forall_mem_cons, List.not_mem_nil, false_imp_iff, implies_true, and_true]
  exact and_congr .rfl (and_congr accepts_label (and_congr accepts_name (and_congr
    (Schema.accepts_optional.trans (or_congr_right accepts_prose)) (and_congr (accepts_section .property)
    (and_congr (accepts_section .action) (accepts_section .event))))))

end Accepts

/-! ### Names -/

theorem Value.wellFormed_of_mem {members : Fields} (h : WellFormedMembers members) {m : String × Value}
    (hm : m ∈ members) : WellFormed m.2 := by
  induction members with
  | nil => cases hm
  | cons first rest ih =>
    rcases List.mem_cons.mp hm with rfl | hm
    · exact h.1
    · exact ih h.2 hm

theorem Value.wellFormed_member {v : Value} (h : v.WellFormed) (key : String) : (v.member key).WellFormed := by
  rw [member]
  cases hv : v.member? key with
  | none => exact trivial
  | some w =>
    cases v with
    | object members => exact wellFormed_of_mem h.2 (Members.mem_of_get? hv)
    | _ => cases hv

/-- In one section no name is used twice. -/
theorem Value.nodup_namesOf {v : Value} (h : v.WellFormed) (kind : InteractionKind) : (v.namesOf kind).Nodup := by
  have hsection := wellFormed_member h (sectionKey kind)
  rw [namesOf]
  cases hv : v.member (sectionKey kind) with
  | object members =>
    rw [hv] at hsection
    exact hsection.1.1
  | _ => exact List.nodup_nil

/-- Names that are told apart within each kind are told apart if no two kinds share one. -/
theorem nodup_flatMap_iff {names : InteractionKind → List String} (h : ∀ kind, (names kind).Nodup) :
    (InteractionKind.all.flatMap fun kind => (names kind).filter (· ≠ Members.forbidden)).Nodup ↔ Apart names := by
  have hall : ∀ kind, kind ∈ InteractionKind.all := fun kind => by cases kind <;> decide
  have hdisjoint : ∀ kind kind', ((names kind).filter (· ≠ Members.forbidden)).Disjoint
      ((names kind').filter (· ≠ Members.forbidden)) ↔
        ∀ name ∈ names kind, name ∈ names kind' → name = Members.forbidden := by
    intro kind kind'
    constructor
    · intro h name hname hname'
      by_contra hne
      have hkept : decide (name ≠ Members.forbidden) = true := decide_eq_true hne
      exact h (List.mem_filter.mpr ⟨hname, hkept⟩) (List.mem_filter.mpr ⟨hname', hkept⟩)
    · intro h name hin hin'
      obtain ⟨hname, hne⟩ := List.mem_filter.mp hin
      have hsame := h name hname (List.mem_of_mem_filter hin')
      simp [hsame] at hne
  rw [List.nodup_flatMap]
  constructor
  · rintro ⟨-, hpairs⟩ kind kind' hne
    -- The pairs of the list are those of one order only.
    have hsymm : Std.Symm (Function.onFun List.Disjoint fun kind => (names kind).filter (· ≠ Members.forbidden)) :=
      ⟨fun _ _ hab _ hb ha => hab ha hb⟩
    exact (hdisjoint kind kind').mp (hpairs.forall (hall kind) (hall kind') hne)
  · intro hapart
    refine ⟨fun kind _ => (h kind).filter _, List.Nodup.pairwise_of_forall_ne (by decide) ?_⟩
    exact fun kind _ kind' _ hne => (hdisjoint kind kind').mpr (hapart kind kind' hne)

/-! ### Acceptance -/

section Acceptance
variable {v parsed : Value}

/-- The names that an accepted definition is left with. -/
theorem namesOf_of_shape (h : Schema.check (.shape thingFields) v = .ok parsed) (kind : InteractionKind) :
    parsed.namesOf kind = (v.namesOf kind).filter (· ≠ Members.forbidden) := section_keys h kind

theorem declaredNames_eq (v : Value) : (declaredNames v).map (·.2) = InteractionKind.all.flatMap v.namesOf := by
  simp only [declaredNames, List.map_flatMap, List.map_map, Function.comp_def, List.map_id']
  rfl

theorem accepts_thing (hv : v.WellFormed) : (∃ parsed, thingSchema.parse v = .ok parsed) ↔ DefinesThing v := by
  -- The law speaks of what came out, the grammar of what was given: both have the same names but for the forbidden one.
  have hlaw : ∀ {parsed}, Schema.check (.shape thingFields) v = .ok parsed →
      (uniqueNames parsed = [] ↔ Apart v.namesOf) := by
    intro parsed hshape
    rw [uniqueNames_eq_nil, declaredNames_eq, ← nodup_flatMap_iff (Value.nodup_namesOf hv),
      funext (namesOf_of_shape hshape)]
  constructor
  · rintro ⟨parsed, hparsed⟩
    obtain ⟨hshape, hunique⟩ := Schema.check_lawful.mp (Schema.parse_eq_ok.mp hparsed)
    obtain ⟨hobject, hid, hname, hdescription, hsections⟩ := accepts_shape.mp ⟨parsed, hshape⟩
    exact ⟨hobject, hid, hname, hdescription, hsections, (hlaw hshape).mp hunique⟩
  · intro h
    obtain ⟨parsed, hshape⟩ := accepts_shape.mpr ⟨h.object, h.id, h.name, h.description, h.sections⟩
    exact ⟨parsed, Schema.parse_eq_ok.mpr (Schema.check_lawful.mpr ⟨hshape, (hlaw hshape).mpr h.apart⟩)⟩

/-! ### What comes of it -/

theorem data_form {key : String}
    (h : Schema.check (.optional dataSchema) (v.member key) = .ok (parsed.member key)) :
    parsed.member key = ((v.described? key).map .object).getD .undefined := by
  rw [← described_of_optional h, Value.data?]
  rcases Schema.check_optional h with ⟨-, hparsed⟩ | hdata
  · rw [hparsed]
    rfl
  · obtain ⟨members, -, hparsed⟩ := data_of_check hdata
    rw [hparsed]
    rfl

theorem description_form {key : String}
    (h : Schema.check (.withDefault dataSchema (.object [])) (v.member key) = .ok (parsed.member key)) :
    parsed.member key = .object ((v.described? key).getD []) := by
  rw [← described_of_default h, Value.data?]
  rw [Schema.check] at h
  obtain ⟨members, -, hparsed⟩ := data_of_check h
  rw [hparsed]
  rfl

theorem flag_form {key : String}
    (h : Schema.check (.withDefault .flag (.bool true)) (v.member key) = .ok (parsed.member key)) :
    parsed.member key = .bool ((v.flag? key).getD true) := by
  rw [← flag_of_default h, Value.flag?]
  rw [Schema.check] at h
  obtain ⟨hparsed, b, hgiven⟩ := Schema.check_flag h
  rw [hparsed, hgiven]
  rfl

theorem inForm_of_check {kind : InteractionKind} (h : Schema.check (interactionSchema kind) v = .ok parsed) :
    InForm kind v parsed := by
  have field := fun f hf => field_of_check (f := f) h hf
  have hkeys : Members.keys (formMembers v kind) = (interactionFields kind).map (·.1) := by cases kind <;> rfl
  refine ⟨object_of_check h, ?_, fun key hkey => ?_⟩
  · have hlabel : parsed.member "label" = v.member "label" :=
      text_of_optional (field ("label", labelSchema) (by cases kind <;> simp [interactionFields]))
    cases kind with
    | property =>
      simp only [formMembers, List.forall_mem_cons, List.not_mem_nil, false_imp_iff, implies_true, and_true]
      exact ⟨hlabel, value_of_check h, description_form (field ("description", _) (by simp [interactionFields])),
        flag_form (field ("writable", _) (by simp [interactionFields])),
        flag_form (field ("observable", _) (by simp [interactionFields]))⟩
    | action =>
      simp only [formMembers, List.forall_mem_cons, List.not_mem_nil, false_imp_iff, implies_true, and_true]
      exact ⟨hlabel, data_form (field ("inputDataDescription", _) (by simp [interactionFields])),
        data_form (field ("outputDataDescription", _) (by simp [interactionFields]))⟩
    | event =>
      simp only [formMembers, List.forall_mem_cons, List.not_mem_nil, false_imp_iff, implies_true, and_true]
      exact ⟨hlabel, data_form (field ("dataDescription", _) (by simp [interactionFields]))⟩
  · rw [hkeys] at hkey
    rw [interactionSchema_eq] at h
    exact Schema.member_apart h hkey

theorem thingInForm_of_check (h : Schema.check thingSchema v = .ok parsed) : ThingInForm v parsed := by
  have hshape := shape_of_check h
  refine ⟨?_, fun kind => ?_, fun key hkey => Schema.member_apart hshape hkey, ?_⟩
  · simp only [List.forall_mem_cons, List.not_mem_nil, false_imp_iff, implies_true, and_true]
    have field := fun f hf => thing_field (f := f) hshape hf
    exact ⟨text_of_optional (field ("id", .optional (.text [.least 1])) (by simp [thingFields])),
      (Schema.check_text (field ("name", .text nameLimits) (by simp [thingFields]))).1,
      text_of_optional (field ("description", .optional (.text [])) (by simp [thingFields]))⟩
  · have hsection := section_field hshape kind
    rw [Schema.check] at hsection
    obtain ⟨_, all, -, hmembers, -⟩ := Schema.check_record.mp hsection
    refine ⟨_, hmembers, ?_⟩
    have hall := section_of_check hshape kind
    rw [hmembers, List.filter_map, List.forall₂_map_left_iff, List.forall₂_map_right_iff] at hall
    exact hall.imp fun g p hbecomes => ⟨hbecomes.2.1, inForm_of_check hbecomes.2.2.2⟩
  · rw [← declaredNames_eq]
    exact uniqueNames_eq_nil.mp (Schema.check_lawful.mp h).2

/-- Just the definitions of the grammar are accepted. Any other is refused with something wrong in it, and what is
    accepted comes out in its form. -/
theorem grammar_law (hv : v.WellFormed) :
    ((∃ parsed, thingSchema.parse v = .ok parsed) ↔ DefinesThing v) ∧
      (∀ issues, thingSchema.parse v = .error issues → issues ≠ []) ∧
      ∀ parsed, thingSchema.parse v = .ok parsed → ThingInForm v parsed :=
  ⟨accepts_thing hv, fun _ => Schema.issues_of_refused,
    fun _ hparsed => thingInForm_of_check (Schema.parse_eq_ok.mp hparsed)⟩

end Acceptance

/-- A greenhouse without an id, with a member that nobody knows, and with the name that no object has in two of its
    sections. -/
def greenhouse : Value :=
  .object [("name", .string "Greenhouse"), ("glazed", .bool true),
    ("properties", .object [("7", .object [("value", .null)]),
      ("vent", .object [("label", .string "Vent"), ("writable", .bool false), ("description", .object [])])]),
    ("actions", .object [("water", .object [("label", .undefined)]), ("__proto__", .object [])]),
    ("events", .object [("__proto__", .object [("dataDescription", .object [])])])]

theorem greenhouse_defined : greenhouse.WellFormed ∧ DefinesThing greenhouse := by
  have hv : greenhouse.WellFormed := by
    simp only [greenhouse, Value.WellFormed, Value.WellFormedMembers, Members.InOrder, and_true]
    decide +kernel
  exact ⟨hv, (grammar_law hv).1.mp ⟨_, by rfl⟩⟩

end ThingHost
