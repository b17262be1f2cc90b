import ThingHost.Exposed
import ThingHost.Proofs.Members

/-! What the description document of a Thing names: in the section of each kind just the interactions of that
    kind, but for the one name that no object has. And what it says of each of them. -/

namespace ThingHost

/-- What the document has under a key of an interaction with a label. The label and the flags of a property stand
    over whatever its data description has under their keys. -/
def Affordance.documented (label : Option String) (key : String) : Affordance → Option Value
  | .property schema writable observable =>
    if key = "observable" then some (.bool observable)
    else if key = "writable" then some (.bool writable)
    else if key = "label" then (label.map .string).or (Members.get? key schema)
    else Members.get? key schema
  | .action input output =>
    if key = "label" then label.map .string
    else if key = "input" then input.map .object
    else if key = "output" then output.map .object
    else none
  | .event data =>
    if key = "label" then label.map .string
    else if key = "data" then data.map .object
    else none

theorem Value.get?_optional (key k : String) (v : Option Value) :
    Members.get? key (Value.optional k v) = if key = k then v else none := by
  cases v with
  | none => simp [optional, Members.get?]
  | some v => simp [optional, Members.get?, eq_comm]

theorem Value.keys_optional (k : String) (v : Option Value) : (Members.keys (Value.optional k v)).Sublist [k] := by
  cases v with
  | none => exact List.nil_sublist _
  | some v => exact .refl _

theorem Interaction.describe_members (i : Interaction) : ∃ entry, i.describe = .object entry ∧
    ∀ key, Members.get? key entry = i.affordance.documented i.label key := by
  have keys := Value.keys_optional
  obtain ⟨serial, name, label, affordance⟩ := i
  cases affordance with
  | property schema writable observable =>
    refine ⟨_, rfl, fun key => ?_⟩
    have hflags : Members.get? key (Value.optional "label" (label.map .string) ++
        [("writable", Value.bool writable), ("observable", Value.bool observable)]).reverse =
        if key = "observable" then some (Value.bool observable) else if key = "writable" then some (Value.bool writable)
        else if key = "label" then label.map .string else none := by
      cases label <;> simp [Members.get?, Value.optional, eq_comm]
    rw [Members.get?_putAll, hflags, Affordance.documented]
    split
    · rfl
    · split
      · rfl
      · split <;> rfl
  | action input output =>
    have hkeys : (Members.keys (Value.optional "label" (label.map .string) ++ Value.optional "input" (input.map .object) ++
        Value.optional "output" (output.map .object))).Nodup := by
      rw [Members.keys, List.map_append, List.map_append]
      exact (((keys _ _).append (keys _ _)).append (keys _ _)).nodup (by decide)
    refine ⟨_, rfl, fun key => ?_⟩
    rw [Members.get?_ofList hkeys, Members.get?_append, Members.get?_append, Value.get?_optional, Value.get?_optional,
      Value.get?_optional, Affordance.documented]
    by_cases hlabel : key = "label"
    · simp [hlabel]
    · by_cases hinput : key = "input" <;> simp [hlabel, hinput]
  | event data =>
    have hkeys : (Members.keys (Value.optional "label" (label.map .string) ++
        Value.optional "data" (data.map .object))).Nodup := by
      rw [Members.keys, List.map_append]
      exact ((keys _ _).append (keys _ _)).nodup (by decide)
    refine ⟨_, rfl, fun key => ?_⟩
    rw [Members.get?_ofList hkeys, Members.get?_append, Value.get?_optional, Value.get?_optional, Affordance.documented]
    by_cases hlabel : key = "label" <;> simp [hlabel]

namespace Thing

/-- The kind and name of each interaction that a Thing declares. -/
def listed (t : Thing) : List (InteractionKind × String) := t.interactions.map fun i => (i.kind, i.name)

/-- The document names just the interactions of a list, each in the section of its kind. -/
def Documents (description : Value) (listed : List (InteractionKind × String)) : Prop :=
  ∀ kind, (Members.keys (description.member (sectionKey kind)).fields).Perm
    (((listed.filter (·.1 = kind)).map (·.2)).filter (· ≠ Members.forbidden))

theorem section_member (t : Thing) (kind : InteractionKind) :
    t.toDescription.member? (sectionKey kind) = some (.object (t.entries kind)) := by
  cases kind <;> cases hd : t.description <;>
    simp [toDescription, hd, Value.optional, Value.member?, Members.get?, sectionKey]

theorem section_eq (t : Thing) (kind : InteractionKind) :
    (t.toDescription.member (sectionKey kind)).fields = t.entries kind := by
  rw [Value.member, section_member]
  rfl

theorem entries_nodup {t : Thing} (h : (t.interactions.map (·.name)).Nodup) (kind : InteractionKind) :
    (Members.keys (((t.ofKind kind).filter (·.name ≠ Members.forbidden)).map fun i => (i.name, i.describe))).Nodup := by
  have hsub : (((t.ofKind kind).filter (·.name ≠ Members.forbidden)).map (·.name)).Sublist (t.interactions.map (·.name)) :=
    (List.filter_sublist.trans List.filter_sublist).map _
  simpa [Members.keys, Function.comp_def] using hsub.nodup h

theorem documents (t : Thing) (h : (t.interactions.map (·.name)).Nodup) : Documents t.toDescription t.listed := by
  intro kind
  have hkeys : Members.keys (((t.ofKind kind).filter (·.name ≠ Members.forbidden)).map fun i => (i.name, i.describe)) =
      ((t.listed.filter (·.1 = kind)).map (·.2)).filter (· ≠ Members.forbidden) := by
    simp [Members.keys, ofKind, listed, List.filter_map, Function.comp_def]
  rw [section_eq, ← hkeys]
  exact Members.ofList_keys (entries_nodup h kind)

/-- Every interaction has its entry, in the section of its kind. -/
theorem entry_of_mem {t : Thing} (h : (t.interactions.map (·.name)).Nodup) {i : Interaction} (hi : i ∈ t.interactions)
    (hname : i.name ≠ Members.forbidden) :
    Members.get? i.name (t.toDescription.member (sectionKey i.kind)).fields = some i.describe := by
  rw [section_eq, entries, Members.get?_ofList (entries_nodup h i.kind)]
  refine Members.get?_of_mem (entries_nodup h i.kind) (List.mem_map.mpr ⟨i, ?_, rfl⟩)
  simp [ofKind, hi, hname]

end Thing
end ThingHost
