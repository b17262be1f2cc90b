import ThingHost.Proofs.Exposed.Description
import ThingHost.Proofs.Members.Order
import ThingHost.Proofs.Thing.Collection

/-! The description document of a Thing tells all of it and nothing else. Whatever was added and removed, the section
    of a kind has one entry for each interaction of the kind, but for one under the name that no object has, and its
    names are in key order. An entry has just what is to be said of its interaction. -/

namespace ThingHost

/-- The data description of a property is an object: it has no key twice. -/
def Affordance.Proper : Affordance → Prop
  | .property schema .. => (Members.keys schema).Nodup
  | .action .. => True
  | .event .. => True

/-- An entry says of an interaction what is to be said of it, and nothing else. -/
structure Interaction.Says (i : Interaction) (entry : Fields) : Prop where
  members : ∀ key, Members.get? key entry = i.affordance.documented i.label key
  once : i.affordance.Proper → (Members.keys entry).Nodup

theorem Interaction.says (i : Interaction) : ∃ entry, i.describe = .object entry ∧ i.Says entry := by
  have hnone : (Members.keys ([] : Fields)).Nodup := List.nodup_nil
  obtain ⟨entry, hentry, hmembers⟩ := i.describe_members
  refine ⟨entry, hentry, hmembers, fun hproper => ?_⟩
  obtain ⟨serial, name, label, affordance⟩ := i
  cases affordance with
  | property schema writable observable =>
    obtain rfl := Value.object.inj hentry
    exact Members.nodup_putAll hproper _
  | _ =>
    obtain rfl := Value.object.inj hentry
    exact Members.nodup_putAll hnone _

namespace Thing

/-- The interactions of a kind that the document can name. -/
def named (t : Thing) (kind : InteractionKind) : List Interaction :=
  t.interactions.filter fun i => i.kind = kind ∧ i.name ≠ "__proto__"

theorem named_eq (t : Thing) (kind : InteractionKind) :
    t.named kind = (t.ofKind kind).filter (·.name ≠ Members.forbidden) := by
  rw [named, ofKind, List.filter_filter]
  refine List.filter_congr fun i _ => ?_
  rw [Bool.decide_and, Bool.and_comm]
  rfl

theorem entries_named (t : Thing) (kind : InteractionKind) :
    t.entries kind = Members.ofList ((t.named kind).map fun i => (i.name, i.describe)) := by
  rw [named_eq, entries]

/-- A section has the interactions of a kind: each has one entry, nothing else has, and the names of indices come
    first, in ascending order, before the others in the order of the Thing. -/
structure Shows (t : Thing) (kind : InteractionKind) (entries : Fields) : Prop where
  names : Members.Arranges ((t.named kind).map (·.name)) (Members.keys entries)
  once : (Members.keys entries).Nodup
  entry : ∀ i ∈ t.named kind, ∃ entry, Members.get? i.name entries = some (.object entry) ∧ i.Says entry

theorem shows {t : Thing} (h : Distinct t.interactions) (kind : InteractionKind) : t.Shows kind (t.entries kind) := by
  have hnodup := entries_nodup h kind
  rw [← named_eq] at hnodup
  have hkeys : Members.keys ((t.named kind).map fun i => (i.name, i.describe)) = (t.named kind).map (·.name) := by
    simp [Members.keys, Function.comp_def]
  have harranges := Members.arranges_ofList hnodup
  rw [entries_named]
  refine ⟨hkeys ▸ harranges, harranges.perm.nodup_iff.mpr hnodup, fun i hi => ?_⟩
  obtain ⟨entry, hentry, hsays⟩ := i.says
  refine ⟨entry, ?_, hsays⟩
  rw [Members.get?_ofList hnodup, ← hentry]
  exact Members.get?_of_mem hnodup (List.mem_map.mpr ⟨i, hi, rfl⟩)

/-- The document has a section for each kind, which shows the interactions of the kind. -/
theorem document_law (id name : String) (description : Option String) (requests : List Request)
    (kind : InteractionKind) : ∃ entries,
      (served id name description requests).1.toDescription.member? (sectionKey kind) = some (.object entries) ∧
        (served id name description requests).1.Shows kind entries :=
  ⟨_, section_member _ kind, shows (distinct_served ..) kind⟩

end Thing
end ThingHost
