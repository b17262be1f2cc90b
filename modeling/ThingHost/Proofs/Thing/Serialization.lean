import Mathlib.Data.List.Perm.Basic
import ThingHost.Proofs.Json
import ThingHost.Proofs.Thing.Document

/-! The text of a description document. The entries of a section stand in key order, so they keep the order of the
    Thing's interactions just if no name that is an index comes after the name of a greater index or after a name that
    is none. -/

namespace ThingHost

namespace Thing

/-- The text of a section whose entries stand in a given order. -/
def sectionText (kind : InteractionKind) (order : List Interaction) : List Char :=
  Json.quote (sectionKey kind) ++ ':' :: Json.braced (order.map fun i => Json.member i.name i.describe)

/-- The text of a description document in which the entries of each section stand in a given order. -/
def documentText (t : Thing) (order : InteractionKind → List Interaction) : String :=
  let description := (t.description.map fun text => Json.member "description" (.string text)).toList
  let sections := InteractionKind.all.map fun kind => sectionText kind (order kind)
  String.ofList (Json.braced ([Json.member "@context" (.string descriptionContext), Json.member "id" (.string t.id),
    Json.member "name" (.string t.name)] ++ description ++ sections))

/-- The text of the description document has the entries of each section in an order that only the names make. -/
structure Serializes (t : Thing) (order : InteractionKind → List Interaction) : Prop where
  /-- Only a data description that holds a big integer has no text. -/
  text : t.descriptionText? = if Json.holdsBigint t.toDescription then none else some (t.documentText order)
  entries : ∀ kind, (order kind).Perm (t.named kind)
  names : ∀ kind, Members.Arranges ((t.named kind).map (·.name)) ((order kind).map (·.name))
  /-- It is the order of the Thing just if no index among the names comes after a greater one or after a name that
      is none. -/
  kept : ∀ kind, (order kind).map (·.name) = (t.named kind).map (·.name) ↔
    ((t.named kind).map (·.name)).Pairwise fun a b => ¬Precedes b a

theorem exists_order {t : Thing} (h : Distinct t.interactions) (kind : InteractionKind) :
    ∃ order : List Interaction, order.Perm (t.named kind) ∧
      t.entries kind = order.map fun i => (i.name, i.describe) := by
  have hperm : (t.entries kind).Perm ((t.named kind).map fun i => (i.name, i.describe)) := by
    rw [entries_named]
    exact Members.ofList_perm (named_eq t kind ▸ entries_nodup h kind)
  -- Any order of the entries is one of the interactions: what is permuted on one side can be on the other.
  have hsame : List.Forall₂ (fun (m : String × Value) (i : Interaction) => m = (i.name, i.describe))
      ((t.named kind).map fun i => (i.name, i.describe)) (t.named kind) :=
    List.forall₂_map_left_iff.mpr (List.forall₂_same.mpr fun _ _ => rfl)
  obtain ⟨order, hall, horder⟩ := List.perm_comp_forall₂ hperm hsame
  refine ⟨order, horder, ?_⟩
  rwa [← List.forall₂_map_right_iff, List.forall₂_eq_eq_eq] at hall

theorem section_chars {kind : InteractionKind} {entries : Fields} {order : List Interaction}
    (h : entries = order.map fun i => (i.name, i.describe)) :
    Json.member (sectionKey kind) (.object entries) = sectionText kind order := by
  have hdefined : ∀ m ∈ entries, m.2.isUndefined = false := by
    intro m hm
    rw [h] at hm
    obtain ⟨i, -, rfl⟩ := List.mem_map.mp hm
    obtain ⟨entry, hentry, -⟩ := i.says
    rw [hentry]
    rfl
  rw [Json.member, Json.chars_object hdefined, sectionText, h, List.map_map]
  rfl

theorem write_document (t : Thing) {order : InteractionKind → List Interaction}
    (h : ∀ kind, t.entries kind = (order kind).map fun i => (i.name, i.describe)) :
    Json.write t.toDescription = t.documentText order := by
  rw [Json.write, toDescription, Json.chars_object, documentText]
  · simp only [InteractionKind.all, List.map_cons, List.map_nil, ← section_chars (h _)]
    cases t.description <;> rfl
  · cases t.description <;> simp [Value.optional, Value.isUndefined]

/-- Whatever was added and removed, the text has each section in key order, and it has it in the order of the Thing just
    if that is key order. -/
theorem serialization_law (id name : String) (description : Option String) (requests : List Request) :
    ∃ order, (served id name description requests).1.Serializes order := by
  have hdistinct := distinct_served id name description requests
  generalize (served id name description requests).1 = t at hdistinct
  choose order hperm hentries using exists_order hdistinct
  have hnames : ∀ kind, Members.Arranges ((t.named kind).map (·.name)) ((order kind).map (·.name)) := by
    intro kind
    have harranges := (shows hdistinct kind).names
    rw [hentries, Members.keys, List.map_map] at harranges
    exact harranges
  refine ⟨order, ?_, hperm, hnames, fun kind => ?_⟩
  · rw [descriptionText?, Json.write?, write_document t hentries]
  · refine (hnames kind).eq_iff ?_
    exact (List.filter_sublist.map _).nodup hdistinct

/-- Two properties, of which only the second has a number for its name. -/
def numbered : List Request :=
  [.add ⟨0, "b", none, .property [] true true⟩, .add ⟨1, "1", none, .property [] true true⟩]

/-- The text does not keep the order of the Thing: the number comes first. -/
theorem number_written_first :
    (served "a" "A" none numbered).1.names .property = ["b", "1"] ∧
    (served "a" "A" none numbered).1.descriptionText? =
      some ("\x7b\"@context\":\"https://www.w3.org/2019/wot/td/v1\",\"id\":\"a\",\"name\":\"A\"," ++
        "\"properties\":\x7b\"1\":\x7b\"writable\":true,\"observable\":true\x7d," ++
        "\"b\":\x7b\"writable\":true,\"observable\":true\x7d\x7d,\"actions\":\x7b\x7d,\"events\":\x7b\x7d\x7d") :=
  ⟨by rfl, by decide +kernel⟩

end Thing
end ThingHost
