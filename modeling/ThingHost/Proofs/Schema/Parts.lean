import ThingHost.Proofs.Schema.Acceptance

/-! What is wrong with a whole is what is wrong with its parts, one after another and each under its own step. No part
    hides what is wrong with another. -/

namespace ThingHost

namespace Schema

variable {s item : Schema} {v w : Value} {issues : List Issue}

/-- Everything that is wrong with a value. -/
def faults (s : Schema) (v : Value) : List Issue :=
  match parse s v with
  | .ok _ => []
  | .error issues => issues

/-- A value is accepted just if nothing is wrong with it. -/
theorem accepts_iff_issues : Accepts s v ↔ (check s v).issues = [] := by
  constructor
  · rintro ⟨w, hw⟩
    rw [hw]
    rfl
  · intro hissues
    cases hresult : (check s v).result with
    | none => exact absurd hissues (faulted_check s v hresult)
    | some w => exact ⟨w, congrArg₂ Report.mk hissues hresult⟩

theorem exists_parse : (∃ w, parse s v = .ok w) ↔ (check s v).issues = [] := by
  simp only [parse_eq_ok]
  exact accepts_iff_issues

theorem parse_of_issues (h : (check s v).issues ≠ []) : parse s v = .error (check s v).issues := by
  rw [parse, Report.toExcept]
  split
  · rename_i hnone _
    exact absurd hnone h
  · rfl

theorem faults_eq (s : Schema) (v : Value) : faults s v = (check s v).issues := by
  rw [faults]
  by_cases h : (check s v).issues = []
  · obtain ⟨w, hw⟩ := exists_parse.mpr h
    rw [hw, h]
  · rw [parse_of_issues h]

/-! ### Parts -/

/-- Where nothing comes of any other element, all comes of the one. -/
theorem flatMap_one {α β : Type} {l : List α} {f : α → List β} {a : α} (hl : l.Nodup) (ha : a ∈ l)
    (h : ∀ b ∈ l, b ≠ a → f b = []) : l.flatMap f = f a := by
  induction l with
  | nil => cases ha
  | cons b rest ih =>
    obtain ⟨hfresh, hrest⟩ := List.nodup_cons.mp hl
    obtain ⟨hb, hothers⟩ := List.forall_mem_cons.mp h
    rw [List.flatMap_cons]
    rcases List.mem_cons.mp ha with rfl | hmem
    · have hnone : ∀ c ∈ rest, f c = [] := fun c hc => hothers c hc fun heq => hfresh (heq ▸ hc)
      rw [List.flatMap_eq_nil_iff.mpr hnone, List.append_nil]
    · rw [hb fun heq => hfresh (heq ▸ hmem), List.nil_append, ih hrest hmem hothers]

theorem gatherMembers_issues (reports : List (String × Report)) :
    (gatherMembers reports).1 = reports.flatMap fun r => (r.2.under (.key r.1)).issues := by
  induction reports with
  | nil => rfl
  | cons r rest ih =>
    rw [List.flatMap_cons, ← ih]
    rfl

theorem gatherItems_issues (n : Nat) (reports : List Report) :
    (gatherItems n reports).1 = (reports.zipIdx n).flatMap fun r => (r.1.under (.index r.2)).issues := by
  induction reports generalizing n with
  | nil => rfl
  | cons r rest ih =>
    rw [List.zipIdx_cons, List.flatMap_cons, ← ih]
    rfl

/-- What is wrong with an object is what is wrong with its fields, in the order of the shape. -/
theorem shape_issues (fields : List (String × Schema)) (given : Fields) :
    (check (.shape fields) (.object given)).issues =
      fields.flatMap fun f => (check f.2 ((Value.object given).member f.1)).issues.map (·.under (.key f.1)) := by
  have hreports : (check (.shape fields) (.object given)).issues = (gatherMembers (checkFields fields given)).1 := by
    rw [check]
    rfl
  rw [hreports, gatherMembers_issues, checkFields_eq, List.flatMap_map]
  rfl

/-- What is wrong with an array is what is wrong with its elements, in their order. -/
theorem list_issues (item : Schema) (items : List Value) : (check (.list item) (.array items)).issues =
    items.zipIdx.flatMap fun i => (check item i.1).issues.map (·.under (.index i.2)) := by
  have hreports : (check (.list item) (.array items)).issues = (gatherItems 0 (items.map fun v => check item v)).1 := by
    rw [check]
    rfl
  rw [hreports, gatherItems_issues, List.zipIdx_map, List.flatMap_map]
  rfl

end Schema

end ThingHost
