import ThingHost.Proofs.Schema

/-! Which values a schema accepts, constructor by constructor. A value that is not accepted has something wrong with
    it: what has no form that fits the schema has an issue. -/

namespace ThingHost

namespace Schema

/-- Nothing is wrong with the value. -/
def Accepts (s : Schema) (v : Value) : Prop := ∃ w, check s v = .ok w

variable {s item : Schema} {v d : Value} {limits key : List TextLimit} {fields : List (String × Schema)}

/-! ### Accepted values -/

theorem exists_forall₂ {α β : Type} {R : α → β → Prop} {as : List α} :
    (∃ bs, List.Forall₂ R as bs) ↔ ∀ a ∈ as, ∃ b, R a b := by
  induction as with
  | nil => simp
  | cons a rest ih =>
    rw [List.forall_mem_cons, ← ih]
    constructor
    · rintro ⟨_, h⟩
      obtain ⟨b, bs, hab, hrest, rfl⟩ := List.forall₂_cons_left_iff.mp h
      exact ⟨⟨b, hab⟩, bs, hrest⟩
    · rintro ⟨⟨b, hab⟩, bs, hrest⟩
      exact ⟨b :: bs, .cons hab hrest⟩

theorem checkText_issues {text : String} :
    (checkText limits (.string text)).issues = [] ↔ ∀ limit ∈ limits, limit.check text = [] :=
  List.flatMap_eq_nil_iff

theorem accepts_unknown : Accepts .unknown v := ⟨v, rfl⟩

theorem accepts_text : Accepts (.text limits) v ↔
    ∃ text, v = .string text ∧ ∀ limit ∈ limits, limit.check text = [] := by
  rw [Accepts]
  constructor
  · rintro ⟨w, hw⟩
    obtain ⟨rfl, text, rfl⟩ := check_text hw
    exact ⟨text, rfl, checkText_issues.mp (congrArg Report.issues hw)⟩
  · rintro ⟨text, rfl, hlimits⟩
    refine ⟨.string text, ?_⟩
    rw [check, checkText, List.flatMap_eq_nil_iff.mpr hlimits]
    rfl

theorem accepts_flag : Accepts .flag v ↔ ∃ b, v = .bool b := by
  constructor
  · rintro ⟨w, hw⟩
    exact (check_flag hw).2
  · rintro ⟨b, rfl⟩
    exact ⟨.bool b, rfl⟩

theorem accepts_optional : Accepts (.optional s) v ↔ v = .undefined ∨ Accepts s v := by
  constructor
  · rintro ⟨w, hw⟩
    rcases check_optional hw with ⟨hv, -⟩ | hs
    · exact .inl hv
    · exact .inr ⟨w, hs⟩
  · intro h
    by_cases hv : v = .undefined
    · exact ⟨.undefined, by rw [hv, check]; rfl⟩
    · obtain ⟨w, hw⟩ := h.resolve_left hv
      refine ⟨w, ?_⟩
      rw [check, if_neg]
      · exact hw
      · cases v with
        | undefined => exact absurd rfl hv
        | _ => simp [Value.isUndefined]

/-- A default that is accepted itself stands for a missing value. -/
theorem accepts_withDefault (hd : Accepts s d) : Accepts (.withDefault s d) v ↔ v = .undefined ∨ Accepts s v := by
  have hcheck : check (.withDefault s d) v = check s (if v.isUndefined then d else v) := by rw [check]
  rw [Accepts, hcheck]
  cases v with
  | undefined => exact ⟨fun _ => .inl rfl, fun _ => hd⟩
  | _ => exact ⟨.inr, fun h => h.resolve_left (by simp)⟩

theorem accepts_record : Accepts (.record key item) v ↔ ∃ members, v = .object members ∧
    ∀ m ∈ members, (∀ limit ∈ key, limit.check m.1 = []) ∧ Accepts item m.2 := by
  constructor
  · rintro ⟨w, hw⟩
    obtain ⟨members, all, rfl, -, hall⟩ := check_record.mp hw
    refine ⟨members, rfl, fun m hm => ?_⟩
    obtain ⟨b, -, hkey, hb⟩ := exists_forall₂.mp ⟨all, hall⟩ m hm
    exact ⟨checkText_issues.mp hkey, b.2, hb⟩
  · rintro ⟨members, rfl, hmembers⟩
    have hall : ∀ m ∈ members, ∃ b : String × Value,
        b.1 = m.1 ∧ (checkText key (.string m.1)).issues = [] ∧ check item m.2 = .ok b.2 := by
      intro m hm
      obtain ⟨hkey, w, hw⟩ := hmembers m hm
      exact ⟨(m.1, w), rfl, checkText_issues.mpr hkey, hw⟩
    obtain ⟨all, hall⟩ := exists_forall₂.mpr hall
    exact ⟨_, check_record.mpr ⟨members, all, rfl, rfl, hall⟩⟩

theorem accepts_shape : Accepts (.shape fields) v ↔
    (∃ members, v = .object members) ∧ ∀ f ∈ fields, Accepts f.2 (v.member f.1) := by
  constructor
  · rintro ⟨w, hw⟩
    obtain ⟨given, all, rfl, -, hall⟩ := check_shape.mp hw
    refine ⟨⟨given, rfl⟩, fun f hf => ?_⟩
    obtain ⟨b, -, hb⟩ := exists_forall₂.mp ⟨all, hall⟩ f hf
    exact ⟨b.2, hb⟩
  · rintro ⟨⟨given, rfl⟩, hfields⟩
    have hall : ∀ f ∈ fields, ∃ b : String × Value,
        b.1 = f.1 ∧ check f.2 ((Value.object given).member f.1) = .ok b.2 := by
      intro f hf
      obtain ⟨w, hw⟩ := hfields f hf
      exact ⟨(f.1, w), rfl, hw⟩
    obtain ⟨all, hall⟩ := exists_forall₂.mpr hall
    exact ⟨_, check_shape.mpr ⟨given, all, rfl, rfl, hall⟩⟩

/-! ### Refused values -/

/-- A report that yields no value says what is wrong. -/
def Faulted (r : Report) : Prop := r.result = none → r.issues ≠ []

theorem faulted_of_result {r : Report} {w : Value} (h : r.result = some w) : Faulted r := by
  intro hnone
  rw [h] at hnone
  cases hnone

theorem faulted_wrongType (expected : String) (v : Value) : Faulted (wrongType expected v) :=
  fun _ => List.cons_ne_nil _ _

theorem faulted_checkWord (words : List String) (v : Value) : Faulted (checkWord words v) := by
  cases v with
  | string text =>
    rw [checkWord]
    split
    · exact faulted_of_result rfl
    · exact fun _ => List.cons_ne_nil _ _
  | _ => exact faulted_wrongType _ _

theorem faulted_checkInteger (least most : Int) (v : Value) : Faulted (checkInteger least most v) := by
  rw [checkInteger]
  split
  · exact faulted_wrongType _ _
  · exact faulted_of_result rfl

/-- Members are missing only if one of them has something wrong with it. -/
theorem gatherMembers_faulted {reports : List (String × Report)} (h : ∀ r ∈ reports, Faulted r.2)
    (hnone : (gatherMembers reports).2 = none) : (gatherMembers reports).1 ≠ [] := by
  induction reports with
  | nil => cases hnone
  | cons r rest ih =>
    obtain ⟨k, r⟩ := r
    obtain ⟨hr, hrest⟩ := List.forall_mem_cons.mp h
    simp only [gatherMembers] at hnone ⊢
    cases hresult : r.result with
    | none => exact List.append_ne_nil_of_left_ne_nil (mt (under_issues _ _).mp (hr hresult)) _
    | some w =>
      rw [hresult, Option.bind_some, Option.map_eq_none_iff] at hnone
      exact List.append_ne_nil_of_right_ne_nil _ (ih hrest hnone)

theorem gatherItems_faulted {n : Nat} {reports : List Report} (h : ∀ r ∈ reports, Faulted r)
    (hnone : (gatherItems n reports).2 = none) : (gatherItems n reports).1 ≠ [] := by
  induction reports generalizing n with
  | nil => cases hnone
  | cons r rest ih =>
    obtain ⟨hr, hrest⟩ := List.forall_mem_cons.mp h
    simp only [gatherItems] at hnone ⊢
    cases hresult : r.result with
    | none => exact List.append_ne_nil_of_left_ne_nil (mt (under_issues _ _).mp (hr hresult)) _
    | some w =>
      rw [hresult, Option.bind_some, Option.map_eq_none_iff] at hnone
      exact List.append_ne_nil_of_right_ne_nil _ (ih hrest hnone)

theorem faulted_withKey {k : String} {r : Report} (h : Faulted r) : Faulted (withKey key k r) :=
  fun hnone => List.append_ne_nil_of_right_ne_nil _ (h hnone)

mutual

/-- What has no form that fits a schema has something wrong with it. -/
theorem faulted_check : (s : Schema) → (v : Value) → Faulted (check s v)
  | .unknown, v => faulted_of_result rfl
  | .text limits, v => by
    rw [check]
    cases v with
    | string text => exact faulted_of_result rfl
    | _ => exact faulted_wrongType _ _
  | .flag, v => by
    rw [check]
    cases v with
    | bool b => exact faulted_of_result rfl
    | _ => exact faulted_wrongType _ _
  | .word words, v => by
    rw [check]
    exact faulted_checkWord words v
  | .integer least most, v => by
    rw [check]
    exact faulted_checkInteger least most v
  | .record key item, v => by
    cases v with
    | object members =>
      rw [check]
      refine fun hnone => gatherMembers_faulted ?_ (Option.map_eq_none_iff.mp hnone)
      intro r hr
      obtain ⟨m, -, rfl⟩ := List.mem_map.mp hr
      exact faulted_withKey (faulted_check item m.2)
    | _ => exact faulted_wrongType _ _
  | .list item, v => by
    cases v with
    | array items =>
      rw [check]
      refine fun hnone => gatherItems_faulted ?_ (Option.map_eq_none_iff.mp hnone)
      intro r hr
      obtain ⟨v, -, rfl⟩ := List.mem_map.mp hr
      exact faulted_check item v
    | _ => exact faulted_wrongType _ _
  | .shape fields, v => by
    cases v with
    | object members =>
      rw [check]
      exact fun hnone => gatherMembers_faulted (faulted_fields fields members) (Option.map_eq_none_iff.mp hnone)
    | _ => exact faulted_wrongType _ _
  | .optional inner, v => by
    rw [check]
    split
    · exact faulted_of_result rfl
    · exact faulted_check inner v
  | .withDefault inner default, v => by
    rw [check]
    exact faulted_check inner _
  | .lawful inner law, v => by
    -- The law only adds issues, and it is looked at only where there is a value.
    have hinner := faulted_check inner v
    rw [check]
    cases hresult : (check inner v).result with
    | none => exact fun _ => hinner hresult
    | some w => exact faulted_of_result rfl

theorem faulted_fields : (fields : List (String × Schema)) → (given : Fields) →
    ∀ r ∈ checkFields fields given, Faulted r.2
  | [], _ => fun r hr => by cases hr
  | (k, s) :: rest, given => by
    rw [checkFields]
    exact List.forall_mem_cons.mpr ⟨faulted_check s _, faulted_fields rest given⟩

end

/-- Whatever is refused, something is wrong with it. -/
theorem issues_of_refused {issues : List Issue} (h : parse s v = .error issues) : issues ≠ [] := by
  have hfaulted := faulted_check s v
  rw [parse, Report.toExcept] at h
  split at h
  · cases h
  · rename_i hnone
    obtain rfl := Except.error.inj h
    intro hissues
    cases hresult : (check s v).result with
    | none => exact hfaulted hresult hissues
    | some w => exact hnone w hissues hresult

end Schema
end ThingHost
