import Mathlib.Data.List.Forall2
import ThingHost.Proofs.Members
import ThingHost.Schema.Basic

/-! What a schema makes of a value that it accepts. The value comes out in a form that the schema accepts again and
    leaves as it is. -/

namespace ThingHost.Schema

variable {s item : Schema} {v w : Value} {key : List TextLimit} {fields : List (String × Schema)}

/-! ### Accepted parts -/

theorem exists_of_mem_right {α β : Type} {R : α → β → Prop} {as : List α} {bs : List β} (h : List.Forall₂ R as bs) {b : β}
    (hb : b ∈ bs) : ∃ a ∈ as, R a b := by
  induction h with
  | nil => cases hb
  | @cons a b' as bs hab _ ih =>
    rcases List.mem_cons.mp hb with rfl | hb
    · exact ⟨a, List.mem_cons_self, hab⟩
    · obtain ⟨a', ha', hr⟩ := ih hb
      exact ⟨a', List.mem_cons_of_mem _ ha', hr⟩

theorem under_issues (step : PathStep) (r : Report) : (r.under step).issues = [] ↔ r.issues = [] := by
  simp [Report.under]

/-- The members of a record or shape are accepted if each of them is. -/
theorem gatherMembers_ok {reports : List (String × Report)} {members : Fields} :
    gatherMembers reports = ([], some members) ↔
      List.Forall₂ (fun r m => m.1 = r.1 ∧ r.2 = .ok m.2) reports members := by
  induction reports generalizing members with
  | nil => cases members <;> simp [gatherMembers]
  | cons r rest ih =>
    obtain ⟨k, issues, result⟩ := r
    rcases hrest : gatherMembers rest with ⟨more, found⟩
    rw [hrest] at ih
    simp only [gatherMembers, hrest, Prod.mk.injEq, List.append_eq_nil_iff, under_issues, Option.bind_eq_some_iff,
      Option.map_eq_some_iff, List.forall₂_cons_left_iff]
    constructor
    · rintro ⟨⟨hissues, hmore⟩, w, hresult, ms, hms, rfl⟩
      have hall := ih.mp (by rw [hmore, hms])
      exact ⟨_, ms, ⟨rfl, Report.mk.injEq .. ▸ ⟨hissues, hresult⟩⟩, hall, rfl⟩
    · rintro ⟨⟨k', w⟩, ms, ⟨rfl, hr⟩, hall, rfl⟩
      obtain ⟨hissues, hresult⟩ := Report.mk.inj hr
      obtain ⟨hmore, hms⟩ := Prod.mk.inj (ih.mpr hall)
      exact ⟨⟨hissues, hmore⟩, w, hresult, ms, hms, rfl⟩

theorem gatherItems_ok {n : Nat} {reports : List Report} {items : List Value} :
    gatherItems n reports = ([], some items) ↔ List.Forall₂ (fun r w => r = .ok w) reports items := by
  induction reports generalizing n items with
  | nil => cases items <;> simp [gatherItems]
  | cons r rest ih =>
    obtain ⟨issues, result⟩ := r
    have ih := @ih (n + 1)
    rcases hrest : gatherItems (n + 1) rest with ⟨more, found⟩
    rw [hrest] at ih
    simp only [gatherItems, hrest, Prod.mk.injEq, List.append_eq_nil_iff, under_issues, Option.bind_eq_some_iff,
      Option.map_eq_some_iff, List.forall₂_cons_left_iff]
    constructor
    · rintro ⟨⟨hissues, hmore⟩, w, hresult, ws, hws, rfl⟩
      have hall := ih.mp (by rw [hmore, hws])
      exact ⟨w, ws, Report.mk.injEq .. ▸ ⟨hissues, hresult⟩, hall, rfl⟩
    · rintro ⟨w, ws, hr, hall, rfl⟩
      obtain ⟨hissues, hresult⟩ := Report.mk.inj hr
      obtain ⟨hmore, hws⟩ := Prod.mk.inj (ih.mpr hall)
      exact ⟨⟨hissues, hmore⟩, w, hresult, ws, hws, rfl⟩

theorem gathered_ok {α : Type} {gathered : List Issue × Option α} {f : α → Value} :
    Report.mk gathered.1 (gathered.2.map f) = .ok w ↔ ∃ a, gathered = ([], some a) ∧ w = f a := by
  obtain ⟨issues, found⟩ := gathered
  simp only [Report.ok, Report.mk.injEq, Option.map_eq_some_iff, Prod.mk.injEq]
  constructor
  · rintro ⟨rfl, a, rfl, rfl⟩
    exact ⟨a, ⟨rfl, rfl⟩, rfl⟩
  · rintro ⟨a, ⟨rfl, rfl⟩, rfl⟩
    exact ⟨rfl, a, rfl, rfl⟩

theorem ofItems_ok {reports : List Report} :
    ofItems reports = .ok w ↔ ∃ items, List.Forall₂ (fun r w => r = .ok w) reports items ∧ w = .array items :=
  gathered_ok.trans (exists_congr fun _ => and_congr_left' gatherItems_ok)

theorem ofRecord_ok {reports : List (String × Report)} : ofRecord reports = .ok w ↔ ∃ members,
    List.Forall₂ (fun r m => m.1 = r.1 ∧ r.2 = .ok m.2) reports members ∧
      w = .object (Members.without Members.forbidden members) :=
  gathered_ok.trans (exists_congr fun _ => and_congr_left' gatherMembers_ok)

theorem ofShape_ok {given : Fields} {reports : List (String × Report)} : ofShape given reports = .ok w ↔ ∃ members,
    List.Forall₂ (fun r m => m.1 = r.1 ∧ r.2 = .ok m.2) reports members ∧
      w = .object (members.filter fun m => !m.2.isUndefined || Members.has m.1 given) :=
  gathered_ok.trans (exists_congr fun _ => and_congr_left' gatherMembers_ok)

theorem withKey_ok {k : String} {r : Report} :
    withKey key k r = .ok w ↔ (checkText key (.string k)).issues = [] ∧ r = .ok w := by
  obtain ⟨issues, result⟩ := r
  simp [withKey, Report.ok, and_assoc]

theorem parse_eq_ok : parse s v = .ok w ↔ check s v = .ok w := by
  rcases h : check s v with ⟨issues, result⟩
  cases issues <;> cases result <;> simp [parse, h, Report.toExcept, Report.ok]

/-! ### Accepted values -/

attribute [local simp] check

theorem checkFields_eq (fields : List (String × Schema)) (given : Fields) : checkFields fields given =
    fields.map fun f => (f.1, check f.2 ((Members.get? f.1 given).getD .undefined)) := by
  induction fields with
  | nil => rfl
  | cons f rest ih =>
    obtain ⟨k, s⟩ := f
    rw [checkFields, ih]
    rfl

theorem check_text {limits : List TextLimit} (h : check (.text limits) v = .ok w) : w = v ∧ ∃ text, v = .string text := by
  rw [check] at h
  cases v with
  | string text => exact ⟨(Option.some.inj (congrArg Report.result h)).symm, text, rfl⟩
  | _ => cases h

theorem check_flag (h : check .flag v = .ok w) : w = v ∧ ∃ b, v = .bool b := by
  rw [check] at h
  cases v with
  | bool b => exact ⟨(Option.some.inj (congrArg Report.result h)).symm, b, rfl⟩
  | _ => cases h

theorem check_optional (h : check (.optional s) v = .ok w) : v = .undefined ∧ w = .undefined ∨ check s v = .ok w := by
  rw [check] at h
  cases v with
  | undefined => exact .inl ⟨rfl, (Option.some.inj (congrArg Report.result h)).symm⟩
  | _ => exact .inr h

/-- An array is taken element by element. -/
theorem check_list : check (.list item) v = .ok w ↔ ∃ items items', v = .array items ∧ w = .array items' ∧
    List.Forall₂ (fun a b => check item a = .ok b) items items' := by
  cases v with
  | array items =>
    simp only [check, ofItems_ok, List.forall₂_map_left_iff]
    constructor
    · rintro ⟨items', hall, rfl⟩
      exact ⟨items, items', rfl, rfl, hall⟩
    · rintro ⟨_, items', hv, rfl, hall⟩
      cases hv
      exact ⟨items', hall, rfl⟩
  | _ => simp [wrongType, Report.ok]

/-- A record is taken member by member; the key that no object gets is left out. -/
theorem check_record : check (.record key item) v = .ok w ↔ ∃ members all, v = .object members ∧
    w = .object (Members.without Members.forbidden all) ∧
    List.Forall₂ (fun a b => b.1 = a.1 ∧ (checkText key (.string a.1)).issues = [] ∧ check item a.2 = .ok b.2)
      members all := by
  cases v with
  | object members =>
    simp only [check, ofRecord_ok, List.forall₂_map_left_iff, withKey_ok]
    constructor
    · rintro ⟨all, hall, rfl⟩
      exact ⟨members, all, rfl, rfl, hall⟩
    · rintro ⟨_, all, hv, rfl, hall⟩
      cases hv
      exact ⟨all, hall, rfl⟩
  | _ => simp [wrongType, Report.ok]

/-- A shape is taken field by field; a field is left out if it is not given and comes to nothing. -/
theorem check_shape : check (.shape fields) v = .ok w ↔ ∃ given all, v = .object given ∧
    w = .object (all.filter fun m => !m.2.isUndefined || Members.has m.1 given) ∧
    List.Forall₂ (fun f m => m.1 = f.1 ∧ check f.2 (v.member f.1) = .ok m.2) fields all := by
  cases v with
  | object given =>
    simp only [check, ofShape_ok, checkFields_eq, List.forall₂_map_left_iff]
    constructor
    · rintro ⟨all, hall, rfl⟩
      exact ⟨given, all, rfl, rfl, hall⟩
    · rintro ⟨_, all, hv, rfl, hall⟩
      cases hv
      exact ⟨all, hall, rfl⟩
  | _ => simp [wrongType, Report.ok]

/-- The part of a lawful value that its schema checks, and the law. -/
theorem check_lawful {law : Value → List Issue} :
    check (.lawful s law) v = .ok w ↔ check s v = .ok w ∧ law w = [] := by
  rw [check]
  rcases hc : check s v with ⟨issues, result⟩
  cases result with
  | none => simp [Report.ok]
  | some w' =>
    simp only [Report.ok, Report.mk.injEq, List.append_eq_nil_iff, Option.some.injEq]
    constructor
    · rintro ⟨⟨hissues, hlaw⟩, rfl⟩
      exact ⟨⟨hissues, rfl⟩, hlaw⟩
    · rintro ⟨⟨hissues, rfl⟩, hlaw⟩
      exact ⟨⟨hissues, hlaw⟩, rfl⟩

/-! ### Shapes -/

section Shape
variable {given all : Fields}

theorem fields_keys (hall : List.Forall₂ (fun f m => m.1 = f.1 ∧ check f.2 (v.member f.1) = .ok m.2) fields all) :
    Members.keys all = fields.map (·.1) := by
  induction hall with
  | nil => rfl
  | cons hm _ ih =>
    rw [Members.keys, List.map_cons, List.map_cons, hm.1]
    exact congrArg _ ih

/-- Leaving out what comes to nothing changes no member. -/
theorem member_filter (hkeys : (Members.keys all).Nodup) {m : String × Value} (hm : m ∈ all) :
    (Value.object (all.filter fun m => !m.2.isUndefined || Members.has m.1 given)).member m.1 = m.2 := by
  obtain ⟨k, v⟩ := m
  have hsub := (List.filter_sublist (l := all) (p := fun m => !m.2.isUndefined || Members.has m.1 given)).map (·.1)
  rw [Value.member, Value.member?]
  cases hget : Members.get? k (all.filter fun m => !m.2.isUndefined || Members.has m.1 given) with
  | some w =>
    have hw := List.mem_of_mem_filter (Members.mem_of_get? hget)
    have hkv := Members.get?_of_mem hkeys hm
    rw [Members.get?_of_mem hkeys hw] at hkv
    exact Option.some.inj hkv
  | none =>
    have hout : (k, v) ∉ all.filter fun m => !m.2.isUndefined || Members.has m.1 given := fun hin =>
      Members.get?_eq_none_iff.mp hget (List.mem_map.mpr ⟨_, hin, rfl⟩)
    -- Only an undefined member is ever left out, and it reads the same when it is missing.
    cases v with
    | undefined => rfl
    | _ => exact absurd (List.mem_filter.mpr ⟨hm, by simp [Value.isUndefined]⟩) hout

/-- What a shape makes of a field. -/
theorem member_of_shape (hfields : (fields.map (·.1)).Nodup) (h : check (.shape fields) v = .ok w) {f : String × Schema}
    (hf : f ∈ fields) : check f.2 (v.member f.1) = .ok (w.member f.1) := by
  obtain ⟨given, all, -, rfl, hall⟩ := check_shape.mp h
  have hkeys : (Members.keys all).Nodup := fields_keys hall ▸ hfields
  obtain ⟨n, hn⟩ := List.getElem_of_mem hf
  obtain ⟨hlt, rfl⟩ := hn
  have hlt' : n < all.length := hall.length_eq ▸ hlt
  obtain ⟨hkey, hcheck⟩ := hall.get hlt hlt'
  simp only [List.get_eq_getElem] at hkey hcheck
  rw [hcheck, ← hkey, member_filter hkeys (List.getElem_mem hlt')]

/-- If it leaves what it makes of its fields as it is, a shape leaves the whole as it is. -/
theorem shape_self (hfields : (fields.map (·.1)).Nodup)
    (hself : ∀ f ∈ fields, ∀ a b, check f.2 a = .ok b → check f.2 b = .ok b) (h : check (.shape fields) v = .ok w) :
    check (.shape fields) w = .ok w := by
  obtain ⟨given, all, -, hw, hall⟩ := check_shape.mp h
  have hkeys : (Members.keys all).Nodup := fields_keys hall ▸ hfields
  refine check_shape.mpr ⟨_, all, hw, ?_, ?_⟩
  · rw [hw]
    refine congrArg Value.object (List.filter_congr fun m hm => ?_)
    -- Given to the shape a second time, the object has just those members that were kept the first time.
    have hkept : Members.has m.1 (all.filter fun m => !m.2.isUndefined || Members.has m.1 given) =
        (!m.2.isUndefined || Members.has m.1 given) := by
      rw [Bool.eq_iff_iff, Members.has_iff]
      constructor
      · intro hin
        obtain ⟨m', hm', hkey⟩ := List.mem_map.mp hin
        obtain rfl : m' = m := List.inj_on_of_nodup_map hkeys (List.mem_of_mem_filter hm') hm hkey
        exact (List.mem_filter.mp hm').2
      · intro hin
        exact List.mem_map.mpr ⟨m, List.mem_filter.mpr ⟨hm, hin⟩, rfl⟩
    rw [hkept, ← Bool.or_assoc, Bool.or_self]
  · have hfield : ∀ f ∈ fields, check f.2 (w.member f.1) = .ok (w.member f.1) := fun f hf =>
      hself f hf _ _ (member_of_shape hfields h hf)
    rw [List.forall₂_iff_get] at hall ⊢
    obtain ⟨hlen, hget⟩ := hall
    refine ⟨hlen, fun n hlt hlt' => ?_⟩
    obtain ⟨hkey, -⟩ := hget n hlt hlt'
    refine ⟨hkey, ?_⟩
    simp only [List.get_eq_getElem] at hkey ⊢
    have hvalue : w.member (fields[n]).1 = (all[n]).2 := by
      rw [hw, ← hkey]
      exact member_filter hkeys (List.getElem_mem hlt')
    rw [← hvalue]
    exact hfield _ (List.getElem_mem hlt)

/-- A shape has no other members than its fields. -/
theorem member_apart (h : check (.shape fields) v = .ok w) {k : String} (hk : k ∉ fields.map (·.1)) :
    w.member? k = none := by
  obtain ⟨given, all, -, rfl, hall⟩ := check_shape.mp h
  rw [Value.member?, Members.get?_eq_none_iff]
  intro hin
  rw [← fields_keys hall] at hk
  exact hk ((List.filter_sublist.map _).subset hin)

end Shape

/-! ### The form of accepted values -/

mutual

/-- No shape in the schema has two fields of one name. -/
def Distinct : Schema → Prop
  | .record _ item => Distinct item
  | .list item => Distinct item
  | .shape fields => (fields.map (·.1)).Nodup ∧ DistinctFields fields
  | .optional inner => Distinct inner
  | .withDefault inner _ => Distinct inner
  | .lawful inner _ => Distinct inner
  | _ => True

def DistinctFields : List (String × Schema) → Prop
  | [] => True
  | (_, s) :: rest => Distinct s ∧ DistinctFields rest

end

/-- Only from nothing comes nothing. -/
theorem undefined_of_check : {s : Schema} → {v : Value} → check s v = .ok .undefined → v = .undefined
  | .unknown, v, h => (Option.some.inj (congrArg Report.result h))
  | .text _, v, h => (check_text h).1.symm
  | .flag, v, h => (check_flag h).1.symm
  | .word words, v, h => by
    rw [check] at h
    cases v with
    | string text =>
      simp only [checkWord] at h
      split at h <;> cases h
    | _ => cases h
  | .integer least most, v, h => by
    rw [check, checkInteger] at h
    split at h
    · cases h
    · cases congrArg Report.result h
  | .record _ _, v, h => by
    obtain ⟨_, _, _, hw, _⟩ := check_record.mp h
    cases hw
  | .list _, v, h => by
    obtain ⟨_, _, _, hw, _⟩ := check_list.mp h
    cases hw
  | .shape _, v, h => by
    obtain ⟨_, _, _, hw, _⟩ := check_shape.mp h
    cases hw
  | .optional inner, v, h => by
    rcases check_optional h with ⟨hv, -⟩ | hv
    · exact hv
    · exact undefined_of_check hv
  | .withDefault inner default, v, h => by
    rw [check] at h
    cases v with
    | undefined => rfl
    | _ => exact undefined_of_check h
  | .lawful inner law, v, h => undefined_of_check (check_lawful.mp h).1

theorem toNumber_number (x : Number) : toNumber (.number x) = x := rfl

mutual

/-- What a schema has made of a value it accepts again, and leaves it as it is. -/
theorem check_self : {s : Schema} → {v w : Value} → Distinct s → check s v = .ok w → check s w = .ok w
  | .unknown, v, w, _, _ => rfl
  | .text _, v, w, _, h => (check_text h).1 ▸ h
  | .flag, v, w, _, h => (check_flag h).1 ▸ h
  | .word words, v, w, _, h => by
    rw [check] at h ⊢
    cases v with
    | string text =>
      have hw : w = .string text := by
        rw [checkWord] at h
        split at h
        · exact (Option.some.inj (congrArg Report.result h)).symm
        · cases h
      exact hw ▸ h
    | _ => cases h
  | .integer least most, v, w, _, h => by
    rw [check, checkInteger] at h
    have hw : w = .number (toNumber v) := by
      split at h
      · cases h
      · exact (Option.some.inj (congrArg Report.result h)).symm
    rw [check, checkInteger, hw, toNumber_number]
    exact hw ▸ h
  | .record key item, v, w, hs, h => by
    have hs : Distinct item := hs
    obtain ⟨members, all, -, rfl, hall⟩ := check_record.mp h
    refine check_record.mpr ⟨_, Members.without Members.forbidden all, rfl, ?_, ?_⟩
    · simp [Members.without]
    · have hself : ∀ b ∈ all, (checkText key (.string b.1)).issues = [] ∧ check item b.2 = .ok b.2 := by
        intro b hb
        obtain ⟨a, -, hkey, hissues, hcheck⟩ := exists_of_mem_right hall hb
        exact ⟨hkey ▸ hissues, check_self hs hcheck⟩
      exact List.forall₂_same.mpr fun b hb => ⟨rfl, hself b (List.mem_of_mem_filter hb)⟩
  | .list item, v, w, hs, h => by
    have hs : Distinct item := hs
    obtain ⟨items, items', -, rfl, hall⟩ := check_list.mp h
    refine check_list.mpr ⟨items', items', rfl, rfl, List.forall₂_same.mpr fun b hb => ?_⟩
    obtain ⟨a, -, hcheck⟩ := exists_of_mem_right hall hb
    exact check_self hs hcheck
  | .shape fields, v, w, hs, h => shape_self hs.1 (fun f hf _ _ hc => fields_self hs.2 f hf hc) h
  | .optional inner, v, w, hs, h => by
    rcases check_optional h with ⟨-, rfl⟩ | hv
    · rfl
    · have hs : Distinct inner := hs
      have hw := check_self hs hv
      cases w with
      | undefined => rfl
      | _ => exact hw
  | .withDefault inner default, v, w, hs, h => by
    have hs : Distinct inner := hs
    have hinner := h
    rw [check] at hinner
    have hw := check_self hs hinner
    cases w with
    -- The default stands for a missing value, so nothing can come of it only if it is nothing itself.
    | undefined =>
      rw [undefined_of_check h] at h
      exact h
    | _ => exact hw
  | .lawful inner law, v, w, hs, h => by
    have hs : Distinct inner := hs
    obtain ⟨hv, hlaw⟩ := check_lawful.mp h
    exact check_lawful.mpr ⟨check_self hs hv, hlaw⟩

theorem fields_self : {fields : List (String × Schema)} → DistinctFields fields → ∀ f ∈ fields, ∀ {v w : Value},
    check f.2 v = .ok w → check f.2 w = .ok w
  | (k, s) :: rest, hs, f, hf, v, w, h => by
    rcases List.mem_cons.mp hf with rfl | hf
    · exact check_self hs.1 h
    · exact fields_self hs.2 f hf h

end

end ThingHost.Schema
