import Mathlib.Data.List.Induction
import Mathlib.Data.List.Sort
import Mathlib.Data.Nat.Digits.Defs
import ThingHost.Proofs.Members

/-! Key order. An object that is made of members under distinct keys has the keys that are array indices first, in
    ascending order, and then the others as they were put. It keeps the order of the members just if none of them
    is an index that comes after a greater index or after a key that is no index. -/

namespace ThingHost

/-! ### Indices -/

def isIndex (key : String) : Bool := (indexKey? key).isSome

/-- The number that a decimal digit stands for. -/
def digit (c : Char) : Nat := c.toNat - '0'.toNat

theorem ofNat_digit {c : Char} (h : c.isDigit) : Char.ofNat (digit c + '0'.toNat) = c := by
  have hge : '0'.toNat ≤ c.toNat := by
    simp only [Char.isDigit, Bool.and_eq_true, decide_eq_true_eq] at h
    exact h.1
  rw [digit, Nat.sub_add_cancel hge, Char.ofNat_toNat]

theorem digit_lt {c : Char} (h : c.isDigit) : digit c < 10 := by
  simp only [Char.isDigit, Bool.and_eq_true, decide_eq_true_eq] at h
  have hle : c.toNat ≤ '9'.toNat := h.2
  have hdigits : '9'.toNat - '0'.toNat < 10 := by decide
  unfold digit
  omega

theorem digit_pos {c : Char} (h : c.isDigit) (hzero : c ≠ '0') : digit c ≠ 0 := by
  intro hd
  have hc := ofNat_digit h
  rw [hd] at hc
  exact hzero (hc ▸ rfl)

theorem digits_inj {as bs : List Char} (ha : ∀ c ∈ as, c.isDigit) (hb : ∀ c ∈ bs, c.isDigit)
    (h : as.map digit = bs.map digit) : as = bs := by
  have back : ∀ cs : List Char, (∀ c ∈ cs, c.isDigit) →
      (cs.map digit).map (fun d => Char.ofNat (d + '0'.toNat)) = cs := by
    intro cs hcs
    rw [List.map_map]
    exact (List.map_congr_left fun c hc => ofNat_digit (hcs c hc)).trans (List.map_id cs)
  rw [← back as ha, ← back bs hb, h]

theorem decimal_eq (cs : List Char) :
    cs.foldl (fun n d => n * 10 + (d.toNat - '0'.toNat)) 0 = Nat.ofDigits 10 (cs.map digit).reverse := by
  induction cs using List.reverseRecOn with
  | nil => rfl
  | append_singleton cs c ih =>
    rw [List.foldl_append, ih, List.map_append, List.reverse_append, List.map_singleton, List.reverse_singleton,
      List.singleton_append, Nat.ofDigits_cons]
    simp only [List.foldl_cons, List.foldl_nil, digit]
    omega

/-- The decimal of an index is canonical: only digits, and no zero at the start but in that of zero. -/
theorem indexKey?_spec {key : String} {n : Nat} (h : indexKey? key = some n) :
    (∀ c ∈ key.toList, c.isDigit) ∧ n = Nat.ofDigits 10 (key.toList.map digit).reverse ∧
      (key.toList = ['0'] ∨ ∃ c rest, key.toList = c :: rest ∧ c ≠ '0') := by
  rw [indexKey?] at h
  generalize key.toList = cs at h ⊢
  dsimp only at h
  split at h
  · cases h
  · rename_i hform
    split at h
    · cases h
    · rename_i hzero
      split at h
      · simp only [Bool.or_eq_true, Bool.not_eq_true', not_or, Bool.not_eq_false, List.all_eq_true] at hform
        obtain ⟨⟨hsome, -⟩, hdigits⟩ := hform
        refine ⟨hdigits, ?_, ?_⟩
        · rw [← decimal_eq]
          exact (Option.some.inj h).symm
        · cases cs with
          | nil => simp at hsome
          | cons c rest =>
            by_cases hc : c = '0'
            · simp [hc] at hzero
              exact .inl (by rw [hc, hzero])
            · exact .inr ⟨c, rest, rfl, hc⟩
      · cases h

theorem digits_eq {key : String} {n : Nat} (h : indexKey? key = some n) {c : Char} {rest : List Char}
    (hkey : key.toList = c :: rest) (hc : c ≠ '0') : Nat.digits 10 n = (key.toList.map digit).reverse := by
  obtain ⟨hdigits, hn, -⟩ := indexKey?_spec h
  rw [hn]
  refine Nat.digits_ofDigits 10 (by decide) _ ?_ ?_
  · intro d hd
    obtain ⟨e, he, rfl⟩ := List.mem_map.mp (List.mem_reverse.mp hd)
    exact digit_lt (hdigits e he)
  · intro _
    rw [List.getLast_reverse]
    simp only [hkey, List.map_cons, List.head_cons]
    exact digit_pos (hdigits c (by simp [hkey])) hc

/-- An index is written in one way. -/
theorem indexKey?_inj {a b : String} {n : Nat} (ha : indexKey? a = some n) (hb : indexKey? b = some n) : a = b := by
  -- `Nat.digits` of zero is empty, so zero, whose decimal has a digit, is told apart from the others first.
  obtain ⟨hadigits, han, ⟨hazero⟩ | ⟨c, arest, hacons, hc⟩⟩ := indexKey?_spec ha <;>
    obtain ⟨hbdigits, hbn, ⟨hbzero⟩ | ⟨d, brest, hbcons, hd⟩⟩ := indexKey?_spec hb
  · exact String.toList_inj.mp (hazero.trans hbzero.symm)
  · have hzero : n = 0 := by
      rw [han, hazero]
      rfl
    have hnone := digits_eq hb hbcons hd
    rw [hzero] at hnone
    simp [hbcons] at hnone
  · have hzero : n = 0 := by
      rw [hbn, hbzero]
      rfl
    have hnone := digits_eq ha hacons hc
    rw [hzero] at hnone
    simp [hacons] at hnone
  · have hdigits := (digits_eq ha hacons hc).symm.trans (digits_eq hb hbcons hd)
    exact String.toList_inj.mp (digits_inj hadigits hbdigits (List.reverse_injective hdigits))

/-! ### Which key stands before which -/

theorem precedes_iff {a b : String} :
    Precedes a b ↔ ∃ i, indexKey? a = some i ∧ ∀ j, indexKey? b = some j → i < j := by
  unfold Precedes
  cases ha : indexKey? a <;> cases hb : indexKey? b <;> simp

section Precedes
variable {a b c : String}

theorem isIndex_iff : isIndex a = true ↔ ∃ i, indexKey? a = some i := Option.isSome_iff_exists

theorem not_isIndex_iff : isIndex a = false ↔ indexKey? a = none := by
  rw [isIndex, Option.isSome_eq_false_iff, Option.isNone_iff_eq_none]

theorem isIndex_of_precedes (h : Precedes a b) : isIndex a = true := by
  obtain ⟨i, hi, -⟩ := precedes_iff.mp h
  exact isIndex_iff.mpr ⟨i, hi⟩

theorem precedes_of_not_isIndex (ha : isIndex a = true) (hb : isIndex b = false) : Precedes a b := by
  obtain ⟨i, hi⟩ := isIndex_iff.mp ha
  refine precedes_iff.mpr ⟨i, hi, fun j hj => ?_⟩
  rw [not_isIndex_iff.mp hb] at hj
  cases hj

theorem Precedes.asymm (h : Precedes a b) : ¬Precedes b a := by
  intro hback
  obtain ⟨i, hi, hless⟩ := precedes_iff.mp h
  obtain ⟨j, hj, hmore⟩ := precedes_iff.mp hback
  exact Nat.lt_asymm (hless j hj) (hmore i hi)

theorem Precedes.trans (h : Precedes a b) (h' : Precedes b c) : Precedes a c := by
  obtain ⟨i, hi, hless⟩ := precedes_iff.mp h
  obtain ⟨j, hj, hmore⟩ := precedes_iff.mp h'
  exact precedes_iff.mpr ⟨i, hi, fun k hk => (hless j hj).trans (hmore k hk)⟩

/-- Of two indices the smaller stands before the other. -/
theorem precedes_of_not (ha : isIndex a = true) (hne : a ≠ b) (h : ¬Precedes b a) : Precedes a b := by
  cases hb : isIndex b with
  | false => exact precedes_of_not_isIndex ha hb
  | true =>
    obtain ⟨i, hi⟩ := isIndex_iff.mp ha
    obtain ⟨j, hj⟩ := isIndex_iff.mp hb
    rcases Nat.lt_trichotomy i j with hlt | rfl | hgt
    · exact precedes_iff.mpr ⟨i, hi, fun k hk => Option.some.inj (hj ▸ hk) ▸ hlt⟩
    · exact absurd (indexKey?_inj hi hj) hne
    · exact absurd (precedes_iff.mpr ⟨j, hj, fun k hk => Option.some.inj (hi ▸ hk) ▸ hgt⟩) h

end Precedes

namespace Members
variable {α : Type} {names arranged : List String} {key : String} {members : List (String × α)}

/-- Names in key order: the indices among them, ascending, and then the others as they were. -/
def Arranges (names arranged : List String) : Prop :=
  ∃ indices, indices.Perm (names.filter isIndex) ∧ indices.Pairwise Precedes ∧
    arranged = indices ++ names.filter fun name => !isIndex name

theorem Arranges.perm (h : Arranges names arranged) : arranged.Perm names := by
  obtain ⟨indices, hperm, -, rfl⟩ := h
  exact (hperm.append_right _).trans (List.filter_append_perm isIndex names)

/-! ### Putting members -/

/-- What is no index goes to the end. -/
theorem keys_insert_last (h : isIndex key = false) (v : α) (members : List (String × α)) :
    keys (insert key v members) = keys members ++ [key] := by
  have hnever : ∀ k, ¬Precedes key k := fun k hk => by
    rw [isIndex_of_precedes hk] at h
    cases h
  induction members with
  | nil => rfl
  | cons m rest ih =>
    rw [insert, if_neg (hnever _), keys, List.map_cons]
    exact congrArg _ ih

/-- An index goes among the indices, which stay in front of the others. -/
theorem keys_insert_index (hkey : isIndex key = true) (v : α) {indices others : List String}
    (hmembers : keys members = indices ++ others) (hindices : ∀ k ∈ indices, isIndex k = true)
    (hothers : ∀ k ∈ others, isIndex k = false) (hfresh : key ∉ indices) (horder : indices.Pairwise Precedes) :
    ∃ front, keys (insert key v members) = front ++ others ∧ front.Perm (key :: indices) ∧
      front.Pairwise Precedes := by
  -- The induction is on the indices in front, not on the members: past them the place is found at once.
  induction indices generalizing members with
  | nil =>
    refine ⟨[key], ?_, .refl _, List.pairwise_singleton _ _⟩
    cases members with
    | nil => cases hmembers; rfl
    | cons m rest =>
      have hin : m.1 ∈ others := List.nil_append others ▸ hmembers ▸ List.mem_cons_self
      have hk : isIndex m.1 = false := hothers _ hin
      rw [insert, if_pos (precedes_of_not_isIndex hkey hk)]
      exact congrArg _ hmembers
  | cons k more ih =>
    obtain ⟨hk, hmore⟩ := List.pairwise_cons.mp horder
    cases members with
    | nil => cases hmembers
    | cons m rest =>
      obtain ⟨rfl, hrest⟩ := List.cons.inj hmembers
      rw [insert]
      split
      · rename_i hbefore
        refine ⟨key :: m.1 :: more, congrArg _ hmembers, .refl _,
          List.pairwise_cons.mpr ⟨fun b hb => ?_, horder⟩⟩
        rcases List.mem_cons.mp hb with rfl | hb
        · exact hbefore
        · exact hbefore.trans (hk b hb)
      · rename_i hnot
        have hne : m.1 ≠ key := fun h => hfresh (h ▸ List.mem_cons_self)
        have hbefore := precedes_of_not (hindices _ List.mem_cons_self) hne hnot
        obtain ⟨front, hkeys, hperm, hfront⟩ := ih hrest (fun b hb => hindices b (List.mem_cons_of_mem _ hb))
          (fun hin => hfresh (List.mem_cons_of_mem _ hin)) hmore
        refine ⟨m.1 :: front, congrArg _ hkeys, (hperm.cons _).trans (.swap _ _ _),
          List.pairwise_cons.mpr ⟨fun b hb => ?_, hfront⟩⟩
        rcases List.mem_cons.mp (hperm.mem_iff.mp hb) with rfl | hb
        · exact hbefore
        · exact hk b hb

theorem Arranges.insert (h : Arranges names (keys members)) (hfresh : key ∉ names) (v : α) :
    Arranges (names ++ [key]) (keys (insert key v members)) := by
  obtain ⟨indices, hperm, horder, hkeys⟩ := h
  cases hkey : isIndex key with
  | false =>
    refine ⟨indices, by simpa [hkey] using hperm, horder, ?_⟩
    rw [keys_insert_last hkey, hkeys]
    simp [hkey]
  | true =>
    have hin : ∀ k ∈ indices, k ∈ names ∧ isIndex k = true := fun k hk => by
      simpa using hperm.mem_iff.mp hk
    obtain ⟨front, hfront, hall, hordered⟩ := keys_insert_index hkey v hkeys (fun k hk => (hin k hk).2)
      (fun k hk => by simpa using (List.mem_filter.mp hk).2) (fun hk => hfresh (hin key hk).1) horder
    refine ⟨front, ?_, hordered, ?_⟩
    · rw [List.filter_append, List.filter_cons_of_pos (by exact hkey), List.filter_nil]
      exact hall.trans ((hperm.cons _).trans (List.perm_append_singleton ..).symm)
    · rw [hfront]
      simp [hkey]

theorem arranges_putAll {new : List (String × α)} (h : Arranges names (keys members))
    (hfresh : (names ++ keys new).Nodup) : Arranges (names ++ keys new) (keys (putAll members new)) := by
  induction new generalizing names members with
  | nil => simpa [putAll, keys] using h
  | cons m rest ih =>
    obtain ⟨k, v⟩ := m
    have hk : k ∉ names := fun hin => (List.nodup_append.mp hfresh).2.2 k hin k List.mem_cons_self rfl
    have hput : put k v members = insert k v members := by
      rw [put, if_neg]
      rw [has_iff, h.perm.mem_iff]
      exact hk
    have hsplit : names ++ keys ((k, v) :: rest) = names ++ [k] ++ keys rest := by simp [keys]
    rw [hsplit] at hfresh ⊢
    show Arranges _ (keys (putAll (put k v members) rest))
    rw [hput]
    exact ih (h.insert hk v) hfresh

/-- An object made of members under distinct keys has them in key order. -/
theorem arranges_ofList (h : (keys members).Nodup) : Arranges (keys members) (keys (ofList members)) := by
  have hnone : Arranges [] (keys ([] : List (String × α))) := ⟨[], .refl _, .nil, rfl⟩
  have hall : Arranges ([] ++ keys members) (keys (putAll [] members)) := arranges_putAll hnone h
  exact hall

/-! ### What key order changes -/

theorem Arranges.pairwise (h : Arranges names arranged) : arranged.Pairwise fun a b => ¬Precedes b a := by
  obtain ⟨indices, hperm, horder, rfl⟩ := h
  have hplain : ∀ b ∈ names.filter (fun name => !isIndex name), ∀ a, ¬Precedes b a := fun b hb a hprecedes => by
    have hindex := isIndex_of_precedes hprecedes
    simp [hindex] at hb
  refine List.pairwise_append.mpr ⟨horder.imp fun hab => hab.asymm, ?_, fun a _ b hb => hplain b hb a⟩
  exact List.pairwise_of_forall_mem_list fun a _ b hb => hplain b hb a

/-- In names that are in key order already the indices come first. -/
theorem filter_append_of_pairwise (h : names.Pairwise fun a b => ¬Precedes b a) :
    names = names.filter isIndex ++ names.filter fun name => !isIndex name := by
  induction names with
  | nil => rfl
  | cons a rest ih =>
    obtain ⟨ha, hrest⟩ := List.pairwise_cons.mp h
    cases hindex : isIndex a with
    | true =>
      simp only [List.filter_cons, hindex, ↓reduceIte, List.cons_append, Bool.not_true, Bool.false_eq_true]
      exact congrArg _ (ih hrest)
    | false =>
      have hplain : ∀ b ∈ rest, isIndex b = false := fun b hb => by
        cases hb' : isIndex b with
        | false => rfl
        | true => exact absurd (precedes_of_not_isIndex hb' hindex) (ha b hb)
      have hnone : rest.filter isIndex = [] := List.filter_eq_nil_iff.mpr fun b hb => by simp [hplain b hb]
      have hall : rest.filter (fun name => !isIndex name) = rest :=
        List.filter_eq_self.mpr fun b hb => by simp [hplain b hb]
      simp [hindex, hnone, hall]

/-- Key order leaves names as they are just if no index comes after a greater one or after a name that is none. -/
theorem Arranges.eq_iff (h : Arranges names arranged) (hnames : names.Nodup) :
    arranged = names ↔ names.Pairwise fun a b => ¬Precedes b a := by
  constructor
  · rintro rfl
    exact h.pairwise
  · intro hpairwise
    obtain ⟨indices, hperm, horder, rfl⟩ := h
    -- Both are the same indices in ascending order, and only one list is that.
    have hindices : indices = names.filter isIndex := by
      have hfilter : (names.filter isIndex).Pairwise Precedes := by
        refine ((hpairwise.and hnames).filter _).imp_of_mem fun {a b} ha _ hab => ?_
        exact precedes_of_not (List.mem_filter.mp ha).2 hab.2 hab.1
      exact hperm.eq_of_pairwise (fun a b _ _ hab hba => absurd hba hab.asymm) horder hfilter
    rw [hindices]
    exact (filter_append_of_pairwise hpairwise).symm

end Members

end ThingHost
