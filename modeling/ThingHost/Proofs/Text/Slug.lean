import Mathlib.Data.List.Forall2
import Mathlib.Data.List.TakeWhile
import ThingHost.Text.Slug
import ThingHost.Text.Split

/-! The slug of a name is made of the words in it: the longest runs of letters and digits in its lower case, with one
    dash between two of them. It is also what is left of the lower case when every run of other characters is written
    as one dash and the dashes at the ends are cut off. -/

namespace ThingHost.Slug

/-! ### Words -/

/-- The pieces of a text between the characters that a slug leaves out. -/
def pieces (text : List Char) : List (List Char) := text.splitOnP fun c => !keeps c

/-- The longest runs of kept characters in a text. -/
def runs (text : List Char) : List (List Char) := (pieces text).filter (!·.isEmpty)

/-- Words with one dash between two of them. -/
def joined (words : List (List Char)) : List Char := ['-'].intercalate words

/-- One or more kept characters. -/
def IsWord (word : List Char) : Prop := word ≠ [] ∧ ∀ c ∈ word, keeps c = true

/-- Words with single dashes between them, at least one word. -/
inductive IsSlug : List Char → Prop where
  | word {word : List Char} : IsWord word → IsSlug word
  | dash {word rest : List Char} : IsWord word → IsSlug rest → IsSlug (word ++ '-' :: rest)

/-- Writes every run of characters that a slug leaves out as one dash; `gap` says that the dash of this run is written
    already. -/
def collapse (gap : Bool) : List Char → List Char
  | [] => []
  | c :: rest =>
    if keeps c then c :: collapse false rest else (if gap then [] else ['-']) ++ collapse true rest

/-! ### Lower case -/

/-- What the lower case of a character may be. That of the ASCII characters, of the Kelvin sign and of the capital I
    with a dot is their own; that of any other character is not empty, and there is no letter from a to z and no digit
    in it. -/
def Lowers (c : Char) (lowered : List Char) : Prop :=
  if c.toNat < 0x80 ∨ c = '\u212A' ∨ c = '\u0130' then lowered = lower c
  else lowered ≠ [] ∧ ∀ d ∈ lowered, keeps d = false

/-- Writing a text in lower case, character by character. What becomes of a character may depend on those around it. -/
def LowerCases (toLower : List Char → List Char) : Prop :=
  ∀ text, ∃ parts, List.Forall₂ Lowers text parts ∧ toLower text = parts.flatten

section Lower
variable {c : Char}

theorem keeps_dash : keeps '-' = false := by decide

theorem not_keeps_of_ascii (h : ¬c.toNat < 0x80) : keeps c = false := by
  have hz : 'z'.toNat < 0x80 := by decide
  have h9 : '9'.toNat < 0x80 := by decide
  simp only [keeps, Bool.or_eq_false_iff, Bool.and_eq_false_iff, decide_eq_false_iff_not]
  exact ⟨.inr fun hle => h (Nat.lt_of_le_of_lt hle hz), .inr fun hle => h (Nat.lt_of_le_of_lt hle h9)⟩

theorem lower_of_other (h : ¬(c.toNat < 0x80 ∨ c = '\u212A' ∨ c = '\u0130')) : lower c = [c] := by
  obtain ⟨hascii, hkelvin, hdotted⟩ := not_or.mp h |>.imp_right not_or.mp
  have hZ : 'Z'.toNat < 0x80 := by decide
  have hsame : c.toLower = c := dif_neg fun hle => hascii (Nat.lt_of_le_of_lt hle.2 hZ)
  rw [lower, if_neg hkelvin, if_neg hdotted, hsame]

theorem lowers_other {d : Char} (hc : ¬(c.toNat < 0x80 ∨ c = '\u212A' ∨ c = '\u0130')) (hd : keeps d = false) :
    Lowers c [d] := by
  rw [Lowers, if_neg hc]
  exact ⟨List.cons_ne_nil _ _, List.forall_mem_singleton.mpr hd⟩

theorem lowers_lower (c : Char) : Lowers c (lower c) := by
  by_cases hc : c.toNat < 0x80 ∨ c = '\u212A' ∨ c = '\u0130'
  · exact (if_pos hc).mpr rfl
  · rw [lower_of_other hc]
    exact lowers_other hc (not_keeps_of_ascii fun h => hc (.inl h))

theorem lowerCases_flatMap {f : Char → List Char} (h : ∀ c, Lowers c (f c)) : LowerCases (List.flatMap f) := by
  refine fun text => ⟨text.map f, ?_, List.flatMap_def ..⟩
  exact List.forall₂_map_right_iff.mpr (List.forall₂_same.mpr fun c _ => h c)

theorem lower_of_slug (h : keeps c = true ∨ c = '-') : lower c = [c] := by
  -- Only ASCII is kept, and that can be gone through.
  have hascii : ∀ n < 0x80, keeps (Char.ofNat n) = true ∨ Char.ofNat n = '-' →
      lower (Char.ofNat n) = [Char.ofNat n] := by
    decide
  have hc : c.toNat < 0x80 := by
    rcases h with h | rfl
    · by_contra hlarge
      rw [not_keeps_of_ascii hlarge] at h
      cases h
    · decide
  have hself := hascii c.toNat hc
  rw [Char.ofNat_toNat] at hself
  exact hself h

end Lower

/-! ### Pieces -/

section Pieces
variable {c : Char} {text rest : List Char}

theorem pieces_cons_of_kept (h : keeps c = true) (text : List Char) :
    pieces (c :: text) = (pieces text).modifyHead (c :: ·) := by
  rw [pieces, List.splitOnP_cons_eq_if_modifyHead, if_neg (by simp [h])]
  rfl

theorem pieces_cons_of_other (h : keeps c = false) (text : List Char) : pieces (c :: text) = [] :: pieces text := by
  rw [pieces, List.splitOnP_cons_eq_if_modifyHead, if_pos (by simp [h])]
  rfl

theorem pieces_ne_nil (text : List Char) : pieces text ≠ [] := List.splitOnP_ne_nil _ _

theorem keeps_of_mem_piece {piece : List Char} (hpiece : piece ∈ pieces text) (hc : c ∈ piece) : keeps c = true := by
  induction text generalizing piece with
  | nil =>
    rw [List.mem_singleton.mp hpiece] at hc
    cases hc
  | cons d rest ih =>
    cases hd : keeps d with
    | false =>
      rw [pieces_cons_of_other hd] at hpiece
      rcases List.mem_cons.mp hpiece with rfl | hpiece
      · cases hc
      · exact ih hpiece hc
    | true =>
      obtain ⟨head, tail, hsplit⟩ := List.exists_cons_of_ne_nil (pieces_ne_nil rest)
      rw [pieces_cons_of_kept hd, hsplit, List.modifyHead_cons] at hpiece
      rw [hsplit] at ih
      rcases List.mem_cons.mp hpiece with rfl | hpiece
      · rcases List.mem_cons.mp hc with rfl | hc
        · exact hd
        · exact ih List.mem_cons_self hc
      · exact ih (List.mem_cons_of_mem _ hpiece) hc

theorem isWord_of_mem_runs {word : List Char} (h : word ∈ runs text) : IsWord word := by
  obtain ⟨hpiece, hsome⟩ := List.mem_filter.mp h
  exact ⟨by simpa using hsome, fun c hc => keeps_of_mem_piece hpiece hc⟩

theorem runs_eq_nil : runs text = [] ↔ ∀ c ∈ text, keeps c = false := by
  induction text with
  | nil => simp [runs, pieces]
  | cons c rest ih =>
    obtain ⟨head, tail, hsplit⟩ := List.exists_cons_of_ne_nil (pieces_ne_nil rest)
    cases hc : keeps c with
    | false => simpa [runs, pieces_cons_of_other hc, hc] using ih
    | true => simp [runs, pieces_cons_of_kept hc, hsplit, hc]

end Pieces

/-! ### Words joined -/

section Joined
variable {text word : List Char} {words : List (List Char)}

theorem joined_cons (word : List Char) (words : List (List Char)) :
    joined (word :: words) = word ++ words.flatMap ('-' :: ·) := by
  induction words generalizing word with
  | nil => simp [joined]
  | cons next words ih =>
    rw [joined, List.intercalate_cons_cons, ← joined, ih]
    simp

theorem isSlug_joined (h : ∀ w ∈ words, IsWord w) (hsome : words ≠ []) : IsSlug (joined words) := by
  induction words with
  | nil => exact absurd rfl hsome
  | cons word words ih =>
    obtain ⟨hword, hwords⟩ := List.forall_mem_cons.mp h
    cases words with
    | nil =>
      rw [joined, List.intercalate_singleton]
      exact .word hword
    | cons next words =>
      rw [joined, List.intercalate_cons_cons, List.append_assoc]
      exact .dash hword (ih hwords (List.cons_ne_nil _ _))

theorem joined_eq_nil (h : ∀ w ∈ words, IsWord w) : joined words = [] ↔ words = [] := by
  cases words with
  | nil => simp [joined]
  | cons word words => simp [joined_cons, (h word List.mem_cons_self).1]

/-- What is written of a text: after a word every run of it follows a dash, but for the one that goes on with that
    word. -/
theorem compact_pieces (text : List Char) {head : List Char} {tail : List (List Char)}
    (h : pieces text = head :: tail) :
    compact true false text = head ++ (tail.filter (!·.isEmpty)).flatMap ('-' :: ·) ∧
      compact true true text = (runs text).flatMap ('-' :: ·) ∧
      ∀ gap, compact false gap text = joined (runs text) := by
  -- The modes go together: a kept character leads on to the first, any other to the second.
  induction text generalizing head tail with
  | nil =>
    obtain ⟨rfl, rfl⟩ := List.cons.inj h
    simp [compact, runs, pieces, joined]
  | cons c rest ih =>
    obtain ⟨first, others, hsplit⟩ := List.exists_cons_of_ne_nil (pieces_ne_nil rest)
    obtain ⟨hword, hgap, hstart⟩ := ih hsplit
    cases hc : keeps c with
    | true =>
      rw [pieces_cons_of_kept hc, hsplit, List.modifyHead_cons] at h
      obtain ⟨rfl, rfl⟩ := List.cons.inj h
      have hruns : runs (c :: rest) = (c :: first) :: others.filter (!·.isEmpty) := by
        simp [runs, pieces_cons_of_kept hc, hsplit]
      simp [compact, hc, hword, hruns, joined_cons]
    | false =>
      rw [pieces_cons_of_other hc, hsplit] at h
      obtain ⟨rfl, rfl⟩ := List.cons.inj h
      have hruns : runs (c :: rest) = runs rest := by simp [runs, pieces_cons_of_other hc]
      have hfilter : runs rest = (first :: others).filter (!·.isEmpty) := by rw [runs, hsplit]
      simp [compact, hc, hgap, hstart, hruns, ← hfilter]

theorem compact_eq_joined (text : List Char) : compact false false text = joined (runs text) := by
  obtain ⟨head, tail, hsplit⟩ := List.exists_cons_of_ne_nil (pieces_ne_nil text)
  exact (compact_pieces text hsplit).2.2 false

end Joined

/-! ### Slugs -/

section Slugs
variable {text word rest : List Char}

theorem mem_slug (h : IsSlug text) {c : Char} (hc : c ∈ text) : keeps c = true ∨ c = '-' := by
  induction h with
  | word hword => exact .inl (hword.2 c hc)
  | dash hword _ ih =>
    rcases List.mem_append.mp hc with hc | hc
    · exact .inl (hword.2 c hc)
    · rcases List.mem_cons.mp hc with rfl | hc
      · exact .inr rfl
      · exact ih hc

theorem lowered_slug (h : IsSlug text) : text.flatMap lower = text := by
  rw [List.flatMap_congr fun c hc => lower_of_slug (mem_slug h hc), List.flatMap_singleton']

/-- A word is written as it is, after the dash that is due. -/
theorem compact_word (h : IsWord word) (started gap : Bool) (rest : List Char) :
    compact started gap (word ++ rest) =
      (if started && gap then ['-'] else []) ++ word ++ compact true false rest := by
  have hgoes : ∀ more : List Char, (∀ c ∈ more, keeps c = true) →
      compact true false (more ++ rest) = more ++ compact true false rest := by
    intro more hmore
    induction more with
    | nil => rfl
    | cons c more ih =>
      obtain ⟨hc, hmore⟩ := List.forall_mem_cons.mp hmore
      simp [compact, hc, ih hmore]
  obtain ⟨c, more, rfl⟩ := List.exists_cons_of_ne_nil h.1
  obtain ⟨hc, hmore⟩ := List.forall_mem_cons.mp h.2
  rw [List.cons_append, compact, if_pos hc, hgoes more hmore]
  split <;> simp

theorem compact_slug (h : IsSlug text) (started gap : Bool) :
    compact started gap text = (if started && gap then ['-'] else []) ++ text := by
  induction h generalizing started gap with
  | @word word hword =>
    have hcompact := compact_word hword started gap []
    simpa [compact] using hcompact
  | dash hword _ ih => simp [compact_word hword, compact, keeps_dash, ih true true]

theorem ofName_slug {name : String} (h : IsSlug name.toList) : ofName name = name := by
  rw [ofName, lowered_slug h, compact_slug h]
  simp

theorem ends_of_slug (h : IsSlug text) :
    (∃ c more, keeps c = true ∧ text = c :: more) ∧ ∃ c more, keeps c = true ∧ text = more ++ [c] := by
  have hends : ∀ {word : List Char}, IsWord word →
      (∃ c more, keeps c = true ∧ word = c :: more) ∧ ∃ c more, keeps c = true ∧ word = more ++ [c] := by
    intro word hword
    obtain ⟨c, more, rfl⟩ := List.exists_cons_of_ne_nil hword.1
    refine ⟨⟨c, more, hword.2 c List.mem_cons_self, rfl⟩, ?_⟩
    exact ⟨_, _, hword.2 _ (List.getLast_mem hword.1), (List.dropLast_append_getLast hword.1).symm⟩
  induction h with
  | word hword => exact hends hword
  | @dash word rest hword _ ih =>
    obtain ⟨⟨c, more, hc, rfl⟩, -⟩ := hends hword
    obtain ⟨-, d, front, hd, rfl⟩ := ih
    exact ⟨⟨c, _, hc, rfl⟩, d, (c :: more) ++ '-' :: front, hd, by simp⟩

end Slugs

/-! ### Lower case does not matter -/

section Lowered
variable {text other rest rest' : List Char}

/-- Of other characters it only matters that there are some. -/
theorem compact_other (hother : ∀ c ∈ other, keeps c = false) (hsome : other ≠ []) (started gap : Bool)
    (rest : List Char) : compact started gap (other ++ rest) = compact started true rest := by
  induction other generalizing gap with
  | nil => exact absurd rfl hsome
  | cons c other ih =>
    obtain ⟨hc, hother⟩ := List.forall_mem_cons.mp hother
    rw [List.cons_append, compact, if_neg (by simp [hc])]
    cases other with
    | nil => rfl
    | cons d other => exact ih hother (List.cons_ne_nil _ _) true

theorem compact_congr (h : ∀ started gap, compact started gap rest = compact started gap rest') (text : List Char)
    (started gap : Bool) : compact started gap (text ++ rest) = compact started gap (text ++ rest') := by
  induction text generalizing started gap with
  | nil => exact h started gap
  | cons c text ih => simp only [List.cons_append, compact, ih]

/-- All ways of writing a text in lower case come to the same slug. -/
theorem compact_lowered {parts : List (List Char)} (h : List.Forall₂ Lowers text parts) (started gap : Bool) :
    compact started gap parts.flatten = compact started gap (text.flatMap lower) := by
  induction h generalizing started gap with
  | nil => rfl
  | @cons c part text parts hpart _ ih =>
    have hlower := lowers_lower c
    rw [List.flatten_cons, List.flatMap_cons, compact_congr ih]
    unfold Lowers at hpart hlower
    split at hpart
    · rw [hpart]
    · rename_i hc
      rw [if_neg hc] at hlower
      rw [compact_other hpart.2 hpart.1, compact_other hlower.2 hlower.1]

theorem ofName_eq {toLower : List Char → List Char} (h : LowerCases toLower) (name : String) :
    ofName name = String.ofList (joined (runs (toLower name.toList))) := by
  obtain ⟨parts, hparts, hlower⟩ := h name.toList
  rw [ofName, ← compact_lowered hparts, ← hlower, compact_eq_joined]

end Lowered

/-! ### Dashes for runs, and none at the ends -/

section Collapse
variable {text front slug back : List Char}

/-- Once a word is written, the collapsed text has at most a dash more at its end. Its dashes are written ahead of the
    words that they lead to. -/
theorem collapse_started (text : List Char) :
    (∃ back, (∀ c ∈ back, c = '-') ∧ collapse false text = compact true false text ++ back) ∧
      ∃ back, (∀ c ∈ back, c = '-') ∧ '-' :: collapse true text = compact true true text ++ back := by
  induction text with
  | nil => exact ⟨⟨[], by simp, rfl⟩, ['-'], by simp, rfl⟩
  | cons c rest ih =>
    obtain ⟨⟨back, hback, hword⟩, back', hback', hgap⟩ := ih
    cases hc : keeps c with
    | true =>
      refine ⟨⟨back, hback, ?_⟩, back, hback, ?_⟩
      · simp [collapse, compact, hc, hword]
      · simp [collapse, compact, hc, hword]
    | false =>
      refine ⟨⟨back', hback', ?_⟩, back', hback', ?_⟩
      · simp [collapse, compact, hc, hgap]
      · simp [collapse, compact, hc, hgap]

theorem collapse_ends (gap gap' : Bool) (text : List Char) : ∃ front back, (∀ c ∈ front, c = '-') ∧
    (∀ c ∈ back, c = '-') ∧ collapse gap text = front ++ compact false gap' text ++ back := by
  induction text generalizing gap gap' with
  | nil => exact ⟨[], [], by simp, by simp, rfl⟩
  | cons c rest ih =>
    cases hc : keeps c with
    | true =>
      obtain ⟨⟨back, hback, hword⟩, -⟩ := collapse_started rest
      exact ⟨[], back, by simp, hback, by simp [collapse, compact, hc, hword]⟩
    | false =>
      obtain ⟨front, back, hfront, hback, hrest⟩ := ih true true
      refine ⟨(if gap then [] else ['-']) ++ front, back, ?_, hback, ?_⟩
      · intro d hd
        rcases List.mem_append.mp hd with hd | hd
        · cases gap <;> simp_all
        · exact hfront d hd
      · simp [collapse, compact, hc, hrest]

theorem trim_ends (hfront : ∀ c ∈ front, c = '-') (hback : ∀ c ∈ back, c = '-') (h : slug = [] ∨ IsSlug slug) :
    Text.trim (· = '-') (front ++ slug ++ back) = slug := by
  have hfront : ∀ c ∈ front, decide (c = '-') = true := fun c hc => decide_eq_true (hfront c hc)
  have hback : ∀ c ∈ back, decide (c = '-') = true := fun c hc => decide_eq_true (hback c hc)
  have hstays : ∀ {c : Char}, keeps c = true → c ≠ '-' := by
    rintro c hc rfl
    rw [keeps_dash] at hc
    cases hc
  rw [Text.trim, List.append_assoc, List.dropWhile_append_of_pos hfront]
  rcases h with rfl | h
  · rw [List.nil_append, List.dropWhile_eq_nil_iff.mpr hback]
    rfl
  · obtain ⟨⟨c, more, hc, hfirst⟩, d, init, hd, hlast⟩ := ends_of_slug h
    have hleft : (slug ++ back).dropWhile (· = '-') = slug ++ back := by
      simp [hfirst, hstays hc]
    have hright : slug.reverse.dropWhile (· = '-') = slug.reverse := by
      simp [hlast, hstays hd]
    rw [hleft, List.reverse_append, List.dropWhile_append_of_pos fun c hc => hback c (List.mem_reverse.mp hc), hright,
      List.reverse_reverse]

end Collapse

/-! ### The law -/

section Law
variable {toLower : List Char → List Char} {name : String}

theorem joined_runs (text : List Char) : joined (runs text) = [] ∨ IsSlug (joined (runs text)) := by
  by_cases h : runs text = []
  · rw [h]
    exact .inl rfl
  · exact .inr (isSlug_joined (fun w hw => isWord_of_mem_runs hw) h)

theorem trim_collapse (text : List Char) : Text.trim (· = '-') (collapse false text) = joined (runs text) := by
  obtain ⟨front, back, hfront, hback, hcollapse⟩ := collapse_ends false false text
  rw [hcollapse, compact_eq_joined]
  exact trim_ends hfront hback (joined_runs text)

theorem ofName_empty_or_slug (name : String) : ofName name = "" ∨ IsSlug (ofName name).toList := by
  have hslug := joined_runs (name.toList.flatMap lower)
  rw [← compact_eq_joined] at hslug
  rw [ofName, String.toList_ofList]
  exact hslug.imp_left fun h => congrArg String.ofList h

theorem ofName_fixed (h : name = "" ∨ IsSlug name.toList) : ofName name = name := by
  rcases h with rfl | h
  · rfl
  · exact ofName_slug h

/-- The slug of a name: the longest runs of letters and digits in its lower case, joined by single dashes. That is the
    lower case with a dash for every run of other characters, less the dashes at its ends. It is empty or words with
    single dashes between them, empty just if there is nothing to keep, and a text is its own slug just if it is of
    that form. -/
theorem slug_law (h : LowerCases toLower) (name : String) :
    ofName name = String.ofList (joined (runs (toLower name.toList))) ∧
      ofName name = String.ofList (Text.trim (· = '-') (collapse false (toLower name.toList))) ∧
      (ofName name = "" ∨ IsSlug (ofName name).toList) ∧
      (ofName name = "" ↔ ∀ c ∈ toLower name.toList, keeps c = false) ∧
      ofName (ofName name) = ofName name ∧
      ∀ text, ofName text = text ↔ text = "" ∨ IsSlug text.toList := by
  have hruns := ofName_eq h name
  refine ⟨hruns, ?_, ofName_empty_or_slug name, ?_, ofName_fixed (ofName_empty_or_slug name), fun text => ?_⟩
  · rw [trim_collapse, hruns]
  · rw [hruns, ← runs_eq_nil, ← joined_eq_nil fun w hw => isWord_of_mem_runs hw, ← String.toList_eq_nil_iff,
      String.toList_ofList]
  · constructor
    · intro hself
      rw [← hself]
      exact ofName_empty_or_slug text
    · exact ofName_fixed

end Law

/-- Lower case for a name with accents: the accented capital has a letter of its own, and so has the Greek one. -/
def lowerAccents (c : Char) : List Char :=
  if c = 'É' then ['é'] else if c = 'Σ' then ['σ'] else lower c

theorem lowerCases_accents : LowerCases (List.flatMap lowerAccents) := by
  refine lowerCases_flatMap fun c => ?_
  unfold lowerAccents
  split
  · rename_i hc
    exact hc ▸ lowers_other (by decide) (by decide)
  · split
    · rename_i hc
      exact hc ▸ lowers_other (by decide) (by decide)
    · exact lowers_lower c

/-- The dot of the capital I becomes a mark of its own, which parts the words, and the Kelvin sign becomes a k. -/
theorem slug_of_accents : LowerCases (List.flatMap lowerAccents) ∧
    ofName "Été Σ — İstanbul 300K" = "t-i-stanbul-300k" := by
  refine ⟨lowerCases_accents, (slug_law lowerCases_accents "Été Σ — İstanbul 300K").1.trans ?_⟩
  decide +kernel

end ThingHost.Slug
