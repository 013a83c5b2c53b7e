import CestaPlan.Consolidation.PlanLaws
import CestaPlan.Mapping.SpecDictionary
import Mathlib.Data.String.Basic

/-! The plan with the dictionary of the ingredients. The lemma of a name is taken after its underscores became blanks, and the text that an
    alias has is not: a character that decomposes to an underscore is none to the first and one to the second. -/

namespace CestaPlan.Consolidation
open Text

/-- The dictionary that the plan asks. -/
def specIngredients (u : Unicode) : IngredientDictionary where
  normalize text := String.ofList (Mapping.normalize u text)
  specs := Mapping.specs.map fun spec => (spec.key, spec.aliases)

/-! ### The words of a lemma -/

theorem splitOnAux_blank (l m r : List Char) (parts : List String) :
    String.splitOnAux (String.ofList (l ++ m ++ r)) " " ⟨String.utf8Len l⟩ ⟨String.utf8Len l + String.utf8Len m⟩ 0 parts =
      parts.reverse ++ (List.splitOnPPrepend (· == ' ') r m.reverse).map String.ofList := by
  induction r generalizing l m parts with
  | nil =>
    have hend : (⟨String.utf8Len l + String.utf8Len m⟩ : String.Pos.Raw).atEnd (String.ofList (l ++ m ++ [])) = true := by
      rw [← String.utf8Len_append]
      exact (String.atEnd_of_valid (l ++ m) []).mpr rfl
    rw [String.splitOnAux, if_pos hend, List.splitOnPPrepend_nil, List.reverse_reverse, String.extract_of_valid l m []]
    simp
  | cons c r ih =>
    have hnotend : ¬ (⟨String.utf8Len l + String.utf8Len m⟩ : String.Pos.Raw).atEnd (String.ofList (l ++ m ++ c :: r)) = true := by
      rw [← String.utf8Len_append]
      exact fun h => List.cons_ne_nil c r ((String.atEnd_of_valid (l ++ m) (c :: r)).mp h)
    have hget : (⟨String.utf8Len l + String.utf8Len m⟩ : String.Pos.Raw).get (String.ofList (l ++ m ++ c :: r)) = c := by
      rw [← String.utf8Len_append]
      exact String.get_of_valid (l ++ m) (c :: r)
    have hnext : (⟨String.utf8Len l + String.utf8Len m⟩ : String.Pos.Raw).next (String.ofList (l ++ m ++ c :: r)) =
        ⟨String.utf8Len l + String.utf8Len m + c.utf8Size⟩ := by
      rw [← String.utf8Len_append]
      exact String.next_of_valid (l ++ m) c r
    have hblank : (0 : String.Pos.Raw).get " " = ' ' := by decide
    rw [String.splitOnAux, if_neg hnotend, hget, hblank]
    by_cases hc : (c == ' ') = true
    · rw [if_pos hc, List.splitOnPPrepend_cons_pos (p := (· == ' ')) hc, List.reverse_reverse]
      obtain rfl := beq_iff_eq.mp hc
      have hnextblank : (0 : String.Pos.Raw).next " " = ⟨1⟩ := by decide
      have hendblank : (⟨1⟩ : String.Pos.Raw).atEnd " " = true := by decide
      have hback : (⟨String.utf8Len l + String.utf8Len m + ' '.utf8Size⟩ : String.Pos.Raw).unoffsetBy ⟨1⟩ =
          ⟨String.utf8Len l + String.utf8Len m⟩ := rfl
      have hrest := ih (l ++ m ++ [' ']) [] (String.ofList m :: parts)
      simp only [hnext, hnextblank, hendblank, if_true, hback, String.extract_of_valid l m (' ' :: r)]
      simpa [Nat.add_assoc] using hrest
    · have hstay : (⟨String.utf8Len l + String.utf8Len m⟩ : String.Pos.Raw).unoffsetBy 0 =
          ⟨String.utf8Len l + String.utf8Len m⟩ := rfl
      have hrest := ih l (m ++ [c]) parts
      rw [if_neg hc, List.splitOnPPrepend_cons_neg (p := (· == ' ')) (Bool.eq_false_iff.mpr hc), hstay, hnext]
      simpa [Nat.add_assoc] using hrest

theorem splitOn_blank (s : String) : s.splitOn " " = (s.toList.splitOn ' ').map String.ofList := by
  have h := splitOnAux_blank [] [] s.toList []
  simpa [String.splitOn, List.splitOn] using h

theorem mem_intercalate {c : Char} {sep : List Char} {ls : List (List Char)} (h : c ∈ sep.intercalate ls) :
    c ∈ sep ∨ ∃ l ∈ ls, c ∈ l := by
  induction ls with
  | nil => cases h
  | cons l ls ih =>
    cases ls with
    | nil =>
      rw [List.intercalate_singleton] at h
      exact Or.inr ⟨l, List.mem_singleton_self l, h⟩
    | cons l' ls =>
      rw [List.intercalate_cons_cons, List.mem_append, List.mem_append] at h
      rcases h with (h | h) | h
      · exact Or.inr ⟨l, List.mem_cons_self, h⟩
      · exact Or.inl h
      · exact (ih h).imp_right fun ⟨k, hk, hc⟩ => ⟨k, List.mem_cons_of_mem l hk, hc⟩

theorem mem_singularize {c : Char} {token : String} (h : c ∈ (singularize token).toList) : c ∈ token.toList := by
  unfold singularize at h
  split at h
  · rw [String.toList_ofList] at h
    exact List.mem_of_mem_dropLast h
  · exact h

theorem mem_lemmaOf {dictionary : IngredientDictionary} {name : String} {c : Char} (h : c ∈ (lemmaOf dictionary name).toList) :
    c = ' ' ∨ c ∈ (dictionary.normalize (spaced name)).toList := by
  rw [lemmaOf, splitOn_blank, String.toList_intercalate] at h
  rcases mem_intercalate h with h | ⟨l, hl, hc⟩
  · exact Or.inl (List.mem_singleton.mp h)
  · obtain ⟨word, hword, rfl⟩ := List.mem_map.mp hl
    obtain ⟨token, htoken, rfl⟩ := List.mem_map.mp hword
    obtain ⟨part, hpart, rfl⟩ := List.mem_map.mp (List.mem_of_mem_filter (List.mem_of_mem_filter htoken))
    have hc := mem_singularize hc
    rw [String.toList_ofList] at hc
    exact Or.inr ((mem_splitOnP hpart).1.subset hc)

theorem specKeyOf_eq_none {dictionary : IngredientDictionary} {name : String} (h : ∀ spec ∈ dictionary.specs, ∀ text ∈ spec.1 :: spec.2,
    lemmaOf dictionary text ≠ lemmaOf dictionary name ∧ dictionary.normalize text ≠ dictionary.normalize name) :
    specKeyOf dictionary name = none := by
  have hindex : (specLemmaIndex dictionary).get? (lemmaOf dictionary name) = none := by
    have hfold : ∀ (specs : List (String × List String)) (index : Dict String String),
        (∀ spec ∈ specs, ∀ text ∈ spec.1 :: spec.2, lemmaOf dictionary text ≠ lemmaOf dictionary name) →
        index.get? (lemmaOf dictionary name) = none →
        (specs.foldl (fun index spec => (spec.1 :: spec.2).foldl (fun index text =>
          index.setDefault (lemmaOf dictionary text) spec.1) index) index).get? (lemmaOf dictionary name) = none := by
      intro specs
      induction specs with
      | nil => exact fun _ _ h => h
      | cons spec specs ih =>
        intro index hspecs hindex
        refine ih _ (fun s hs => hspecs s (List.mem_cons_of_mem _ hs)) ?_
        rw [Dict.get?_foldl_setDefault, hindex, Option.none_or,
          Option.map_eq_none_iff, List.find?_eq_none]
        exact fun text htext => by simpa using hspecs spec List.mem_cons_self text htext
    exact hfold _ _ (fun spec hspec text htext => (h spec hspec text htext).1) Dict.get?_empty
  have halias : matchSpecByAlias dictionary name = none := by
    rw [matchSpecByAlias, Option.map_eq_none_iff, List.find?_eq_none]
    intro spec hspec
    have hkey := (h spec hspec spec.1 List.mem_cons_self).2
    have haliases (text) (htext : text ∈ spec.2) := (h spec hspec text (List.mem_cons_of_mem _ htext)).2
    simp only [Bool.or_eq_true, beq_iff_eq, List.any_eq_true, not_or, not_exists, not_and]
    exact ⟨Ne.symm hkey, fun text htext => Ne.symm (haliases text htext)⟩
  rw [specKeyOf, hindex, halias, Option.none_or]

/-! ### A wide underscore -/

/-- ASCII, and the fullwidth low line. -/
def wide : Unicode where
  __ := Unicode.asciiOnly
  ascii c := if c.toNat < 128 then [c] else if c = '＿' then ['_'] else []
  ascii_eq _ h := if_pos h
  toNat_lt c a ha := by
    split at ha
    · next h => rwa [List.mem_singleton.mp ha]
    · split at ha
      · rw [List.mem_singleton.mp ha]
        decide
      · cases ha

def additives : List (ℕ × String) := [(1, "E100＿curcumas"), (2, "E100＿curcuma"), (3, "e100_curcuma")]

theorem planHolds_iff_additives : PlanHolds (specIngredients wide) additives [] ↔ NamesAgree (specIngredients wide) additives [] :=
  planHolds_iff (by decide)

theorem mem_of_one_mem_normalize {text : String} (h : '1' ∈ ((specIngredients wide).normalize text).toList) : '1' ∈ text.toList := by
  simp only [specIngredients, String.toList_ofList, Mapping.normalize] at h
  rcases mem_collapse ((isInfix_trim _).subset h) with h | h
  · exact absurd h (by decide)
  · obtain ⟨b, hb, hlower⟩ := List.mem_map.mp h
    obtain ⟨c, hc, hbc⟩ := List.mem_flatMap.mp hb
    have hone : b = '1' := by
      rcases toLower_cases b with ⟨hlo, -, hn⟩ | ⟨-, hself⟩
      · rw [hlower] at hn
        have : ('1' : Char).toNat = 49 := rfl
        omega
      · exact hself.symm.trans hlower
    subst hone
    simp only [wide] at hbc
    split at hbc
    · rwa [List.mem_singleton.mp hbc]
    · split at hbc
      · exact absurd (List.mem_singleton.mp hbc) (by decide)
      · cases hbc

theorem one_not_mem_specs : ∀ spec ∈ (specIngredients wide).specs, ∀ text ∈ spec.1 :: spec.2, '1' ∉ text.toList := by
  have htexts : ∀ t ∈ Mapping.specs.flatMap (fun s => s.key :: s.aliases), t.toList.all (· ≠ '1') = true :=
    Spelled.all (by repeat constructor) (by decide +kernel)
  intro spec hspec text htext hone
  obtain ⟨s, hs, rfl⟩ := List.mem_map.mp hspec
  have hall := List.all_eq_true.mp (htexts text (List.mem_flatMap.mpr ⟨s, hs, htext⟩)) _ hone
  exact absurd hall (by decide)

theorem lemmaOf_additives : lemmaOf (specIngredients wide) "E100＿curcumas" = "e100_curcuma" ∧
    lemmaOf (specIngredients wide) "E100＿curcuma" = "e100_curcuma" ∧ lemmaOf (specIngredients wide) "e100_curcuma" = "e100 curcuma" := by
  simp only [lemmaOf, splitOn_blank]
  decide +kernel

theorem additives_unlinked : ¬ RowsLinked (specIngredients wide) additives 2 3 := by
  obtain ⟨hlemma, hlemma', hlemma''⟩ := lemmaOf_additives
  have hkey : specKeyOf (specIngredients wide) "e100_curcuma" = none := by
    refine specKeyOf_eq_none fun spec hspec text htext => ?_
    have htext := one_not_mem_specs spec hspec text htext
    refine ⟨fun heq => htext ?_, fun heq => htext (mem_of_one_mem_normalize (?_))⟩
    rotate_left
    · rw [heq]
      decide +kernel
    have hone : '1' ∈ (lemmaOf (specIngredients wide) text).toList := by
      rw [heq, hlemma'']
      decide +kernel
    rcases mem_lemmaOf hone with h | h
    · exact absurd h (by decide)
    · have hspaced := mem_of_one_mem_normalize h
      rw [spaced, String.toList_map, List.mem_map] at hspaced
      obtain ⟨c, hc, hone⟩ := hspaced
      split at hone
      · exact absurd hone (by decide)
      · exact hone ▸ hc
  have hapart : ∀ name, lemmaOf (specIngredients wide) name = "e100_curcuma" →
      ¬ SameIdentity (specIngredients wide) name "e100_curcuma" ∧ ¬ SameIdentity (specIngredients wide) "e100_curcuma" name := by
    intro name hname
    refine ⟨?_, ?_⟩
    · rintro (h | ⟨k, -, hk⟩)
      · rw [hname, hlemma''] at h
        exact absurd h (by decide +kernel)
      · rw [hkey] at hk
        cases hk
    · rintro (h | ⟨k, hk, -⟩)
      · rw [hname, hlemma''] at h
        exact absurd h (by decide +kernel)
      · rw [hkey] at hk
        cases hk
  have hnames : nameOf additives 1 = "E100＿curcumas" ∧ nameOf additives 2 = "E100＿curcuma" ∧ nameOf additives 3 = "e100_curcuma" := by
    decide +kernel
  obtain ⟨hname, hname', hname''⟩ := hnames
  have hids {i : ℕ} (hi : i ∈ additives.map Prod.fst) : i = 1 ∨ i = 2 ∨ i = 3 := by simpa [additives] using hi
  have hequiv : Equivalence fun i j : ℕ => i = 3 ↔ j = 3 := ⟨fun _ => Iff.rfl, Iff.symm, Iff.trans⟩
  intro hlinked
  have hthree := (hequiv.eqvGen_iff).mp (Relation.EqvGen.mono (fun i j h => ?_) _ _ hlinked)
  · exact absurd (hthree.mpr rfl) (by decide)
  · obtain ⟨⟨hi, hj⟩, hsame⟩ := h
    rcases hids hi with rfl | rfl | rfl <;> rcases hids hj with rfl | rfl | rfl <;> simp only [hname, hname', hname''] at hsame
    · decide
    · decide
    · exact absurd hsame (hapart _ hlemma).1
    · decide
    · decide
    · exact absurd hsame (hapart _ hlemma').1
    · exact absurd hsame (hapart _ hlemma).2
    · exact absurd hsame (hapart _ hlemma').2
    · decide

/-- The alias of the second name leads to the first one, and the third one has the name of the alias. -/
theorem additives_misled : ¬ PlanHolds (specIngredients wide) additives [] := by
  intro hholds
  have hagree := namesAgree_of_planHolds (by decide) hholds
  obtain ⟨hlemma, hlemma', -⟩ := lemmaOf_additives
  have hsurvives : Survives (specIngredients wide) additives [] 2 1 := by
    refine ⟨by decide, .rel _ _ ⟨⟨by decide, by decide⟩, Or.inl ?_⟩, fun k hk hlinked => ?_⟩
    · have hnames : nameOf additives 2 = "E100＿curcuma" ∧ nameOf additives 1 = "E100＿curcumas" := by decide +kernel
      rw [hnames.1, hnames.2, hlemma, hlemma']
    · have hk : k = 1 ∨ k = 2 ∨ k = 3 := by simpa [additives] using hk
      rcases hk with rfl | rfl | rfl
      · exact le_rfl
      · decide +kernel
      · exact absurd hlinked additives_unlinked
  have hsame := hagree 2 (by decide) 3 (by decide) (by decide +kernel) (by decide +kernel) additives_unlinked 1 hsurvives
  exact absurd hsame (by decide +kernel)

end CestaPlan.Consolidation
