import CestaPlan.Mapping.SpecDictionary

/-! What an approval without a review says of a product. The required terms are met by their plurals as well; the excluding ones stand for
    themselves only, so a name that has one in plural is approved, and one that a generic ingredient does not exclude is approved for the
    generic one and for the specific one. -/

namespace CestaPlan.Mapping
open Text

section Gates
variable (u : Unicode)

/-- What `classify_mapping` asks of a product before it approves it. -/
structure Passes (spec : IngredientSpec) (productName : String) (brand categoryCode netContentUnit : Option String) : Prop where
  notExcluded : ∀ t ∈ spec.excludingTerms, t.toList ∉ tokens u (nameNorm u productName brand)
  notForbidden : ∀ f ∈ spec.forbiddenForms, ¬ normalize u f <:+: nameNorm u productName brand
  named : ∃ a ∈ spec.aliases, (3 < a.length ∨ a = spec.key) ∧ normalize u a <:+: nameNorm u productName brand
  required : ∀ t ∈ spec.requiredTerms, ∃ w ∈ forms t, w ∈ tokens u (nameNorm u productName brand)
  unit : unitCompatibility u spec netContentUnit = .compatible ∨ unitCompatibility u spec netContentUnit = .convertible
  category : categoryCode = none ∧ 2 ≤ spec.requiredTerms.length ∨ categoryCode = some spec.categoryCode

/-- A term in singular or plural is in the name, or a phrase of several words is. -/
def Occurs (term : String) (nameNorm : List Char) : Prop :=
  (∃ w ∈ forms term, w ∈ tokens u nameNorm) ∨ 2 ≤ (tokens u term.toList).length ∧ normalize u term <:+: nameNorm

/-- The plural of a term is in the name, or a phrase of several words is. -/
def Slips (term : String) (nameNorm : List Char) : Prop :=
  (term.toList ++ ['s'] ∈ tokens u nameNorm ∨ term.toList ++ ['e', 's'] ∈ tokens u nameNorm) ∨
    2 ≤ (tokens u term.toList).length ∧ normalize u term <:+: nameNorm

variable {u} {spec : IngredientSpec} {productName : String} {brand categoryCode netContentUnit : Option String} {semanticScore : Option ℚ}

theorem occurs_iff {term : String} {nameNorm : List Char} :
    Occurs u term nameNorm ↔ term.toList ∈ tokens u nameNorm ∨ Slips u term nameNorm := by
  have hforms : (∃ w ∈ forms term, w ∈ tokens u nameNorm) ↔ term.toList ∈ tokens u nameNorm ∨
      term.toList ++ ['s'] ∈ tokens u nameNorm ∨ term.toList ++ ['e', 's'] ∈ tokens u nameNorm := by
    generalize tokens u nameNorm = toks
    simp [forms]
  rw [Occurs, Slips, hforms, or_assoc]

theorem classify_autoApproved_iff :
    (classify u spec productName brand categoryCode netContentUnit semanticScore).mappingStatus = .autoApproved ↔
      Passes u spec productName brand categoryCode netContentUnit := by
  unfold classify
  extract_lets name toks hitExclude hitForbidden unitCompat prepCompat exactAlias requiredHits lexical aliasRules categoryScore rules
    fits allRequired confidence approves isCandidate
  have hexclude : hitExclude = [] ↔ ∀ t ∈ spec.excludingTerms, t.toList ∉ toks := by
    simp only [hitExclude, List.filter_eq_nil_iff, decide_eq_true_eq]
  have hforbidden : hitForbidden = [] ↔ ∀ f ∈ spec.forbiddenForms, ¬ normalize u f <:+: name := by
    simp only [hitForbidden, List.filter_eq_nil_iff, decide_eq_true_eq]
  by_cases hhit : hitExclude ≠ [] ∨ hitForbidden ≠ []
  · rw [if_pos hhit]
    refine ⟨fun h => MappingStatus.noConfusion h, fun h => ?_⟩
    rcases hhit with hhit | hhit
    · exact absurd (hexclude.mpr h.notExcluded) hhit
    · exact absurd (hforbidden.mpr h.notForbidden) hhit
  rw [if_neg hhit]
  obtain ⟨hnoExclude, hnoForbidden⟩ : hitExclude = [] ∧ hitForbidden = [] := by simpa using hhit
  by_cases hcategory : (categoryCode.any fun code => code ≠ spec.categoryCode) = true
  · rw [if_pos hcategory]
    refine ⟨fun h => MappingStatus.noConfusion h, fun h => ?_⟩
    rcases h.category with ⟨hnone, -⟩ | hsome
    · simp [hnone] at hcategory
    · simp [hsome] at hcategory
  rw [if_neg hcategory]
  have hscore : (2 ≤ spec.requiredTerms.length ∨ 1 ≤ categoryScore) ↔
      categoryCode = none ∧ 2 ≤ spec.requiredTerms.length ∨ categoryCode = some spec.categoryCode := by
    cases categoryCode with
    | none =>
      have hhalf : ¬ (1 : ℚ) ≤ categoryScore := by norm_num [categoryScore]
      simp [hhalf]
    | some code =>
      have hcode : code = spec.categoryCode := by simpa using hcategory
      simp [categoryScore, hcode]
  have halias : exactAlias = true ↔ ∃ a ∈ spec.aliases, (3 < a.length ∨ a = spec.key) ∧ normalize u a <:+: name := by
    simp only [exactAlias, List.any_eq_true, decide_eq_true_eq]
  have hrequired : allRequired ↔ ∀ t ∈ spec.requiredTerms, ∃ w ∈ forms t, w ∈ toks := by
    simp only [allRequired, requiredHits, List.countP_eq_length, List.any_eq_true, decide_eq_true_eq]
  have happroves : (if approves then MappingStatus.autoApproved else if isCandidate then .candidate else .other "ambiguous") =
      .autoApproved ↔ approves := by
    split
    · next h => exact ⟨fun _ => h, fun _ => rfl⟩
    · next h =>
      refine ⟨fun heq => ?_, fun h' => absurd h' h⟩
      split at heq <;> cases heq
  rw [happroves]
  constructor
  · rintro ⟨⟨hnamed, hall, hfits⟩, hspecific⟩
    exact ⟨hexclude.mp hnoExclude, hforbidden.mp hnoForbidden, halias.mp hnamed, hrequired.mp hall, hfits, hscore.mp hspecific⟩
  · rintro h
    exact ⟨⟨halias.mpr h.named, hrequired.mpr h.required, h.unit⟩, hscore.mpr h.category⟩

theorem mappingStatus_iff {key : String} {candidate : MappingCandidate} (hkey : specOf key = some spec)
    (hcandidate : classifyMapping u key productName brand categoryCode netContentUnit semanticScore = some candidate) :
    candidate.mappingStatus = .autoApproved ↔ Passes u spec productName brand categoryCode netContentUnit := by
  rw [classifyMapping, hkey, Option.map_some] at hcandidate
  rw [← Option.some.inj hcandidate]
  exact classify_autoApproved_iff

theorem isPlain_of_mem_nameNorm {c : Char} (h : c ∈ nameNorm u productName brand) : IsPlain c := by
  rcases List.mem_append.mp ((isInfix_trim _).subset h) with h | h
  · exact u.isPlain_of_mem_plain h
  · rcases List.mem_cons.mp h with rfl | h
    · exact ⟨by decide, by decide⟩
    · exact u.isPlain_of_mem_plain h

theorem isSpace_of_letter {c : Char} (h : (('a' ≤ c && c ≤ 'z') || ('0' ≤ c && c ≤ '9')) = true) : isSpace c = false := by
  rw [Bool.or_eq_true, Bool.and_eq_true, Bool.and_eq_true, decide_eq_true_eq, decide_eq_true_eq, decide_eq_true_eq,
    decide_eq_true_eq] at h
  have hrange : (97 ≤ c.toNat ∧ c.toNat ≤ 122) ∨ (48 ≤ c.toNat ∧ c.toNat ≤ 57) := h
  refine Bool.eq_false_iff.mpr fun hspace => ?_
  simp only [isSpace, Bool.or_eq_true, Bool.and_eq_true, decide_eq_true_eq, beq_iff_eq] at hspace
  omega

theorem infix_of_mem_tokens {w : List Char} (h : w ∈ tokens u (nameNorm u productName brand)) : w <:+: nameNorm u productName brand := by
  obtain ⟨hpart, hletters⟩ := mem_runsOf h
  exact Unicode.infix_of_infix_plain (fun c hc => isPlain_of_mem_nameNorm hc) (fun c hc => isSpace_of_letter (hletters c hc)) hpart

theorem normalize_eq_self {t : String} (h : t.toList.all (fun c => 'a' ≤ c && c ≤ 'z') = true) : normalize u t = t.toList := by
  have hletter (c) (hc : c ∈ t.toList) : 97 ≤ c.toNat ∧ c.toNat ≤ 122 := by
    have hc := List.all_eq_true.mp h c hc
    rwa [Bool.and_eq_true, decide_eq_true_eq, decide_eq_true_eq] at hc
  refine Unicode.plain_eq_self (fun c hc => ⟨by have := hletter c hc; omega, ?_⟩) fun c hc => ?_
  · rcases toLower_cases c with ⟨-, hhi, -⟩ | ⟨-, hself⟩
    · have := hletter c hc
      omega
    · exact hself
  · exact isSpace_of_letter (by rw [List.all_eq_true.mp h c hc]; rfl)

/-! ### Excluding terms -/

/-- An approved product has no excluding term in singular or plural and no excluding phrase, exactly where no plural and no phrase passes
    the gates with it. -/
theorem autoApproved_excludes_iff {key : String} {candidate : MappingCandidate} (hkey : specOf key = some spec)
    (hcandidate : classifyMapping u key productName brand categoryCode netContentUnit semanticScore = some candidate) :
    (candidate.mappingStatus = .autoApproved → ∀ t ∈ spec.excludingTerms, ¬ Occurs u t (nameNorm u productName brand)) ↔
      ((∃ t ∈ spec.excludingTerms, Slips u t (nameNorm u productName brand)) →
        ¬ Passes u spec productName brand categoryCode netContentUnit) := by
  rw [mappingStatus_iff hkey hcandidate]
  constructor
  · rintro hsafe ⟨t, ht, hslips⟩ hpasses
    exact hsafe hpasses t ht (occurs_iff.mpr (Or.inr hslips))
  · intro hslips hpasses t ht hoccurs
    rcases occurs_iff.mp hoccurs with hword | hslip
    · exact hpasses.notExcluded t ht hword
    · exact hslips ⟨t, ht, hslip⟩ hpasses

theorem autoApproved_excludes_oatMilk : ∃ spec candidate, specOf "leche" = some spec ∧
    classifyMapping .asciiOnly "leche" "Leche de avena" none (some "lacteos") (some "l") none = some candidate ∧
    ((candidate.mappingStatus = .autoApproved →
        ∀ t ∈ spec.excludingTerms, ¬ Occurs .asciiOnly t (nameNorm .asciiOnly "Leche de avena" none)) ↔
      ((∃ t ∈ spec.excludingTerms, Slips .asciiOnly t (nameNorm .asciiOnly "Leche de avena" none)) →
        ¬ Passes .asciiOnly spec "Leche de avena" none (some "lacteos") (some "l"))) := by
  obtain ⟨spec, hspec⟩ := Option.isSome_iff_exists.mp (show (specOf "leche").isSome = true by decide +kernel)
  obtain ⟨candidate, hcandidate⟩ : ∃ candidate,
      classifyMapping .asciiOnly "leche" "Leche de avena" none (some "lacteos") (some "l") none = some candidate :=
    ⟨_, by rw [classifyMapping, hspec, Option.map_some]⟩
  exact ⟨spec, candidate, hspec, hcandidate, autoApproved_excludes_iff hspec hcandidate⟩

/-- "almendras" is not the word that excludes a product from the plain milk. -/
theorem almondMilk_autoApproved :
    ((classifyMapping .asciiOnly "leche" "Leche de almendras" none (some "lacteos") (some "l") none).map (·.mappingStatus) =
        some .autoApproved ∧
      (specOf "leche").any (·.excludingTerms.contains "almendra") = true ∧
      Occurs .asciiOnly "almendra" (nameNorm .asciiOnly "Leche de almendras" none)) := by
  refine ⟨by decide +kernel, by decide +kernel, Or.inl ⟨"almendras".toList, ?_, ?_⟩⟩ <;> decide +kernel

/-! ### Generic and specific ingredients -/

/-- The one term that an ingredient requires is a term of a more specific one. -/
def IsGeneric (specific generic : IngredientSpec) : Prop :=
  2 ≤ specific.requiredTerms.length ∧ ∃ t ∈ specific.requiredTerms, generic.requiredTerms = [t]

instance (specific generic : IngredientSpec) : Decidable (IsGeneric specific generic) :=
  inferInstanceAs (Decidable (_ ∧ ∃ t ∈ specific.requiredTerms, _))

/-- A generic ingredient of the dictionary has the category of the specific one and its units, and its term is one of its names. -/
theorem generic_agrees : ∀ specific ∈ specs, ∀ generic ∈ specs, IsGeneric specific generic →
    generic.categoryCode = specific.categoryCode ∧ (∀ x ∈ specific.allowedUnits, x ∈ generic.allowedUnits) ∧
      ∀ t ∈ generic.requiredTerms, t ∈ generic.aliases ∧ (3 < t.length ∨ t = generic.key) ∧
        t.toList.all (fun c => 'a' ≤ c && c ≤ 'z') = true := by
  decide +kernel

theorem fits_iff {unit : Option String} :
    (unitCompatibility u spec unit = .compatible ∨ unitCompatibility u spec unit = .convertible) ↔
      ∃ x, unit = some x ∧ (u.lower x ∈ spec.allowedUnits ∨ ∃ a ∈ spec.allowedUnits, u.lower x ∈ convertible a) := by
  cases unit with
  | none => simp [unitCompatibility]
  | some x =>
    by_cases hmem : u.lower x ∈ spec.allowedUnits
    · simp [unitCompatibility, hmem]
    · by_cases hconvertible : ∃ a ∈ spec.allowedUnits, u.lower x ∈ convertible a
      · simp [unitCompatibility, hmem, hconvertible]
      · simp [unitCompatibility, hmem, hconvertible]

/-- What passes the gates of a specific ingredient passes those of its generic one, unless no category is given or the generic one
    excludes or forbids it. -/
theorem Passes.generic_iff {specific generic : IngredientSpec} (hs : specific ∈ specs) (hg : generic ∈ specs)
    (hgeneric : IsGeneric specific generic) (h : Passes u specific productName brand categoryCode netContentUnit) :
    Passes u generic productName brand categoryCode netContentUnit ↔
      categoryCode ≠ none ∧ (∀ t ∈ generic.excludingTerms, t.toList ∉ tokens u (nameNorm u productName brand)) ∧
        ∀ f ∈ generic.forbiddenForms, ¬ normalize u f <:+: nameNorm u productName brand := by
  obtain ⟨hcategory, hunits, hnames⟩ := generic_agrees specific hs generic hg hgeneric
  obtain ⟨-, t, ht, hterms⟩ := hgeneric
  obtain ⟨halias, hlong, hletters⟩ := hnames t (by rw [hterms]; exact List.mem_singleton_self t)
  constructor
  · intro hpasses
    refine ⟨fun hnone => ?_, hpasses.notExcluded, hpasses.notForbidden⟩
    rcases hpasses.category with ⟨-, htwo⟩ | hsome
    · rw [hterms] at htwo
      exact absurd htwo (by rw [List.length_singleton]; decide)
    · rw [hnone] at hsome
      cases hsome
  · rintro ⟨hsome, hexcluded, hforbidden⟩
    obtain ⟨w, hw, hmem⟩ := h.required t ht
    -- A form of the term is a word of the name, and the term is its beginning.
    have hstart : t.toList <+: w := by
      simp only [forms, List.mem_cons, List.not_mem_nil, or_false] at hw
      rcases hw with rfl | rfl | rfl
      · exact List.prefix_rfl
      · exact List.prefix_append _ _
      · exact List.prefix_append _ _
    refine ⟨hexcluded, hforbidden, ⟨t, halias, hlong, ?_⟩, ?_, ?_, Or.inr ?_⟩
    · rw [normalize_eq_self hletters]
      exact hstart.isInfix.trans (infix_of_mem_tokens hmem)
    · intro t' ht'
      rw [hterms] at ht'
      rw [List.mem_singleton.mp ht']
      exact ⟨w, hw, hmem⟩
    · obtain ⟨x, hx, hfits⟩ := fits_iff.mp h.unit
      refine fits_iff.mpr ⟨x, hx, ?_⟩
      rcases hfits with hmem | ⟨a, ha, hconverts⟩
      · exact Or.inl (hunits _ hmem)
      · exact Or.inr ⟨a, hunits a ha, hconverts⟩
    · rcases h.category with ⟨hnone, -⟩ | hsome'
      · exact absurd hnone hsome
      · rw [hsome', hcategory]

theorem mem_specs_of_specOf {key : String} (h : specOf key = some spec) : spec ∈ specs := List.mem_of_find?_eq_some h

/-- A product approved for a specific ingredient is not approved for its generic one, exactly where the generic one excludes or forbids it
    or no category is given. -/
theorem separated_iff {specificKey genericKey : String} {specific generic : IngredientSpec} {s g : MappingCandidate}
    (hspecific : specOf specificKey = some specific) (hgeneric : specOf genericKey = some generic) (h : IsGeneric specific generic)
    (hs : classifyMapping u specificKey productName brand categoryCode netContentUnit semanticScore = some s)
    (hg : classifyMapping u genericKey productName brand categoryCode netContentUnit semanticScore = some g) :
    (s.mappingStatus = .autoApproved → g.mappingStatus ≠ .autoApproved) ↔
      (Passes u specific productName brand categoryCode netContentUnit → categoryCode = none ∨
        (∃ t ∈ generic.excludingTerms, t.toList ∈ tokens u (nameNorm u productName brand)) ∨
        ∃ f ∈ generic.forbiddenForms, normalize u f <:+: nameNorm u productName brand) := by
  rw [ne_eq, mappingStatus_iff hspecific hs, mappingStatus_iff hgeneric hg]
  refine forall_congr' fun hpasses => ?_
  rw [hpasses.generic_iff (mem_specs_of_specOf hspecific) (mem_specs_of_specOf hgeneric) h]
  simp only [not_and_or, not_forall, not_not, exists_prop, ne_eq]

theorem separated_breadcrumbs : ∃ specific generic s g, specOf "pan rallado" = some specific ∧ specOf "pan" = some generic ∧
    classifyMapping .asciiOnly "pan rallado" "Pan rallado" none (some "panaderia_reposteria") (some "g") none = some s ∧
    classifyMapping .asciiOnly "pan" "Pan rallado" none (some "panaderia_reposteria") (some "g") none = some g ∧
    ((s.mappingStatus = .autoApproved → g.mappingStatus ≠ .autoApproved) ↔
      (Passes .asciiOnly specific "Pan rallado" none (some "panaderia_reposteria") (some "g") → some "panaderia_reposteria" = none ∨
        (∃ t ∈ generic.excludingTerms, t.toList ∈ tokens .asciiOnly (nameNorm .asciiOnly "Pan rallado" none)) ∨
        ∃ f ∈ generic.forbiddenForms, normalize .asciiOnly f <:+: nameNorm .asciiOnly "Pan rallado" none)) := by
  obtain ⟨specific, hspecific⟩ := Option.isSome_iff_exists.mp (show (specOf "pan rallado").isSome = true by decide +kernel)
  obtain ⟨generic, hgeneric⟩ := Option.isSome_iff_exists.mp (show (specOf "pan").isSome = true by decide +kernel)
  have h : IsGeneric specific generic := by
    have hboth : ∀ s ∈ specOf "pan rallado", ∀ g ∈ specOf "pan", IsGeneric s g := by decide +kernel
    exact hboth specific hspecific generic hgeneric
  have hclassified (key : String) (spec : IngredientSpec) (hkey : specOf key = some spec) : ∃ c,
      classifyMapping .asciiOnly key "Pan rallado" none (some "panaderia_reposteria") (some "g") none = some c :=
    ⟨_, by rw [classifyMapping, hkey, Option.map_some]⟩
  obtain ⟨s, hs⟩ := hclassified _ _ hspecific
  obtain ⟨g, hg⟩ := hclassified _ _ hgeneric
  exact ⟨specific, generic, s, g, hspecific, hgeneric, hs, hg, separated_iff hspecific hgeneric h hs hg⟩

/-- Olive oil is approved as any oil as well. -/
theorem oliveOil_swallowed :
    (∀ specific ∈ specOf "aceite_oliva", ∀ generic ∈ specOf "aceite", IsGeneric specific generic) ∧
    (classifyMapping .asciiOnly "aceite_oliva" "Aceite de oliva" none (some "aceites_condimentos") (some "l") none).map (·.mappingStatus) =
        some .autoApproved ∧
      (classifyMapping .asciiOnly "aceite" "Aceite de oliva" none (some "aceites_condimentos") (some "l") none).map (·.mappingStatus) =
        some .autoApproved := by
  decide +kernel

end Gates
end CestaPlan.Mapping
