import CestaPlan.Providers.Money

/-! The money parser reads a numeral as its value, and refuses everything else, just where it drops nothing that matters. -/

namespace CestaPlan.Providers
open DecimalText

/-! ### The separators -/

section Separators
variable {l : List Char} {n : Notation} {c : Char}

theorem isSeparator_point (n : Notation) : isSeparator n.point = true := by cases n <;> decide

theorem isSeparator_group (n : Notation) : isSeparator n.group = true := by cases n <;> decide

theorem group_ne_point (n : Notation) : n.group ≠ n.point := by cases n <;> decide

theorem not_isSeparator_of_isDigit (h : isDigit c = true) : isSeparator c = false := by
  simp only [isSeparator, Bool.or_eq_false_iff, decide_eq_false_iff_not]
  exact ⟨isDigit_ne h isDigit_dot, isDigit_ne h isDigit_comma⟩

theorem eq_of_isSeparator (h : isSeparator c = true) (n : Notation) : c = n.group ∨ c = n.point := by
  have hcases : c = '.' ∨ c = ',' := by simpa [isSeparator] using h
  cases n
  · exact hcases
  · exact hcases.symm

theorem lastSeparator_append_cons {before after : List Char} (hc : isSeparator c = true)
    (hafter : ∀ d ∈ after, isSeparator d = false) : lastSeparator (before ++ c :: after) = some c := by
  have hnone : after.reverse.find? isSeparator = none := List.find?_eq_none.mpr fun d hd => by
    rw [hafter d (List.mem_reverse.mp hd)]
    exact Bool.false_ne_true
  rw [lastSeparator, List.reverse_append, List.reverse_cons, List.append_assoc, List.find?_append, hnone, Option.none_or,
    List.singleton_append, List.find?_cons_of_pos hc]

theorem mem_of_lastSeparator (h : lastSeparator l = some c) : c ∈ l := List.mem_reverse.mp (List.mem_of_find?_eq_some h)

theorem exists_lastSeparator (hc : c ∈ l) (h : isSeparator c = true) : ∃ d, lastSeparator l = some d ∧ isSeparator d = true := by
  cases hlast : lastSeparator l with
  | none => exact absurd h (List.find?_eq_none.mp hlast c (List.mem_reverse.mpr hc))
  | some d => exact ⟨d, rfl, List.find?_some hlast⟩

theorem map_commaToPoint (h : ',' ∉ l) : l.map commaToPoint = l :=
  (List.map_congr_left fun c hc => if_neg fun heq : c = ',' => h (heq ▸ hc)).trans (List.map_id l)

theorem filter_ne_of_not_mem (h : c ∉ l) : l.filter (· ≠ c) = l :=
  List.filter_eq_self.mpr fun _ hd => decide_eq_true fun heq => h (heq ▸ hd)

/-- What is normalized drops the separators of the thousands, in one of the notations, and writes the decimal one as a point. -/
theorem normalized_eq (l : List Char) : ∃ n : Notation, normalized l = (l.filter (· ≠ n.group)).map commaToPoint ∧
    (n.group ∈ l → lastSeparator l = some n.point) := by
  unfold normalized
  split
  · next hboth =>
    obtain ⟨d, hd, hseparator⟩ := exists_lastSeparator hboth.1 (by decide)
    split
    · next hcomma => exact ⟨.spanish, rfl, fun _ => hcomma⟩
    · next hpoint =>
      refine ⟨.english, (map_commaToPoint fun hmem => ?_).symm, fun _ => ?_⟩
      · exact of_decide_eq_true (List.mem_filter.mp hmem).2 rfl
      · rcases eq_of_isSeparator hseparator .english with rfl | rfl
        · exact absurd hd hpoint
        · exact hd
  · next hnot =>
    split
    · next hcomma =>
      have hnone : '.' ∉ l := fun hpoint => hnot ⟨hpoint, hcomma⟩
      exact ⟨.spanish, by rw [show Notation.spanish.group = '.' from rfl, filter_ne_of_not_mem hnone], fun h => absurd h hnone⟩
    · next hcomma =>
      refine ⟨.english, ?_, fun h => absurd h hcomma⟩
      rw [show Notation.english.group = ',' from rfl, filter_ne_of_not_mem hcomma, map_commaToPoint hcomma]

theorem shaped_of_map {negative : Bool} {whole fraction : List Char} (hkept : ∀ c ∈ l, isKept c = true ∧ c ≠ n.group)
    (h : Shaped '.' (l.map commaToPoint) negative whole fraction) : Shaped n.point l negative whole fraction := by
  let back (c : Char) : Char := if c = '.' then n.point else c
  have hback : ∀ c ∈ l, back (commaToPoint c) = c := fun c hc => by
    obtain ⟨hk, hne⟩ := hkept c hc
    have hcases : isDigit c = true ∨ c = '-' ∨ c = n.point := by
      simp only [isKept, Bool.or_eq_true, decide_eq_true_eq] at hk
      cases n <;> simp only [Notation.group, Notation.point] at hne ⊢ <;> tauto
    rcases hcases with hdigit | rfl | rfl
    · have hcomma : commaToPoint c = c := if_neg (isDigit_ne hdigit isDigit_comma)
      rw [hcomma]
      exact if_neg (isDigit_ne hdigit isDigit_dot)
    · exact if_neg (by decide)
    · cases n <;> rfl
  have hdigits (ds : List Char) (hds : ∀ c ∈ ds, isDigit c = true) : ds.map back = ds :=
    (List.map_congr_left fun c hc => if_neg (isDigit_ne (hds c hc) isDigit_dot)).trans (List.map_id ds)
  have hsign : (signText negative).map back = signText negative := by cases negative <;> rfl
  refine ⟨?_, h.nonempty, h.areWhole, h.areFraction⟩
  have heq := congrArg (List.map back) h.eq
  have hundone : (l.map commaToPoint).map back = l := by
    rw [List.map_map]
    exact (List.map_congr_left hback).trans (List.map_id l)
  rw [hundone, List.map_append, List.map_append, hsign, hdigits whole h.areWhole] at heq
  rw [heq]
  split
  · rfl
  · rw [List.map_cons, hdigits fraction h.areFraction]
    rfl

end Separators

/-! ### The groups -/

section Groups
variable {core : List Char} {n : Notation} {negative : Bool} {first whole fraction : List Char} {rest : List (List Char)}

theorem filter_flatMap_group (hrest : ∀ piece ∈ rest, n.group ∉ piece) :
    (rest.flatMap (n.group :: ·)).filter (· ≠ n.group) = rest.flatten := by
  induction rest with
  | nil => rfl
  | cons piece rest ih =>
    obtain ⟨hpiece, hrest⟩ := List.forall_mem_cons.mp hrest
    rw [List.flatMap_cons, List.filter_append, List.filter_cons_of_neg (by simp), filter_ne_of_not_mem hpiece, ih hrest,
      List.flatten_cons]

theorem unsigned_spec (core : List Char) : ∃ minus, core = signText minus ++ unsigned core ∧
    (minus = false → (unsigned core).head? ≠ some '-') := by
  unfold unsigned
  split
  · next hhead =>
    obtain ⟨tail, rfl⟩ := List.head?_eq_some_iff.mp hhead
    exact ⟨true, rfl, fun h => by cases h⟩
  · next hhead => exact ⟨false, rfl, fun _ => hhead⟩

theorem point_not_mem_signText : n.point ∉ signText negative := by cases n <;> cases negative <;> decide

theorem group_not_mem_signText : n.group ∉ signText negative := by cases n <;> cases negative <;> decide

theorem not_mem_of_digits {c : Char} {ds : List Char} (hds : ∀ d ∈ ds, isDigit d = true) (hc : isDigit c = false) : c ∉ ds :=
  fun hmem => isDigit_ne (hds c hmem) hc rfl

theorem parts_of_core (hthrees : InThrees core)
    (hlast : n.group ∈ core → lastSeparator core = some n.point)
    (h : Shaped n.point (core.filter (· ≠ n.group)) negative whole fraction) :
    ∃ first rest, core = signText negative ++ (first ++ (rest.flatMap (n.group :: ·) ++ if fraction = [] then [] else n.point :: fraction)) ∧
      Grouped first rest ∧ first ++ rest.flatten = whole := by
  by_cases hgroup : n.group ∈ core
  · have hpoint := hlast hgroup
    obtain ⟨first, rest, htake, hfirst, hlength, hnot, hrest⟩ := hthrees n hgroup hpoint
    obtain ⟨minus, hminus, hunsigned⟩ := unsigned_spec core
    have hmem : n.point ∈ core.filter (· ≠ n.group) :=
      List.mem_filter.mpr ⟨mem_of_lastSeparator hpoint, decide_eq_true (group_ne_point n).symm⟩
    have hsome : fraction ≠ [] := by
      rintro rfl
      rw [h.eq, if_pos rfl, List.append_nil] at hmem
      exact (List.mem_append.mp hmem).elim point_not_mem_signText (not_mem_of_digits h.areWhole (isDigit_point n))
    have hshape := h.eq
    rw [if_neg hsome, ← List.append_assoc] at hshape
    -- The core before and after its only decimal separator.
    obtain ⟨behind, hbehind⟩ : ∃ behind, unsigned core = (unsigned core).takeWhile (· ≠ n.point) ++ n.point :: behind := by
      have hpointu : n.point ∈ unsigned core := by
        have hmem' := mem_of_lastSeparator hpoint
        rw [hminus] at hmem'
        exact (List.mem_append.mp hmem').resolve_left point_not_mem_signText
      have hsplit := (List.takeWhile_append_dropWhile (p := fun c => decide (c ≠ n.point)) (l := unsigned core)).symm
      cases hdrop : (unsigned core).dropWhile (· ≠ n.point) with
      | nil =>
        rw [hdrop, List.append_nil] at hsplit
        rw [hsplit] at hpointu
        have hne : decide (n.point ≠ n.point) = true := List.mem_takeWhile_imp (p := fun c => decide (c ≠ n.point)) hpointu
        exact absurd rfl (of_decide_eq_true hne)
      | cons c behind =>
        have hc : c = n.point := by
          have hhead := List.head?_dropWhile_not (fun c => decide (c ≠ n.point)) (unsigned core)
          rw [hdrop] at hhead
          simpa using hhead
        rw [hdrop, hc] at hsplit
        exact ⟨behind, hsplit⟩
    rw [htake] at hbehind
    rw [hbehind] at hminus
    have hrestnot : ∀ piece ∈ rest, n.group ∉ piece := fun piece hpiece => (hrest piece hpiece).1
    have hfilter : core.filter (· ≠ n.group) =
        (signText minus ++ (first ++ rest.flatten)) ++ n.point :: behind.filter (· ≠ n.group) := by
      rw [hminus, List.filter_append, List.filter_append, List.filter_append, filter_ne_of_not_mem group_not_mem_signText,
        filter_ne_of_not_mem hnot, filter_flatMap_group hrestnot,
        List.filter_cons_of_pos (p := fun c => decide (c ≠ n.group)) (decide_eq_true (group_ne_point n).symm)]
      simp only [List.append_assoc]
    obtain ⟨hbefore, -, hafter⟩ := (List.append_cons_inj_of_notMem
      (fun hin => (List.mem_append.mp hin).elim point_not_mem_signText (not_mem_of_digits h.areWhole (isDigit_point n)))
      (not_mem_of_digits h.areFraction (isDigit_point n))).mp (hshape.symm.trans hfilter)
    have hclean : n.group ∉ behind := fun hin => by
      have hall : ∀ c ∈ behind, isSeparator c = true → c = n.group := fun c hc hseparator => by
        by_contra hne
        have hcf : c ∈ fraction := hafter ▸ List.mem_filter.mpr ⟨hc, decide_eq_true hne⟩
        rw [not_isSeparator_of_isDigit (h.areFraction c hcf)] at hseparator
        cases hseparator
      obtain ⟨d, hd, hdsep⟩ := exists_lastSeparator hin (isSeparator_group n)
      have hlastd : lastSeparator core = some d := by
        rw [hminus, lastSeparator, ← List.append_assoc, List.append_cons, List.reverse_append, List.find?_append]
        rw [lastSeparator] at hd
        rw [hd, Option.some_or]
      have hdgroup := hall d (mem_of_lastSeparator hd) hdsep
      rw [hlastd, hdgroup] at hpoint
      exact group_ne_point n (Option.some.inj hpoint)
    rw [filter_ne_of_not_mem hclean] at hafter
    have hsame : minus = negative := by
      obtain ⟨c, cs, rfl⟩ := List.exists_cons_of_ne_nil hfirst
      obtain ⟨d, ds, rfl⟩ := List.exists_cons_of_ne_nil h.nonempty
      cases minus <;> cases negative
      · rfl
      · have hc : '-' = c := (List.cons.inj hbefore).1
        refine absurd ?_ (hunsigned rfl)
        rw [hbehind, ← hc]
        rfl
      · have hd : d = '-' := (List.cons.inj hbefore).1
        have hdigit := h.areWhole d List.mem_cons_self
        rw [hd, isDigit_minus] at hdigit
        cases hdigit
      · rfl
    subst hsame
    refine ⟨first, rest, ?_, ⟨hfirst, .inr ⟨hlength, fun piece hpiece => (hrest piece hpiece).2⟩⟩, (List.append_cancel_left hbefore).symm⟩
    rw [if_neg hsome, hafter]
    rw [List.append_assoc] at hminus
    exact hminus
  · rw [filter_ne_of_not_mem hgroup] at h
    exact ⟨whole, [], by simpa using h.eq, ⟨h.nonempty, .inl rfl⟩, by simp⟩

end Groups

/-! ### The whole text -/

section Texts
variable {raw : String} {lead core trail plus : List Char}

theorem filter_framed (h : Framed lead trail) : lead.filter isKept = [] ∧ trail.filter isKept = [] := by
  rcases h with ⟨rfl, rfl⟩ | ⟨c, blanks, hc, hblanks, ⟨rfl, rfl⟩ | ⟨rfl, rfl⟩⟩
  · exact ⟨rfl, rfl⟩
  all_goals
    have hblank : blanks.filter isKept = [] := List.filter_eq_nil_iff.mpr fun b hb => by
      rw [not_isKept_of_isSpace (hblanks b hb)]
      exact Bool.false_ne_true
    have hsymbol : ¬ isKept c = true := by
      rw [not_isKept_of_isCurrency hc]
      exact Bool.false_ne_true
  · exact ⟨by rw [List.filter_cons_of_neg hsymbol, hblank], rfl⟩
  · refine ⟨rfl, ?_⟩
    rw [List.filter_append, hblank, List.filter_cons_of_neg hsymbol]
    rfl

theorem cleaned_eq (htext : Text.trim raw.toList = lead ++ (plus ++ (core ++ trail))) (hframed : Framed lead trail)
    (hplus : plus = [] ∨ plus = ['+']) (hkept : ∀ c ∈ core, isKept c = true) : cleaned raw = core := by
  obtain ⟨hlead, htrail⟩ := filter_framed hframed
  have hp : plus.filter isKept = [] := by
    rcases hplus with rfl | rfl
    · rfl
    · decide
  unfold cleaned
  rw [htext, List.filter_append, List.filter_append, List.filter_append, hlead, hp, htrail, List.filter_eq_self.mpr hkept]
  simp

theorem rational_eq (negative : Bool) (coefficient length : ℕ) :
    rational negative coefficient (-(length : ℤ)) = (if negative then -1 else 1) * coefficient / 10 ^ length := by
  unfold rational
  rw [zpow_neg, zpow_natCast, div_eq_mul_inv]

theorem decimalFromStr_of_shaped {negative : Bool} {whole fraction : List Char}
    (h : Shaped '.' (normalized (cleaned raw)) negative whole fraction) (hnumeric : isNumeric (normalized (cleaned raw)) = true) :
    (Storable raw → decimalFromStr raw = .ok (.finite negative (digitsValue (whole ++ fraction)) (-(fraction.length : ℤ)))) ∧
      (¬ Storable raw → decimalFromStr raw = .error .invalidOperation) := by
  have hstorable : Storable raw ↔ (Numeral.finite negative (digitsValue (whole ++ fraction)) (-(fraction.length : ℤ))).Fits := by
    unfold Storable
    dsimp only
    rw [h.digits, h.behind]
    rfl
  unfold decimalFromStr
  rw [hstorable]
  dsimp only
  rw [if_pos hnumeric, h.read]
  constructor
  · intro hfits
    rw [Option.filter_some, if_pos (decide_eq_true hfits)]
  · intro hnot
    rw [Option.filter_some, if_neg fun hfits => hnot (of_decide_eq_true hfits)]

theorem intact_of_isNumeral {value : ℚ} (h : IsNumeral raw value) : Intact raw := by
  obtain ⟨lead, text, trail, htext, hframed, n, sign, first, rest, fraction, hwrites⟩ := h
  let body := first ++ (rest.flatMap (n.group :: ·) ++ if fraction = [] then [] else n.point :: fraction)
  have hfirst : ∀ c ∈ first, isDigit c = true := fun c hc => hwrites.areDigits c (List.mem_append_left _ hc)
  have hrest : ∀ piece ∈ rest, ∀ c ∈ piece, isDigit c = true := fun piece hpiece c hc =>
    hwrites.areDigits c (List.mem_append_right _ (List.mem_append_left _ (List.mem_flatten.mpr ⟨piece, hpiece, hc⟩)))
  have hfraction : ∀ c ∈ fraction, isDigit c = true := fun c hc =>
    hwrites.areDigits c (List.mem_append_right _ (List.mem_append_right _ hc))
  have hbody : ∀ c ∈ body, isDigit c = true ∨ (c = n.group ∧ rest ≠ []) ∨ (c = n.point ∧ fraction ≠ []) := by
    intro c hc
    rcases List.mem_append.mp hc with hc | hc
    · exact .inl (hfirst c hc)
    rcases List.mem_append.mp hc with hc | hc
    · obtain ⟨piece, hpiece, hmem⟩ := List.mem_flatMap.mp hc
      rcases List.mem_cons.mp hmem with rfl | hmem
      · exact .inr (.inl ⟨rfl, List.ne_nil_of_mem hpiece⟩)
      · exact .inl (hrest piece hpiece c hmem)
    · split at hc
      · cases hc
      · next hne =>
        rcases List.mem_cons.mp hc with rfl | hc
        · exact .inr (.inr ⟨rfl, hne⟩)
        · exact .inl (hfraction c hc)
  have hhead : ∃ c cs, body = c :: cs ∧ isDigit c = true := by
    obtain ⟨c, cs, hcons⟩ := List.exists_cons_of_ne_nil hwrites.grouped.1
    exact ⟨c, _, by rw [show body = first ++ _ from rfl, hcons]; rfl, hfirst c (hcons ▸ List.mem_cons_self)⟩
  obtain ⟨c, cs, hcons, hc⟩ := hhead
  have hthrees (minus : Bool) : InThrees (signText minus ++ body) := by
    intro n' hgroup hlast
    have hmem (d : Char) (hd : d ∈ signText minus ++ body) (hseparator : isSeparator d = true) :
        (d = n.group ∧ rest ≠ []) ∨ (d = n.point ∧ fraction ≠ []) := by
      rcases List.mem_append.mp hd with hd | hd
      · cases minus with
        | true => exact absurd (List.mem_singleton.mp hd ▸ hseparator) (by decide)
        | false => cases hd
      · refine (hbody d hd).resolve_left fun hdigit => ?_
        rw [not_isSeparator_of_isDigit hdigit] at hseparator
        cases hseparator
    have hlastPoint (hne : fraction ≠ []) : lastSeparator (signText minus ++ body) = some n.point := by
      have heq : signText minus ++ body = (signText minus ++ (first ++ rest.flatMap (n.group :: ·))) ++ n.point :: fraction := by
        simp only [body, if_neg hne, List.append_assoc]
      rw [heq]
      exact lastSeparator_append_cons (isSeparator_point n) fun d hd => not_isSeparator_of_isDigit (hfraction d hd)
    -- The notation is the one of the numeral.
    have hsame : n' = n := by
      rcases hmem _ hgroup (isSeparator_group n') with ⟨heq, -⟩ | ⟨heq, hne⟩
      · cases n <;> cases n' <;> first | rfl | cases heq
      · have hpoint := Option.some.inj (hlast.symm.trans (hlastPoint hne))
        exact absurd (heq.trans hpoint.symm) (group_ne_point n')
    subst hsame
    have hsome : rest ≠ [] := (hmem _ hgroup (isSeparator_group n')).elim (·.2) fun h => absurd h.1 (group_ne_point n')
    have hpoint : fraction ≠ [] := ((hmem _ (mem_of_lastSeparator hlast) (isSeparator_point n')).resolve_left
      fun h => (group_ne_point n').symm h.1).2
    have hunsigned : unsigned (signText minus ++ body) = body := by
      cases minus with
      | true => rfl
      | false =>
        refine if_neg fun hminus => ?_
        rw [show signText false ++ body = c :: cs from hcons] at hminus
        exact isDigit_ne hc isDigit_minus (Option.some.inj hminus)
    obtain ⟨hlength, hlengths⟩ := hwrites.grouped.2.resolve_left hsome
    refine ⟨first, rest, ?_, hwrites.grouped.1, hlength, not_mem_of_digits hfirst (isDigit_group n'),
      fun piece hpiece => ⟨not_mem_of_digits (hrest piece hpiece) (isDigit_group n'), hlengths piece hpiece⟩⟩
    have hbefore : ∀ d ∈ first ++ rest.flatMap (n'.group :: ·), decide (d ≠ n'.point) = true := fun d hd => by
      refine decide_eq_true ?_
      rcases List.mem_append.mp hd with hd | hd
      · exact isDigit_ne (hfirst d hd) (isDigit_point n')
      · obtain ⟨piece, hpiece, hd⟩ := List.mem_flatMap.mp hd
        rcases List.mem_cons.mp hd with rfl | hd
        · exact group_ne_point n'
        · exact isDigit_ne (hrest piece hpiece d hd) (isDigit_point n')
    rw [hunsigned, show body = (first ++ rest.flatMap (n'.group :: ·)) ++ n'.point :: fraction by
      simp only [body, if_neg hpoint, List.append_assoc], List.takeWhile_append_of_pos hbefore, List.takeWhile_cons_of_neg (by simp),
      List.append_nil]
  have hkept (minus : Bool) : ∀ d ∈ signText minus ++ body, isKept d = true := fun d hd => by
    rcases List.mem_append.mp hd with hd | hd
    · cases minus with
      | true => exact List.mem_singleton.mp hd ▸ (by decide)
      | false => cases hd
    · rcases hbody d hd with hdigit | ⟨rfl, -⟩ | ⟨rfl, -⟩
      · exact isKept_of_isDigit hdigit
      · cases n <;> decide
      · cases n <;> decide
  have htexteq := hwrites.text_eq
  rcases hwrites.isSign with rfl | rfl | rfl
  · exact ⟨lead, [], body, trail, by rw [htext, htexteq]; rfl, hframed, .inl rfl, hkept false, hthrees false⟩
  · exact ⟨lead, [], signText true ++ body, trail, by rw [htext, htexteq]; rfl, hframed, .inl rfl, hkept true, hthrees true⟩
  · refine ⟨lead, ['+'], body, trail, by rw [htext, htexteq]; rfl, hframed, .inr ⟨rfl, ?_⟩, hkept false, hthrees false⟩
    rw [hcons]
    exact fun h => isDigit_ne hc isDigit_minus (Option.some.inj h)

/-- The parser is faithful to a text if and only if what it keeps of it is no number, or it drops nothing of it that matters. -/
theorem decimalFromStr_faithful_iff (raw : String) : Faithful raw ↔ (isNumeric (normalized (cleaned raw)) = true → Intact raw ∧ Storable raw) := by
  constructor
  · intro hfaithful hnumeric
    obtain ⟨negative, whole, fraction, hshape⟩ := shaped_of_isNumeric hnumeric
    obtain ⟨hstored, hlost⟩ := decimalFromStr_of_shaped hshape hnumeric
    have hstorable : Storable raw := by
      by_contra hnot
      rcases hfaithful with ⟨_, _, _, hok, -⟩ | herror
      · cases hok.symm.trans (hlost hnot)
      · cases herror.symm.trans (hlost hnot)
    rcases hfaithful with ⟨_, _, _, -, hnumeral⟩ | herror
    · exact ⟨intact_of_isNumeral hnumeral, hstorable⟩
    · cases herror.symm.trans (hstored hstorable)
  · intro h
    by_cases hnumeric : isNumeric (normalized (cleaned raw)) = true
    · obtain ⟨hintact, hstorable⟩ := h hnumeric
      obtain ⟨negative, whole, fraction, hshape⟩ := shaped_of_isNumeric hnumeric
      refine .inl ⟨_, _, _, (decimalFromStr_of_shaped hshape hnumeric).1 hstorable, ?_⟩
      obtain ⟨lead, plus, core, trail, htext, hframed, hplus, hkept, hthrees⟩ := hintact
      have hplus' : plus = [] ∨ plus = ['+'] := hplus.imp id (·.1)
      rw [cleaned_eq htext hframed hplus' hkept] at hshape
      obtain ⟨n, hnormalized, hlast⟩ := normalized_eq core
      rw [hnormalized] at hshape
      have hshape' := @shaped_of_map _ n _ _ _ (fun c hc => ⟨hkept c (List.mem_of_mem_filter hc), of_decide_eq_true (List.mem_filter.mp hc).2⟩)
        hshape
      obtain ⟨first, rest, hcore, hgrouped, hflat⟩ := parts_of_core hthrees hlast hshape'
      have hdigits : ∀ c ∈ first ++ (rest.flatten ++ fraction), isDigit c = true := fun c hc => by
        rw [← List.append_assoc, hflat] at hc
        exact (List.mem_append.mp hc).elim (hshape.areWhole c) (hshape.areFraction c)
      refine ⟨lead, plus ++ core, trail, by rw [htext, List.append_assoc], hframed, n, plus ++ signText negative, first, rest, fraction,
        ?_, hdigits, hgrouped, by rw [hcore]; simp only [List.append_assoc], ?_⟩
      · rcases hplus with rfl | ⟨rfl, hminus⟩
        · cases negative
          · exact .inl rfl
          · exact .inr (.inl rfl)
        · cases negative
          · exact .inr (.inr rfl)
          · exact absurd (by rw [hcore]; rfl) hminus
      · rw [rational_eq, ← List.append_assoc, hflat]
        rcases hplus with rfl | ⟨rfl, hminus⟩
        · cases negative <;> rfl
        · cases negative
          · rfl
          · exact absurd (by rw [hcore]; rfl) hminus
    · exact .inr (if_neg hnumeric)

theorem mem_of_intact (h : Intact raw) {c : Char} (hc : c ∈ Text.trim raw.toList) :
    isKept c = true ∨ c = '+' ∨ isCurrency c = true ∨ Text.isSpace c = true := by
  obtain ⟨lead, plus, core, trail, htext, hframed, hplus, hkept, -⟩ := h
  have hframe : ∀ d, d ∈ lead ∨ d ∈ trail → isCurrency d = true ∨ Text.isSpace d = true := by
    rcases hframed with ⟨rfl, rfl⟩ | ⟨symbol, blanks, hsymbol, hblanks, ⟨rfl, rfl⟩ | ⟨rfl, rfl⟩⟩ <;> intro d hd
    · simp at hd
    all_goals
      have hd : d = symbol ∨ d ∈ blanks := by simpa [or_comm] using hd
      rcases hd with rfl | hd
      · exact .inl hsymbol
      · exact .inr (hblanks d hd)
  rw [htext, List.mem_append, List.mem_append, List.mem_append] at hc
  rcases hc with hc | hc | hc | hc
  · exact .inr (.inr (hframe c (.inl hc)))
  · rcases hplus with rfl | ⟨rfl, -⟩
    · cases hc
    · exact .inr (.inl (List.mem_singleton.mp hc))
  · exact .inl (hkept c hc)
  · exact .inr (.inr (hframe c (.inr hc)))

theorem decimalFromStr_twoNumbers : decimalFromStr "2 x 1,50 €" = .ok (.finite false 2150 (-2)) := by decide +kernel

theorem not_faithful_twoNumbers : ¬ Faithful "2 x 1,50 €" := by
  rintro (⟨_, _, _, -, hnumeral⟩ | herror)
  · have hmem : 'x' ∈ Text.trim "2 x 1,50 €".toList := by decide +kernel
    rcases mem_of_intact (intact_of_isNumeral hnumeral) hmem with h | h | h | h
    all_goals exact absurd h (by decide)
  · cases decimalFromStr_twoNumbers.symm.trans herror

end Texts

end CestaPlan.Providers
