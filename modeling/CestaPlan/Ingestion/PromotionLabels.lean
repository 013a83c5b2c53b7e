import CestaPlan.Ingestion.Feed
import CestaPlan.Library.Regex

/-! The labels of promotions (`PromotionParser` in `ingestion/normalization.py`). -/

namespace CestaPlan.Ingestion
open Calendar (Instant)
open Regex Regex.Pattern Regex.Alphabet

section Patterns
variable (u : Alphabet)

/-- `_NXM_RE` -/
def nxmPattern : Pattern :=
  .sequence [.group 1 u.digits, spaces, u.oneOf "x×", spaces, .group 2 u.digits, .boundary u.word,
    .notAhead (.seq spaces (.choice (u.literal "g") [u.literal "gr", u.literal "kg", u.literal "ml", u.literal "cl",
      u.literal "l", u.literal "lt", u.literal "unidad"]))]

/-- `_NXM_WORDS_RE` -/
def nxmWordsPattern : Pattern :=
  .sequence [.optional (.choice (u.literal "compra") [u.literal "lleva", u.literal "llevate", u.literal "llévate"]), spaces,
    .group 1 u.digits, spaces, .alt (u.literal "por") (.seq (u.literal "paga") (.optional (u.literal "s"))), spaces,
    .group 2 u.digits]

/-- `(?:2[ªaº]|segunda|second)\s*(?:unidad|unit)` -/
def secondUnitWords : Pattern :=
  .sequence [.choice (.seq (u.literal "2") (u.oneOf "ªaº")) [u.literal "segunda", u.literal "second"], spaces,
    .alt (u.literal "unidad") (u.literal "unit")]

/-- `_SECOND_UNIT_RE` -/
def secondUnitPattern : Pattern :=
  .sequence [secondUnitWords u, spaces,
    .optional (.choice (.seq (u.literal "al") spaces) [.seq (u.literal "a") spaces, u.literal "-", .seq (u.literal "de") spaces]),
    spaces, .group 1 u.decimalDigits, spaces, u.literal "%"]

/-- `_SECOND_UNIT_FREE_RE` -/
def secondUnitFreePattern : Pattern :=
  .sequence [secondUnitWords u, spaces, .alt (u.literal "gratis") (u.literal "free")]

/-- `_PERCENT_RE` -/
def percentPattern : Pattern :=
  .sequence [.optional (.alt (u.literal "-") (.seq (u.literal "menos") someSpaces)), spaces, .group 1 u.decimalDigits, spaces,
    u.literal "%", spaces, .optional (.seq (u.literal "de") someSpaces),
    .optional (.choice (.seq (u.literal "dto") (.optional (u.literal "."))) [u.literal "descuento", u.literal "off",
      u.literal "discount", u.literal "rebaja"])]

/-- `_FIXED_RE` -/
def fixedPattern : Pattern :=
  .sequence [.choice (u.literal "-") [u.literal "ahorra", u.literal "save",
      .sequence [u.literal "descuento", someSpaces, u.literal "de"]], spaces, .group 1 u.decimalDigits, spaces,
    .choice (u.literal "€") [.seq (u.literal "eur") (.boundary u.word), .seq (u.literal "euro") (.optional (u.literal "s"))]]

/-- `_MIN_QTY_RE` -/
def minQtyPattern : Pattern :=
  .sequence [.choice (.seq (u.literal "min") (.optional (u.literal ".")))
      [.sequence [u.literal "m", u.oneOf "ií", u.literal "nimo"],
        .sequence [u.literal "a", someSpaces, u.literal "partir", someSpaces, u.literal "de"], u.literal "comprando"], spaces,
    .group 1 u.digits]

/-- `_PACK_RE` -/
def packPattern : Pattern :=
  .sequence [u.literal "pack", spaces, .optional (.seq (u.literal "de") spaces), .group 1 u.digits]

/-- `_LOYALTY_RE` -/
def loyaltyPattern : Pattern :=
  .choice (u.literal "tarjeta") [u.literal "socio", u.literal "loyalty", u.literal "club", u.literal "fidelidad",
    .sequence [u.literal "con", someSpaces, u.literal "tarjeta"]]

def dateSeparator : Pattern := .char fun a => a = '/' || a = '-'

/-- A day and a month, and the year where it is given. -/
def datePattern (i : ℕ) : Pattern :=
  .sequence [.group i (.many u.isDigit 1 (some 2)), dateSeparator, .group (i + 1) (.many u.isDigit 1 (some 2)),
    .optional (.seq dateSeparator (.group (i + 2) (.many u.isDigit 2 (some 4))))]

/-- `_DATE_RANGE_RE` -/
def dateRangePattern : Pattern :=
  .sequence [u.literal "de", .optional (u.literal "l"), someSpaces, datePattern u 1, someSpaces, u.literal "a",
    .optional (u.literal "l"), someSpaces, datePattern u 4]

end Patterns

/-- The number of a group, which a pattern that has the group always reads. -/
def groupInt (u : Alphabet) (m : Cursor) (i : ℕ) : Option ℕ := (m.group? i).bind u.int

/-- `_pct`, and `to_decimal` of what the patterns read. -/
def groupDecimal (u : Alphabet) (m : Cursor) : ℚ := u.decimal ((m.group? 1).getD [])

section Parser
variable (u : Alphabet)

/-- `_parse_date`: a year of two digits is one of this century. -/
def parseDate (day month : List Char) (year : Option (List Char)) (defaultYear : ℕ) : Option Instant :=
  let y := year.elim defaultYear u.number
  let y := if y < 100 then y + 2000 else y
  (Calendar.date? y (u.number month) (u.number day)).map Calendar.startOf

/-- Both dates, or none where one of them does not exist. -/
def parseDates (text : List Char) (defaultYear : ℕ) : Option (Instant × Instant) := do
  let m ← search (dateRangePattern u) text
  let start ← parseDate u ((m.group? 1).getD []) ((m.group? 2).getD []) (m.group? 3) defaultYear
  let «end» ← parseDate u ((m.group? 4).getD []) ((m.group? 5).getD []) (m.group? 6) defaultYear
  return (start, «end»)

/-- The rule of a label that says how many units are paid of how many, or nothing where a number has too many digits to be read. -/
def parseNxm (text : List Char) : Option (Option (ℕ × ℕ)) :=
  match (search (nxmPattern u) text).or (search (nxmWordsPattern u) text) with
  | none => some none
  | some m => do
    let required ← groupInt u m 1
    let charged ← groupInt u m 2
    return if charged < required then some (required, charged) else none

/-- The rules that follow: the more specific shapes win. -/
def parseDiscount (common : PromotionInfo) (text : List Char) : Option (Option PromotionInfo) :=
  if (search (secondUnitFreePattern u) text).isSome then
    some (some { common with promotionType := .secondUnit, requiredQuantity := some 2, percentageDiscount := some 100 })
  else match search (secondUnitPattern u) text with
    | some m => some (some { common with
        promotionType := .secondUnit, requiredQuantity := some 2, percentageDiscount := some (groupDecimal u m) })
    | none => match search (packPattern u) text with
      | some m => (groupInt u m 1).map fun n => some { common with promotionType := .pack, requiredQuantity := some n }
      | none => match search (minQtyPattern u) text, search (percentPattern u) text, search (fixedPattern u) text with
        | some m, some pct, fix => (groupInt u m 1).map fun n => some { common with
            promotionType := .minQuantity, requiredQuantity := some n, percentageDiscount := some (groupDecimal u pct),
            fixedDiscount := fix.map (groupDecimal u) }
        | some m, none, some fix => (groupInt u m 1).map fun n => some { common with
            promotionType := .minQuantity, requiredQuantity := some n, fixedDiscount := some (groupDecimal u fix) }
        | _, _, some fix => some (some { common with promotionType := .fixed, fixedDiscount := some (groupDecimal u fix) })
        | _, some pct, none =>
          some (some { common with promotionType := .percentage, percentageDiscount := some (groupDecimal u pct) })
        | _, none, none => some none

/-- `PromotionParser.parse`, or nothing where it raises. -/
def parsePromotion (now : Instant) : Option String → Option (Option PromotionInfo)
  | none => some none
  | some rawText =>
    let text := (Text.strip rawText).toList
    if text = [] then some none
    else
      let dates := parseDates u text (Calendar.civilMonth (Calendar.dayOf now)).1.toNat
      let common : PromotionInfo :=
        { promotionType := .nxm, rawText := some rawText, loyaltyRequired := (search (loyaltyPattern u) text).isSome,
          validFrom := dates.map (·.1), validUntil := dates.map (·.2) }
      (parseNxm u text).bind fun
        | some (required, charged) => some (some { common with requiredQuantity := some required, chargedQuantity := some charged })
        | none => parseDiscount u common text

/-! ### What is read -/

variable {u} {now : Instant} {rawText : Option String} {common info : PromotionInfo} {text : List Char}

/-- The shapes of a rule: what is given of it follows from its type. -/
inductive Shape (info : PromotionInfo) : Prop where
  | nxm {n m : ℕ} (type : info.promotionType = .nxm) (required : info.requiredQuantity = some n)
      (charged : info.chargedQuantity = some m) (pct : info.percentageDiscount = none) (less : m < n)
  | secondUnit {p : ℚ} (type : info.promotionType = .secondUnit) (required : info.requiredQuantity = some 2)
      (pct : info.percentageDiscount = some p) (nonneg : 0 ≤ p)
  | pack {n : ℕ} (type : info.promotionType = .pack) (required : info.requiredQuantity = some n)
      (charged : info.chargedQuantity = none) (pct : info.percentageDiscount = none)
  | minPercentage {n : ℕ} {p : ℚ} (type : info.promotionType = .minQuantity) (required : info.requiredQuantity = some n)
      (pct : info.percentageDiscount = some p) (nonneg : 0 ≤ p)
  | minFixed {n : ℕ} {d : ℚ} (type : info.promotionType = .minQuantity) (required : info.requiredQuantity = some n)
      (pct : info.percentageDiscount = none) (fixed : info.fixedDiscount = some d) (nonneg : 0 ≤ d)
  | fixed {d : ℚ} (type : info.promotionType = .fixed) (pct : info.percentageDiscount = none)
      (fixed : info.fixedDiscount = some d) (nonneg : 0 ≤ d)
  | percentage {p : ℚ} (type : info.promotionType = .percentage) (required : info.requiredQuantity = none)
      (pct : info.percentageDiscount = some p) (nonneg : 0 ≤ p)

theorem parseNxm_less {n m : ℕ} (h : parseNxm u text = some (some (n, m))) : m < n := by
  unfold parseNxm at h
  split at h
  · cases h
  · next c _ =>
    obtain ⟨required, -, h⟩ := Option.bind_eq_some_iff.mp h
    obtain ⟨charged, -, h⟩ := Option.bind_eq_some_iff.mp h
    have h := Option.some.inj h
    split at h
    · next hless =>
      cases h
      exact hless
    · cases h

theorem shape_of_parseDiscount (hrequired : common.requiredQuantity = none) (hcharged : common.chargedQuantity = none)
    (hpct : common.percentageDiscount = none) (h : parseDiscount u common text = some (some info)) : Shape info := by
  have hdecimal : ∀ m, 0 ≤ groupDecimal u m := fun m => u.decimal_nonneg _
  unfold parseDiscount at h
  split at h
  · cases h
    exact .secondUnit rfl rfl rfl (by norm_num)
  split at h
  · cases h
    exact .secondUnit rfl rfl rfl (hdecimal _)
  split at h
  · obtain ⟨n, -, h⟩ := Option.map_eq_some_iff.mp h
    cases h
    exact .pack rfl rfl hcharged hpct
  split at h
  · obtain ⟨n, -, h⟩ := Option.map_eq_some_iff.mp h
    cases h
    exact .minPercentage rfl rfl rfl (hdecimal _)
  · obtain ⟨n, -, h⟩ := Option.map_eq_some_iff.mp h
    cases h
    exact .minFixed rfl rfl hpct rfl (hdecimal _)
  · cases h
    exact .fixed rfl hpct rfl (hdecimal _)
  · cases h
    exact .percentage rfl hrequired rfl (hdecimal _)
  · cases h

theorem shape_of_parse (h : parsePromotion u now rawText = some (some info)) : Shape info := by
  cases rawText with
  | none => cases h
  | some rawText =>
    unfold parsePromotion at h
    dsimp only at h
    split at h
    · cases h
    · obtain ⟨nxm, hnxm, h⟩ := Option.bind_eq_some_iff.mp h
      rcases nxm with - | ⟨n, m⟩
      · exact shape_of_parseDiscount rfl rfl rfl h
      · cases h
        exact .nxm rfl rfl rfl rfl (parseNxm_less hnxm)

end Parser
end CestaPlan.Ingestion
