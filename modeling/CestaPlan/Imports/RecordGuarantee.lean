import CestaPlan.Imports.RecordSoundness
import CestaPlan.Library.Dict

/-! The record of a row is read back from its JSON as it was, and the guarantee that the validation gives. -/

namespace CestaPlan.Imports
open DecimalText Ingestion

section RoundTrip
variable {fromisoformat : String → Option DateTime} {r : WrittenRecord}

theorem readOptional_map {α β : Type} {read : α → Option β} {write : β → α} {x : Option β} (h : ∀ y ∈ x, read (write y) = some y) :
    readOptional read (x.map write) = some x := by
  cases x with
  | none => rfl
  | some y =>
    show (read (write y)).map some = some (some y)
    rw [h y rfl]
    rfl

theorem isoformat_ne_empty (t : DateTime) : isoformat t ≠ "" := by
  unfold isoformat
  intro h
  have hlength := congrArg (·.toList.length) h
  simp only [String.toList_ofList, List.length_append, List.length_cons] at hlength
  exact absurd hlength (by simp)

theorem filter_nonempty {x : Option String} (h : ∀ s ∈ x, s ≠ "") : x.filter (· ≠ "") = x := by
  cases x with
  | none => rfl
  | some s => rw [Option.filter_some, if_pos (decide_eq_true (h s rfl))]

/-- The keys of the JSON of a record. -/
def jsonKeys : List String :=
  ["retailer_slug", "store_external_code", "store_province", "store_locality", "store_postal_code", "product_external_id",
   "product_name", "brand", "category", "barcode", "package_quantity", "package_unit", "amount", "currency", "unit_price", "promotion",
   "availability", "source_type", "source_name", "source_url", "observed_at", "expires_at", "confidence_score", "verification_status",
   "canonical_name"]

theorem nodup_jsonKeys : jsonKeys.Nodup := by decide +kernel

theorem lookup_toJson (i : ℕ) {key : String} {value : Option String} (h : r.toJson[i]? = some (key, value)) :
    r.toJson.lookup key = some value :=
  (Dict.mem_entries_iff (d := ⟨r.toJson, nodup_jsonKeys⟩)).mp (List.mem_of_getElem? h)

theorem fromJson_toJson (hquantity : r.packageQuantity.Fits) (hamount : r.amount.Fits) (hprice : ∀ u ∈ r.unitPrice, u.Fits)
    (hconfidence : ∀ c ∈ r.confidenceScore, c.Fits) (hobserved : fromisoformat (isoformat r.observedAt) = some r.observedAt)
    (hexpires : ∀ t ∈ r.expiresAt, fromisoformat (isoformat t) = some t) (hverification : r.verificationStatus ≠ "")
    (hname : r.canonicalName ≠ some "") : fromJson fromisoformat r.toJson = some r := by
  have hfilter : (r.expiresAt.map isoformat).filter (· ≠ "") = r.expiresAt.map isoformat := filter_nonempty fun text htext => by
    obtain ⟨t, -, rfl⟩ := Option.map_eq_some_iff.mp htext
    exact isoformat_ne_empty t
  have hnamed : r.canonicalName.filter (· ≠ "") = r.canonicalName :=
    filter_nonempty fun name hsome hempty => hname (hempty ▸ hsome)
  have hverified : ((some r.verificationStatus).filter (· ≠ "")).getD "unverified" = r.verificationStatus := by
    rw [filter_nonempty fun v hv => Option.mem_some.mp hv ▸ hverification, Option.getD_some]
  simp only [fromJson, @lookup_toJson r 0 _ _ rfl, @lookup_toJson r 1 _ _ rfl, @lookup_toJson r 2 _ _ rfl,
    @lookup_toJson r 3 _ _ rfl, @lookup_toJson r 4 _ _ rfl, @lookup_toJson r 5 _ _ rfl, @lookup_toJson r 6 _ _ rfl,
    @lookup_toJson r 7 _ _ rfl, @lookup_toJson r 8 _ _ rfl, @lookup_toJson r 9 _ _ rfl, @lookup_toJson r 10 _ _ rfl,
    @lookup_toJson r 11 _ _ rfl, @lookup_toJson r 12 _ _ rfl, @lookup_toJson r 13 _ _ rfl, @lookup_toJson r 14 _ _ rfl,
    @lookup_toJson r 15 _ _ rfl, @lookup_toJson r 16 _ _ rfl, @lookup_toJson r 17 _ _ rfl, @lookup_toJson r 18 _ _ rfl,
    @lookup_toJson r 19 _ _ rfl, @lookup_toJson r 20 _ _ rfl, @lookup_toJson r 21 _ _ rfl, @lookup_toJson r 22 _ _ rfl,
    @lookup_toJson r 23 _ _ rfl, @lookup_toJson r 24 _ _ rfl,
    Option.map_some, Option.getD_some, Option.bind_eq_bind, Option.bind_some, Option.join_some, Option.pure_def,
    decimal?_text hquantity, decimal?_text hamount, hobserved, hfilter, readOptional_map fun u hu => decimal?_text (hprice u hu),
    readOptional_map hexpires, readOptional_map fun c hc => decimal?_text (hconfidence c hc), hverified, hnamed]

end RoundTrip

/-! ### The guarantee -/

/-- The figures of a record are numbers in their ranges, its unit price is the one of its package, and JSON keeps it. -/
structure WellFormed (fromisoformat : String → Option DateTime) (r : WrittenRecord) : Prop where
  figures : ∃ a q, Decimal.ofNumeral r.amount = .finite a ∧ 0 < a ∧ Decimal.ofNumeral r.packageQuantity = .finite q ∧ 0 < q ∧
    ∀ u ∈ r.unitPrice, ∃ x, Decimal.ofNumeral u = .finite x ∧
      ∀ factor, unitBase.lookup r.packageUnit = some factor → Within factor a q x
  confidence : ∀ c ∈ r.confidenceScore, ∃ x, Decimal.ofNumeral c = .finite x ∧ 0 ≤ x ∧ x ≤ 1
  kept : fromJson fromisoformat r.toJson = some r

/-- The validation gives errors, or a record that is well formed. -/
def Promised (fromisoformat : String → Option DateTime) (result : Except Signal RowValidation) : Prop :=
  ∃ v, result = .ok v ∧ ((v.errors ≠ [] ∧ v.record = none) ∨ (v.errors = [] ∧ ∃ r, v.record = some r ∧ WellFormed fromisoformat r))

/-- The figures of a row are finite, and the unit price is within the tolerance before any rounding. -/
def Regular (row : RawRow) : Prop :=
  ∀ amount packageQuantity, row.numeral "amount" = some amount → row.numeral "package_quantity" = some packageQuantity →
    ∃ a q, Decimal.ofNumeral amount = .finite a ∧ Decimal.ofNumeral packageQuantity = .finite q ∧
      ∀ u, row.numeral "unit_price" = some u → ∃ x, Decimal.ofNumeral u = .finite x ∧
        ∀ factor, unitBase.lookup (row.text "package_unit") = some factor → Within factor a q x

section Guarantee
variable {fromisoformat : String → Option DateTime} {row : RawRow} {r : WrittenRecord} {index : Nat}

theorem eq_of_recordOf (h : recordOf fromisoformat row = some r) : row.numeral "amount" = some r.amount ∧
    row.numeral "package_quantity" = some r.packageQuantity ∧ row.numeral "unit_price" = r.unitPrice ∧
    row.numeral "confidence_score" = r.confidenceScore ∧ row.text "package_unit" = r.packageUnit ∧
    (row.optional "observed_at").bind (parseDt fromisoformat) = some r.observedAt ∧
    (row.optional "expires_at").bind (parseDt fromisoformat) = r.expiresAt ∧ verificationOf row = r.verificationStatus ∧
    row.optional "canonical_name" = r.canonicalName := by
  obtain ⟨a, ha, h⟩ := Option.bind_eq_some_iff.mp h
  obtain ⟨q, hq, h⟩ := Option.bind_eq_some_iff.mp h
  obtain ⟨t, ht, h⟩ := Option.bind_eq_some_iff.mp h
  obtain rfl := Option.some.inj h
  exact ⟨ha, hq, rfl, rfl, rfl, ht, rfl, rfl, rfl⟩

theorem fits_of_numeral {field : String} {d : Numeral} (h : row.numeral field = some d) : d.Fits := by
  obtain ⟨text, -, hd⟩ := Option.bind_eq_some_iff.mp h
  exact fits_of_decimal? hd

theorem optional_ne_empty {field s : String} (h : row.optional field = some s) : s ≠ "" :=
  of_decide_eq_true (Option.filter_eq_some_iff.mp h).2

theorem verificationOf_ne_empty : verificationOf row ≠ "" := by
  unfold verificationOf
  cases h : row.optional "verification_status" with
  | none => decide
  | some s => exact optional_ne_empty h

section Dates
variable (hiso : ∀ text t, fromisoformat text = some t → fromisoformat (isoformat (aware t)) = some (aware t))
include hiso

theorem isoformat_of_parseDt {text : String} {t : DateTime} (h : parseDt fromisoformat text = some t) :
    fromisoformat (isoformat t) = some t := by
  unfold parseDt at h
  dsimp only at h
  split at h
  · cases h
  · obtain ⟨parsed, hparsed, rfl⟩ := Option.map_eq_some_iff.mp h
    exact hiso _ parsed hparsed

theorem recordOf_kept (h : recordOf fromisoformat row = some r) : fromJson fromisoformat r.toJson = some r := by
  obtain ⟨ha, hq, hu, hc, -, hobserved, hexpires, hverification, hname⟩ := eq_of_recordOf h
  obtain ⟨text, -, ht⟩ := Option.bind_eq_some_iff.mp hobserved
  refine fromJson_toJson (fits_of_numeral hq) (fits_of_numeral ha) (fun u hsome => fits_of_numeral (hu.trans hsome))
    (fun c hsome => fits_of_numeral (hc.trans hsome)) (isoformat_of_parseDt hiso ht) (fun t hsome => ?_)
    (hverification ▸ verificationOf_ne_empty) fun hsome => optional_ne_empty (hname.trans hsome) rfl
  obtain ⟨text, -, ht⟩ := Option.bind_eq_some_iff.mp (hexpires.trans hsome)
  exact isoformat_of_parseDt hiso ht

/-- The validation keeps its promise if and only if it raises nothing, and a row that it finds no fault in is regular. -/
theorem promised_iff : Promised fromisoformat (buildRecord fromisoformat row index) ↔
    Comparable row ∧ (Acceptable fromisoformat row → Regular row) := by
  constructor
  · rintro ⟨v, hv, hpromise⟩
    have hcomparable : Comparable row := by
      by_contra hnot
      exact not_fails_ok hv (fails_buildRecord hnot)
    refine ⟨hcomparable, fun hacceptable amount packageQuantity ha hq => ?_⟩
    obtain ⟨v', hv', hcases⟩ := @buildRecord_eq_ok fromisoformat row index hcomparable
    obtain rfl := Except.ok.inj (hv.symm.trans hv')
    rcases hcases with ⟨-, hnone, hrecord⟩ | ⟨hnot, -⟩
    · rcases hpromise with ⟨hsome, -⟩ | ⟨-, r, hr, hformed⟩
      · exact absurd hnone hsome
      · obtain ⟨ha', hq', hu', -, hunit, -⟩ := eq_of_recordOf (hrecord.symm.trans hr)
        obtain rfl := Option.some.inj (ha.symm.trans ha')
        obtain rfl := Option.some.inj (hq.symm.trans hq')
        obtain ⟨a, q, hfa, -, hfq, -, hprice⟩ := hformed.figures
        refine ⟨a, q, hfa, hfq, fun u hu => ?_⟩
        rw [hunit]
        exact hprice u (hu'.symm.trans hu)
    · exact absurd hacceptable hnot
  · rintro ⟨hcomparable, hregular⟩
    obtain ⟨v, hv, hcases⟩ := @buildRecord_eq_ok fromisoformat row index hcomparable
    refine ⟨v, hv, ?_⟩
    rcases hcases with ⟨hacceptable, hnone, hrecord⟩ | ⟨-, hsome, hnone⟩
    · obtain ⟨r, hr⟩ := recordOf_isSome hacceptable
      obtain ⟨ha, hq, hu, hc, hunit, -⟩ := eq_of_recordOf hr
      obtain ⟨a, q, hfa, hfq, hprice⟩ := hregular hacceptable _ _ ha hq
      refine .inr ⟨hnone, r, hrecord.trans hr, ⟨a, q, hfa, ?_, hfq, ?_, fun u hsome => ?_⟩, fun c hsome => ?_, recordOf_kept hiso hr⟩
      · obtain ⟨_, ha', hpositive⟩ := hacceptable.amount
        obtain rfl := Option.some.inj (ha.symm.trans ha')
        rwa [hfa] at hpositive
      · obtain ⟨_, hq', hpositive⟩ := hacceptable.packageQuantity
        obtain rfl := Option.some.inj (hq.symm.trans hq')
        rwa [hfq] at hpositive
      · rw [← hunit]
        exact hprice u (hu.trans hsome)
      · obtain ⟨text, htext⟩ := optional_of_numeral (hc.trans hsome)
        obtain ⟨_, hc', hinterval⟩ := hacceptable.confidence (by rw [htext]; rfl)
        obtain rfl := Option.some.inj ((hc.trans hsome).symm.trans hc')
        cases hvalue : Decimal.ofNumeral c with
        | finite x =>
          rw [hvalue] at hinterval
          exact ⟨x, rfl, hinterval⟩
        | infinity n =>
          rw [hvalue] at hinterval
          exact hinterval.elim
        | nan s =>
          rw [hvalue] at hinterval
          exact hinterval.elim
    · exact .inl ⟨hsome, hnone⟩

end Dates
end Guarantee

/-! ### A row -/

/-- A litre of milk. -/
def milkRow (amount : String) : RawRow := fun column =>
  [("retailer_slug", "mercadona"), ("store_external_code", "46001"), ("product_external_id", "10379"),
   ("product_name", "Leche entera"), ("package_quantity", "1"), ("package_unit", "l"), ("amount", amount), ("currency", "EUR"),
   ("source_type", "manual_entry"), ("source_name", "ticket"), ("observed_at", "2026-08-01T09:00:00+02:00")].lookup column

/-- `datetime.fromisoformat` of the instant at which the milk was seen. -/
def readDate (text : String) : Option DateTime :=
  if text = "2026-08-01T09:00:00+02:00" then some ⟨1785574800000000, some 7200000000⟩ else none

theorem isoformat_readDate (text : String) (t : DateTime) (h : readDate text = some t) :
    readDate (isoformat (aware t)) = some (aware t) := by
  unfold readDate at h
  split at h
  · obtain rfl := Option.some.inj h
    decide +kernel
  · cases h

theorem promised_iff_milkRow : Promised readDate (buildRecord readDate (milkRow "1.05") 0) ↔
    Comparable (milkRow "1.05") ∧ (Acceptable readDate (milkRow "1.05") → Regular (milkRow "1.05")) :=
  promised_iff isoformat_readDate

/-- An amount that is NaN is neither refused nor taken: it is compared, which raises. -/
theorem not_promised_nan : ¬ Promised readDate (buildRecord readDate (milkRow "NaN") 0) := by
  rintro ⟨v, hv, -⟩
  refine not_fails_ok hv (fails_buildRecord fun hcomparable => ?_)
  have hnumber := hcomparable.numbers "amount" (by simp) (.nan false false 0) (by decide +kernel)
  cases hnumber

end CestaPlan.Imports
