import CestaPlan.Library.DecimalText
import Mathlib.Tactic.IntervalCases

/-! Money as the Mercadona actor writes it (`ingestion/providers/apify/mapping.py`), and which texts the parser reads rightly. A text is a
    numeral in Spanish or English notation, with a currency symbol at one of its ends or none; the parser drops every other character,
    wherever it stands. -/

namespace CestaPlan.Providers
open DecimalText

inductive MoneyError where
  | invalidMoneyValue (raw : String)
  /-- `Decimal` refuses the text. -/
  | invalidOperation
deriving DecidableEq

/-- `\d` -/
def isDigit (c : Char) : Bool := (digit? c).isSome

/-- What `[^\d.,\-]` leaves. -/
def isKept (c : Char) : Bool := isDigit c || c = '.' || c = ',' || c = '-'

def cleaned (raw : String) : List Char := (Text.trim raw.toList).filter isKept

def isSeparator (c : Char) : Bool := c = '.' || c = ','

/-- The rightmost separator. -/
def lastSeparator (l : List Char) : Option Char := l.reverse.find? isSeparator

def commaToPoint (c : Char) : Char := if c = ',' then '.' else c

def normalized (l : List Char) : List Char :=
  if '.' ∈ l ∧ ',' ∈ l then
    -- The rightmost separator is the decimal one; the other one groups thousands.
    if lastSeparator l = some ',' then (l.filter (· ≠ '.')).map commaToPoint else l.filter (· ≠ ',')
  else if ',' ∈ l then l.map commaToPoint
  else l

/-- `^-?\d+(?:\.\d+)?$`, of the whole text. -/
def isNumeric (l : List Char) : Bool :=
  let l := if l.head? = some '-' then l.tail else l
  l.takeWhile isDigit ≠ [] && match l.dropWhile isDigit with
    | [] => true
    | '.' :: fraction => fraction ≠ [] && fraction.all isDigit
    | _ => false

def decimalFromStr (raw : String) : Except MoneyError Numeral :=
  let l := normalized (cleaned raw)
  if isNumeric l then match decimal? (String.ofList l) with
    | some d => .ok d
    | none => .error .invalidOperation
  else .error (.invalidMoneyValue raw)

def referenceFormatUnits : List (String × String) := [("l", "l"), ("kg", "kg"), ("ml", "ml"), ("g", "g")]

/-- The value is positive. -/
def isPositive : Numeral → Bool
  | .finite negative coefficient exponent => 0 < rational negative coefficient exponent
  | .infinity negative => !negative
  | .nan _ _ _ => false

section Reference
variable (lower : String → String)

/-- `_reference_unit_price`; `Decimal` may refuse the text. -/
def referenceUnitPrice (referencePrice : String) (referenceFormat : Option String) : Except MoneyError (Option (Numeral × String)) :=
  match referenceFormat.filter (· ≠ "") with
  | none => .ok none
  | some format => match referenceFormatUnits.lookup (lower (Text.strip format)) with
    | none => .ok none
    | some unit => match decimalFromStr referencePrice with
      | .error (.invalidMoneyValue _) => .ok none
      | .error .invalidOperation => .error .invalidOperation
      | .ok value => .ok (if isPositive value then some (value, unit) else none)

end Reference

example : ["5,04 €", "1.234,56", "1,234.56", "       18.75", "12 por 3", "1 kg"].map decimalFromStr =
    [.ok (.finite false 504 (-2)), .ok (.finite false 123456 (-2)), .ok (.finite false 123456 (-2)), .ok (.finite false 1875 (-2)),
      .ok (.finite false 123 0), .ok (.finite false 1 0)] := by decide +kernel

/-! ### Numerals -/

/-- The characters of the category `Sc`, those from U+20A0 to U+20C0 apart. -/
def currencySymbols : List ℕ :=
  [0x24, 0xa2, 0xa3, 0xa4, 0xa5, 0x58f, 0x60b, 0x7fe, 0x7ff, 0x9f2, 0x9f3, 0x9fb, 0xaf1, 0xbf9, 0xe3f, 0x17db, 0xa838, 0xfdfc, 0xfe69,
   0xff04, 0xffe0, 0xffe1, 0xffe5, 0xffe6, 0x11fdd, 0x11fde, 0x11fdf, 0x11fe0, 0x1e2ff, 0x1ecb0]

def isCurrency (c : Char) : Bool := currencySymbols.contains c.toNat || (0x20a0 ≤ c.toNat && c.toNat ≤ 0x20c0)

inductive Notation where
  | spanish | english

/-- The separator of the thousands, and the one of the decimals. -/
def Notation.group : Notation → Char
  | .spanish => '.'
  | .english => ','

def Notation.point : Notation → Char
  | .spanish => ','
  | .english => '.'

/-- The character is the digit, in any script. -/
def ascii (c : Char) : Char := ((digit? c).map Nat.digitChar).getD c

def digitsValue (digits : List Char) : ℕ := valueOf (digits.map ascii)

/-- Digits in one piece, or in groups of three after one that is no longer. -/
def Grouped (first : List Char) (rest : List (List Char)) : Prop :=
  first ≠ [] ∧ (rest = [] ∨ (first.length ≤ 3 ∧ ∀ piece ∈ rest, piece.length = 3))

/-- The text is the numeral in the notation: a sign or none, the digits of the whole part, in groups or not, and the decimals. -/
structure Notation.Writes (n : Notation) (text : List Char) (value : ℚ) (sign first : List Char) (rest : List (List Char))
    (fraction : List Char) : Prop where
  isSign : sign = [] ∨ sign = ['-'] ∨ sign = ['+']
  areDigits : ∀ c ∈ first ++ (rest.flatten ++ fraction), isDigit c = true
  grouped : Grouped first rest
  text_eq : text = sign ++ (first ++ (rest.flatMap (n.group :: ·) ++ if fraction = [] then [] else n.point :: fraction))
  value_eq : value = (if sign = ['-'] then -1 else 1) * digitsValue (first ++ (rest.flatten ++ fraction)) / 10 ^ fraction.length

/-- A currency symbol before or after, with blanks between, or nothing. -/
def Framed (lead trail : List Char) : Prop :=
  (lead = [] ∧ trail = []) ∨
    ∃ c blanks, isCurrency c = true ∧ (∀ b ∈ blanks, Text.isSpace b = true) ∧ ((lead = c :: blanks ∧ trail = []) ∨ (lead = [] ∧ trail = blanks ++ [c]))

/-- The text is one numeral, apart from blanks around it and a currency symbol. -/
def IsNumeral (raw : String) (value : ℚ) : Prop :=
  ∃ lead text trail, Text.trim raw.toList = lead ++ (text ++ trail) ∧ Framed lead trail ∧
    ∃ n sign first rest fraction, Notation.Writes n text value sign first rest fraction

/-- The parser reads a numeral as its value, and refuses every other text. -/
def Faithful (raw : String) : Prop :=
  (∃ negative coefficient exponent, decimalFromStr raw = .ok (.finite negative coefficient exponent) ∧
      IsNumeral raw (rational negative coefficient exponent)) ∨
    decimalFromStr raw = .error (.invalidMoneyValue raw)

/-! ### What is dropped -/

def unsigned (l : List Char) : List Char := if l.head? = some '-' then l.tail else l

/-- Where both separators occur, the one that does not come last stands between groups of three digits. -/
def InThrees (core : List Char) : Prop :=
  ∀ n : Notation, n.group ∈ core → lastSeparator core = some n.point →
    ∃ first rest, (unsigned core).takeWhile (· ≠ n.point) = first ++ List.flatMap (n.group :: ·) rest ∧ first ≠ [] ∧ first.length ≤ 3 ∧
      n.group ∉ first ∧ ∀ piece ∈ rest, n.group ∉ piece ∧ piece.length = 3

/-- What the parser drops is a currency symbol, with blanks, at one end, a plus sign before the first digit, and the separators of
    groups of three. -/
def Intact (raw : String) : Prop :=
  ∃ lead plus core trail, Text.trim raw.toList = lead ++ (plus ++ (core ++ trail)) ∧ Framed lead trail ∧
    (plus = [] ∨ (plus = ['+'] ∧ core.head? ≠ some '-')) ∧ (∀ c ∈ core, isKept c = true) ∧ InThrees core

/-- The digits are not more than a decimal can hold. -/
def Storable (raw : String) : Prop :=
  let l := normalized (cleaned raw)
  (Numeral.finite false (digitsValue (l.filter isDigit)) (-((l.dropWhile (· ≠ '.')).tail.length : ℤ))).Fits

/-! ### Characters -/

section Characters
variable {c : Char}

theorem isDigit_cases (h : isDigit c = true) :
    (c.isDigit = true ∧ digit? c = some (c.toNat - 48)) ∨
      ∃ z ∈ zeros, c.isDigit = false ∧ z ≤ c.toNat ∧ c.toNat < z + 10 ∧ digit? c = some (c.toNat - z) := by
  unfold isDigit digit? at h
  unfold digit?
  split
  · next hc => exact .inl ⟨hc, rfl⟩
  · next hc =>
    rw [if_neg hc, Option.isSome_map, Option.isSome_iff_exists] at h
    obtain ⟨z, hz⟩ := h
    have hrange : z ≤ c.toNat ∧ c.toNat < z + 10 := by simpa using List.find?_some hz
    exact .inr ⟨z, List.mem_of_find?_eq_some hz, Bool.eq_false_of_not_eq_true hc, hrange.1, hrange.2, by rw [hz]; rfl⟩

theorem isDigit_toNat (h : c.isDigit = true) : 48 ≤ c.toNat ∧ c.toNat ≤ 57 := by
  simp only [Char.isDigit, Bool.and_eq_true, decide_eq_true_eq, ge_iff_le, UInt32.le_iff_toNat_le] at h
  exact h

theorem isDigit_eq_false {codes : List ℕ} (hcodes : ∀ n ∈ codes, ¬ (48 ≤ n ∧ n ≤ 57) ∧ ∀ z ∈ zeros, ¬ (z ≤ n ∧ n < z + 10))
    (h : c.toNat ∈ codes) : isDigit c = false := by
  refine Bool.eq_false_of_not_eq_true fun hdigit => ?_
  obtain ⟨hascii, hscripts⟩ := hcodes _ h
  rcases isDigit_cases hdigit with ⟨hc, -⟩ | ⟨z, hz, -, hlo, hhi, -⟩
  · exact hascii (isDigit_toNat hc)
  · exact hscripts z hz ⟨hlo, hhi⟩

def spaceCodes : List ℕ :=
  [9, 10, 11, 12, 13, 28, 29, 30, 31, 32, 0x85, 0xa0, 0x1680, 0x2000, 0x2001, 0x2002, 0x2003, 0x2004, 0x2005, 0x2006, 0x2007, 0x2008,
   0x2009, 0x200a, 0x2028, 0x2029, 0x202f, 0x205f, 0x3000]

theorem mem_spaceCodes (h : Text.isSpace c = true) : c.toNat ∈ spaceCodes := by
  simp only [Text.isSpace, Bool.or_eq_true, Bool.and_eq_true, decide_eq_true_eq, beq_iff_eq] at h
  simp only [spaceCodes, List.mem_cons, List.not_mem_nil, or_false]
  omega

theorem ne_of_toNat {d : Char} (h : c.toNat ≠ d.toNat) : c ≠ d := fun heq => h (heq ▸ rfl)

theorem isKept_eq_false {codes : List ℕ} (hcodes : ∀ n ∈ codes, ¬ (48 ≤ n ∧ n ≤ 57) ∧ ∀ z ∈ zeros, ¬ (z ≤ n ∧ n < z + 10))
    (hmarks : ∀ n ∈ codes, n ≠ 44 ∧ n ≠ 45 ∧ n ≠ 46) (h : c.toNat ∈ codes) : isKept c = false := by
  obtain ⟨hcomma, hminus, hpoint⟩ := hmarks _ h
  simp only [isKept, isDigit_eq_false hcodes h, Bool.false_or, Bool.or_eq_false_iff, decide_eq_false_iff_not]
  exact ⟨⟨ne_of_toNat hpoint, ne_of_toNat hcomma⟩, ne_of_toNat hminus⟩

theorem not_isKept_of_isSpace (h : Text.isSpace c = true) : isKept c = false :=
  isKept_eq_false (by decide +kernel) (by decide) (mem_spaceCodes h)

theorem not_isKept_of_isCurrency (h : isCurrency c = true) : isKept c = false := by
  rcases Bool.or_eq_true_iff.mp h with h | h
  · exact isKept_eq_false (by decide +kernel) (by decide) (List.contains_iff_mem.mp h)
  · refine @isKept_eq_false c (List.range' 0x20a0 33) (by decide +kernel) (by decide +kernel) (List.mem_range'_1.mpr ?_)
    simp only [Bool.and_eq_true, decide_eq_true_eq] at h
    omega

theorem digit?_lt {n : ℕ} (h : digit? c = some n) : n < 10 := by
  have hdigit : isDigit c = true := by rw [isDigit, h]; rfl
  rcases isDigit_cases hdigit with ⟨hc, heq⟩ | ⟨z, -, -, hlo, hhi, heq⟩
  · obtain rfl := Option.some.inj (h.symm.trans heq)
    have := isDigit_toNat hc
    omega
  · obtain rfl := Option.some.inj (h.symm.trans heq)
    omega

theorem ascii_isDigit (h : isDigit c = true) : (ascii c).isDigit = true := by
  obtain ⟨n, hn⟩ := Option.isSome_iff_exists.mp h
  have hlt := digit?_lt hn
  unfold ascii
  rw [hn]
  show (Nat.digitChar n).isDigit = true
  interval_cases n <;> rfl

theorem plain?_of_isKept (h : isKept c = true) : plain? c = some (ascii c) := by
  unfold plain?
  by_cases hdigit : isDigit c = true
  · rcases isDigit_cases hdigit with ⟨hc, heq⟩ | ⟨z, hz, hc, hlo, hhi, heq⟩
    · have hrange := isDigit_toNat hc
      rw [if_pos ⟨by omega, by omega⟩, ascii, heq]
      show some c = some (Nat.digitChar (c.toNat - 48))
      have hchar : c = Char.ofNat c.toNat := (Char.ofNat_toNat c).symm
      generalize c.toNat = n at hrange hchar
      obtain ⟨hlo, hhi⟩ := hrange
      rw [hchar]
      interval_cases n <;> rfl
    · have hzeros : ∀ z ∈ zeros, 127 < z := by decide
      have hfar := hzeros z hz
      have hspace : Text.isSpace c = false := Bool.eq_false_of_not_eq_true fun hs => by
        rw [not_isKept_of_isSpace hs] at h
        cases h
      rw [if_neg (by omega), hspace, if_neg Bool.false_ne_true, ascii, heq]
      rfl
  · have hmark : c = '.' ∨ c = ',' ∨ c = '-' := by
      simp only [isKept, Bool.or_eq_true, decide_eq_true_eq, hdigit] at h
      tauto
    rcases hmark with rfl | rfl | rfl <;> rfl

end Characters

/-! ### The shape of a number -/

section Shape
variable {l : List Char} {negative : Bool} {whole fraction : List Char}

/-- A sign or none, digits, and digits behind a point or none. -/
structure Shaped (point : Char) (l : List Char) (negative : Bool) (whole fraction : List Char) : Prop where
  eq : l = signText negative ++ (whole ++ if fraction = [] then [] else point :: fraction)
  nonempty : whole ≠ []
  areWhole : ∀ c ∈ whole, isDigit c = true
  areFraction : ∀ c ∈ fraction, isDigit c = true

theorem all_takeWhile : ∀ c ∈ l.takeWhile isDigit, isDigit c = true := fun _ hc => List.mem_takeWhile_imp hc

theorem shaped_of_isNumeric (h : isNumeric l = true) : ∃ negative whole fraction, Shaped '.' l negative whole fraction := by
  obtain ⟨negative, body, hl, hbody⟩ : ∃ negative body, l = signText negative ++ body ∧
      (if l.head? = some '-' then l.tail else l) = body := by
    split
    · next hhead =>
      obtain ⟨rest, rfl⟩ := List.head?_eq_some_iff.mp hhead
      exact ⟨true, rest, rfl, rfl⟩
    · exact ⟨false, l, rfl, rfl⟩
  unfold isNumeric at h
  rw [hbody] at h
  obtain ⟨hsome, hrest⟩ := Bool.and_eq_true_iff.mp h
  have hsplit := (List.takeWhile_append_dropWhile (p := isDigit) (l := body)).symm
  split at hrest
  · next hnil =>
    refine ⟨negative, body.takeWhile isDigit, [], ?_, of_decide_eq_true hsome, all_takeWhile, fun c hc => absurd hc List.not_mem_nil⟩
    rw [hnil] at hsplit
    rw [hl, if_pos rfl, ← hsplit]
  · next fraction hcons =>
    obtain ⟨hne, hall⟩ := Bool.and_eq_true_iff.mp hrest
    refine ⟨negative, body.takeWhile isDigit, fraction, ?_, of_decide_eq_true hsome, all_takeWhile, List.all_eq_true.mp hall⟩
    rw [hcons] at hsplit
    rw [hl, if_neg (of_decide_eq_true hne), ← hsplit]
  · cases hrest

theorem isKept_of_isDigit {c : Char} (h : isDigit c = true) : isKept c = true := by simp [isKept, h]

theorem isDigit_ne {c d : Char} (h : isDigit c = true) (hd : isDigit d = false) : c ≠ d := fun heq => by
  rw [heq, hd] at h
  cases h

theorem isDigit_minus : isDigit '-' = false := by decide

theorem isDigit_dot : isDigit '.' = false := by decide

theorem isDigit_comma : isDigit ',' = false := by decide

theorem isDigit_point (n : Notation) : isDigit n.point = false := by cases n <;> decide

theorem isDigit_group (n : Notation) : isDigit n.group = false := by cases n <;> decide

theorem Shaped.digits (h : Shaped '.' l negative whole fraction) : l.filter isDigit = whole ++ fraction := by
  have hsign : (signText negative).filter isDigit = [] := by cases negative <;> decide
  rw [h.eq, List.filter_append, List.filter_append, hsign, List.nil_append, List.filter_eq_self.mpr h.areWhole]
  split
  · next hnil => rw [hnil, List.filter_nil]
  · rw [List.filter_cons_of_neg (by rw [isDigit_dot]; exact Bool.false_ne_true), List.filter_eq_self.mpr h.areFraction]

theorem Shaped.behind (h : Shaped '.' l negative whole fraction) : (l.dropWhile (· ≠ '.')).tail = fraction := by
  have hbefore : ∀ c ∈ signText negative ++ whole, decide (c ≠ '.') = true := fun c hc => by
    rcases List.mem_append.mp hc with hc | hc
    · cases negative with
      | true => exact List.mem_singleton.mp hc ▸ rfl
      | false => cases hc
    · exact decide_eq_true (isDigit_ne (h.areWhole c hc) isDigit_dot)
  rw [h.eq, ← List.append_assoc, List.dropWhile_append_of_pos hbefore]
  split
  · next hnil => rw [hnil]; rfl
  · rw [List.dropWhile_cons_of_neg (by simp)]
    rfl

theorem ascii_eq_self {c : Char} (h : digit? c = none) : ascii c = c := by rw [ascii, h]; rfl

/-- The decimal of a number. -/
theorem Shaped.read (h : Shaped '.' l negative whole fraction) : decimal? (String.ofList l) =
    (some (.finite negative (digitsValue (whole ++ fraction)) (-(fraction.length : ℤ)))).filter (·.Fits) := by
  have hkept : ∀ c ∈ l, isKept c = true := fun c hc => by
    rw [h.eq] at hc
    rcases List.mem_append.mp hc with hc | hc
    · cases negative with
      | true => exact List.mem_singleton.mp hc ▸ (by decide)
      | false => cases hc
    rcases List.mem_append.mp hc with hc | hc
    · exact isKept_of_isDigit (h.areWhole c hc)
    · split at hc
      · cases hc
      · rcases List.mem_cons.mp hc with rfl | hc
        · decide
        · exact isKept_of_isDigit (h.areFraction c hc)
  have hclean := @cleaned?_eq_some ascii l fun c hc => by
    refine ⟨Bool.eq_false_of_not_eq_true fun hs => ?_, ?_, plain?_of_isKept (hkept c hc)⟩
    · have hnot := not_isKept_of_isSpace hs
      rw [hkept c hc] at hnot
      cases hnot
    · rintro rfl
      exact absurd (hkept _ hc) (by decide)
  have hascii (ds : List Char) (hds : ∀ c ∈ ds, isDigit c = true) : ∀ c ∈ ds.map ascii, c.isDigit = true := fun c hc => by
    obtain ⟨d, hd, rfl⟩ := List.mem_map.mp hc
    exact ascii_isDigit (hds d hd)
  have hwhole := hascii whole h.areWhole
  have hfraction := hascii fraction h.areFraction
  have hsome : whole.map ascii ≠ [] := fun hnil => h.nonempty (List.map_eq_nil_iff.mp hnil)
  have hsign : (signText negative).map ascii = signText negative := by cases negative <;> decide
  have hmap : l.map ascii = signText negative ++ (whole.map ascii ++ if fraction = [] then [] else '.' :: fraction.map ascii) := by
    rw [h.eq, List.map_append, List.map_append, hsign]
    split
    · rfl
    · rw [List.map_cons, ascii_eq_self (by decide)]
  have hnumber : number? (whole.map ascii ++ if fraction = [] then [] else '.' :: fraction.map ascii) =
      some (digitsValue (whole ++ fraction), -(fraction.length : ℤ)) := by
    unfold digitsValue
    rw [List.map_append]
    split
    · next hnil =>
      have hread := @number?_whole _ [] hwhole hsome fun c hc => by cases hc
      rw [hread, hnil]
      simp [exponent?]
    · have hread := @number?_pointed _ _ [] hwhole hsome hfraction fun c hc => by cases hc
      rw [List.append_nil] at hread
      rw [hread]
      simp [exponent?]
  obtain ⟨d, ds, hcons⟩ := List.exists_cons_of_ne_nil hsome
  have hd : d.isDigit = true := hwhole d (hcons ▸ List.mem_cons_self)
  have hunsigned : ∀ c ∈ (whole.map ascii ++ if fraction = [] then [] else '.' :: fraction.map ascii).head?, c ≠ '-' ∧ c ≠ '+' :=
    fun c hc => by
      rw [hcons] at hc
      obtain rfl := Option.mem_some.mp hc
      constructor <;> rintro rfl <;> cases hd
  have hspecial : special? negative (whole.map ascii ++ if fraction = [] then [] else '.' :: fraction.map ascii) = none := by
    rw [hcons]
    exact special?_of_isDigit hd
  unfold decimal?
  rw [hclean, Option.bind_some, hmap, numeral?_signText hunsigned, hspecial, hnumber]
  rfl

end Shape

end CestaPlan.Providers
