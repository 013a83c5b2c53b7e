import CestaPlan.Library.Text
import Mathlib.Algebra.Order.Field.Rat
import Mathlib.Data.List.TakeWhile

/-! Decimals as they are written: `decimal.Decimal` of a text, and `str` of a decimal. What is written is read back. -/

namespace CestaPlan.DecimalText
open Text

/-! ### Digits -/

/-- The zeros of the other scripts that have digits of their own. -/
def zeros : List ℕ :=
  [0x660, 0x6f0, 0x7c0, 0x966, 0x9e6, 0xa66, 0xae6, 0xb66, 0xbe6, 0xc66, 0xce6, 0xd66, 0xde6, 0xe50, 0xed0, 0xf20,
   0x1040, 0x1090, 0x17e0, 0x1810, 0x1946, 0x19d0, 0x1a80, 0x1a90, 0x1b50, 0x1bb0, 0x1c40, 0x1c50, 0xa620, 0xa8d0, 0xa900,
   0xa9d0, 0xa9f0, 0xaa50, 0xabf0, 0xff10, 0x104a0, 0x10d30, 0x11066, 0x110f0, 0x11136, 0x111d0, 0x112f0, 0x11450, 0x114d0,
   0x11650, 0x116c0, 0x11730, 0x118e0, 0x11950, 0x11c50, 0x11d50, 0x11da0, 0x11f50, 0x16a60, 0x16ac0, 0x16b50, 0x1d7ce,
   0x1d7d8, 0x1d7e2, 0x1d7ec, 0x1d7f6, 0x1e140, 0x1e2f0, 0x1e4f0, 0x1e950, 0x1fbf0]

/-- `unicodedata.decimal` of a character. -/
def digit? (c : Char) : Option ℕ :=
  if c.isDigit then some (c.toNat - 48)
  else (zeros.find? fun z => z ≤ c.toNat ∧ c.toNat < z + 10).map (c.toNat - ·)

/-- The number that a list of digits writes. -/
def valueOf (digits : List Char) : ℕ := Nat.ofDigitChars 10 digits 0

/-! ### Numerals -/

/-- A decimal: the sign, the coefficient and the exponent, or a special value. -/
inductive Numeral where
  | finite (negative : Bool) (coefficient : ℕ) (exponent : ℤ)
  | infinity (negative : Bool)
  | nan (negative signaling : Bool) (payload : ℕ)
deriving DecidableEq

/-- The value of a finite decimal. -/
def rational (negative : Bool) (coefficient : ℕ) (exponent : ℤ) : ℚ :=
  (if negative then -1 else 1) * coefficient * 10 ^ exponent

/-- The digits and the exponent are what a decimal can hold. -/
def Numeral.Fits : Numeral → Prop
  | .finite _ coefficient exponent =>
    let digits := (Nat.toDigits 10 coefficient).length
    digits ≤ 999999999999999999 ∧ -1999999999999999997 ≤ exponent ∧ exponent + digits - 1 ≤ 999999999999999999
  | .infinity _ => True
  | .nan _ _ payload => (Nat.toDigits 10 payload).length ≤ 999999999999999999

instance (d : Numeral) : Decidable d.Fits :=
  match d with
  | .finite _ _ _ => inferInstanceAs (Decidable (_ ∧ _ ∧ _))
  | .infinity _ => isTrue trivial
  | .nan _ _ _ => inferInstanceAs (Decidable (_ ≤ _))

/-! ### Writing -/

def signText (negative : Bool) : List Char := if negative then ['-'] else []

/-- `'E' + "%+d" % exponent` -/
def exponentText (exponent : ℤ) : List Char := 'E' :: (if exponent < 0 then '-' else '+') :: Nat.toDigits 10 exponent.natAbs

/-- Where the point stands among the digits. -/
def pointPlace (digits : List Char) (exponent : ℤ) : ℤ :=
  if exponent ≤ 0 ∧ -6 < exponent + digits.length then exponent + digits.length else 1

def pointed (digits : List Char) (place : ℤ) : List Char :=
  if place ≤ 0 then '0' :: '.' :: (List.replicate (-place).toNat '0' ++ digits)
  else if digits.length ≤ place then digits ++ List.replicate (place - digits.length).toNat '0'
  else digits.take place.toNat ++ '.' :: digits.drop place.toNat

def Numeral.chars : Numeral → List Char
  | .finite negative coefficient exponent =>
    let digits := Nat.toDigits 10 coefficient
    let place := pointPlace digits exponent
    let shift := exponent + digits.length - place
    signText negative ++ (pointed digits place ++ if shift = 0 then [] else exponentText shift)
  | .infinity negative => signText negative ++ "Infinity".toList
  | .nan negative signaling payload =>
    signText negative ++ ((if signaling then "sNaN".toList else "NaN".toList) ++
      if payload = 0 then [] else Nat.toDigits 10 payload)

/-- `str` of a decimal. -/
def Numeral.text (d : Numeral) : String := String.ofList d.chars

/-! ### Reading -/

/-- A character as the reader takes it: a digit of any script is one, and white space is a blank. -/
def plain? (c : Char) : Option Char :=
  if 0 < c.toNat ∧ c.toNat ≤ 127 then some c
  else if isSpace c then some ' '
  else (digit? c).map Nat.digitChar

/-- The text without blanks around it and without underscores. -/
def cleaned? (s : String) : Option (List Char) := ((trim s.toList).filter (· ≠ '_')).mapM plain?

def natural? (l : List Char) : Option ℕ := if l ≠ [] ∧ l.all (·.isDigit) then some (valueOf l) else none

def integer? : List Char → Option ℤ
  | '-' :: l => (natural? l).map fun n : ℕ => -(n : ℤ)
  | '+' :: l => (natural? l).map fun n : ℕ => (n : ℤ)
  | l => (natural? l).map fun n : ℕ => (n : ℤ)

def exponent? : List Char → Option ℤ
  | [] => some 0
  | c :: l => if c = 'e' ∨ c = 'E' then integer? l else none

/-- Digits with at most one point, and an exponent. -/
def number? (l : List Char) : Option (ℕ × ℤ) :=
  let whole := l.takeWhile (·.isDigit)
  let fraction : List Char × List Char := match l.dropWhile (·.isDigit) with
    | '.' :: rest => (rest.takeWhile (·.isDigit), rest.dropWhile (·.isDigit))
    | rest => ([], rest)
  if whole = [] ∧ fraction.1 = [] then none
  else (exponent? fraction.2).map fun exponent => (valueOf (whole ++ fraction.1), exponent - fraction.1.length)

/-- An infinity or a NaN, whatever the case of its letters. -/
def special? (negative : Bool) (l : List Char) : Option Numeral :=
  match l.map Char.toLower with
  | ['i', 'n', 'f'] | ['i', 'n', 'f', 'i', 'n', 'i', 't', 'y'] => some (.infinity negative)
  | 'n' :: 'a' :: 'n' :: payload => if payload.all (·.isDigit) then some (.nan negative false (valueOf payload)) else none
  | 's' :: 'n' :: 'a' :: 'n' :: payload => if payload.all (·.isDigit) then some (.nan negative true (valueOf payload)) else none
  | _ => none

def signed (l : List Char) : Bool × List Char :=
  match l with
  | '-' :: l => (true, l)
  | '+' :: l => (false, l)
  | l => (false, l)

def numeral? (l : List Char) : Option Numeral :=
  let (negative, l) := signed l
  (special? negative l).or ((number? l).map fun n => .finite negative n.1 n.2)

/-- `Decimal(s)`, or nothing where it raises `InvalidOperation`. -/
def decimal? (s : String) : Option Numeral := (cleaned? s).bind fun l => (numeral? l).filter (·.Fits)

/-! ### What is read fits -/

theorem fits_of_decimal? {s : String} {d : Numeral} (h : decimal? s = some d) : d.Fits := by
  obtain ⟨l, -, hd⟩ := Option.bind_eq_some_iff.mp h
  obtain ⟨-, hfits⟩ := Option.filter_eq_some_iff.mp hd
  exact of_decide_eq_true hfits

/-! ### Texts without blanks -/

/-- A character that the reader takes as it is. -/
def isPlain (c : Char) : Bool := c.isAlphanum || c == '.' || c == '-' || c == '+'

theorem isPlain_of_isDigit {c : Char} (h : c.isDigit = true) : isPlain c = true := by
  simp [isPlain, Char.isAlphanum, h]

theorem isPlain_range {c : Char} (h : isPlain c = true) : 33 ≤ c.toNat ∧ c.toNat ≤ 127 ∧ c ≠ '_' := by
  delta isPlain Char.isAlphanum Char.isAlpha Char.isUpper Char.isLower Char.isDigit at h
  simp only [Bool.or_eq_true, Bool.and_eq_true, decide_eq_true_eq, ge_iff_le, UInt32.le_iff_toNat_le, beq_iff_eq] at h
  have hn : c.toNat = c.val.toNat := rfl
  rcases h with (((((h | h) | h) | rfl) | rfl) | rfl)
  · have h' : 65 ≤ c.toNat ∧ c.toNat ≤ 90 := h
    exact ⟨by omega, by omega, by rintro rfl; exact absurd h' (by decide)⟩
  · have h' : 97 ≤ c.toNat ∧ c.toNat ≤ 122 := h
    exact ⟨by omega, by omega, by rintro rfl; exact absurd h' (by decide)⟩
  · have h' : 48 ≤ c.toNat ∧ c.toNat ≤ 57 := h
    exact ⟨by omega, by omega, by rintro rfl; exact absurd h' (by decide)⟩
  all_goals decide

theorem isSpace_of_isPlain {c : Char} (h : isPlain c = true) : isSpace c = false := by
  obtain ⟨hlo, hhi, -⟩ := isPlain_range h
  simp only [isSpace, Bool.or_eq_false_iff, Bool.and_eq_false_iff, decide_eq_false_iff_not, beq_eq_false_iff_ne]
  omega

theorem trim_eq_self {l : List Char} (h : ∀ c ∈ l, isSpace c = false) : trim l = l := by
  have hdrop : ∀ l : List Char, (∀ c ∈ l, isSpace c = false) → l.dropWhile isSpace = l := fun l hl => by
    cases l with
    | nil => rfl
    | cons c l => exact List.dropWhile_cons_of_neg (by rw [hl c List.mem_cons_self]; exact Bool.false_ne_true)
  unfold trim
  rw [hdrop l h, List.rdropWhile, hdrop l.reverse fun c hc => h c (List.mem_reverse.mp hc), List.reverse_reverse]

theorem cleaned?_eq_some {f : Char → Char} {l : List Char} (h : ∀ c ∈ l, isSpace c = false ∧ c ≠ '_' ∧ plain? c = some (f c)) :
    cleaned? (String.ofList l) = some (l.map f) := by
  have hfilter : l.filter (· ≠ '_') = l := List.filter_eq_self.mpr fun c hc => decide_eq_true (h c hc).2.1
  unfold cleaned?
  rw [String.toList_ofList, trim_eq_self fun c hc => (h c hc).1, hfilter]
  clear hfilter
  induction l with
  | nil => rfl
  | cons c l ih =>
    rw [List.mapM_cons, (h c List.mem_cons_self).2.2, ih fun d hd => h d (List.mem_cons_of_mem _ hd)]
    rfl

theorem cleaned?_of_isPlain {l : List Char} (h : ∀ c ∈ l, isPlain c = true) : cleaned? (String.ofList l) = some l := by
  have hread := @cleaned?_eq_some id l fun c hc => by
    obtain ⟨hlo, hhi, hne⟩ := isPlain_range (h c hc)
    exact ⟨isSpace_of_isPlain (h c hc), hne, if_pos ⟨by omega, hhi⟩⟩
  rwa [List.map_id] at hread

/-! ### The parts of a numeral -/

section Parts
variable {whole fraction rest : List Char}

theorem takeWhile_digits (hwhole : ∀ c ∈ whole, c.isDigit = true) (hrest : ∀ c ∈ rest.head?, c.isDigit = false) :
    (whole ++ rest).takeWhile (·.isDigit) = whole ∧ (whole ++ rest).dropWhile (·.isDigit) = rest := by
  rw [List.takeWhile_append_of_pos hwhole, List.dropWhile_append_of_pos hwhole]
  cases rest with
  | nil => exact ⟨List.append_nil _, rfl⟩
  | cons c rest =>
    have hc : ¬ c.isDigit = true := by rw [hrest c rfl]; exact Bool.false_ne_true
    rw [List.takeWhile_cons_of_neg hc, List.dropWhile_cons_of_neg hc]
    exact ⟨List.append_nil _, rfl⟩

theorem number?_whole (hwhole : ∀ c ∈ whole, c.isDigit = true) (hsome : whole ≠ [])
    (hrest : ∀ c ∈ rest.head?, c.isDigit = false ∧ c ≠ '.') :
    number? (whole ++ rest) = (exponent? rest).map fun exponent => (valueOf whole, exponent) := by
  obtain ⟨htake, hdrop⟩ := takeWhile_digits hwhole fun c hc => (hrest c hc).1
  unfold number?
  rw [htake, hdrop]
  split
  next rest => exact absurd rfl (hrest '.' rfl).2
  next rest _ =>
    rw [if_neg fun h : whole = [] ∧ _ => hsome h.1]
    simp only [List.append_nil, List.length_nil, Nat.cast_zero, sub_zero]

theorem number?_pointed (hwhole : ∀ c ∈ whole, c.isDigit = true) (hsome : whole ≠ [])
    (hfraction : ∀ c ∈ fraction, c.isDigit = true) (hrest : ∀ c ∈ rest.head?, c.isDigit = false) :
    number? (whole ++ '.' :: (fraction ++ rest)) =
      (exponent? rest).map fun exponent : ℤ => (valueOf (whole ++ fraction), exponent - fraction.length) := by
  obtain ⟨htake, hdrop⟩ := @takeWhile_digits whole ('.' :: (fraction ++ rest)) hwhole fun c hc => by
    obtain rfl := Option.mem_some.mp hc
    rfl
  obtain ⟨htake', hdrop'⟩ := takeWhile_digits hfraction hrest
  unfold number?
  rw [htake, hdrop]
  simp only [htake', hdrop', if_neg fun h : whole = [] ∧ fraction = [] => hsome h.1]

end Parts

theorem isDigit_toDigits {n : ℕ} : ∀ c ∈ Nat.toDigits 10 n, c.isDigit = true := fun _ =>
  Nat.isDigit_of_mem_toDigits (by decide) (by decide)

theorem valueOf_toDigits (n : ℕ) : valueOf (Nat.toDigits 10 n) = n := Nat.ofDigitChars_ten_toDigits

theorem natural?_toDigits (n : ℕ) : natural? (Nat.toDigits 10 n) = some n := by
  unfold natural?
  rw [if_pos ⟨Nat.toDigits_ne_nil, List.all_eq_true.mpr isDigit_toDigits⟩, valueOf_toDigits]

theorem exponent?_exponentText (exponent : ℤ) : exponent? (exponentText exponent) = some exponent := by
  show integer? ((if exponent < 0 then '-' else '+') :: Nat.toDigits 10 exponent.natAbs) = some exponent
  split
  · next hneg =>
    show ((natural? _).map fun n : ℕ => -(n : ℤ)) = _
    rw [natural?_toDigits, Option.map_some, Int.ofNat_natAbs_of_nonpos hneg.le, neg_neg]
  · next hneg =>
    show ((natural? _).map fun n : ℕ => (n : ℤ)) = _
    rw [natural?_toDigits, Option.map_some, Int.natAbs_of_nonneg (not_lt.mp hneg)]

theorem number?_pointed_toDigits (coefficient : ℕ) (exponent : ℤ) :
    number? (pointed (Nat.toDigits 10 coefficient) (pointPlace (Nat.toDigits 10 coefficient) exponent) ++
      if exponent + (Nat.toDigits 10 coefficient).length - pointPlace (Nat.toDigits 10 coefficient) exponent = 0 then []
      else exponentText (exponent + (Nat.toDigits 10 coefficient).length - pointPlace (Nat.toDigits 10 coefficient) exponent)) =
      some (coefficient, exponent) := by
  have hdigits := @isDigit_toDigits coefficient
  have hvalue := valueOf_toDigits coefficient
  have hpos : 0 < (Nat.toDigits 10 coefficient).length := Nat.length_toDigits_pos
  generalize Nat.toDigits 10 coefficient = digits at hdigits hvalue hpos ⊢
  have hplace : (exponent ≤ 0 ∧ pointPlace digits exponent = exponent + digits.length) ∨ pointPlace digits exponent = 1 := by
    unfold pointPlace
    split
    · next h => exact .inl ⟨h.1, rfl⟩
    · exact .inr rfl
  generalize pointPlace digits exponent = place at hplace ⊢
  generalize hshift : exponent + digits.length - place = shift
  have htail : ∀ c ∈ (if shift = 0 then [] else exponentText shift).head?, c.isDigit = false ∧ c ≠ '.' := by
    split
    · intro c hc
      cases hc
    · intro c hc
      obtain rfl := Option.mem_some.mp hc
      decide
  have hexponent : exponent? (if shift = 0 then [] else exponentText shift) = some shift := by
    split
    · next h =>
      rw [h]
      rfl
    · exact exponent?_exponentText shift
  unfold pointed
  split
  · -- The point stands before the digits, maybe with zeros between them.
    next hle =>
    have hzeros : ∀ c ∈ List.replicate (-place).toNat '0' ++ digits, c.isDigit = true := fun c hc => by
      rcases List.mem_append.mp hc with hc | hc
      · rw [List.eq_of_mem_replicate hc]
        rfl
      · exact hdigits c hc
    have hread := @number?_pointed ['0'] _ _ (List.all_eq_true.mp (by decide)) (by decide) hzeros fun c hc => (htail c hc).1
    have hsame : valueOf (['0'] ++ (List.replicate (-place).toNat '0' ++ digits)) = coefficient := by
      unfold valueOf at hvalue ⊢
      rw [Nat.ofDigitChars_append, Nat.ofDigitChars_append, Nat.ofDigitChars_replicate_zero]
      exact (congrArg _ (Nat.mul_zero _)).trans hvalue
    rw [hexponent, Option.map_some, hsame, List.length_append, List.length_replicate] at hread
    refine hread.trans (congrArg (fun e => some (coefficient, e)) ?_)
    push_cast
    omega
  · split
    · next hlt hle =>
      have hnone : (place - digits.length).toNat = 0 := by omega
      rw [hnone, List.replicate_zero, List.append_nil, number?_whole hdigits (List.ne_nil_of_length_pos hpos) htail, hexponent, hvalue]
      refine congrArg (fun e => some (coefficient, e)) ?_
      omega
    · next hlt hlt' =>
      have hsome : digits.take place.toNat ≠ [] := by
        refine List.ne_nil_of_length_pos ?_
        rw [List.length_take]
        omega
      rw [List.append_assoc, List.cons_append, number?_pointed (fun c hc => hdigits c (List.mem_of_mem_take hc)) hsome
        (fun c hc => hdigits c (List.mem_of_mem_drop hc)) fun c hc => (htail c hc).1, hexponent, List.take_append_drop, hvalue,
        List.length_drop]
      refine congrArg (fun e => some (coefficient, e)) ?_
      omega

/-! ### What is written is read back -/

theorem signed_signText {negative : Bool} {body : List Char} (h : ∀ c ∈ body.head?, c ≠ '-' ∧ c ≠ '+') :
    signed (signText negative ++ body) = (negative, body) := by
  cases negative with
  | true => rfl
  | false =>
    cases body with
    | nil => rfl
    | cons c body =>
      obtain ⟨hminus, hplus⟩ := h c rfl
      show signed (c :: body) = _
      unfold signed
      split
      · next heq => exact absurd (List.cons.inj heq).1 hminus
      · next heq => exact absurd (List.cons.inj heq).1 hplus
      · rfl

theorem toLower_of_isDigit {c : Char} (h : c.isDigit = true) : c.toLower = c := by
  rcases toLower_cases c with ⟨hlo, hhi, -⟩ | hsame
  · have hdigit : 48 ≤ c.toNat ∧ c.toNat ≤ 57 := by
      simp only [Char.isDigit, Bool.and_eq_true, decide_eq_true_eq, ge_iff_le, UInt32.le_iff_toNat_le] at h
      exact h
    omega
  · exact hsame.2

theorem special?_of_isDigit {negative : Bool} {c : Char} {l : List Char} (h : c.isDigit = true) : special? negative (c :: l) = none := by
  have hhead (d : Char) (hd : d.isDigit = false) : c.toLower ≠ d := fun heq => by
    rw [toLower_of_isDigit h] at heq
    rw [heq, hd] at h
    cases h
  unfold special?
  rw [List.map_cons]
  split
  · next heq => exact absurd (List.cons.inj heq).1 (hhead 'i' rfl)
  · next heq => exact absurd (List.cons.inj heq).1 (hhead 'i' rfl)
  · next heq => exact absurd (List.cons.inj heq).1 (hhead 'n' rfl)
  · next heq => exact absurd (List.cons.inj heq).1 (hhead 's' rfl)
  · rfl

theorem payload_read (payload : ℕ) : ∃ digits : List Char, (if payload = 0 then [] else Nat.toDigits 10 payload) = digits ∧
    digits.map Char.toLower = digits ∧ digits.all (·.isDigit) = true ∧ valueOf digits = payload := by
  split
  · next h => exact ⟨[], rfl, rfl, rfl, h.symm⟩
  · refine ⟨_, rfl, ?_, List.all_eq_true.mpr isDigit_toDigits, valueOf_toDigits payload⟩
    exact (List.map_congr_left fun c hc => toLower_of_isDigit (isDigit_toDigits c hc)).trans (List.map_id _)

theorem pointed_head {digits : List Char} {place : ℤ} (hdigits : ∀ c ∈ digits, c.isDigit = true) (hsome : digits ≠ []) :
    ∃ c l, pointed digits place = c :: l ∧ c.isDigit = true := by
  obtain ⟨d, ds, rfl⟩ := List.exists_cons_of_ne_nil hsome
  have hd := hdigits d List.mem_cons_self
  unfold pointed
  split
  · exact ⟨_, _, rfl, rfl⟩
  · split
    · exact ⟨d, _, rfl, hd⟩
    · next h _ =>
      obtain ⟨n, hn⟩ : ∃ n, place.toNat = n + 1 := Nat.exists_eq_succ_of_ne_zero (by omega)
      rw [hn]
      exact ⟨d, _, rfl, hd⟩

theorem numeral?_signText {negative : Bool} {body : List Char} (h : ∀ c ∈ body.head?, c ≠ '-' ∧ c ≠ '+') :
    numeral? (signText negative ++ body) =
      (special? negative body).or ((number? body).map fun n => .finite negative n.1 n.2) := by
  unfold numeral?
  rw [signed_signText h]

theorem numeral?_chars (d : Numeral) : numeral? d.chars = some d := by
  cases d with
  | finite negative coefficient exponent =>
    obtain ⟨c, l, hhead, hc⟩ := @pointed_head (Nat.toDigits 10 coefficient) (pointPlace (Nat.toDigits 10 coefficient) exponent)
      isDigit_toDigits Nat.toDigits_ne_nil
    have hread := number?_pointed_toDigits coefficient exponent
    obtain ⟨rest, hchars, hread⟩ : ∃ rest, (Numeral.finite negative coefficient exponent).chars = signText negative ++ (c :: rest) ∧
        number? (c :: rest) = some (coefficient, exponent) := by
      rw [hhead] at hread
      exact ⟨_, congrArg (fun head => signText negative ++ (head ++ _)) hhead, hread⟩
    have hunsigned : ∀ d ∈ (c :: rest).head?, d ≠ '-' ∧ d ≠ '+' := fun d hd => by
      obtain rfl := Option.mem_some.mp hd
      constructor <;> rintro rfl <;> cases hc
    rw [hchars, numeral?_signText hunsigned, special?_of_isDigit hc, Option.none_or, hread]
    rfl
  | infinity negative => cases negative <;> rfl
  | nan negative signaling payload =>
    obtain ⟨digits, hdigits, hlower, hall, hvalue⟩ := payload_read payload
    have hspecial : special? negative ((if signaling then "sNaN".toList else "NaN".toList) ++ digits) =
        some (.nan negative signaling payload) := by
      cases signaling with
      | true =>
        show special? negative ('s' :: 'N' :: 'a' :: 'N' :: digits) = _
        unfold special?
        simp only [List.map_cons, hlower]
        show (if digits.all (·.isDigit) then _ else _) = _
        rw [if_pos hall, hvalue]
      | false =>
        show special? negative ('N' :: 'a' :: 'N' :: digits) = _
        unfold special?
        simp only [List.map_cons, hlower]
        show (if digits.all (·.isDigit) then _ else _) = _
        rw [if_pos hall, hvalue]
    have hchars : (Numeral.nan negative signaling payload).chars =
        signText negative ++ ((if signaling then "sNaN".toList else "NaN".toList) ++ digits) := by
      rw [← hdigits]
      rfl
    rw [hchars, numeral?_signText fun d hd => by cases signaling <;> obtain rfl := Option.mem_some.mp hd <;> decide, hspecial,
      Option.some_or]

theorem isPlain_signText {negative : Bool} : ∀ c ∈ signText negative, isPlain c = true := by
  cases negative <;> exact List.all_eq_true.mp (by decide)

theorem isPlain_chars (d : Numeral) : ∀ c ∈ d.chars, isPlain c = true := by
  have hdigits (n : ℕ) : ∀ c ∈ Nat.toDigits 10 n, isPlain c = true := fun c hc => isPlain_of_isDigit (isDigit_toDigits c hc)
  have hzeros (n : ℕ) : ∀ c ∈ List.replicate n '0', isPlain c = true := fun c hc => by
    rw [List.eq_of_mem_replicate hc]
    rfl
  intro c hc
  cases d with
  | finite negative coefficient exponent =>
    rcases List.mem_append.mp hc with hc | hc
    · exact isPlain_signText c hc
    rcases List.mem_append.mp hc with hc | hc
    · unfold pointed at hc
      split at hc
      · rcases List.mem_cons.mp hc with rfl | hc
        · rfl
        rcases List.mem_cons.mp hc with rfl | hc
        · rfl
        exact (List.mem_append.mp hc).elim (hzeros _ c) (hdigits _ c)
      · split at hc
        · exact (List.mem_append.mp hc).elim (hdigits _ c) (hzeros _ c)
        · rcases List.mem_append.mp hc with hc | hc
          · exact hdigits _ c (List.mem_of_mem_take hc)
          rcases List.mem_cons.mp hc with rfl | hc
          · rfl
          exact hdigits _ c (List.mem_of_mem_drop hc)
    · split at hc
      · cases hc
      · rcases List.mem_cons.mp hc with rfl | hc
        · rfl
        rcases List.mem_cons.mp hc with rfl | hc
        · split <;> rfl
        exact hdigits _ c hc
  | infinity negative =>
    rcases List.mem_append.mp hc with hc | hc
    · exact isPlain_signText c hc
    · have hword : ∀ c ∈ "Infinity".toList, isPlain c = true := List.all_eq_true.mp (by decide)
      exact hword c hc
  | nan negative signaling payload =>
    rcases List.mem_append.mp hc with hc | hc
    · exact isPlain_signText c hc
    rcases List.mem_append.mp hc with hc | hc
    · have hword : (∀ c ∈ "sNaN".toList, isPlain c = true) ∧ ∀ c ∈ "NaN".toList, isPlain c = true :=
        ⟨List.all_eq_true.mp (by decide), List.all_eq_true.mp (by decide)⟩
      split at hc
      · exact hword.1 c hc
      · exact hword.2 c hc
    · split at hc
      · cases hc
      · exact hdigits _ c hc

theorem decimal?_text {d : Numeral} (h : d.Fits) : decimal? d.text = some d := by
  unfold decimal? Numeral.text
  rw [cleaned?_of_isPlain (isPlain_chars d), Option.bind_some, numeral?_chars, Option.filter_some, if_pos (decide_eq_true h)]

end CestaPlan.DecimalText
