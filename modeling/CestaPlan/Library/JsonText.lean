import CestaPlan.Library.Grouping
import CestaPlan.Library.Json
import Mathlib.Data.String.Basic

/-! A JSON text says what its value is, but for the order of the entries of objects: the text of a value ends by itself. -/

namespace CestaPlan.Json

/-! ### Strings -/

theorem eq_of_digits {b k n m : ℕ} (hn : n < b ^ k) (hm : m < b ^ k) (h : ∀ i < k, n / b ^ i % b = m / b ^ i % b) : n = m := by
  induction k generalizing n m with
  | zero => rw [Nat.lt_one_iff.mp hn, Nat.lt_one_iff.mp hm]
  | succ k ih =>
    have hdiv : n / b = m / b := by
      refine ih (Nat.div_lt_of_lt_mul (pow_succ' b k ▸ hn)) (Nat.div_lt_of_lt_mul (pow_succ' b k ▸ hm)) fun i hi => ?_
      rw [Nat.div_div_eq_div_mul, Nat.div_div_eq_div_mul, ← pow_succ']
      exact h (i + 1) (Nat.succ_lt_succ hi)
    have hmod : n % b = m % b := by simpa using h 0 k.succ_pos
    rw [← Nat.div_add_mod n b, hdiv, hmod, Nat.div_add_mod]

theorem hex4_injective {n m : ℕ} (hn : n < 0x10000) (hm : m < 0x10000) (h : hex4 n = hex4 m) : n = m := by
  have hdigit : ∀ a < 16, ∀ b < 16, Nat.digitChar a = Nat.digitChar b → a = b := by decide
  simp only [hex4, List.map_cons, List.map_nil, List.cons.injEq, and_true] at h
  obtain ⟨h1, h2, h3, h4⟩ := h
  have h1 := hdigit _ (Nat.mod_lt _ (by decide)) _ (Nat.mod_lt _ (by decide)) h1
  have h2 := hdigit _ (Nat.mod_lt _ (by decide)) _ (Nat.mod_lt _ (by decide)) h2
  have h3 := hdigit _ (Nat.mod_lt _ (by decide)) _ (Nat.mod_lt _ (by decide)) h3
  have h4 := hdigit _ (Nat.mod_lt _ (by decide)) _ (Nat.mod_lt _ (by decide)) h4
  omega

theorem length_hex4 (n : ℕ) : (hex4 n).length = 4 := rfl

/-- The two halves of the surrogate pair of a character. -/
def highHalf (n : ℕ) : ℕ := 0xd800 + (n - 0x10000) / 0x400

def lowHalf (n : ℕ) : ℕ := 0xdc00 + (n - 0x10000) % 0x400

/-- How a character is written. -/
inductive Escape (c : Char) : List Char → Prop
  | plain : c ≠ '\\' → c ≠ '"' → Escape c [c]
  | short (letter : Char) : (c.toNat, letter) ∈ shortEscapes → Escape c ['\\', letter]
  | unicode : c.toNat < 0x10000 → Escape c (unicodeEscape c.toNat)
  | pair : 0x10000 ≤ c.toNat → Escape c (unicodeEscape (highHalf c.toNat) ++ unicodeEscape (lowHalf c.toNat))

theorem escape_escaped (c : Char) : Escape c (escaped c) := by
  unfold escaped escape?
  cases hshort : shortEscapes.lookup c.toNat with
  | some letter =>
    obtain ⟨before, after, heq, -⟩ := List.lookup_eq_some_iff.mp hshort
    exact .short letter (heq ▸ List.mem_append_right _ List.mem_cons_self)
  | none =>
    have hknown : ∀ n ∈ shortEscapes.map Prod.fst, shortEscapes.lookup n ≠ none := by decide
    have hne : ∀ n ∈ shortEscapes.map Prod.fst, c.toNat ≠ n := fun n hn heq => hknown n hn (heq ▸ hshort)
    dsimp only
    split
    · exact .unicode (by omega)
    · split
      · split
        · next h => exact .unicode h
        · exact .pair (by omega)
      · refine .plain ?_ ?_
        · rintro rfl
          exact hne 0x5c (by decide) rfl
        · rintro rfl
          exact hne 0x22 (by decide) rfl

theorem toNat_range (c : Char) : c.toNat < 0xd800 ∨ 0xdfff < c.toNat ∧ c.toNat < 0x110000 := c.valid

theorem Escape.head {c : Char} {a : List Char} (h : Escape c a) : ∃ x rest, a = x :: rest ∧ x ≠ '"' := by
  cases h with
  | plain _ hc => exact ⟨c, [], rfl, hc⟩
  | short | unicode | pair => exact ⟨'\\', _, rfl, by decide⟩

/-- The text of a character ends by itself. -/
theorem Escape.unique {c d : Char} {a b r r' : List Char} (hc : Escape c a) (hd : Escape d b) (h : a ++ r = b ++ r') :
    c = d ∧ r = r' := by
  have hletter : ∀ e ∈ shortEscapes, ∀ e' ∈ shortEscapes, e.2 = e'.2 → e.1 = e'.1 := by decide
  have hu : ∀ e ∈ shortEscapes, e.2 ≠ 'u' := by decide
  have hhex {n m : ℕ} {r r' : List Char} (hn : n < 0x10000) (hm : m < 0x10000) (h : hex4 n ++ r = hex4 m ++ r') :
      n = m ∧ r = r' := by
    obtain ⟨hhex, hrest⟩ := List.append_inj h rfl
    exact ⟨hex4_injective hn hm hhex, hrest⟩
  have hhigh (e : Char) (he : 0x10000 ≤ e.toNat) : 0xd800 ≤ highHalf e.toNat ∧ highHalf e.toNat ≤ 0xdbff ∧
      0xdc00 ≤ lowHalf e.toNat ∧ lowHalf e.toNat ≤ 0xdfff := by
    have := toNat_range e
    unfold highHalf lowHalf
    omega
  cases hc with
  | plain hc hc' => cases hd with
    | plain => exact List.cons.inj h
    | short | unicode | pair => exact absurd (List.cons.inj h).1 hc
  | short letter hc => cases hd with
    | plain hd => exact absurd (List.cons.inj h).1.symm hd
    | short letter' hd =>
      obtain ⟨heq, hrest⟩ := List.cons.inj (List.cons.inj h).2
      exact ⟨Char.toNat_inj.mp (hletter _ hc _ hd heq), hrest⟩
    | unicode | pair => exact absurd (List.cons.inj (List.cons.inj h).2).1 (hu _ hc)
  | unicode hc => cases hd with
    | plain hd => exact absurd (List.cons.inj h).1.symm hd
    | short letter hd => exact absurd (List.cons.inj (List.cons.inj h).2).1.symm (hu _ hd)
    | unicode hd =>
      obtain ⟨heq, hrest⟩ := hhex hc hd (List.cons.inj (List.cons.inj h).2).2
      exact ⟨Char.toNat_inj.mp heq, hrest⟩
    | pair hd =>
      -- No character is half of a pair.
      have hd' := hhigh d hd
      simp only [unicodeEscape, List.cons_append, List.append_assoc, List.cons.injEq, true_and] at h
      have heq := (hhex hc (by omega) h).1
      have := toNat_range c
      omega
  | pair hc =>
    have hc' := hhigh c hc
    cases hd with
    | plain hd => exact absurd (List.cons.inj h).1.symm hd
    | short letter hd => exact absurd (List.cons.inj (List.cons.inj h).2).1.symm (hu _ hd)
    | unicode hd =>
      simp only [unicodeEscape, List.cons_append, List.append_assoc, List.cons.injEq, true_and] at h
      have heq := (hhex (by omega) hd h).1
      have := toNat_range d
      omega
    | pair hd =>
      have hd' := hhigh d hd
      simp only [unicodeEscape, List.cons_append, List.append_assoc, List.cons.injEq, true_and] at h
      obtain ⟨heq, hrest⟩ := hhex (by omega) (by omega) h
      obtain ⟨heq', hrest⟩ := hhex (by omega) (by omega) (List.cons.inj (List.cons.inj hrest).2).2
      refine ⟨Char.toNat_inj.mp ?_, hrest⟩
      unfold highHalf at heq
      unfold lowHalf at heq'
      omega

theorem quoted_unique {s t r r' : List Char} (h : s.flatMap escaped ++ '"' :: r = t.flatMap escaped ++ '"' :: r') :
    s = t ∧ r = r' := by
  have hnot (c : Char) (a b : List Char) : escaped c ++ a ≠ '"' :: b := by
    obtain ⟨x, rest, heq, hx⟩ := (escape_escaped c).head
    rw [heq]
    exact fun h => hx (List.cons.inj h).1
  induction s generalizing t with
  | nil =>
    cases t with
    | nil => exact ⟨rfl, (List.cons.inj h).2⟩
    | cons d t =>
      rw [List.flatMap_cons, List.append_assoc] at h
      exact absurd h.symm (hnot _ _ _)
  | cons c s ih =>
    cases t with
    | nil =>
      rw [List.flatMap_cons, List.append_assoc] at h
      exact absurd h (hnot _ _ _)
    | cons d t =>
      rw [List.flatMap_cons, List.flatMap_cons, List.append_assoc, List.append_assoc] at h
      obtain ⟨rfl, hrest⟩ := (escape_escaped c).unique (escape_escaped d) h
      obtain ⟨rfl, hr⟩ := ih hrest
      exact ⟨rfl, hr⟩

/-! ### Numbers -/

/-- No digit comes next. -/
def Stops (r : List Char) : Prop := ∀ c ∈ r.head?, c.isDigit = false

theorem takeWhile_digits {ds r : List Char} (hds : ∀ c ∈ ds, c.isDigit = true) (hr : Stops r) :
    (ds ++ r).takeWhile Char.isDigit = ds := by
  rw [List.takeWhile_append_of_pos hds]
  cases r with
  | nil => simp
  | cons c r => simp [hr c rfl]

theorem digits_unique {n m : ℕ} {r r' : List Char} (hr : Stops r) (hr' : Stops r')
    (h : Nat.toDigits 10 n ++ r = Nat.toDigits 10 m ++ r') : n = m ∧ r = r' := by
  have hdigits (k : ℕ) : ∀ c ∈ Nat.toDigits 10 k, c.isDigit = true := fun c hc =>
    Nat.isDigit_of_mem_toDigits (by decide) (by decide) hc
  have heq : Nat.toDigits 10 n = Nat.toDigits 10 m := by
    rw [← takeWhile_digits (hdigits n) hr, h, takeWhile_digits (hdigits m) hr']
  refine ⟨?_, List.append_cancel_left (heq ▸ h)⟩
  rw [← @Nat.ofDigitChars_ten_toDigits n, heq, Nat.ofDigitChars_ten_toDigits]

theorem toList_toString (n : ℤ) : (toString n).toList =
    (if n < 0 then ['-'] else []) ++ Nat.toDigits 10 n.natAbs := by
  cases n with
  | ofNat n => simp [toString, Int.repr, Nat.toList_repr]
  | negSucc n => simp [toString, Int.repr, Nat.toList_repr]

theorem head_toDigits (n : ℕ) : ∃ d ds, Nat.toDigits 10 n = d :: ds ∧ d.isDigit = true := by
  obtain ⟨d, ds, heq⟩ := List.exists_cons_of_ne_nil (@Nat.toDigits_ne_nil n 10)
  exact ⟨d, ds, heq, Nat.isDigit_of_mem_toDigits (by decide) (by decide) (heq ▸ List.mem_cons_self)⟩

theorem toString_unique {n m : ℤ} {r r' : List Char} (hr : Stops r) (hr' : Stops r')
    (h : (toString n).toList ++ r = (toString m).toList ++ r') : n = m ∧ r = r' := by
  have hminus (k : ℕ) (a b : List Char) : Nat.toDigits 10 k ++ a ≠ '-' :: b := by
    obtain ⟨d, ds, heq, hd⟩ := head_toDigits k
    rw [heq]
    rintro ⟨⟩
    cases hd
  rw [toList_toString, toList_toString] at h
  split at h <;> split at h
  · obtain ⟨habs, hrest⟩ := digits_unique hr hr' (List.cons.inj h).2
    exact ⟨by omega, hrest⟩
  · exact absurd h.symm (hminus _ _ _)
  · exact absurd h (hminus _ _ _)
  · obtain ⟨habs, hrest⟩ := digits_unique hr hr' h
    exact ⟨by omega, hrest⟩

/-! ### Values -/

/-- Induction over a value: its items, and the values of its entries, come before it. -/
@[elab_as_elim]
theorem value_induction {σ : Type} {motive : Json σ → Prop} (null : motive .null) (bool : ∀ b, motive (.bool b))
    (int : ∀ n, motive (.int n)) (float : ∀ repr, motive (.float repr)) (str : ∀ s, motive (.str s))
    (other : ∀ text, motive (.other text)) (arr : ∀ items, (∀ v ∈ items, motive v) → motive (.arr items))
    (obj : ∀ entries, (∀ e ∈ entries, motive e.2) → motive (.obj entries)) (v : Json σ) : motive v :=
  @Json.rec σ motive (fun items => ∀ v ∈ items, motive v) (fun entries => ∀ e ∈ entries, motive e.2) (fun e => motive e.2)
    null bool int float str other arr obj (fun _ hv => nomatch hv)
    (fun _ _ hhead htail => List.forall_mem_cons.mpr ⟨hhead, htail⟩) (fun _ he => nomatch he)
    (fun _ _ hhead htail => List.forall_mem_cons.mpr ⟨hhead, htail⟩) (fun _ _ hv => hv) v

mutual
/-- The value with its entries in order, as its text shows it. -/
def sorted : Json String → Json String
  | .other text => .str text
  | .arr items => .arr (sortedItems items)
  | .obj entries => .obj ((sortedEntries entries).insertionSort fun a b => a.1 ≤ b.1)
  | v => v

def sortedItems : List (Json String) → List (Json String)
  | [] => []
  | v :: items => sorted v :: sortedItems items

def sortedEntries : List (String × Json String) → List (String × Json String)
  | [] => []
  | (k, v) :: entries => (k, sorted v) :: sortedEntries entries
end

theorem sortedItems_eq (items : List (Json String)) : sortedItems items = items.map sorted := by
  induction items with
  | nil => rfl
  | cons v items ih => rw [sortedItems, ih, List.map_cons]

theorem sortedEntries_eq (entries : List (String × Json String)) :
    sortedEntries entries = entries.map fun e => (e.1, sorted e.2) := by
  induction entries with
  | nil => rfl
  | cons e entries ih => rw [sortedEntries, ih, List.map_cons]

mutual
/-- The text of a value, its entries as they come. -/
def print : Json String → List Char
  | .null => "null".toList
  | .bool b => (if b then "true" else "false").toList
  | .int n => (toString n).toList
  | .float repr => repr.toList
  | .str s | .other s => plain.quote s
  | .arr items => '[' :: printItems [] items
  | .obj entries => '\x7b' :: printEntries [] entries

/-- What follows the opening bracket or an item. A separator comes first, unless there is no item before. -/
def printItems (separator : List Char) : List (Json String) → List Char
  | [] => [']']
  | v :: items => separator ++ (print v ++ printItems [',', ' '] items)

def printEntries (separator : List Char) : List (String × Json String) → List Char
  | [] => ['\x7d']
  | (k, v) :: entries => separator ++ (plain.quote k ++ ':' :: ' ' :: (print v ++ printEntries [',', ' '] entries))
end

theorem printItems_eq (items : List (Json String)) : printItems [] items = [',', ' '].intercalate (items.map print) ++ [']'] := by
  have hrest (items : List (Json String)) (v : Json String) :
      print v ++ printItems [',', ' '] items = [',', ' '].intercalate ((v :: items).map print) ++ [']'] := by
    induction items generalizing v with
    | nil => rw [printItems, List.map_singleton, List.intercalate_singleton]
    | cons w items ih =>
      rw [printItems, ih]
      simp only [List.map_cons, List.intercalate_cons_cons, List.append_assoc]
  cases items with
  | nil => rfl
  | cons v items => exact hrest items v

theorem printEntries_eq (entries : List (String × Json String)) : printEntries [] entries =
    [',', ' '].intercalate (entries.map fun e => plain.quote e.1 ++ ": ".toList ++ print e.2) ++ ['\x7d'] := by
  have hrest (entries : List (String × Json String)) (e : String × Json String) :
      (plain.quote e.1 ++ ": ".toList ++ print e.2) ++ printEntries [',', ' '] entries =
        [',', ' '].intercalate ((e :: entries).map fun e => plain.quote e.1 ++ ": ".toList ++ print e.2) ++ ['\x7d'] := by
    induction entries generalizing e with
    | nil => rw [printEntries, List.map_singleton, List.intercalate_singleton]
    | cons f entries ih =>
      have hstep : printEntries [',', ' '] (f :: entries) =
          [',', ' '] ++ ((plain.quote f.1 ++ ": ".toList ++ print f.2) ++ printEntries [',', ' '] entries) := by
        rw [printEntries, List.append_assoc, List.append_assoc]
        rfl
      rw [hstep, ih]
      simp only [List.map_cons, List.intercalate_cons_cons, List.append_assoc]
  cases entries with
  | nil => rfl
  | cons e entries =>
    rw [← hrest, printEntries, List.nil_append, List.append_assoc, List.append_assoc]
    rfl

theorem dumpsItems_eq {α : Type} (form : Form String α) (items : List (Json String)) :
    dumpsItems form items = items.map (dumps form) := by
  induction items with
  | nil => rfl
  | cons v items ih => rw [dumpsItems, ih, List.map_cons]

theorem dumpsEntries_eq {α : Type} (form : Form String α) (entries : List (String × Json String)) :
    dumpsEntries form entries = entries.map fun e => (e.1, dumps form e.2) := by
  induction entries with
  | nil => rfl
  | cons e entries ih => rw [dumpsEntries, ih, List.map_cons]

theorem dumps_plain (v : Json String) : dumps plain v = print (sorted v) := by
  induction v using value_induction with
  | null | int | float | str | other => rfl
  | bool b => cases b <;> rfl
  | arr items ih =>
    have hitems : (sortedItems items).map print = dumpsItems plain items := by
      rw [sortedItems_eq, dumpsItems_eq, List.map_map]
      exact (List.map_congr_left ih).symm
    rw [sorted, print, printItems_eq, hitems]
    rfl
  | obj entries ih =>
    have hentries : (sortedEntries entries).map (fun e => (e.1, print e.2)) = dumpsEntries plain entries := by
      rw [sortedEntries_eq, dumpsEntries_eq, List.map_map]
      exact (List.map_congr_left fun e he => Prod.ext rfl (ih e he).symm)
    have hsort : ((sortedEntries entries).insertionSort fun a b => a.1 ≤ b.1).map (fun e => (e.1, print e.2)) =
        (dumpsEntries plain entries).insertionSort fun a b => a.1 ≤ b.1 := by
      rw [← hentries]
      exact List.map_insertionSort _ _ _ _ fun _ _ _ _ => Iff.rfl
    rw [sorted, print, printEntries_eq, dumps, ← hsort, List.map_map]
    rfl

mutual
/-- No float is in it. -/
def floatless : Json String → Bool
  | .float _ => false
  | .arr items => floatlessItems items
  | .obj entries => floatlessEntries entries
  | _ => true

def floatlessItems : List (Json String) → Bool
  | [] => true
  | v :: items => floatless v && floatlessItems items

def floatlessEntries : List (String × Json String) → Bool
  | [] => true
  | (_, v) :: entries => floatless v && floatlessEntries entries
end

inductive Kind where
  | null | bool | number | str | arr | obj | other
deriving DecidableEq

/-- What a character begins. -/
def kindOf (c : Char) : Kind :=
  if c = 'n' then .null
  else if c = 't' ∨ c = 'f' then .bool
  else if c = '-' ∨ c.isDigit = true then .number
  else if c = '"' then .str
  else if c = '[' then .arr
  else if c = '\x7b' then .obj
  else .other

def kind : Json String → Kind
  | .null => .null
  | .bool _ => .bool
  | .int _ | .float _ => .number
  | .str _ | .other _ => .str
  | .arr _ => .arr
  | .obj _ => .obj

theorem kindOf_digit {d : Char} (hd : d.isDigit = true) : kindOf d = .number := by
  have hne (c : Char) (hc : c.isDigit = false) : d ≠ c := by
    rintro rfl
    exact Bool.false_ne_true (hc.symm.trans hd)
  rw [kindOf, if_neg (hne 'n' rfl), if_neg (not_or.mpr ⟨hne 't' rfl, hne 'f' rfl⟩), if_pos (Or.inr hd)]

theorem print_head {v : Json String} (hv : floatless v = true) : ∃ c rest, print v = c :: rest ∧ kindOf c = kind v := by
  cases v with
  | null => exact ⟨'n', _, rfl, rfl⟩
  | bool b => cases b with
    | false => exact ⟨'f', _, rfl, rfl⟩
    | true => exact ⟨'t', _, rfl, rfl⟩
  | int n =>
    obtain ⟨d, ds, heq, hd⟩ := head_toDigits n.natAbs
    rw [print, toList_toString]
    split
    · exact ⟨'-', _, rfl, rfl⟩
    · exact ⟨d, ds, heq, kindOf_digit hd⟩
  | float repr => cases hv
  | str s | other s => exact ⟨'"', _, rfl, rfl⟩
  | arr items => exact ⟨'[', _, rfl, rfl⟩
  | obj entries => exact ⟨'\x7b', _, rfl, rfl⟩

/-- What stands before an item: nothing, or the comma after another one. -/
def IsSeparator (separator : List Char) : Prop := separator = [] ∨ separator = [',', ' ']

/-- The text of `v` tells `v`. -/
def Telling (v : Json String) : Prop := ∀ {w : Json String} {r r' : List Char}, floatless v = true → floatless w = true →
  Stops r → Stops r' → print v ++ r = print w ++ r' → reread v = reread w ∧ r = r'

theorem stops_printItems (items : List (Json String)) (r : List Char) : Stops (printItems [',', ' '] items ++ r) := by
  cases items <;> exact fun c hc => Option.some.inj hc ▸ rfl

theorem stops_printEntries (entries : List (String × Json String)) (r : List Char) :
    Stops (printEntries [',', ' '] entries ++ r) := by
  cases entries <;> exact fun c hc => Option.some.inj hc ▸ rfl

theorem item_ne_end {separator : List Char} (hsep : IsSeparator separator) {v : Json String} (hv : floatless v = true)
    (a r : List Char) : separator ++ (print v ++ a) ≠ ']' :: r := by
  rintro h
  rcases hsep with rfl | rfl
  · obtain ⟨c, rest, heq, hkind⟩ := print_head hv
    rw [List.nil_append, heq] at h
    rw [(List.cons.inj h).1] at hkind
    cases v <;> exact Kind.noConfusion hkind
  · exact absurd (List.cons.inj h).1 (by decide)

theorem printItems_unique {items : List (Json String)} (ih : ∀ v ∈ items, Telling v) {items' : List (Json String)}
    {separator r r' : List Char} (hsep : IsSeparator separator) (hv : floatlessItems items = true)
    (hw : floatlessItems items' = true) (h : printItems separator items ++ r = printItems separator items' ++ r') :
    rereadItems items = rereadItems items' ∧ r = r' := by
  induction items generalizing items' separator with
  | nil =>
    cases items' with
    | nil => exact ⟨rfl, (List.cons.inj h).2⟩
    | cons w items' =>
      rw [printItems, printItems, List.append_assoc, List.append_assoc] at h
      exact absurd h.symm (item_ne_end hsep (Bool.and_eq_true_iff.mp hw).1 _ _)
  | cons v items ihitems =>
    have hv := Bool.and_eq_true_iff.mp hv
    cases items' with
    | nil =>
      rw [printItems, printItems, List.append_assoc, List.append_assoc] at h
      exact absurd h (item_ne_end hsep hv.1 _ _)
    | cons w items' =>
      have hw := Bool.and_eq_true_iff.mp hw
      rw [printItems, printItems, List.append_assoc, List.append_assoc, List.append_assoc, List.append_assoc] at h
      obtain ⟨hhead, hrest⟩ := ih v List.mem_cons_self hv.1 hw.1 (stops_printItems _ _) (stops_printItems _ _)
        (List.append_cancel_left h)
      obtain ⟨htail, hr⟩ := ihitems (fun v hv => ih v (List.mem_cons_of_mem _ hv)) (Or.inr rfl) hv.2 hw.2 hrest
      exact ⟨by rw [rereadItems, rereadItems, hhead, htail], hr⟩

theorem quote_unique {s t : String} {r r' : List Char} (h : plain.quote s ++ r = plain.quote t ++ r') : s = t ∧ r = r' := by
  have h : s.toList.flatMap escaped ++ '"' :: r = t.toList.flatMap escaped ++ '"' :: r' := by
    simpa [plain, List.append_assoc] using h
  obtain ⟨hst, hr⟩ := quoted_unique h
  exact ⟨String.toList_inj.mp hst, hr⟩

theorem entry_ne_end {separator : List Char} (hsep : IsSeparator separator) (k : String) (a r : List Char) :
    separator ++ (plain.quote k ++ a) ≠ '\x7d' :: r := by
  rintro h
  rcases hsep with rfl | rfl <;> exact absurd (List.cons.inj h).1 (by decide)

theorem printEntries_unique {entries : List (String × Json String)} (ih : ∀ e ∈ entries, Telling e.2)
    {entries' : List (String × Json String)} {separator r r' : List Char} (hsep : IsSeparator separator)
    (hv : floatlessEntries entries = true) (hw : floatlessEntries entries' = true)
    (h : printEntries separator entries ++ r = printEntries separator entries' ++ r') :
    rereadEntries entries = rereadEntries entries' ∧ r = r' := by
  induction entries generalizing entries' separator with
  | nil =>
    cases entries' with
    | nil => exact ⟨rfl, (List.cons.inj h).2⟩
    | cons w entries' =>
      rw [printEntries, printEntries, List.append_assoc, List.append_assoc] at h
      exact absurd h.symm (entry_ne_end hsep _ _ _)
  | cons e entries ihentries =>
    have hv := Bool.and_eq_true_iff.mp hv
    cases entries' with
    | nil =>
      rw [printEntries, printEntries, List.append_assoc, List.append_assoc] at h
      exact absurd h (entry_ne_end hsep _ _ _)
    | cons f entries' =>
      have hw := Bool.and_eq_true_iff.mp hw
      rw [printEntries, printEntries, List.append_assoc, List.append_assoc, List.append_assoc, List.append_assoc] at h
      obtain ⟨hkey, hrest⟩ := quote_unique (List.append_cancel_left h)
      rw [List.cons_append, List.cons_append, List.cons_append, List.cons_append, List.append_assoc, List.append_assoc] at hrest
      obtain ⟨hhead, hrest⟩ := ih e List.mem_cons_self hv.1 hw.1 (stops_printEntries _ _) (stops_printEntries _ _)
        (List.cons.inj (List.cons.inj hrest).2).2
      obtain ⟨htail, hr⟩ := ihentries (fun e he => ih e (List.mem_cons_of_mem _ he)) (Or.inr rfl) hv.2 hw.2 hrest
      exact ⟨by rw [rereadEntries, rereadEntries, hkey, hhead, htail], hr⟩

theorem print_unique (v : Json String) : Telling v := by
  induction v using value_induction <;> intro w r r' hv hw hr hr' h
  all_goals
    obtain ⟨c, rest, heq, hkind⟩ := print_head hv
    obtain ⟨c', rest', heq', hkind'⟩ := print_head hw
    have hc : c = c' := by
      rw [heq, heq'] at h
      exact (List.cons.inj h).1
    rw [hc, hkind'] at hkind
    clear heq heq' hc
  case null => cases w with
    | null => exact ⟨rfl, List.append_cancel_left h⟩
    | _ => exact Kind.noConfusion hkind
  case bool b => cases w with
    | bool b' =>
      cases b <;> cases b' <;> first
        | exact ⟨rfl, List.append_cancel_left h⟩
        | exact absurd (List.cons.inj h).1 (by decide)
    | _ => exact Kind.noConfusion hkind
  case int n => cases w with
    | int m =>
      obtain ⟨rfl, hrest⟩ := toString_unique hr hr' h
      exact ⟨rfl, hrest⟩
    | float => cases hw
    | _ => exact Kind.noConfusion hkind
  case float repr => cases hv
  case str s => cases w with
    | str t | other t =>
      obtain ⟨rfl, hrest⟩ := quote_unique h
      exact ⟨rfl, hrest⟩
    | _ => exact Kind.noConfusion hkind
  case other s => cases w with
    | str t | other t =>
      obtain ⟨rfl, hrest⟩ := quote_unique h
      exact ⟨rfl, hrest⟩
    | _ => exact Kind.noConfusion hkind
  case arr items ih => cases w with
    | arr items' =>
      obtain ⟨heq, hrest⟩ := printItems_unique ih (Or.inl rfl) hv hw (List.cons.inj h).2
      exact ⟨congrArg Json.arr heq, hrest⟩
    | _ => exact Kind.noConfusion hkind
  case obj entries ih => cases w with
    | obj entries' =>
      obtain ⟨heq, hrest⟩ := printEntries_unique ih (Or.inl rfl) hv hw (List.cons.inj h).2
      exact ⟨congrArg Json.obj heq, hrest⟩
    | _ => exact Kind.noConfusion hkind

/-! ### The value that a text shows -/

theorem rereadItems_eq {σ : Type} (items : List (Json σ)) : rereadItems items = items.map reread := by
  induction items with
  | nil => rfl
  | cons v items ih => rw [rereadItems, ih, List.map_cons]

theorem rereadEntries_eq {σ : Type} (entries : List (σ × Json σ)) :
    rereadEntries entries = entries.map fun e => (e.1, reread e.2) := by
  induction entries with
  | nil => rfl
  | cons e entries ih => rw [rereadEntries, ih, List.map_cons]

theorem floatlessItems_eq (items : List (Json String)) : floatlessItems items = items.all floatless := by
  induction items with
  | nil => rfl
  | cons v items ih => rw [floatlessItems, ih, List.all_cons]

theorem floatlessEntries_eq (entries : List (String × Json String)) : floatlessEntries entries = entries.all (floatless ·.2) := by
  induction entries with
  | nil => rfl
  | cons e entries ih => rw [floatlessEntries, ih, List.all_cons]

theorem mem_sortedEntries {entries : List (String × Json String)} {e : String × Json String}
    (he : e ∈ (sortedEntries entries).insertionSort fun a b => a.1 ≤ b.1) : ∃ e' ∈ entries, (e'.1, sorted e'.2) = e := by
  rw [List.mem_insertionSort, sortedEntries_eq] at he
  exact List.mem_map.mp he

theorem reread_sorted (v : Json String) : reread (sorted v) = sorted v := by
  induction v using value_induction with
  | null | bool | int | float | str | other => rfl
  | arr items ih =>
    rw [sorted, reread, rereadItems_eq, sortedItems_eq, List.map_map]
    exact congrArg Json.arr (List.map_congr_left ih)
  | obj entries ih =>
    rw [sorted, reread, rereadEntries_eq]
    refine congrArg Json.obj ((List.map_congr_left fun e he => ?_).trans (List.map_id _))
    obtain ⟨e', he', rfl⟩ := mem_sortedEntries he
    exact Prod.ext rfl (ih e' he')

theorem floatless_sorted {v : Json String} (hv : floatless v = true) : floatless (sorted v) = true := by
  induction v using value_induction with
  | null | bool | int | str | other => rfl
  | float => cases hv
  | arr items ih =>
    rw [floatless, floatlessItems_eq, List.all_eq_true] at hv
    rw [sorted, floatless, floatlessItems_eq, List.all_eq_true, sortedItems_eq, List.forall_mem_map]
    exact fun v hmem => ih v hmem (hv v hmem)
  | obj entries ih =>
    rw [floatless, floatlessEntries_eq, List.all_eq_true] at hv
    rw [sorted, floatless, floatlessEntries_eq, List.all_eq_true]
    intro e he
    obtain ⟨e', he', rfl⟩ := mem_sortedEntries he
    exact ih e' he' (hv e' he')

theorem sorted_eq_of_dumps_eq {v w : Json String} (hv : floatless v = true) (hw : floatless w = true)
    (h : dumps plain v = dumps plain w) : sorted v = sorted w := by
  rw [dumps_plain, dumps_plain] at h
  have hstops : Stops [] := fun _ hc => nomatch hc
  have htext := (print_unique (sorted v) (floatless_sorted hv) (floatless_sorted hw) hstops hstops (congrArg (· ++ []) h)).1
  rwa [reread_sorted, reread_sorted] at htext

theorem sorted_eq_of_intercalate_eq {c : Char} (hc : c.isDigit = false) {separator : List Char} {vs ws : List (Json String)}
    (hlength : vs.length = ws.length) (hv : ∀ v ∈ vs, floatless v = true) (hw : ∀ w ∈ ws, floatless w = true)
    (h : (c :: separator).intercalate (vs.map (dumps plain)) = (c :: separator).intercalate (ws.map (dumps plain))) :
    vs.map sorted = ws.map sorted := by
  have hstops (r : List Char) : Stops (c :: r) := fun d hd => Option.some.inj hd ▸ hc
  induction vs generalizing ws with
  | nil => rw [List.length_eq_zero_iff.mp hlength.symm]
  | cons v vs ih =>
    obtain ⟨w, ws, rfl⟩ := List.exists_cons_of_length_eq_add_one hlength.symm
    have hlength := Nat.succ.inj hlength
    have hv := List.forall_mem_cons.mp hv
    have hw := List.forall_mem_cons.mp hw
    match vs, ws, hlength with
    | [], [], _ =>
      rw [List.map_singleton, List.map_singleton, List.intercalate_singleton, List.intercalate_singleton] at h
      rw [List.map_singleton, List.map_singleton, sorted_eq_of_dumps_eq hv.1 hw.1 h]
    | v' :: vs, w' :: ws, hlength =>
      rw [List.map_cons, List.map_cons, List.map_cons, List.map_cons, List.intercalate_cons_cons, List.intercalate_cons_cons,
        ← List.map_cons, ← List.map_cons, dumps_plain, dumps_plain, List.append_assoc, List.append_assoc] at h
      obtain ⟨hhead, hrest⟩ := print_unique (sorted v) (floatless_sorted hv.1) (floatless_sorted hw.1) (hstops _) (hstops _) h
      rw [reread_sorted, reread_sorted] at hhead
      exact congrArg₂ List.cons hhead (ih hlength hv.2 hw.2 (List.append_cancel_left (List.cons.inj hrest).2))

theorem reread_reread {σ : Type} (v : Json σ) : reread (reread v) = reread v := by
  induction v using value_induction with
  | null | bool | int | float | str | other => rfl
  | arr items ih =>
    rw [reread, reread, rereadItems_eq, rereadItems_eq, List.map_map]
    exact congrArg Json.arr (List.map_congr_left ih)
  | obj entries ih =>
    rw [reread, reread, rereadEntries_eq, rereadEntries_eq, List.map_map]
    exact congrArg Json.obj (List.map_congr_left fun e he => Prod.ext rfl (ih e he))

theorem lookup_eq_group {κ β : Type} [DecidableEq κ] (k : κ) (entries : List (κ × β)) :
    entries.lookup k = (Grouping.group Prod.fst entries k).head?.map Prod.snd := by
  induction entries with
  | nil => rfl
  | cons e entries ih =>
    by_cases h : e.1 = k
    · subst h
      rw [Grouping.group_cons_self, List.lookup_cons_self]
      rfl
    · rw [Grouping.group_cons_of_ne h, ← ih, List.lookup_cons, beq_false_of_ne (Ne.symm h)]

theorem lookup_map_snd {κ β γ : Type} [BEq κ] (f : β → γ) (k : κ) (entries : List (κ × β)) :
    (entries.map fun e => (e.1, f e.2)).lookup k = (entries.lookup k).map f := by
  induction entries with
  | nil => rfl
  | cons e entries ih =>
    rw [List.map_cons, List.lookup_cons, List.lookup_cons, ih]
    cases k == e.1 <;> rfl

theorem field_sorted (k : String) (v : Json String) : (sorted v).field k = sorted (v.field k) := by
  cases v with
  | obj entries =>
    rw [sorted, field, field, lookup_eq_group, Grouping.group_insertionSort, ← lookup_eq_group, sortedEntries_eq, lookup_map_snd]
    cases entries.lookup k <;> rfl
  | null | bool | int | float | str | other | arr => rfl

theorem items_sorted (v : Json String) : (sorted v).items = v.items.map sorted := by
  cases v with
  | arr items => exact sortedItems_eq items
  | null | bool | int | float | str | other | obj => rfl

theorem field_reread {σ : Type} [BEq σ] (k : σ) (v : Json σ) : (reread v).field k = reread (v.field k) := by
  cases v with
  | obj entries =>
    rw [reread, field, field, rereadEntries_eq, lookup_map_snd]
    cases entries.lookup k <;> rfl
  | null | bool | int | float | str | other | arr => rfl

theorem items_reread {σ : Type} (v : Json σ) : (reread v).items = v.items.map reread := by
  cases v with
  | arr items => exact rereadItems_eq items
  | null | bool | int | float | str | other | obj => rfl

theorem floatless_reread {v : Json String} (hv : floatless v = true) : floatless (reread v) = true := by
  induction v using value_induction with
  | null | bool | int | str | other => rfl
  | float => cases hv
  | arr items ih =>
    rw [floatless, floatlessItems_eq, List.all_eq_true] at hv
    rw [reread, floatless, floatlessItems_eq, List.all_eq_true, rereadItems_eq, List.forall_mem_map]
    exact fun v hmem => ih v hmem (hv v hmem)
  | obj entries ih =>
    rw [floatless, floatlessEntries_eq, List.all_eq_true] at hv
    rw [reread, floatless, floatlessEntries_eq, List.all_eq_true, rereadEntries_eq, List.forall_mem_map]
    exact fun e hmem => ih e hmem (hv e hmem)

theorem floatless_orNull {α : Type} {f : α → Json String} (hf : ∀ a, floatless (f a) = true) (o : Option α) :
    floatless (orNull (o.map f)) = true := by
  cases o with
  | none => rfl
  | some a => exact hf a

end CestaPlan.Json
