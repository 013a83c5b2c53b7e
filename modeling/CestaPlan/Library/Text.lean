import Mathlib.Data.List.DropRight

/-! Strings as Python has them: white space is Unicode's, and `strip` removes it at both ends. -/

namespace CestaPlan.Text

/-- `str.isspace` of one character. -/
def isSpace (c : Char) : Bool :=
  let n := c.toNat
  (9 ≤ n && n ≤ 13) || (28 ≤ n && n ≤ 32) || n == 0x85 || n == 0xa0 || n == 0x1680 || (0x2000 ≤ n && n ≤ 0x200a) ||
    n == 0x2028 || n == 0x2029 || n == 0x202f || n == 0x205f || n == 0x3000

def trim (l : List Char) : List Char := (l.dropWhile isSpace).rdropWhile isSpace

/-- `str.strip()`. -/
def strip (s : String) : String := String.ofList (trim s.toList)

/-- `str.lower()` on ASCII text. -/
def lowerAscii (s : String) : String := String.ofList (s.toList.map Char.toLower)

theorem lowerAscii_eq_self {s : String} (h : s.toList.all Char.isLower = true) : lowerAscii s = s := by
  have hmap : s.toList.map Char.toLower = s.toList.map id := List.map_congr_left fun c hc => by
    have hlower : c.val ≥ 'a'.val := of_decide_eq_true (Bool.and_eq_true_iff.mp (List.all_eq_true.mp h c hc)).1
    have hnot : ¬(c.val ≥ 'A'.val ∧ c.val ≤ 'Z'.val) := fun h => absurd (UInt32.le_trans hlower h.2) (by decide)
    exact dif_neg hnot
  rw [lowerAscii, hmap, List.map_id, String.ofList_toList]

theorem trim_trim (l : List Char) : trim (trim l) = trim l := by
  have hfront : (trim l).dropWhile isSpace = trim l := by
    obtain ⟨rest, hrest⟩ := List.rdropWhile_prefix isSpace (l := l.dropWhile isSpace)
    have hself := List.dropWhile_eq_self_iff.mp (List.dropWhile_idempotent isSpace (l := l))
    unfold trim
    cases ht : (l.dropWhile isSpace).rdropWhile isSpace with
    | nil => rfl
    | cons c t =>
      rw [ht] at hrest
      rw [← hrest] at hself
      exact List.dropWhile_cons_of_neg (hself (by simp))
  show ((trim l).dropWhile isSpace).rdropWhile isSpace = _
  rw [hfront]
  exact List.rdropWhile_idempotent isSpace (l.dropWhile isSpace)

theorem strip_strip (s : String) : strip (strip s) = strip s := by
  rw [strip, strip, String.toList_ofList, trim_trim]

theorem trim_map {f : Char → Char} (hf : ∀ c, isSpace (f c) = isSpace c) (l : List Char) :
    trim (l.map f) = (trim l).map f := by
  have hcomp : isSpace ∘ f = isSpace := funext hf
  simp only [trim, List.rdropWhile, List.dropWhile_map, hcomp, ← List.map_reverse]

theorem toLower_cases (c : Char) : (65 ≤ c.toNat ∧ c.toNat ≤ 90 ∧ c.toLower.toNat = c.toNat + 32) ∨
    (¬(65 ≤ c.toNat ∧ c.toNat ≤ 90) ∧ c.toLower = c) := by
  have hrange : (c.val ≥ 'A'.val ∧ c.val ≤ 'Z'.val) ↔ 65 ≤ c.toNat ∧ c.toNat ≤ 90 := Iff.rfl
  by_cases h : c.val ≥ 'A'.val ∧ c.val ≤ 'Z'.val
  · obtain ⟨hlo, hhi⟩ := hrange.mp h
    refine Or.inl ⟨hlo, hhi, ?_⟩
    unfold Char.toLower
    rw [dif_pos h]
    show (c.val + 32).toNat = c.toNat + 32
    rw [UInt32.toNat_add]
    exact Nat.mod_eq_of_lt (by show c.toNat + 32 < 2 ^ 32; omega)
  · refine Or.inr ⟨fun hr => h (hrange.mpr hr), ?_⟩
    unfold Char.toLower
    rw [dif_neg h]

theorem isSpace_toLower (c : Char) : isSpace c.toLower = isSpace c := by
  rcases toLower_cases c with ⟨hlo, hhi, hn⟩ | ⟨-, h⟩
  · simp only [isSpace, hn]
    grind
  · rw [h]

theorem toLower_toLower (c : Char) : c.toLower.toLower = c.toLower := by
  rcases toLower_cases c with ⟨hlo, hhi, hn⟩ | ⟨-, h⟩
  · rcases toLower_cases c.toLower with ⟨-, hhi', -⟩ | ⟨-, h⟩
    · omega
    · exact h
  · rw [h, h]

theorem lowerAscii_strip (s : String) : lowerAscii (strip (lowerAscii (strip s))) = lowerAscii (strip s) := by
  simp only [lowerAscii, strip, String.toList_ofList, trim_map isSpace_toLower, trim_trim, List.map_map,
    Function.comp_def, toLower_toLower]

/-- Texts, and the characters they are written with. A literal is spelled without reading it back from its bytes. -/
inductive Spelled : List String → List (List Char) → Prop
  | nil : Spelled [] []
  | cons (cs : List Char) {texts : List String} {spellings : List (List Char)} :
    Spelled texts spellings → Spelled (String.ofList cs :: texts) (cs :: spellings)

theorem Spelled.toList {texts : List String} {spellings : List (List Char)} (h : Spelled texts spellings) :
    texts.map String.toList = spellings := by
  induction h with
  | nil => rfl
  | cons cs _ ih => rw [List.map_cons, String.toList_ofList, ih]

theorem Spelled.eq {texts : List String} {spellings : List (List Char)} (h : Spelled texts spellings) :
    texts = spellings.map String.ofList := by
  induction h with
  | nil => rfl
  | cons cs _ ih => rw [List.map_cons, ih]

theorem Spelled.all {texts : List String} {spellings : List (List Char)} {p : Char → Bool} (h : Spelled texts spellings)
    (hall : (spellings.all fun cs => cs.all p) = true) : ∀ t ∈ texts, t.toList.all p = true := by
  induction h with
  | nil => exact fun t ht => absurd ht List.not_mem_nil
  | cons cs _ ih =>
    rw [List.all_cons, Bool.and_eq_true] at hall
    refine List.forall_mem_cons.mpr ⟨?_, ih hall.2⟩
    rw [String.toList_ofList]
    exact hall.1

end CestaPlan.Text
