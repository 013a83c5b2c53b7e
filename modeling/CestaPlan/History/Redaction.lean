import CestaPlan.Library.Json
import CestaPlan.Library.Regex
import CestaPlan.Library.Text
import Mathlib.Data.List.Infix

/-! What a manifest shows in place of URLs and secrets, and the scan of what is put out (`_scrub`, `_sanitize_mapping`,
    `scan_sensitive` of `tools/plan_history_lane_remediation.py`).

    Keys are judged by their name in lower case without hyphens and underscores, strings by what stands in them. -/

namespace CestaPlan.History
open Regex

abbrev Fields := List (String × Json String)

/-- What Unicode and SHA-256 give. -/
structure Redactor where
  /-- `str.lower` of a character between others, those before it the last one first. -/
  lowerAt : List Char → Char → List Char → List Char
  lowerAt_ascii : ∀ before c after, c.toNat < 128 → lowerAt before c after = [c.toLower]
  alphabet : Alphabet
  foldsAscii : alphabet.FoldsAscii
  sha256 : List Char → List (Fin 16)

/-- The case mappings of ASCII text. -/
def asciiRedactor (sha256 : List Char → List (Fin 16)) : Redactor where
  lowerAt _ c _ := [c.toLower]
  lowerAt_ascii _ _ _ _ := rfl
  alphabet := Regex.Alphabet.ascii
  foldsAscii _ _ _ _ := rfl
  sha256

def sensitiveKeyNames : List String :=
  ["api_key", "apikey", "token", "access_token", "refresh_token", "secret", "client_secret", "password", "passwd", "authorization",
    "bearer", "database_url", "connection_string", "headers", "cookies", "payload", "raw_payload", "request_body", "response_body",
    "source_url"]

def redacted : String := "<redacted>"

/-- `hexdigest()` -/
def hexdigest (digits : List (Fin 16)) : String := String.ofList (digits.map fun d : Fin 16 => Nat.digitChar d.val)

/-- `v is not None and v != ""` -/
def isGiven : Json String → Bool
  | .null => false
  | .str s => s ≠ ""
  | _ => true

structure Hit where
  path : String
  key : Bool
deriving DecidableEq

namespace Redactor
variable (R : Redactor)

def lowerAfter (before : List Char) : List Char → List Char
  | [] => []
  | c :: after => R.lowerAt before c after ++ lowerAfter (c :: before) after

/-- `str.lower()` -/
def lower (s : String) : List Char := R.lowerAfter [] s.toList

def normKey (k : String) : List Char := (R.lower k).filter fun c => c ≠ '-' && c ≠ '_'

def isSensitiveKey (k : String) : Bool := (sensitiveKeyNames.map R.normKey).contains (R.normKey k)

/-- `_URL_RE` -/
def urlRe : Pattern :=
  .sequence [R.alphabet.literal "http", .optional (R.alphabet.literal "s"), R.alphabet.literal "://"]

/-- `_SECRET_RE` -/
def secretRe : Pattern :=
  .choice (.sequence [R.alphabet.literal "api", .optional (R.alphabet.oneOf "_-"), R.alphabet.literal "key"])
    [R.alphabet.literal "secret", R.alphabet.literal "passwd", R.alphabet.literal "password", R.alphabet.literal "bearer",
      R.alphabet.literal "authorization",
      .sequence [R.alphabet.literal "postgres", .optional (R.alphabet.literal "ql"), R.alphabet.literal "://"],
      R.alphabet.literal "mysql://", R.alphabet.literal "mongodb://", R.alphabet.literal "amqp://", R.alphabet.literal "redis://",
      R.alphabet.literal "database_url"]

/-- A text with a URL or a secret in it. -/
def looksSensitive (s : String) : Bool := (search R.urlRe s.toList).isSome || (search R.secretRe s.toList).isSome

def valueHash (v : Json String) : Json String := .str (hexdigest (R.sha256 (v.dumps Json.plain)))

/-- The hash of a value that is there. -/
def hashOf (v : Json String) : Json String := if isGiven v then R.valueHash v else .null

mutual
def scrub : Json String → Json String
  | .str s => if R.looksSensitive s then .str redacted else .str s
  | .obj entries => .obj (sanitizeFrom [] entries)
  | .arr items => .arr (scrubItems items)
  | v => v

def scrubItems : List (Json String) → List (Json String)
  | [] => []
  | v :: items => scrub v :: scrubItems items

/-- What is left of the entries is set in `out`. -/
def sanitizeFrom (out : Fields) : Fields → Fields
  | [] => out
  | (k, v) :: full =>
    if R.isSensitiveKey k then
      sanitizeFrom (Dict.setEntries (k ++ "_hash") (R.hashOf v) (Dict.setEntries (k ++ "_present") (.bool (isGiven v)) out)) full
    else sanitizeFrom (Dict.setEntries k (scrub v) out) full
end

def sanitizeMapping (full : Fields) : Fields := R.sanitizeFrom [] full

mutual
def scanSensitive (path : String) : Json String → List Hit
  | .obj entries => scanEntries path entries
  | .arr items => scanItems path 0 items
  | .str s => if s ≠ redacted ∧ R.looksSensitive s = true then [⟨path, false⟩] else []
  | _ => []

def scanEntries (path : String) : Fields → List Hit
  | [] => []
  | (k, v) :: entries =>
    let inside := path ++ "." ++ k
    (if R.isSensitiveKey k then [⟨inside, true⟩] else []) ++ scanSensitive inside v ++ scanEntries path entries

def scanItems (path : String) (i : ℕ) : List (Json String) → List Hit
  | [] => []
  | v :: items => scanSensitive (path ++ "[" ++ toString i ++ "]") v ++ scanItems path (i + 1) items
end

mutual
/-- There is nothing for the scan to find. -/
def clean : Json String → Bool
  | .obj entries => cleanEntries entries
  | .arr items => cleanItems items
  | .str s => s = redacted || !R.looksSensitive s
  | _ => true

def cleanEntries : Fields → Bool
  | [] => true
  | (k, v) :: entries => !R.isSensitiveKey k && clean v && cleanEntries entries

def cleanItems : List (Json String) → Bool
  | [] => true
  | v :: items => clean v && cleanItems items
end

mutual
theorem scanSensitive_eq_nil_iff (path : String) : ∀ v, R.scanSensitive path v = [] ↔ R.clean v = true
  | .obj entries => scanEntries_eq_nil_iff path entries
  | .arr items => scanItems_eq_nil_iff path 0 items
  | .str s => by
    rw [scanSensitive, clean]
    by_cases hs : s = redacted <;> cases hlooks : R.looksSensitive s <;> simp [hs]
  | .null => iff_of_true rfl rfl
  | .bool _ => iff_of_true rfl rfl
  | .int _ => iff_of_true rfl rfl
  | .float _ => iff_of_true rfl rfl
  | .other _ => iff_of_true rfl rfl

theorem scanEntries_eq_nil_iff (path : String) : ∀ entries, R.scanEntries path entries = [] ↔ R.cleanEntries entries = true
  | [] => iff_of_true rfl rfl
  | (k, v) :: entries => by
    have hv := scanSensitive_eq_nil_iff (path ++ "." ++ k) v
    have hentries := scanEntries_eq_nil_iff path entries
    rw [scanEntries, cleanEntries, List.append_eq_nil_iff, List.append_eq_nil_iff, hv, hentries, Bool.and_eq_true,
      Bool.and_eq_true]
    cases R.isSensitiveKey k <;> simp

theorem scanItems_eq_nil_iff (path : String) (i : ℕ) : ∀ items, R.scanItems path i items = [] ↔ R.cleanItems items = true
  | [] => iff_of_true rfl rfl
  | v :: items => by
    have hv := scanSensitive_eq_nil_iff (path ++ "[" ++ toString i ++ "]") v
    have hitems := scanItems_eq_nil_iff path (i + 1) items
    rw [scanItems, cleanItems, List.append_eq_nil_iff, hv, hitems, Bool.and_eq_true]
end

variable {R}

theorem cleanEntries_iff {entries : Fields} :
    R.cleanEntries entries = true ↔ ∀ e ∈ entries, R.isSensitiveKey e.1 = false ∧ R.clean e.2 = true := by
  induction entries with
  | nil => exact iff_of_true rfl (by simp)
  | cons e entries ih =>
    obtain ⟨k, v⟩ := e
    rw [cleanEntries, Bool.and_eq_true, Bool.and_eq_true, ih, List.forall_mem_cons, Bool.not_eq_true']

theorem cleanItems_iff {items : List (Json String)} : R.cleanItems items = true ↔ ∀ v ∈ items, R.clean v = true := by
  induction items with
  | nil => exact iff_of_true rfl (by simp)
  | cons v items ih => rw [cleanItems, Bool.and_eq_true, ih, List.forall_mem_cons]

theorem clean_obj {entries : Fields} :
    R.clean (.obj entries) = true ↔ ∀ e ∈ entries, R.isSensitiveKey e.1 = false ∧ R.clean e.2 = true := cleanEntries_iff

theorem clean_arr {items : List (Json String)} : R.clean (.arr items) = true ↔ ∀ v ∈ items, R.clean v = true := cleanItems_iff

theorem clean_str {s : String} : R.clean (.str s) = true ↔ s = redacted ∨ R.looksSensitive s = false := by
  rw [clean, Bool.or_eq_true, decide_eq_true_eq, Bool.not_eq_true']

/-! ### Names and words of ASCII -/

theorem lowerAfter_ascii {before s : List Char} (hs : ∀ c ∈ s, c.toNat < 128) : R.lowerAfter before s = s.map Char.toLower := by
  induction s generalizing before with
  | nil => rfl
  | cons c s ih =>
    rw [lowerAfter, R.lowerAt_ascii _ _ _ (hs c List.mem_cons_self), ih fun c hc => hs c (List.mem_cons_of_mem _ hc)]
    rfl

theorem lowerAfter_append {before s t : List Char} (ht : ∀ c ∈ t, c.toNat < 128) :
    ∃ u, R.lowerAfter before (s ++ t) = u ++ t.map Char.toLower := by
  induction s generalizing before with
  | nil => exact ⟨[], lowerAfter_ascii ht⟩
  | cons c s ih =>
    obtain ⟨u, hu⟩ := @ih (c :: before)
    exact ⟨R.lowerAt before c (s ++ t) ++ u, by rw [List.cons_append, lowerAfter, hu, List.append_assoc]⟩

/-- `_norm_key` of a name in ASCII. -/
def normAscii (k : String) : List Char := (k.toList.map Char.toLower).filter fun c => c ≠ '-' && c ≠ '_'

/-- All of it is ASCII. -/
def isAscii (s : String) : Bool := s.toList.all (·.toNat < 128)

theorem isAscii_iff {s : String} : isAscii s = true ↔ ∀ c ∈ s.toList, c.toNat < 128 := by
  simp [isAscii]

theorem normKey_ascii {k : String} (hk : isAscii k = true) : R.normKey k = normAscii k := by
  rw [normKey, lower, lowerAfter_ascii (isAscii_iff.mp hk), normAscii]

/-- What is compared of the sensitive names. -/
def sensitiveSpellings : List (List Char) :=
  [['a', 'p', 'i', 'k', 'e', 'y'], ['a', 'p', 'i', 'k', 'e', 'y'], ['t', 'o', 'k', 'e', 'n'],
    ['a', 'c', 'c', 'e', 's', 's', 't', 'o', 'k', 'e', 'n'], ['r', 'e', 'f', 'r', 'e', 's', 'h', 't', 'o', 'k', 'e', 'n'],
    ['s', 'e', 'c', 'r', 'e', 't'], ['c', 'l', 'i', 'e', 'n', 't', 's', 'e', 'c', 'r', 'e', 't'],
    ['p', 'a', 's', 's', 'w', 'o', 'r', 'd'], ['p', 'a', 's', 's', 'w', 'd'],
    ['a', 'u', 't', 'h', 'o', 'r', 'i', 'z', 'a', 't', 'i', 'o', 'n'], ['b', 'e', 'a', 'r', 'e', 'r'],
    ['d', 'a', 't', 'a', 'b', 'a', 's', 'e', 'u', 'r', 'l'],
    ['c', 'o', 'n', 'n', 'e', 'c', 't', 'i', 'o', 'n', 's', 't', 'r', 'i', 'n', 'g'], ['h', 'e', 'a', 'd', 'e', 'r', 's'],
    ['c', 'o', 'o', 'k', 'i', 'e', 's'], ['p', 'a', 'y', 'l', 'o', 'a', 'd'], ['r', 'a', 'w', 'p', 'a', 'y', 'l', 'o', 'a', 'd'],
    ['r', 'e', 'q', 'u', 'e', 's', 't', 'b', 'o', 'd', 'y'], ['r', 'e', 's', 'p', 'o', 'n', 's', 'e', 'b', 'o', 'd', 'y'],
    ['s', 'o', 'u', 'r', 'c', 'e', 'u', 'r', 'l']]

theorem normAscii_ofList (cs : List Char) :
    normAscii (String.ofList cs) = (cs.map Char.toLower).filter fun c => c ≠ '-' && c ≠ '_' := by
  rw [normAscii, String.toList_ofList]

theorem isAscii_ofList (cs : List Char) : isAscii (String.ofList cs) = cs.all (·.toNat < 128) := by
  rw [isAscii, String.toList_ofList]

theorem spelled_sensitiveKeyNames : ∃ spellings, Text.Spelled sensitiveKeyNames spellings ∧
    (∀ cs ∈ spellings, cs.all (·.toNat < 128) = true) ∧
    (spellings.map fun cs => (cs.map Char.toLower).filter fun c => c ≠ '-' && c ≠ '_') = sensitiveSpellings := by
  apply Exists.intro
  refine ⟨?_, ?_, ?_⟩
  · unfold sensitiveKeyNames
    repeat constructor
  · decide
  · decide

theorem sensitiveKeyNames_normAscii : sensitiveKeyNames.map normAscii = sensitiveSpellings := by
  obtain ⟨spellings, hspelled, -, heq⟩ := spelled_sensitiveKeyNames
  rw [hspelled.eq, List.map_map, ← heq]
  exact List.map_congr_left fun cs _ => normAscii_ofList cs

theorem sensitiveNorms : sensitiveKeyNames.map R.normKey = sensitiveKeyNames.map normAscii := by
  obtain ⟨spellings, hspelled, hascii, -⟩ := spelled_sensitiveKeyNames
  refine List.map_congr_left fun k hk => normKey_ascii ?_
  rw [hspelled.eq] at hk
  obtain ⟨cs, hcs, rfl⟩ := List.mem_map.mp hk
  exact (isAscii_ofList cs).trans (hascii cs hcs)

theorem isSensitiveKey_ascii {k : String} (hk : isAscii k = true) :
    R.isSensitiveKey k = (sensitiveKeyNames.map normAscii).contains (normAscii k) := by
  rw [isSensitiveKey, sensitiveNorms, normKey_ascii hk]

/-- A name in ASCII that is not sensitive. -/
def plainName (cs : List Char) : Bool :=
  cs.all (·.toNat < 128) && !sensitiveSpellings.contains ((cs.map Char.toLower).filter fun c => c ≠ '-' && c ≠ '_')

theorem isSensitiveKey_literal {cs : List Char} (h : plainName cs = true) : R.isSensitiveKey (String.ofList cs) = false := by
  obtain ⟨hascii, hnot⟩ := Bool.and_eq_true_iff.mp h
  rw [isSensitiveKey_ascii ((isAscii_ofList cs).trans hascii), sensitiveKeyNames_normAscii, normAscii_ofList]
  exact (Bool.not_eq_true' _).mp hnot

theorem isSensitiveKey_append (k : String) {suffix : List Char} (hascii : (suffix.all (·.toNat < 128)) = true)
    (hnorm : sensitiveSpellings.all (fun norm =>
      !((suffix.map Char.toLower).filter fun c => c ≠ '-' && c ≠ '_').isSuffixOf norm) = true) :
    R.isSensitiveKey (k ++ String.ofList suffix) = false := by
  have hascii : ∀ c ∈ (String.ofList suffix).toList, c.toNat < 128 := isAscii_iff.mp ((isAscii_ofList suffix).trans hascii)
  obtain ⟨u, hu⟩ := @lowerAfter_append R [] k.toList (String.ofList suffix).toList hascii
  rw [← normAscii_ofList, ← sensitiveKeyNames_normAscii] at hnorm
  rw [isSensitiveKey, sensitiveNorms, Bool.eq_false_iff, ne_eq, List.contains_iff_mem]
  intro hmem
  have hsuffix : normAscii (String.ofList suffix) <:+ R.normKey (k ++ String.ofList suffix) := by
    rw [normKey, lower, String.toList_append, hu, List.filter_append]
    exact List.suffix_append _ _
  have hnot := List.all_eq_true.mp hnorm _ hmem
  rw [Bool.not_eq_true', Bool.eq_false_iff, ne_eq, List.isSuffixOf_iff_suffix] at hnot
  exact hnot hsuffix

theorem isSensitiveKey_present (k : String) : R.isSensitiveKey (k ++ "_present") = false :=
  isSensitiveKey_append k (by decide) (by decide)

theorem isSensitiveKey_hash (k : String) : R.isSensitiveKey (k ++ "_hash") = false :=
  isSensitiveKey_append k (by decide) (by decide)

/-- What `_URL_RE` and `_SECRET_RE` read. -/
def secretWords : List String :=
  ["http://", "https://", "apikey", "api_key", "api-key", "secret", "passwd", "password", "bearer", "authorization", "postgres://",
    "postgresql://", "mysql://", "mongodb://", "amqp://", "redis://", "database_url"]

theorem spells_literal {s : String} (hs : isAscii s = true) : Spells (R.alphabet.literal s) [s.toList.map Char.toLower] :=
  R.foldsAscii.spells_literal (isAscii_iff.mp hs)

theorem spells_urlRe : Spells R.urlRe ((secretWords.take 2).map String.toList) :=
  Spells.sequence (.cons (spells_literal rfl) (.cons (spells_literal rfl).optional (.cons (spells_literal rfl) .nil)))

theorem spells_secretRe : Spells R.secretRe ((secretWords.drop 2).map String.toList) := by
  have hapi : Spells (.sequence [R.alphabet.literal "api", .optional (R.alphabet.oneOf "_-"), R.alphabet.literal "key"])
      (["apikey", "api_key", "api-key"].map String.toList) :=
    Spells.sequence (.cons (spells_literal rfl) (.cons (R.foldsAscii.spells_oneOf (isAscii_iff.mp rfl)).optional
      (.cons (spells_literal rfl) .nil)))
  have hpostgres : Spells (.sequence [R.alphabet.literal "postgres", .optional (R.alphabet.literal "ql"), R.alphabet.literal "://"])
      (["postgres://", "postgresql://"].map String.toList) :=
    Spells.sequence (.cons (spells_literal rfl) (.cons (spells_literal rfl).optional (.cons (spells_literal rfl) .nil)))
  exact Spells.choice (.cons hapi (.cons (spells_literal rfl) (.cons (spells_literal rfl) (.cons (spells_literal rfl)
    (.cons (spells_literal rfl) (.cons (spells_literal rfl) (.cons hpostgres (.cons (spells_literal rfl) (.cons (spells_literal rfl)
      (.cons (spells_literal rfl) (.cons (spells_literal rfl) (.cons (spells_literal rfl) .nil))))))))))))

/-- No word of a URL or a secret stands in a text of ASCII. -/
def isPlain (s : String) : Bool :=
  isAscii s && secretWords.all fun w => ¬w.toList <:+: s.toList.map Char.toLower

/-- The characters of the words. -/
def secretSpellings : List (List Char) :=
  [['h', 't', 't', 'p', ':', '/', '/'], ['h', 't', 't', 'p', 's', ':', '/', '/'], ['a', 'p', 'i', 'k', 'e', 'y'],
    ['a', 'p', 'i', '_', 'k', 'e', 'y'], ['a', 'p', 'i', '-', 'k', 'e', 'y'], ['s', 'e', 'c', 'r', 'e', 't'],
    ['p', 'a', 's', 's', 'w', 'd'], ['p', 'a', 's', 's', 'w', 'o', 'r', 'd'], ['b', 'e', 'a', 'r', 'e', 'r'],
    ['a', 'u', 't', 'h', 'o', 'r', 'i', 'z', 'a', 't', 'i', 'o', 'n'], ['p', 'o', 's', 't', 'g', 'r', 'e', 's', ':', '/', '/'],
    ['p', 'o', 's', 't', 'g', 'r', 'e', 's', 'q', 'l', ':', '/', '/'], ['m', 'y', 's', 'q', 'l', ':', '/', '/'],
    ['m', 'o', 'n', 'g', 'o', 'd', 'b', ':', '/', '/'], ['a', 'm', 'q', 'p', ':', '/', '/'], ['r', 'e', 'd', 'i', 's', ':', '/', '/'],
    ['d', 'a', 't', 'a', 'b', 'a', 's', 'e', '_', 'u', 'r', 'l']]

theorem spelled_secretWords : Text.Spelled secretWords secretSpellings := by
  unfold secretWords secretSpellings
  repeat constructor

def plainText (cs : List Char) : Bool :=
  cs.all (·.toNat < 128) && secretSpellings.all fun w => ¬w <:+: cs.map Char.toLower

theorem isPlain_literal {cs : List Char} (h : plainText cs = true) : isPlain (String.ofList cs) = true := by
  obtain ⟨hascii, hwords⟩ := Bool.and_eq_true_iff.mp h
  refine Bool.and_eq_true_iff.mpr ⟨(isAscii_ofList cs).trans hascii, List.all_eq_true.mpr fun w hw => ?_⟩
  rw [String.toList_ofList]
  exact List.all_eq_true.mp hwords w.toList (spelled_secretWords.toList ▸ List.mem_map_of_mem hw)

theorem isPlain_of_spelled {texts : List String} {spellings : List (List Char)} (h : Text.Spelled texts spellings)
    (hplain : spellings.all plainText = true) : ∀ s ∈ texts, isPlain s = true := by
  rw [h.eq, List.forall_mem_map]
  exact fun cs hcs => isPlain_literal (List.all_eq_true.mp hplain cs hcs)

theorem looksSensitive_of_isPlain {s : String} (h : isPlain s = true) : R.looksSensitive s = false := by
  obtain ⟨hascii, hwords⟩ := Bool.and_eq_true_iff.mp h
  rw [Bool.eq_false_iff]
  intro hlooks
  have hfound : ∃ w ∈ secretWords.map String.toList, w <:+: s.toList.map Char.toLower := by
    rw [← List.take_append_drop 2 secretWords, List.map_append]
    rcases Bool.or_eq_true_iff.mp hlooks with hlooks | hlooks
    · obtain ⟨w, hw, hin⟩ := spells_urlRe.exists_infix (isAscii_iff.mp hascii) hlooks
      exact ⟨w, List.mem_append_left _ hw, hin⟩
    · obtain ⟨w, hw, hin⟩ := spells_secretRe.exists_infix (isAscii_iff.mp hascii) hlooks
      exact ⟨w, List.mem_append_right _ hw, hin⟩
  obtain ⟨_, hfound, hin⟩ := hfound
  obtain ⟨w, hw, rfl⟩ := List.mem_map.mp hfound
  exact of_decide_eq_true (List.all_eq_true.mp hwords w hw) hin

theorem isPlain_of_chars {s : String} (allowed : List Char) (hs : ∀ c ∈ s.toList, c ∈ allowed)
    (hallowed : (allowed.all (·.toNat < 128) &&
      secretSpellings.all fun w => w.any fun c => !(allowed.map Char.toLower).contains c) = true) : isPlain s = true := by
  obtain ⟨hascii, hwords⟩ := Bool.and_eq_true_iff.mp hallowed
  rw [← spelled_secretWords.toList, List.all_map] at hwords
  refine Bool.and_eq_true_iff.mpr ⟨isAscii_iff.mpr fun c hc => ?_, List.all_eq_true.mpr fun w hw => decide_eq_true fun hin => ?_⟩
  · exact of_decide_eq_true (List.all_eq_true.mp hascii c (hs c hc))
  · obtain ⟨c, hc, hnot⟩ := List.any_eq_true.mp (List.all_eq_true.mp hwords w hw)
    obtain ⟨a, ha, rfl⟩ := List.mem_map.mp (hin.subset hc)
    rw [Bool.not_eq_true', Bool.eq_false_iff, ne_eq, List.contains_iff_mem] at hnot
    exact hnot (List.mem_map_of_mem (hs a ha))

theorem isPlain_hexdigest (digits : List (Fin 16)) : isPlain (hexdigest digits) = true := by
  have hdigit : ∀ d : Fin 16, Nat.digitChar d.val ∈ (List.range 16).map Nat.digitChar := fun d =>
    List.mem_map_of_mem (List.mem_range.mpr d.isLt)
  refine isPlain_of_chars ((List.range 16).map Nat.digitChar) (fun c hc => ?_) (by decide)
  rw [hexdigest, String.toList_ofList] at hc
  obtain ⟨d, -, rfl⟩ := List.mem_map.mp hc
  exact hdigit d

theorem clean_of_isPlain {s : String} (h : isPlain s = true) : R.clean (.str s) = true :=
  clean_str.mpr (Or.inr (looksSensitive_of_isPlain h))

@[simp] theorem clean_valueHash (v : Json String) : R.clean (R.valueHash v) = true := clean_of_isPlain (isPlain_hexdigest _)

@[simp] theorem clean_hashOf (v : Json String) : R.clean (R.hashOf v) = true := by
  unfold hashOf
  split
  · exact clean_valueHash v
  · rfl

/-! ### What is sanitized -/

theorem cleanEntries_setEntries {k : String} {v : Json String} {out : Fields} (hk : R.isSensitiveKey k = false)
    (hv : R.clean v = true) (hout : R.cleanEntries out = true) : R.cleanEntries (Dict.setEntries k v out) = true := by
  refine cleanEntries_iff.mpr fun e he => ?_
  rcases Dict.mem_setEntries he with rfl | he
  · exact ⟨hk, hv⟩
  · exact cleanEntries_iff.mp hout e he

mutual
theorem clean_scrub : ∀ v, R.clean (R.scrub v) = true
  | .str s => by
    rw [scrub]
    split
    · exact clean_str.mpr (Or.inl rfl)
    · next h => exact clean_str.mpr (Or.inr (Bool.eq_false_iff.mpr h))
  | .obj entries => cleanEntries_sanitizeFrom entries [] rfl
  | .arr items => cleanItems_scrubItems items
  | .null => rfl
  | .bool _ => rfl
  | .int _ => rfl
  | .float _ => rfl
  | .other _ => rfl

theorem cleanItems_scrubItems : ∀ items, R.cleanItems (R.scrubItems items) = true
  | [] => rfl
  | v :: items => Bool.and_eq_true_iff.mpr ⟨clean_scrub v, cleanItems_scrubItems items⟩

theorem cleanEntries_sanitizeFrom : ∀ full out, R.cleanEntries out = true → R.cleanEntries (R.sanitizeFrom out full) = true
  | [], _, hout => hout
  | (k, v) :: full, out, hout => by
    have hv := clean_scrub v
    rw [sanitizeFrom]
    split
    · exact cleanEntries_sanitizeFrom full _ (cleanEntries_setEntries (isSensitiveKey_hash k) (clean_hashOf v)
        (cleanEntries_setEntries (isSensitiveKey_present k) rfl hout))
    · next hk => exact cleanEntries_sanitizeFrom full _ (cleanEntries_setEntries (Bool.eq_false_iff.mpr hk) hv hout)
end

theorem clean_sanitizeMapping (full : Fields) : R.clean (.obj (R.sanitizeMapping full)) = true :=
  cleanEntries_sanitizeFrom full [] rfl

/-! ### What stays hidden -/

variable (R)

mutual
/-- Values that differ only in what stands under sensitive keys, where its hash is the same, and so is whether it is given. -/
inductive Masked : Json String → Json String → Prop
  | same (v : Json String) : Masked v v
  | arr {items items' : List (Json String)} : MaskedItems items items' → Masked (.arr items) (.arr items')
  | obj {entries entries' : Fields} : MaskedEntries entries entries' → Masked (.obj entries) (.obj entries')

inductive MaskedItems : List (Json String) → List (Json String) → Prop
  | nil : MaskedItems [] []
  | cons {v w : Json String} {items items' : List (Json String)} :
    Masked v w → MaskedItems items items' → MaskedItems (v :: items) (w :: items')

inductive MaskedEntries : Fields → Fields → Prop
  | nil : MaskedEntries [] []
  | hidden {k : String} {v w : Json String} {entries entries' : Fields} : R.isSensitiveKey k = true → isGiven v = isGiven w →
    R.hashOf v = R.hashOf w → MaskedEntries entries entries' → MaskedEntries ((k, v) :: entries) ((k, w) :: entries')
  | shown {k : String} {v w : Json String} {entries entries' : Fields} : R.isSensitiveKey k = false → Masked v w →
    MaskedEntries entries entries' → MaskedEntries ((k, v) :: entries) ((k, w) :: entries')
end

variable {R}

mutual
theorem Masked.scrub_eq : ∀ {v w : Json String}, Masked R v w → R.scrub v = R.scrub w
  | _, _, .same _ => rfl
  | _, _, .arr h => congrArg Json.arr h.scrubItems_eq
  | _, _, .obj h => congrArg Json.obj (h.sanitizeFrom_eq [])

theorem MaskedItems.scrubItems_eq : ∀ {items items' : List (Json String)}, MaskedItems R items items' →
    R.scrubItems items = R.scrubItems items'
  | _, _, .nil => rfl
  | _, _, .cons hv h => congrArg₂ List.cons hv.scrub_eq h.scrubItems_eq

theorem MaskedEntries.sanitizeFrom_eq : ∀ {entries entries' : Fields}, MaskedEntries R entries entries' → ∀ out,
    R.sanitizeFrom out entries = R.sanitizeFrom out entries'
  | _, _, .nil, _ => rfl
  | _, _, .hidden hk hgiven hhash h, out => by
    rw [sanitizeFrom, sanitizeFrom, if_pos hk, if_pos hk, hgiven, hhash]
    exact h.sanitizeFrom_eq _
  | _, _, .shown hk hv h, out => by
    rw [sanitizeFrom, sanitizeFrom, hk, hv.scrub_eq]
    exact h.sanitizeFrom_eq _
end

end Redactor
end CestaPlan.History
