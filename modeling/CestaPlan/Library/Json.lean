import CestaPlan.Library.Dict
import Mathlib.Data.List.Sort

/-! JSON values as Python reads and writes them. The strings are of any type: those of a database hold characters, those that are
    read from a text may also hold halves of a surrogate pair. -/

namespace CestaPlan

/-- A value that Python writes as JSON. The entries of an object have distinct keys. A float is known by its `repr`, and a value that
    JSON has no words for by its `str`. -/
inductive Json (σ : Type) where
  | null
  | bool (b : Bool)
  | int (n : ℤ)
  | float (repr : String)
  | str (s : σ)
  | other (text : σ)
  | arr (items : List (Json σ))
  | obj (entries : List (σ × Json σ))

namespace Json
variable {σ α : Type}

/-- A value, or nothing. -/
def orNull (v : Option (Json σ)) : Json σ := v.getD .null

def isNull : Json σ → Bool
  | .null => true
  | _ => false

/-- `value[k]` of an object that has it. -/
def field [BEq σ] (k : σ) : Json σ → Json σ
  | .obj entries => orNull (entries.lookup k)
  | _ => .null

def items : Json σ → List (Json σ)
  | .arr items => items
  | _ => []

mutual
/-- The value is one that JSON has words for. -/
def isJson : Json σ → Bool
  | .other _ => false
  | .arr items => areJson items
  | .obj entries => entriesAreJson entries
  | _ => true

def areJson : List (Json σ) → Bool
  | [] => true
  | v :: items => isJson v && areJson items

def entriesAreJson : List (σ × Json σ) → Bool
  | [] => true
  | (_, v) :: entries => isJson v && entriesAreJson entries
end

/-! ### Texts -/

/-- How `json.dumps` writes: strings, the texts of the grammar, and what stands between items and after a key. -/
structure Form (σ α : Type) where
  quote : σ → List α
  text : String → List α
  itemSeparator : String := ", "
  keySeparator : String := ": "

variable [LE σ] [DecidableLE σ]

mutual
/-- `json.dumps(value, sort_keys=True, default=str)` -/
def dumps (form : Form σ α) : Json σ → List α
  | .null => form.text "null"
  | .bool b => form.text (if b then "true" else "false")
  | .int n => form.text (toString n)
  | .float repr => form.text repr
  | .str s | .other s => form.quote s
  | .arr items => form.text "[" ++ (form.text form.itemSeparator).intercalate (dumpsItems form items) ++ form.text "]"
  | .obj entries => form.text "\x7b" ++ (form.text form.itemSeparator).intercalate
      (((dumpsEntries form entries).insertionSort fun a b => a.1 ≤ b.1).map fun e =>
        form.quote e.1 ++ form.text form.keySeparator ++ e.2) ++ form.text "\x7d"

def dumpsItems (form : Form σ α) : List (Json σ) → List (List α)
  | [] => []
  | item :: items => dumps form item :: dumpsItems form items

/-- The keys, each with the text of its value. -/
def dumpsEntries (form : Form σ α) : List (σ × Json σ) → List (σ × List α)
  | [] => []
  | (key, value) :: entries => (key, dumps form value) :: dumpsEntries form entries
end

/-- The characters that JSON escapes by a letter. -/
def shortEscapes : List (ℕ × Char) :=
  [(0x22, '"'), (0x5c, '\\'), (0x0a, 'n'), (0x0d, 'r'), (0x09, 't'), (0x0c, 'f'), (0x08, 'b')]

def hex4 (n : ℕ) : List Char := [n / 4096 % 16, n / 256 % 16, n / 16 % 16, n % 16].map Nat.digitChar

/-- `\uXXXX` -/
def unicodeEscape (n : ℕ) : List Char := '\\' :: 'u' :: hex4 n

/-- The escape of a character, where it has one. Beyond the first plane there are two, of a surrogate pair. -/
def escape? (ascii : Bool) (n : ℕ) : Option (List Char) :=
  match shortEscapes.lookup n with
  | some letter => some ['\\', letter]
  | none =>
    if n < 0x20 then some (unicodeEscape n)
    else if ascii && 0x7e < n then
      if n < 0x10000 then some (unicodeEscape n)
      else some (unicodeEscape (0xd800 + (n - 0x10000) / 0x400) ++ unicodeEscape (0xdc00 + (n - 0x10000) % 0x400))
    else none

def escaped (c : Char) : List Char := (escape? true c.toNat).getD [c]

/-- The form of `json.dumps` where nothing else is asked for. -/
def plain : Form String Char where
  quote s := '"' :: (s.toList.flatMap escaped ++ ['"'])
  text := String.toList

mutual
/-- What is read from the text of a value. -/
def reread : Json σ → Json σ
  | .other text => .str text
  | .arr items => .arr (rereadItems items)
  | .obj entries => .obj (rereadEntries entries)
  | value => value

def rereadItems : List (Json σ) → List (Json σ)
  | [] => []
  | item :: items => reread item :: rereadItems items

def rereadEntries : List (σ × Json σ) → List (σ × Json σ)
  | [] => []
  | (key, value) :: entries => (key, reread value) :: rereadEntries entries
end

end Json
end CestaPlan
