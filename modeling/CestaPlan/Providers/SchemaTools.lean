import CestaPlan.Library.Json
import CestaPlan.Library.Overlays
import Mathlib.Data.String.Basic

/-! Structures of payloads (`ingestion/providers/schema_tools.py`): how they are read off, merged, compared and filled in again. -/

namespace CestaPlan.Providers
open Overlays

/-- The type tree of a payload. The fields of an object stand in the order of their keys. Where there is nothing, as in the array
    without items, the source has `None`. -/
inductive Structure where
  | scalar (name : String)
  | array (element : Option Structure)
  | object (fields : List (String × Structure))

namespace Structure

mutual
def decEq : (a b : Structure) → Decidable (a = b)
  | .scalar s, .scalar t => decidable_of_iff (s = t) (by rw [scalar.injEq])
  | .array x, .array y => have := decEqElement x y; decidable_of_iff (x = y) (by rw [array.injEq])
  | .object fs, .object gs => have := decEqFields fs gs; decidable_of_iff (fs = gs) (by rw [object.injEq])
  | .scalar _, .array _ | .scalar _, .object _ | .array _, .scalar _ | .array _, .object _ | .object _, .scalar _ | .object _, .array _ =>
    isFalse (by rintro ⟨⟩)

def decEqElement : (x y : Option Structure) → Decidable (x = y)
  | none, none => isTrue rfl
  | some a, some b => have := decEq a b; decidable_of_iff (a = b) (by rw [Option.some.injEq])
  | none, some _ | some _, none => isFalse (by rintro ⟨⟩)

def decEqFields : (fs gs : List (String × Structure)) → Decidable (fs = gs)
  | [], [] => isTrue rfl
  | (k, a) :: fs, (l, b) :: gs =>
    have := decEq a b
    have := decEqFields fs gs
    decidable_of_iff (k = l ∧ a = b ∧ fs = gs) (by rw [List.cons.injEq, Prod.mk.injEq, and_assoc])
  | [], _ :: _ | _ :: _, [] => isFalse (by rintro ⟨⟩)
end

instance : DecidableEq Structure := decEq

end Structure

open Structure

/-! ### Reading off and merging -/

/-- `_type_name` -/
def typeName : Json String → String
  | .null => "null"
  | .bool _ => "bool"
  | .int _ => "int"
  | .float _ => "float"
  | .str _ => "str"
  | .arr _ => "array"
  | .obj _ => "object"
  | .other _ => "unknown"

/-- `"|".join(sorted({s, t}))`, of two names -/
def alternative (s t : String) : String := if s < t then s ++ "|" ++ t else t ++ "|" ++ s

mutual
/-- `_merge` of two structures -/
def mergeStructures (a b : Structure) : Structure :=
  if a = b then a else match a, b with
    | .object as, .object bs => .object (mergeFields as bs)
    | .array x, .array y => .array (merge x y)
    | .scalar s, .scalar t => .scalar (alternative s t)
    -- A name and what is no name: the name stays.
    | .scalar s, _ => .scalar s
    | _, .scalar t => .scalar t
    | a, _ => a

/-- `_merge` -/
def merge : Option Structure → Option Structure → Option Structure
  | none, b => b
  | some a, none => some a
  | some a, some b => some (mergeStructures a b)

/-- `{k: _merge(a.get(k), b.get(k)) for k in sorted(set(a) | set(b))}` -/
def mergeFields : List (String × Structure) → List (String × Structure) → List (String × Structure)
  | [], bs => bs
  | (k, a) :: as, bs => insertEntry k (match bs.lookup k with | none => a | some b => mergeStructures a b) (mergeFields as bs)
end

mutual
def canonicalStructure : Json String → Structure
  | .arr items => .array (canonicalItems none items)
  | .obj entries => .object (canonicalEntries entries)
  | v => .scalar (typeName v)

def canonicalItems (merged : Option Structure) : List (Json String) → Option Structure
  | [] => merged
  | item :: items => canonicalItems (merge merged (some (canonicalStructure item))) items

def canonicalEntries : List (String × Json String) → List (String × Structure)
  | [] => []
  | (k, v) :: entries => insertEntry k (canonicalStructure v) (canonicalEntries entries)
end

def mergeSamples (samples : List (Json String)) : Option Structure :=
  samples.foldl (fun merged sample => merge merged (some (canonicalStructure sample))) none

/-! ### Fingerprints -/

mutual
def Structure.json : Structure → Json String
  | .scalar name => .str name
  | .array element => .arr [.str "array", elementJson element]
  | .object fields => .obj (fieldsJson fields)

def elementJson : Option Structure → Json String
  | none => .null
  | some s => s.json

def fieldsJson : List (String × Structure) → List (String × Json String)
  | [] => []
  | (k, s) :: fields => (k, s.json) :: fieldsJson fields
end

/-- `json.dumps` with `separators=(",", ":")` -/
def compact : Json.Form String Char := { Json.plain with itemSeparator := ",", keySeparator := ":" }

def schemaFingerprint {H : Type} (sha256 : List Char → H) (structure' : Option Structure) : H :=
  sha256 (Json.dumps compact (elementJson structure'))

/-! ### Drift -/

inductive ChangeKind where
  | removedField
  | addedField
  /-- The text names the two structures. -/
  | typeChanged (old new : Option Structure)
deriving DecidableEq

structure Change where
  path : String
  change : ChangeKind
deriving DecidableEq

/-- `f"{path}.{key}" if path else key` -/
def here (path key : String) : String := if path = "" then key else path ++ "." ++ key

def typeChanged (old new : Option Structure) (path : String) : List Change :=
  if old = new then [] else [⟨if path = "" then "<root>" else path, .typeChanged old new⟩]

mutual
/-- `diff_structures` of two structures -/
def diffOf : Structure → Structure → String → List Change
  | .object olds, .object news, path => (diffFields olds news path).flatMap Prod.snd
  | .array old, .array new, path => diffStructures old new (path ++ "[]")
  | old, new, path => typeChanged (some old) (some new) path

def diffStructures : Option Structure → Option Structure → String → List Change
  | some old, some new, path => diffOf old new path
  | old, new, path => typeChanged old new path

/-- The changes of each key of either object, by the key. -/
def diffFields : List (String × Structure) → List (String × Structure) → String → List (String × List Change)
  | [], news, path => news.map fun f => (f.1, [⟨here path f.1, .addedField⟩])
  | (k, old) :: olds, news, path => insertEntry k (match news.lookup k with
      | none => [⟨here path k, .removedField⟩]
      | some new => diffOf old new (here path k)) (diffFields olds news path)
end

inductive Drift where
  | unchanged | additiveCompatible | reviewRequired | breaking
deriving DecidableEq

def ChangeKind.isTypeChanged : ChangeKind → Bool
  | .typeChanged _ _ => true
  | _ => false

def classifyDrift (changes : List Change) : Drift :=
  if changes = [] then .unchanged
  else if changes.any (·.change.isTypeChanged) then .breaking
  else if changes.any (·.change = .removedField) then .breaking
  else if changes.all (·.change = .addedField) then .additiveCompatible
  else .reviewRequired

/-! ### Synthetic payloads -/

def fake : List (String × Json String) :=
  [("str", .str "SYNTHETIC"), ("int", .int 0), ("float", .float "0.0"), ("bool", .bool false), ("null", .null)]

/-- `structure.split("|")[0]` -/
def firstAlternative (name : String) : String :=
  if '|' ∈ name.toList then String.ofList (name.toList.takeWhile (· ≠ '|')) else name

mutual
/-- `synthesize_from_structure` of a structure -/
def Structure.synthesize : Structure → Json String
  | .scalar name => (fake.lookup (firstAlternative name)).getD (.str "SYNTHETIC")
  | .array element => .arr [synthesizeFromStructure element]
  | .object fields => .obj (synthesizeFields fields)

def synthesizeFromStructure : Option Structure → Json String
  | none => .str "SYNTHETIC"
  | some s => s.synthesize

def synthesizeFields : List (String × Structure) → List (String × Json String)
  | [] => []
  | (k, s) :: fields => (k, s.synthesize) :: synthesizeFields fields
end

end CestaPlan.Providers
