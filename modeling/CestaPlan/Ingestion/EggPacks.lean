import CestaPlan.Engine.Runtime
import CestaPlan.Library.Regex

/-! How many eggs a package holds, read off its name (`egg_pack_size` in `ingestion/normalization.py`). -/

namespace CestaPlan.Ingestion
open Regex Regex.Alphabet

section Patterns
variable (u : Alphabet)

/-- `huevos?` -/
def eggs : Pattern := .seq (u.literal "huevo") (.optional (u.literal "s"))

/-- `_EGG_NAME_RE` -/
def eggName : Pattern := .sequence [.start, spaces, eggs u, .boundary u.word]

/-- `_EGG_WORD_RE` -/
def eggWord : Pattern := .sequence [.boundary u.word, eggs u, .boundary u.word]

/-- `_DOCENA_RE` -/
def docena : Pattern :=
  .sequence [.boundary u.word, .group 1 (.alt (.sequence [u.literal "media", someSpaces, u.literal "docena"]) (u.literal "docena")),
    .boundary u.word]

/-- `_COUNT_RE` -/
def eggCount : Pattern :=
  .sequence [.boundary u.word, .group 1 (.many u.isDigit 1 (some 3)), spaces,
    .choice (u.literal "ud") [u.literal "uds", u.literal "u", u.literal "unidad", u.literal "unidades", eggs u], .boundary u.word]

end Patterns

section Packs
variable (py : Engine.Runtime) (u : Alphabet)

/-- The standard package is a dozen. -/
def eggPackSize (name : String) : Option ℕ :=
  let text := name.toList
  if name = "" then none
  else if (search (eggName u) text).isNone && !((search (eggWord u) text).isSome && (search (docena u) text).isSome) then none
  else match (search (docena u) text).bind (·.group? 1) with
    | some t => if "media".toList.isPrefixOf (py.lower (String.ofList t)).toList then some 6 else some 12
    | none => match (search (eggCount u) text).bind (·.group? 1) with
      | some t => if 0 < u.number t then some (u.number t) else some 12
      | none => some 12

theorem eggPackSize_bounds {name : String} {n : ℕ} (h : eggPackSize py u name = some n) : 0 < n ∧ n < 1000 := by
  have hcount : ∀ t, (search (eggCount u) name.toList).bind (·.group? 1) = some t → u.number t < 1000 := by
    intro t ht
    obtain ⟨c, hc, ht⟩ := Option.bind_eq_some_iff.mp ht
    obtain ⟨q, hq, hreads⟩ := reads_of_group? hc ht
    obtain rfl : q = .many u.isDigit 1 (some 3) := by simpa [eggCount, eggs] using hq
    calc u.number t < 10 ^ t.length := u.number_lt t
      _ ≤ 10 ^ 3 := Nat.pow_le_pow_right (by decide) (hreads.many.2.2 3 rfl)
  unfold eggPackSize at h
  dsimp only at h
  split_ifs at h
  · split at h
    · split at h <;> cases h <;> decide
    · split at h
      · next t ht =>
        split at h
        · next hpos =>
          cases h
          exact ⟨hpos, hcount t ht⟩
        · cases h
          decide
      · cases h
        decide

end Packs

example : eggPackSize (Engine.Runtime.replay []) .ascii "Huevos L 10 ud" = some 10 := by decide +kernel

end CestaPlan.Ingestion
