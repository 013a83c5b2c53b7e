import CestaPlan.Library.Updates
import Mathlib.Algebra.BigOperators.Group.List.Basic
import Mathlib.Tactic.Abel

/-! Rows that absorb the amounts of other rows, which are deleted and logged, and the undoing of the log. -/

namespace CestaPlan.Absorbing
open Updates

/-- An amount of the rows of a table, which have an id besides. -/
structure Amount (α ι q : Type) [AddCommGroup q] where
  id : α → ι
  get : α → q
  add : q → α → α
  id_add : ∀ a x, id (add a x) = id x
  add_zero : ∀ x, add 0 x = x
  add_add : ∀ a b x, add a (add b x) = add (b + a) x

namespace Amount
variable {α ι q : Type} [AddCommGroup q] [DecidableEq ι]

/-- The row of an id gives its amount to the row that is kept, and is deleted. -/
def absorb (m : Amount α ι q) (kept : ι) (row : α) (rows : List α) : List α :=
  (updateAt m.id kept (m.add (m.get row)) rows).filter (m.id · ≠ m.id row)

/-- The amounts that a row has absorbed. -/
def absorbed (m : Amount α ι q) (log : List (α × ι)) (i : ι) : List q := (log.filter (·.2 = i)).map fun e => m.get e.1

def giveBackRow (m : Amount α ι q) (log : List (α × ι)) (x : α) : α :=
  if m.absorbed log (m.id x) = [] then x else m.add (-(m.absorbed log (m.id x)).sum) x

/-- Every row gives back what it has absorbed. -/
def giveBack (m : Amount α ι q) (log : List (α × ι)) (rows : List α) : List α := rows.map (m.giveBackRow log)

variable {m : Amount α ι q} {log : List (α × ι)} {rows origin : List α} {row x : α} {kept : ι}

theorem giveBackRow_eq : m.giveBackRow log x = m.add (-(m.absorbed log (m.id x)).sum) x := by
  unfold giveBackRow
  split
  · next h => simp [h, m.add_zero]
  · rfl

/-- What the rows give back and the deleted rows are the rows of the origin. No row is deleted after it has absorbed another
    one. -/
structure Absorbed (m : Amount α ι q) (origin rows : List α) (log : List (α × ι)) : Prop where
  perm : (m.giveBack log rows ++ log.map Prod.fst).Perm origin
  nodup : (origin.map m.id).Nodup

@[simp] theorem id_giveBackRow : m.id (m.giveBackRow log x) = m.id x := by
  rw [giveBackRow_eq, m.id_add]

theorem absorbed_refl (hids : (origin.map m.id).Nodup) : m.Absorbed origin origin [] where
  perm := by
    have hsame : m.giveBack [] origin = origin := (List.map_congr_left fun x _ => if_pos rfl).trans (List.map_id' origin)
    rw [hsame, List.map_nil, List.append_nil]
  nodup := hids

theorem Absorbed.ids (h : m.Absorbed origin rows log) :
    (rows.map m.id ++ log.map fun e => m.id e.1).Perm (origin.map m.id) := by
  have hperm := h.perm.map m.id
  rw [List.map_append, List.map_map, giveBack, List.map_map] at hperm
  simpa [Function.comp_def] using hperm

theorem absorbed_concat {i : ι} : m.absorbed (log ++ [(row, kept)]) i =
    m.absorbed log i ++ if kept = i then [m.get row] else [] := by
  unfold absorbed
  rw [List.filter_append, List.map_append]
  by_cases h : kept = i <;> simp [h]

theorem giveBackRow_concat : m.giveBackRow (log ++ [(row, kept)]) (if m.id x = kept then m.add (m.get row) x else x) =
    m.giveBackRow log x := by
  rw [giveBackRow_eq, giveBackRow_eq, apply_ite m.id, m.id_add, ite_self, absorbed_concat]
  split
  · next h =>
    rw [if_pos h.symm, m.add_add, List.sum_append, List.sum_singleton]
    congr 1
    abel
  · next h => rw [if_neg (Ne.symm h), List.append_nil]

theorem Absorbed.absorb (h : m.Absorbed origin rows log) (hrow : row ∈ rows) (hfree : m.id row ∉ log.map Prod.snd) :
    m.Absorbed origin (m.absorb kept row rows) (log ++ [(row, kept)]) where
  perm := by
    have hids : (rows.map m.id).Nodup := (h.ids.nodup_iff.mpr h.nodup).sublist (List.sublist_append_left _ _)
    have hgive : m.giveBack (log ++ [(row, kept)]) (m.absorb kept row rows) =
        (rows.filter (m.id · ≠ m.id row)).map (m.giveBackRow log) := by
      rw [Amount.absorb, updateAt, List.filter_map, giveBack, List.map_map]
      have hsame : ((m.id · ≠ m.id row) : α → Bool) ∘ (fun x => if m.id x = kept then m.add (m.get row) x else x) =
          (m.id · ≠ m.id row) := by
        funext x
        simp [apply_ite m.id, m.id_add]
      rw [hsame]
      exact List.map_congr_left fun x _ => giveBackRow_concat
    have hsame : m.giveBackRow log row = row := by
      have hnone : m.absorbed log (m.id row) = [] := by
        refine List.map_eq_nil_iff.mpr (List.filter_eq_nil_iff.mpr fun e he heq => hfree ?_)
        exact List.mem_map.mpr ⟨e, he, of_decide_eq_true heq⟩
      exact if_pos hnone
    have hperm := (perm_cons_filter hids hrow).map (m.giveBackRow log)
    rw [List.map_cons, hsame] at hperm
    rw [hgive, List.map_append, ← List.append_assoc]
    refine (List.perm_append_singleton row _).trans (List.Perm.trans ?_ h.perm)
    rw [← List.cons_append]
    exact hperm.symm.append_right _
  nodup := h.nodup

end Amount

end CestaPlan.Absorbing
