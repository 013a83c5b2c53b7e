import CestaPlan.Library.Text
import Mathlib.Algebra.Order.Field.Rat
import Mathlib.Tactic.Positivity

/-! Regular expressions as a backtracking matcher runs them.

    A pattern lists its matches at a place of the text in the order in which the matcher tries them. A search takes the first match at
    the first place that has one, with the groups it captured. What a group holds was read by the pattern of the group. -/

namespace CestaPlan.Regex

/-- A place in a text: what was read, the last character first, what is left, and the groups, the last one first. -/
structure Cursor where
  before : List Char
  rest : List Char
  groups : List (ℕ × List Char)

namespace Cursor

def advance (c : Cursor) (k : ℕ) : Cursor := { c with before := (c.rest.take k).reverse ++ c.before, rest := c.rest.drop k }

def start (text : List Char) (k : ℕ) : Cursor where
  before := (text.take k).reverse
  rest := text.drop k
  groups := []

/-- `m.group(i)` -/
def group? (c : Cursor) (i : ℕ) : Option (List Char) := c.groups.lookup i

end Cursor

inductive Pattern where
  /-- How many characters to read, first choice first, given what was read and what is left. -/
  | step (lengths : List Char → List Char → List ℕ)
  | seq (p q : Pattern)
  | alt (p q : Pattern)
  | group (i : ℕ) (p : Pattern)
  /-- `(?!p)` -/
  | notAhead (p : Pattern)

namespace Pattern

def empty : Pattern := .step fun _ _ => [0]

def char (accepts : Char → Bool) : Pattern := .step fun _ rest => if rest.head?.any accepts then [1] else []

/-- Characters of one kind, as many as there are, and then fewer. -/
def many (accepts : Char → Bool) (least : ℕ) (most : Option ℕ) : Pattern := .step fun _ rest =>
  let run := (rest.takeWhile accepts).length
  ((List.range (most.elim run (min run) + 1)).filter (least ≤ ·)).reverse

/-- `\b` -/
def boundary (word : Char → Bool) : Pattern :=
  .step fun before rest => if before.head?.any word = rest.head?.any word then [] else [0]

/-- `^` -/
def start : Pattern := .step fun before _ => if before = [] then [0] else []

/-- `$`, which a last line break may follow -/
def stop : Pattern := .step fun _ rest => if rest = [] ∨ rest = ['\n'] then [0] else []

/-- `p?` -/
def optional (p : Pattern) : Pattern := .alt p empty

def sequence (ps : List Pattern) : Pattern := ps.foldr .seq empty

def choice (p : Pattern) (ps : List Pattern) : Pattern := ps.foldl .alt p

/-- The patterns of a group. -/
def inside (i : ℕ) : Pattern → List Pattern
  | .step _ => []
  | .seq p q => p.inside i ++ q.inside i
  | .alt p q => p.inside i ++ q.inside i
  | .group j p => (if i = j then [p] else []) ++ p.inside i
  | .notAhead _ => []

section Groups
variable (i : ℕ) (accepts : Char → Bool) (least : ℕ) (most : Option ℕ) (p : Pattern) (ps : List Pattern)

@[simp] theorem inside_empty : empty.inside i = [] := rfl

@[simp] theorem inside_char : (char accepts).inside i = [] := rfl

@[simp] theorem inside_many : (many accepts least most).inside i = [] := rfl

@[simp] theorem inside_boundary : (boundary accepts).inside i = [] := rfl

@[simp] theorem inside_start : start.inside i = [] := rfl

@[simp] theorem inside_group (j : ℕ) : (group j p).inside i = (if i = j then [p] else []) ++ p.inside i := rfl

@[simp] theorem inside_alt (q : Pattern) : (alt p q).inside i = p.inside i ++ q.inside i := rfl

@[simp] theorem inside_seq (q : Pattern) : (seq p q).inside i = p.inside i ++ q.inside i := rfl

@[simp] theorem inside_optional : (optional p).inside i = p.inside i := List.append_nil _

@[simp] theorem inside_sequence : (sequence ps).inside i = ps.flatMap (inside i) := by
  induction ps with
  | nil => rfl
  | cons p ps ih => rw [List.flatMap_cons, ← ih]; rfl

@[simp] theorem inside_choice : (choice p ps).inside i = p.inside i ++ ps.flatMap (inside i) := by
  unfold choice
  induction ps generalizing p with
  | nil => exact (List.append_nil _).symm
  | cons q ps ih => rw [List.foldl_cons, ih, List.flatMap_cons, inside_alt, List.append_assoc]

end Groups
end Pattern

/-- The matches of a pattern at a place, in the order of the backtracking. -/
def run : Pattern → Cursor → List Cursor
  | .step lengths, c => (lengths c.before c.rest).map c.advance
  | .seq p q, c => (run p c).flatMap (run q)
  | .alt p q, c => run p c ++ run q c
  | .group i p, c => (run p c).map fun c' =>
      { c' with groups := (i, c.rest.take (c.rest.length - c'.rest.length)) :: c'.groups }
  | .notAhead p, c => if (run p c).isEmpty then [c] else []

/-- `re.search` -/
def search (p : Pattern) (text : List Char) : Option Cursor :=
  (List.range (text.length + 1)).findSome? fun k => (run p (Cursor.start text k)).head?

/-- `re.match` -/
def prefixMatch (p : Pattern) (text : List Char) : Option Cursor := (run p (Cursor.start text 0)).head?

/-- A text that the pattern reads somewhere. -/
def Reads (p : Pattern) (t : List Char) : Prop := ∃ c c', c' ∈ run p c ∧ c.rest = t ++ c'.rest

section Runs
variable {p q : Pattern} {c c' : Cursor} {i : ℕ} {t text : List Char} {accepts : Char → Bool} {least : ℕ} {most : Option ℕ}

theorem run_spec (h : c' ∈ run p c) : ∃ t new, c.rest = t ++ c'.rest ∧ c'.groups = new ++ c.groups ∧
    ∀ g ∈ new, ∃ q ∈ p.inside g.1, Reads q g.2 := by
  induction p generalizing c c' with
  | step lengths =>
    obtain ⟨k, -, rfl⟩ := List.mem_map.mp h
    exact ⟨_, [], (List.take_append_drop k c.rest).symm, rfl, by simp⟩
  | seq p q ihp ihq =>
    obtain ⟨d, hd, hc⟩ := List.mem_flatMap.mp h
    obtain ⟨t, new, ht, hnew, hread⟩ := ihp hd
    obtain ⟨t', new', ht', hnew', hread'⟩ := ihq hc
    refine ⟨t ++ t', new' ++ new, by rw [ht, ht', List.append_assoc], by rw [hnew', hnew, List.append_assoc], fun g hg => ?_⟩
    rcases List.mem_append.mp hg with hg | hg
    · obtain ⟨r, hr, hreads⟩ := hread' g hg
      exact ⟨r, List.mem_append_right _ hr, hreads⟩
    · obtain ⟨r, hr, hreads⟩ := hread g hg
      exact ⟨r, List.mem_append_left _ hr, hreads⟩
  | alt p q ihp ihq =>
    rcases List.mem_append.mp h with h | h
    · obtain ⟨t, new, ht, hnew, hread⟩ := ihp h
      refine ⟨t, new, ht, hnew, fun g hg => ?_⟩
      obtain ⟨r, hr, hreads⟩ := hread g hg
      exact ⟨r, List.mem_append_left _ hr, hreads⟩
    · obtain ⟨t, new, ht, hnew, hread⟩ := ihq h
      refine ⟨t, new, ht, hnew, fun g hg => ?_⟩
      obtain ⟨r, hr, hreads⟩ := hread g hg
      exact ⟨r, List.mem_append_right _ hr, hreads⟩
  | group j p ih =>
    obtain ⟨d, hd, rfl⟩ := List.mem_map.mp h
    obtain ⟨t, new, ht, hnew, hread⟩ := ih hd
    refine ⟨t, (j, t) :: new, ht, ?_, List.forall_mem_cons.mpr ⟨⟨p, ?_, c, d, hd, ht⟩, fun g hg => ?_⟩⟩
    · show (j, _) :: d.groups = _
      rw [ht, List.length_append, Nat.add_sub_cancel_right, List.take_left, hnew, List.cons_append]
    · exact List.mem_append_left _ (by rw [if_pos rfl]; exact List.mem_singleton_self p)
    · obtain ⟨r, hr, hreads⟩ := hread g hg
      exact ⟨r, List.mem_append_right _ hr, hreads⟩
  | notAhead p _ =>
    rw [run] at h
    split at h
    · obtain rfl := List.mem_singleton.mp h
      exact ⟨[], [], rfl, rfl, by simp⟩
    · cases h

theorem reads_of_group? (h : search p text = some c) (ht : c.group? i = some t) : ∃ q ∈ p.inside i, Reads q t := by
  obtain ⟨k, -, hk⟩ := List.exists_of_findSome?_eq_some h
  obtain ⟨-, new, -, hnew, hread⟩ := run_spec (List.mem_of_mem_head? hk)
  have hmem : (i, t) ∈ c.groups := by
    obtain ⟨before, after, heq, -⟩ := List.lookup_eq_some_iff.mp ht
    exact heq ▸ List.mem_append_right _ List.mem_cons_self
  rw [hnew, Cursor.start, List.append_nil] at hmem
  exact hread _ hmem

/-! ### What the patterns read -/

theorem Reads.seq (h : Reads (.seq p q) t) : ∃ a b, t = a ++ b ∧ Reads p a ∧ Reads q b := by
  obtain ⟨c, c', hc', hrest⟩ := h
  obtain ⟨d, hd, hc⟩ := List.mem_flatMap.mp hc'
  obtain ⟨a, -, ha, -⟩ := run_spec hd
  obtain ⟨b, -, hb, -⟩ := run_spec hc
  refine ⟨a, b, ?_, ⟨c, d, hd, ha⟩, d, c', hc, hb⟩
  rw [ha, hb, ← List.append_assoc] at hrest
  exact (List.append_cancel_right hrest).symm

theorem Reads.alt (h : Reads (.alt p q) t) : Reads p t ∨ Reads q t := by
  obtain ⟨c, c', hc', hrest⟩ := h
  exact (List.mem_append.mp hc').imp (fun h => ⟨c, c', h, hrest⟩) fun h => ⟨c, c', h, hrest⟩

theorem Reads.optional (h : Reads (.optional p) t) : Reads p t ∨ t = [] := by
  rcases h.alt with h | ⟨c, c', hc', hrest⟩
  · exact Or.inl h
  · obtain rfl := List.mem_singleton.mp hc'
    refine Or.inr ?_
    have hnil : [] ++ c.rest = t ++ c.rest := hrest
    exact (List.append_cancel_right hnil).symm

theorem Reads.choice {ps : List Pattern} (h : Reads (.choice p ps) t) : ∃ q ∈ p :: ps, Reads q t := by
  induction ps generalizing p with
  | nil => exact ⟨p, List.mem_singleton_self p, h⟩
  | cons q ps ih =>
    obtain ⟨r, hr, hreads⟩ := ih h
    rcases List.mem_cons.mp hr with rfl | hr
    · rcases hreads.alt with hreads | hreads
      · exact ⟨p, List.mem_cons_self, hreads⟩
      · exact ⟨q, List.mem_cons_of_mem _ List.mem_cons_self, hreads⟩
    · exact ⟨r, List.mem_cons_of_mem _ (List.mem_cons_of_mem _ hr), hreads⟩

theorem exists_reads_of_search (h : (search p text).isSome = true) : ∃ t, t <:+: text ∧ Reads p t := by
  obtain ⟨c', hc'⟩ := Option.isSome_iff_exists.mp h
  obtain ⟨k, -, hk⟩ := List.exists_of_findSome?_eq_some hc'
  have hrun := List.mem_of_mem_head? hk
  obtain ⟨t, -, ht, -⟩ := run_spec hrun
  refine ⟨t, ⟨text.take k, c'.rest, ?_⟩, Cursor.start text k, c', hrun, ht⟩
  have hrest : text.drop k = t ++ c'.rest := ht
  rw [List.append_assoc, ← hrest, List.take_append_drop]

theorem Reads.step {lengths : List Char → List Char → List ℕ} (h : Reads (.step lengths) t) :
    ∃ before rest k, k ∈ lengths before rest ∧ t = rest.take k := by
  obtain ⟨c, c', hc', hrest⟩ := h
  obtain ⟨k, hk, rfl⟩ := List.mem_map.mp hc'
  refine ⟨c.before, c.rest, k, hk, @List.append_cancel_right _ t (c.rest.drop k) (c.rest.take k) ?_⟩
  rw [List.take_append_drop]
  exact hrest.symm

theorem Reads.empty (h : Reads .empty t) : t = [] := by
  obtain ⟨before, rest, k, hk, rfl⟩ := h.step
  rw [List.mem_singleton.mp hk, List.take_zero]

theorem Reads.char (h : Reads (.char accepts) t) : ∃ a, t = [a] ∧ accepts a = true := by
  obtain ⟨before, rest, k, hk, rfl⟩ := h.step
  split at hk
  · next hany =>
    obtain ⟨a, ha, haccepts⟩ := (Option.any_eq_true _ _).mp hany
    obtain ⟨tail, rfl⟩ := List.head?_eq_some_iff.mp ha
    obtain rfl := List.mem_singleton.mp hk
    exact ⟨a, rfl, haccepts⟩
  · cases hk

theorem Reads.many (h : Reads (.many accepts least most) t) :
    (∀ a ∈ t, accepts a = true) ∧ least ≤ t.length ∧ ∀ m ∈ most, t.length ≤ m := by
  obtain ⟨before, rest, k, hk, rfl⟩ := h.step
  have hk : least ≤ k ∧ k ≤ (rest.takeWhile accepts).length ∧ ∀ m ∈ most, k ≤ m := by
    cases most <;> simp [List.mem_filter, List.mem_range] at hk ⊢ <;> omega
  obtain ⟨hleast, hlength, hmost⟩ := hk
  have htake : rest.take k = (rest.takeWhile accepts).take k := by
    conv_lhs => rw [← List.takeWhile_append_dropWhile (p := accepts) (l := rest)]
    rw [List.take_append_of_le_length hlength]
  rw [htake, List.length_take, min_eq_left hlength]
  exact ⟨fun a ha => List.mem_takeWhile_imp (List.mem_of_mem_take ha), hleast, hmost⟩

end Runs

/-! ### Whole texts -/

section Whole
variable {p q : Pattern} {c c' : Cursor} {first accepts : Char → Bool} {least : ℕ} {most : Option ℕ} {text : List Char}

theorem isSome_prefixMatch_iff : (prefixMatch p text).isSome = true ↔ ∃ c', c' ∈ run p (Cursor.start text 0) := by
  unfold prefixMatch
  cases hrun : run p (Cursor.start text 0) with
  | nil => simp
  | cons c' rest => exact iff_of_true rfl ⟨c', List.mem_cons_self⟩

theorem run_step {lengths : List Char → List Char → List ℕ} :
    run (.step lengths) c = (lengths c.before c.rest).map c.advance := rfl

theorem mem_run_start (h : c.before = []) : c' ∈ run .start c ↔ c' = c := by
  have hzero : c.advance 0 = c := rfl
  simp [run_step, Pattern.start, h, hzero]

theorem mem_run_char : c' ∈ run (.char accepts) c ↔ ∃ a rest, c.rest = a :: rest ∧ accepts a = true ∧ c' = c.advance 1 := by
  cases hrest : c.rest with
  | nil => simp [Pattern.char, run_step, hrest]
  | cons a rest => by_cases ha : accepts a = true <;> simp [Pattern.char, run_step, hrest, ha]

theorem mem_run_many : c' ∈ run (.many accepts least most) c ↔
    ∃ k, least ≤ k ∧ k ≤ (c.rest.takeWhile accepts).length ∧ (∀ m ∈ most, k ≤ m) ∧ c' = c.advance k := by
  cases most <;> simp [Pattern.many, run_step] <;> grind

theorem mem_run_stop (h : '\n' ∉ c.rest) : c' ∈ run .stop c ↔ c.rest = [] ∧ c' = c := by
  have hbreak : c.rest ≠ ['\n'] := fun hrest => h (hrest ▸ List.mem_singleton_self _)
  have hzero : c.advance 0 = c := rfl
  by_cases hrest : c.rest = [] <;> simp [Pattern.stop, run_step, hrest, hbreak, hzero]

theorem exists_run_many_stop (h : '\n' ∉ c.rest) :
    (∃ c', c' ∈ run (.sequence [.many accepts least most, .stop]) c) ↔
      c.rest.all accepts = true ∧ least ≤ c.rest.length ∧ ∀ m ∈ most, c.rest.length ≤ m := by
  show (∃ c', c' ∈ ((run (.many accepts least most) c).flatMap fun c' => (run .stop c').flatMap (run .empty))) ↔ _
  simp only [List.mem_flatMap]
  constructor
  · rintro ⟨c', c₁, hc₁, c₂, hc₂, -⟩
    obtain ⟨k, hleast, hk, hmost, rfl⟩ := mem_run_many.mp hc₁
    have hnil : c.rest.drop k = [] := ((mem_run_stop fun hmem => h (List.mem_of_mem_drop hmem)).mp hc₂).1
    have hle : c.rest.length ≤ k := List.drop_eq_nil_iff.mp hnil
    have hlength : (c.rest.takeWhile accepts).length ≤ c.rest.length := (List.takeWhile_sublist accepts).length_le
    have hall : c.rest.takeWhile accepts = c.rest := (List.takeWhile_sublist accepts).eq_of_length (by omega)
    obtain rfl : k = c.rest.length := by omega
    exact ⟨List.all_eq_true.mpr (List.takeWhile_eq_self_iff.mp hall), hleast, hmost⟩
  · rintro ⟨hall, hleast, hmost⟩
    have hlength : (c.rest.takeWhile accepts).length = c.rest.length :=
      congrArg List.length (List.takeWhile_eq_self_iff.mpr (List.all_eq_true.mp hall))
    have hnil : (c.advance c.rest.length).rest = [] := List.drop_length
    exact ⟨c.advance c.rest.length, _, mem_run_many.mpr ⟨c.rest.length, hleast, hlength.ge, hmost, rfl⟩, c.advance c.rest.length,
      (mem_run_stop (by rw [hnil]; exact List.not_mem_nil)).mpr ⟨hnil, rfl⟩, List.mem_singleton_self _⟩

theorem prefixMatch_word_iff (h : '\n' ∉ text) :
    (prefixMatch (.sequence [.start, .char first, .many accepts 0 most, .stop]) text).isSome = true ↔
      ∃ a rest, text = a :: rest ∧ first a = true ∧ rest.all accepts = true ∧ ∀ m ∈ most, rest.length ≤ m := by
  have hrun (c : Cursor) : c ∈ run (.sequence [.start, .char first, .many accepts 0 most, .stop]) (Cursor.start text 0) ↔
      ∃ a rest, text = a :: rest ∧ first a = true ∧ c ∈ run (.sequence [.many accepts 0 most, .stop]) ((Cursor.start text 0).advance 1) := by
    refine List.mem_flatMap.trans ⟨?_, ?_⟩
    · rintro ⟨c₁, hc₁, hc⟩
      obtain rfl := (mem_run_start rfl).mp hc₁
      obtain ⟨c₂, hc₂, hc⟩ := List.mem_flatMap.mp hc
      obtain ⟨a, rest, hrest, hfirst, rfl⟩ := mem_run_char.mp hc₂
      exact ⟨a, rest, hrest, hfirst, hc⟩
    · rintro ⟨a, rest, hrest, hfirst, hc⟩
      exact ⟨_, (mem_run_start rfl).mpr rfl, List.mem_flatMap.mpr ⟨_, mem_run_char.mpr ⟨a, rest, hrest, hfirst, rfl⟩, hc⟩⟩
  rw [isSome_prefixMatch_iff]
  constructor
  · rintro ⟨c, hc⟩
    obtain ⟨a, rest, rfl, hfirst, hc⟩ := (hrun c).mp hc
    obtain ⟨hall, -, hmost⟩ := (exists_run_many_stop fun hmem => h (List.mem_cons_of_mem _ hmem)).mp ⟨c, hc⟩
    exact ⟨a, rest, rfl, hfirst, hall, hmost⟩
  · rintro ⟨a, rest, rfl, hfirst, hall, hmost⟩
    obtain ⟨c, hc⟩ := (exists_run_many_stop (c := (Cursor.start (a :: rest) 0).advance 1)
      fun hmem => h (List.mem_cons_of_mem _ hmem)).mpr ⟨hall, Nat.zero_le _, hmost⟩
    exact ⟨c, (hrun c).mpr ⟨a, rest, rfl, hfirst, hc⟩⟩

end Whole

/-! ### Numbers -/

/-- What the patterns take from Unicode. -/
structure Alphabet where
  /-- `\d`, with the digit that the character stands for. -/
  digit : Char → Option (Fin 10)
  /-- `\w` -/
  word : Char → Bool
  /-- Equality of characters where case is ignored. -/
  same : Char → Char → Bool

namespace Alphabet
variable (u : Alphabet)

/-- `\d` -/
def isDigit (c : Char) : Bool := (u.digit c).isSome

/-- A word where case is ignored. -/
def literal (s : String) : Pattern := .sequence (s.toList.map fun a => .char (u.same a))

/-- `[..]` where case is ignored. -/
def oneOf (s : String) : Pattern := .char fun a => s.toList.any (u.same · a)

/-- `\s*` -/
def spaces : Pattern := .many Text.isSpace 0 none

/-- `\s+` -/
def someSpaces : Pattern := .many Text.isSpace 1 none

/-- `\d+` -/
def digits : Pattern := .many u.isDigit 1 none

/-- `\d+(?:[.,]\d+)?` -/
def decimalDigits : Pattern := .seq u.digits (.optional (.seq (.char fun a => a = '.' || a = ',') u.digits))

@[simp] theorem inside_literal (i : ℕ) (s : String) : (u.literal s).inside i = [] := by
  simp [literal]

@[simp] theorem inside_oneOf (i : ℕ) (s : String) : (u.oneOf s).inside i = [] := rfl

@[simp] theorem inside_spaces (i : ℕ) : spaces.inside i = [] := rfl

@[simp] theorem inside_someSpaces (i : ℕ) : someSpaces.inside i = [] := rfl

@[simp] theorem inside_digits (i : ℕ) : u.digits.inside i = [] := rfl

@[simp] theorem inside_decimalDigits (i : ℕ) : u.decimalDigits.inside i = [] := rfl

/-- The number that digits stand for. -/
def number (t : List Char) : ℕ := t.foldl (fun n a => 10 * n + ((u.digit a).getD 0).val) 0

/-- `int(text)`, which refuses more than 4300 digits. -/
def int (t : List Char) : Option ℕ := if t.length ≤ 4300 then some (u.number t) else none

/-- `Decimal(text.replace(",", "."))` -/
def decimal (t : List Char) : ℚ :=
  let whole := t.takeWhile fun a => a ≠ '.' && a ≠ ','
  let fraction := (t.drop whole.length).drop 1
  u.number whole + u.number fraction / 10 ^ fraction.length

theorem decimal_nonneg (t : List Char) : 0 ≤ u.decimal t := by
  unfold decimal
  positivity

theorem number_lt (t : List Char) : u.number t < 10 ^ t.length := by
  unfold number
  induction t using List.reverseRecOn with
  | nil => exact Nat.one_pos
  | append_singleton t a ih =>
    rw [List.foldl_append, List.length_append, List.length_singleton, pow_succ]
    show 10 * _ + ((u.digit a).getD 0).val < _
    have := ((u.digit a).getD 0).isLt
    omega

theorem reads_oneOf {s : String} {t : List Char} (h : Reads (u.oneOf s) t) : ∃ a, ∃ c ∈ s.toList, t = [a] ∧ u.same c a = true := by
  obtain ⟨a, rfl, ha⟩ := Reads.char h
  obtain ⟨c, hc, hsame⟩ := List.any_eq_true.mp ha
  exact ⟨a, c, hc, rfl, hsame⟩

theorem reads_literal {s : String} {t : List Char} (h : Reads (u.literal s) t) :
    List.Forall₂ (fun c a => u.same c a = true) s.toList t := by
  unfold Alphabet.literal at h
  generalize s.toList = cs at h
  induction cs generalizing t with
  | nil =>
    obtain rfl := Reads.empty h
    exact List.Forall₂.nil
  | cons c cs ih =>
    obtain ⟨a, b, rfl, ha, hb⟩ := Reads.seq h
    obtain ⟨a, rfl, hsame⟩ := ha.char
    exact List.Forall₂.cons hsame (ih hb)

/-- Among the characters of ASCII only the case is ignored. -/
def FoldsAscii : Prop := ∀ a c : Char, a.toNat < 128 → c.toNat < 128 → u.same a c = decide (a.toLower = c.toLower)

theorem FoldsAscii.literal {u : Alphabet} (hu : u.FoldsAscii) {s : String} {t : List Char} (hs : ∀ c ∈ s.toList, c.toNat < 128)
    (ht : ∀ a ∈ t, a.toNat < 128) (h : Reads (u.literal s) t) : t.map Char.toLower = s.toList.map Char.toLower := by
  replace h := reads_literal u h
  generalize s.toList = cs at hs h
  induction h with
  | nil => rfl
  | @cons c a cs t hsame _ ih =>
    rw [hu c a (hs c List.mem_cons_self) (ht a List.mem_cons_self)] at hsame
    rw [List.map_cons, List.map_cons, of_decide_eq_true hsame,
      ih (fun a ha => ht a (List.mem_cons_of_mem _ ha)) fun c hc => hs c (List.mem_cons_of_mem _ hc)]

/-- The characters of ASCII. -/
def ascii : Alphabet where
  digit c := if h : 48 ≤ c.toNat ∧ c.toNat ≤ 57 then some ⟨c.toNat - 48, by omega⟩ else none
  word c := c.isAlphanum || c = '_'
  same a b := a.toLower = b.toLower

end Alphabet

/-! ### Patterns of finitely many words -/

/-- In a text of ASCII the pattern reads only these words, up to the case. -/
def Spells (p : Pattern) (words : List (List Char)) : Prop :=
  ∀ t : List Char, (∀ a ∈ t, a.toNat < 128) → Reads p t → t.map Char.toLower ∈ words

section Words
variable {u : Alphabet} {p q : Pattern} {ws vs : List (List Char)} {s : String}

theorem spells_empty : Spells .empty [[]] := by
  intro t _ h
  rw [Reads.empty h]
  exact List.mem_singleton_self []

theorem Spells.seq (hp : Spells p ws) (hq : Spells q vs) : Spells (.seq p q) (ws.flatMap fun w => vs.map (w ++ ·)) := by
  intro t ht h
  obtain ⟨a, b, rfl, ha, hb⟩ := Reads.seq h
  rw [List.map_append]
  exact List.mem_flatMap.mpr ⟨_, hp a (fun c hc => ht c (List.mem_append_left _ hc)) ha,
    List.mem_map.mpr ⟨_, hq b (fun c hc => ht c (List.mem_append_right _ hc)) hb, rfl⟩⟩

theorem Spells.optional (hp : Spells p ws) : Spells (.optional p) ([] :: ws) := by
  intro t ht h
  rcases Reads.optional h with h | rfl
  · exact List.mem_cons_of_mem _ (hp t ht h)
  · exact List.mem_cons_self

theorem Spells.sequence {ps : List Pattern} {wss : List (List (List Char))} (h : List.Forall₂ Spells ps wss) :
    Spells (.sequence ps) (wss.foldr (fun ws vs => ws.flatMap fun w => vs.map (w ++ ·)) [[]]) := by
  induction h with
  | nil => exact spells_empty
  | cons hp _ ih => exact hp.seq ih

theorem Spells.choice {ps : List Pattern} {wss : List (List (List Char))} (h : List.Forall₂ Spells (p :: ps) wss) :
    Spells (.choice p ps) wss.flatten := by
  intro t ht hreads
  obtain ⟨q, hq, hreads⟩ := Reads.choice hreads
  obtain ⟨i, hi, rfl⟩ := List.getElem_of_mem hq
  have hws : i < wss.length := h.length_eq ▸ hi
  exact List.mem_flatten.mpr ⟨_, List.getElem_mem hws, (List.forall₂_iff_get.mp h).2 i hi hws t ht hreads⟩

theorem Alphabet.FoldsAscii.spells_literal (hu : u.FoldsAscii) (hs : ∀ c ∈ s.toList, c.toNat < 128) :
    Spells (u.literal s) [s.toList.map Char.toLower] := fun _ ht h => List.mem_singleton.mpr (hu.literal hs ht h)

theorem Alphabet.FoldsAscii.spells_oneOf (hu : u.FoldsAscii) (hs : ∀ c ∈ s.toList, c.toNat < 128) :
    Spells (u.oneOf s) (s.toList.map fun c => [c.toLower]) := by
  intro t ht h
  obtain ⟨a, c, hc, rfl, hsame⟩ := Alphabet.reads_oneOf u h
  rw [hu c a (hs c hc) (ht a (List.mem_singleton_self a))] at hsame
  exact List.mem_map.mpr ⟨c, hc, by rw [of_decide_eq_true hsame]; rfl⟩

theorem Spells.exists_infix {text : List Char} (hp : Spells p ws) (htext : ∀ a ∈ text, a.toNat < 128)
    (h : (search p text).isSome = true) : ∃ w ∈ ws, w <:+: text.map Char.toLower := by
  obtain ⟨t, hpart, hreads⟩ := exists_reads_of_search h
  exact ⟨_, hp t (fun a ha => htext a (hpart.subset ha)) hreads, hpart.map _⟩

end Words
end CestaPlan.Regex
