import CestaPlan.Library.Text

/-! Text compared without its accents, its case and the white space that a run has beyond one blank. What Unicode says of a character is a
    parameter: only the ASCII text is fixed. -/

namespace CestaPlan.Text

/-! ### Runs of white space, and runs of the characters of a class -/

/-- `re.sub(r"\s+", " ", text)`. The last character of a run becomes the blank. -/
def collapse : List Char → List Char
  | [] => []
  | c :: rest =>
    if isSpace c then if rest.head?.any isSpace then collapse rest else ' ' :: collapse rest else c :: collapse rest

/-- `re.findall` of one or more characters of a class. -/
def runsOf (p : Char → Bool) (text : List Char) : List (List Char) := (text.splitOnP fun c => !p c).filter fun w => !w.isEmpty

theorem isInfix_trim (l : List Char) : trim l <:+: l :=
  (List.rdropWhile_prefix isSpace (l := l.dropWhile isSpace)).isInfix.trans (List.dropWhile_suffix isSpace).isInfix

theorem trim_eq_self {l : List Char} (h : ∀ c ∈ l, isSpace c = false) : trim l = l := by
  have hfront : l.dropWhile isSpace = l := by
    refine List.dropWhile_eq_self_iff.mpr fun hl => ?_
    rw [h _ (List.getElem_mem hl)]
    exact Bool.false_ne_true
  rw [trim, hfront]
  refine List.rdropWhile_eq_self_iff.mpr fun hl => ?_
  rw [h _ (List.getLast_mem hl)]
  exact Bool.false_ne_true

theorem mem_collapse {c : Char} {l : List Char} (h : c ∈ collapse l) : c = ' ' ∨ c ∈ l := by
  induction l with
  | nil => exact Or.inr h
  | cons a rest ih =>
    rw [collapse] at h
    split at h
    · split at h
      · exact (ih h).imp_right (List.mem_cons_of_mem a)
      · rcases List.mem_cons.mp h with h | h
        · exact Or.inl h
        · exact (ih h).imp_right (List.mem_cons_of_mem a)
    · rcases List.mem_cons.mp h with rfl | h
      · exact Or.inr List.mem_cons_self
      · exact (ih h).imp_right (List.mem_cons_of_mem a)

theorem collapse_eq_self {l : List Char} (h : ∀ c ∈ l, isSpace c = false) : collapse l = l := by
  induction l with
  | nil => rfl
  | cons a rest ih =>
    rw [collapse, h a List.mem_cons_self, if_neg Bool.false_ne_true, ih fun c hc => h c (List.mem_cons_of_mem a hc)]

theorem prefix_of_prefix_collapse {w l : List Char} (hw : ∀ c ∈ w, isSpace c = false) (h : w <+: collapse l) : w <+: l := by
  induction l generalizing w with
  | nil => exact h
  | cons a rest ih =>
    cases w with
    | nil => exact List.nil_prefix
    | cons b w =>
      have hb := hw b List.mem_cons_self
      have hrest (h : w <+: collapse rest) : w <+: rest := ih (fun c hc => hw c (List.mem_cons_of_mem b hc)) h
      rw [collapse] at h
      split at h
      · next ha =>
        split at h
        · have hhead : b :: w <+: rest := ih hw h
          next hnext =>
          cases rest with
          | nil => cases hnext
          | cons c rest =>
            obtain ⟨rfl, -⟩ := List.cons_prefix_cons.mp hhead
            exact absurd hnext (by rw [List.head?_cons, Option.any_some, hb]; exact Bool.false_ne_true)
        · obtain ⟨rfl, -⟩ := List.cons_prefix_cons.mp h
          exact absurd hb (by decide)
      · obtain ⟨rfl, hw'⟩ := List.cons_prefix_cons.mp h
        exact List.cons_prefix_cons.mpr ⟨rfl, hrest hw'⟩

theorem infix_of_infix_collapse {w l : List Char} (hw : ∀ c ∈ w, isSpace c = false) (h : w <:+: collapse l) : w <:+: l := by
  induction l with
  | nil => exact h
  | cons a rest ih =>
    have htail (h : w <:+: collapse rest) : w <:+: a :: rest := (ih h).trans (List.suffix_cons a rest).isInfix
    have hfull : w <+: collapse (a :: rest) → w <:+: a :: rest := fun h => (prefix_of_prefix_collapse hw h).isInfix
    rw [collapse] at h hfull
    split at h
    · split at h
      · exact htail h
      · next ha hnext =>
        rw [if_pos ha, if_neg hnext] at hfull
        exact (List.infix_cons_iff.mp h).elim hfull htail
    · next ha =>
      rw [if_neg ha] at hfull
      exact (List.infix_cons_iff.mp h).elim hfull htail

theorem mem_splitOnP {α : Type*} {p : α → Bool} {l w : List α} (h : w ∈ l.splitOnP p) : w <:+: l ∧ ∀ c ∈ w, p c = false := by
  suffices hparts : (∀ v ∈ (l.splitOnP p).head?, v <+: l) ∧ ∀ v ∈ l.splitOnP p, v <:+: l ∧ ∀ c ∈ v, p c = false from hparts.2 w h
  clear h
  induction l with
  | nil =>
    rw [List.splitOnP_nil]
    refine ⟨fun v hv => ?_, fun v hv => ?_⟩
    · cases hv
      exact List.nil_prefix
    · rw [List.mem_singleton.mp hv]
      exact ⟨List.nil_infix, fun c hc => absurd hc List.not_mem_nil⟩
  | cons a rest ih =>
    have htail (v) (hv : v ∈ rest.splitOnP p) : v <:+: a :: rest ∧ ∀ c ∈ v, p c = false :=
      ⟨(ih.2 v hv).1.trans (List.suffix_cons a rest).isInfix, (ih.2 v hv).2⟩
    rw [List.splitOnP_cons_eq_if_modifyHead]
    split
    · refine ⟨fun v hv => ?_, fun v hv => ?_⟩
      · cases hv
        exact List.nil_prefix
      · rcases List.mem_cons.mp hv with rfl | hv
        · exact ⟨List.nil_infix, fun c hc => absurd hc List.not_mem_nil⟩
        · exact htail v hv
    · next ha =>
      obtain ⟨r, rs, hr⟩ := List.exists_cons_of_ne_nil (List.splitOnP_ne_nil p rest)
      rw [hr] at ih htail ⊢
      have hstart : a :: r <+: a :: rest := List.cons_prefix_cons.mpr ⟨rfl, ih.1 r rfl⟩
      refine ⟨fun v hv => ?_, fun v hv => ?_⟩
      · cases hv
        exact hstart
      · rcases List.mem_cons.mp hv with rfl | hv
        · refine ⟨hstart.isInfix, fun c hc => ?_⟩
          rcases List.mem_cons.mp hc with rfl | hc
          · exact Bool.eq_false_iff.mpr ha
          · exact (ih.2 r List.mem_cons_self).2 c hc
        · exact htail v (List.mem_cons_of_mem r hv)

theorem mem_runsOf {p : Char → Bool} {l w : List Char} (h : w ∈ runsOf p l) : w <:+: l ∧ ∀ c ∈ w, p c = true := by
  obtain ⟨hpart, hp⟩ := mem_splitOnP (List.mem_of_mem_filter h)
  exact ⟨hpart, fun c hc => Bool.not_eq_false' .. ▸ hp c hc⟩

/-! ### Accents and case -/

/-- What Unicode says of a character and of the case of a text. -/
structure Unicode where
  /-- What the compatibility decomposition of a character has in ASCII. -/
  ascii : Char → List Char
  ascii_eq : ∀ c, c.toNat < 128 → ascii c = [c]
  toNat_lt : ∀ c, ∀ a ∈ ascii c, a.toNat < 128
  /-- `str.lower` -/
  lower : String → String
  lower_eq : ∀ s, (∀ c ∈ s.toList, c.toNat < 128) → lower s = lowerAscii s

/-- The part of Unicode that an ASCII text needs. -/
def Unicode.asciiOnly : Unicode where
  ascii c := if c.toNat < 128 then [c] else []
  ascii_eq _ h := if_pos h
  toNat_lt c a ha := by
    split at ha
    · next h => rwa [List.mem_singleton.mp ha]
    · cases ha
  lower := lowerAscii
  lower_eq _ _ := rfl

/-- Neither an accent nor an upper case is left. -/
def IsPlain (c : Char) : Prop := c.toNat < 128 ∧ c.toLower = c

namespace Unicode
variable (u : Unicode)

/-- Lower case, without accents, and with one blank for each run of white space. -/
def plain (text : List Char) : List Char := trim (collapse ((text.flatMap u.ascii).map Char.toLower))

theorem isPlain_of_mem_plain {c : Char} {text : List Char} (h : c ∈ u.plain text) : IsPlain c := by
  rcases mem_collapse ((isInfix_trim _).subset h) with rfl | hc
  · exact ⟨by decide, by decide⟩
  · obtain ⟨a, ha, rfl⟩ := List.mem_map.mp hc
    obtain ⟨b, -, hb⟩ := List.mem_flatMap.mp ha
    have hlt := u.toNat_lt b a hb
    refine ⟨?_, toLower_toLower a⟩
    rcases toLower_cases a with ⟨-, hhi, hn⟩ | ⟨-, h⟩
    · omega
    · rw [h]
      exact hlt

variable {u}

theorem map_toLower_flatMap_ascii {text : List Char} (h : ∀ c ∈ text, IsPlain c) : (text.flatMap u.ascii).map Char.toLower = text := by
  induction text with
  | nil => rfl
  | cons c rest ih =>
    rw [List.flatMap_cons, u.ascii_eq c (h c List.mem_cons_self).1, List.singleton_append, List.map_cons,
      (h c List.mem_cons_self).2, ih fun a ha => h a (List.mem_cons_of_mem c ha)]

theorem plain_eq_self {w : List Char} (h : ∀ c ∈ w, IsPlain c) (hw : ∀ c ∈ w, isSpace c = false) : u.plain w = w := by
  rw [plain, map_toLower_flatMap_ascii h, collapse_eq_self hw, trim_eq_self hw]

theorem infix_of_infix_plain {w text : List Char} (h : ∀ c ∈ text, IsPlain c) (hw : ∀ c ∈ w, isSpace c = false)
    (hpart : w <:+: u.plain text) : w <:+: text := by
  rw [plain, map_toLower_flatMap_ascii h] at hpart
  exact infix_of_infix_collapse hw (hpart.trans (isInfix_trim _))

end Unicode
end CestaPlan.Text
