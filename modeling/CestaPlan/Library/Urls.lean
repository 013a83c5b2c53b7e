import Mathlib.Data.List.Infix
import Mathlib.Data.List.TakeWhile

/-! URLs as `urllib.parse` splits them, and the port of a host.

    A split is told by its pieces: put together again they give the text, apart from what is stripped from it. -/

namespace CestaPlan.Urls

/-- What is before a character, and what is after it. -/
def cut (d : Char) (l : List Char) : List Char × List Char := (l.takeWhile (· ≠ d), (l.dropWhile (· ≠ d)).drop 1)

structure SplitResult where
  scheme : List Char
  netloc : List Char
  path : List Char
  query : List Char
  fragment : List Char

/-- What is asked of a host with brackets (`_check_bracketed_netloc`), and of one beyond ASCII (`_checknetloc`). -/
structure HostRules where
  bracketed : List Char → Bool
  normalized : List Char → Bool

/-- A letter, a digit, or one of `+-.` -/
def isSchemeChar (c : Char) : Bool := c.isAlphanum || c = '+' || c = '-' || c = '.'

/-- The scheme in lower case, where there is one, and what follows its colon. -/
def splitScheme (url : List Char) : List Char × List Char :=
  let name := (cut ':' url).1
  if ':' ∈ url ∧ name.head?.any Char.isAlpha ∧ name.all isSchemeChar then (name.map Char.toLower, (cut ':' url).2) else ([], url)

def isDelimiter (c : Char) : Bool := c = '/' || c = '?' || c = '#'

/-- `_splitnetloc`, where a host follows. -/
def splitNetloc : List Char → List Char × List Char
  | '/' :: '/' :: rest => (rest.takeWhile (!isDelimiter ·), rest.dropWhile (!isDelimiter ·))
  | rest => ([], rest)

namespace HostRules
variable (rules : HostRules)

def accepts (netloc : List Char) : Bool :=
  ('[' ∈ netloc) == (']' ∈ netloc) && (!('[' ∈ netloc) || rules.bracketed netloc) &&
    (netloc.all (·.toNat < 128) || rules.normalized netloc)

/-- `urlsplit(url)`, which may raise a `ValueError`. -/
def urlsplit (url : List Char) : Option SplitResult :=
  let url := (url.dropWhile (·.toNat ≤ 0x20)).filter fun c => !(c = '\t' || c = '\r' || c = '\n')
  let (scheme, rest) := splitScheme url
  let (netloc, rest) := splitNetloc rest
  let (rest, fragment) := cut '#' rest
  let (path, query) := cut '?' rest
  if rules.accepts netloc then some ⟨scheme, netloc, path, query, fragment⟩ else none

end HostRules

namespace SplitResult
variable (r : SplitResult)

/-- What follows the last `@` of the host. -/
def hostinfo : List Char := (r.netloc.reverse.takeWhile (· ≠ '@')).reverse

/-- What precedes the last `@`, where there is one. -/
def userinfo : Option (List Char) :=
  if '@' ∈ r.netloc then some ((r.netloc.reverse.dropWhile (· ≠ '@')).drop 1).reverse else none

def username : Option (List Char) := r.userinfo.map fun info => (cut ':' info).1

def password : Option (List Char) := r.userinfo.bind fun info => if ':' ∈ info then some (cut ':' info).2 else none

/-- The text of the port. -/
def portText : List Char :=
  if '[' ∈ r.hostinfo then (cut ':' (cut ']' (cut '[' r.hostinfo).2).2).2 else (cut ':' r.hostinfo).2

def isPort (text : List Char) : Bool :=
  text.all Char.isDigit && decide (text.foldl (fun n c => 10 * n + (c.toNat - 48)) 0 ≤ 65535)

/-- `parsed.port`, which may raise a `ValueError` -/
def port : Option (Option ℕ) :=
  if r.portText = [] then some none
  else if isPort r.portText then some (some (r.portText.foldl (fun n c => 10 * n + (c.toNat - 48)) 0))
  else none

end SplitResult

/-! ### The pieces -/

section Pieces
variable {d : Char} {a b l name rest url : List Char}

theorem cut_of_not_mem (h : d ∉ l) : cut d l = (l, []) := by
  have hall : ∀ c ∈ l, decide (c ≠ d) = true := fun c hc => decide_eq_true fun heq => h (heq ▸ hc)
  rw [cut, List.takeWhile_eq_self_iff.mpr hall, List.dropWhile_eq_nil_iff.mpr hall, List.drop_nil]

theorem cut_append (h : d ∉ a) : cut d (a ++ d :: b) = (a, b) := by
  have hall : ∀ c ∈ a, decide (c ≠ d) = true := fun c hc => decide_eq_true fun heq => h (heq ▸ hc)
  rw [cut, List.takeWhile_append_of_pos hall, List.dropWhile_append_of_pos hall]
  simp

theorem cut_cases (d : Char) (l : List Char) :
    (d ∉ l ∧ cut d l = (l, [])) ∨ ∃ a b, d ∉ a ∧ l = a ++ d :: b ∧ cut d l = (a, b) := by
  by_cases hd : d ∈ l
  · obtain ⟨a, b, rfl, ha⟩ := List.eq_append_cons_of_mem hd
    exact Or.inr ⟨a, b, ha, rfl, cut_append ha⟩
  · exact Or.inl ⟨hd, cut_of_not_mem hd⟩

theorem eq_of_cut_nil (h : (cut d l).2 = []) : d ∉ (cut d l).1 ∧ (l = (cut d l).1 ∨ l = (cut d l).1 ++ [d]) := by
  rcases cut_cases d l with ⟨hd, heq⟩ | ⟨a, b, ha, rfl, heq⟩
  · rw [heq]
    exact ⟨hd, Or.inl rfl⟩
  · rw [heq] at h ⊢
    obtain rfl : b = [] := h
    exact ⟨ha, Or.inr rfl⟩

theorem not_isSchemeChar_colon (h : name.all isSchemeChar = true) : ':' ∉ name :=
  fun hc => absurd (List.all_eq_true.mp h _ hc) (by decide)

theorem splitScheme_append (hhead : name.head?.any Char.isAlpha = true) (hall : name.all isSchemeChar = true) :
    splitScheme (name ++ ':' :: rest) = (name.map Char.toLower, rest) := by
  rw [splitScheme, cut_append (not_isSchemeChar_colon hall)]
  exact if_pos ⟨List.mem_append_right _ List.mem_cons_self, hhead, hall⟩

theorem splitScheme_cases (url : List Char) : splitScheme url = ([], url) ∨
    ∃ name rest, url = name ++ ':' :: rest ∧ name.head?.any Char.isAlpha = true ∧ name.all isSchemeChar = true ∧
      splitScheme url = (name.map Char.toLower, rest) := by
  by_cases h : ':' ∈ url ∧ (cut ':' url).1.head?.any Char.isAlpha = true ∧ (cut ':' url).1.all isSchemeChar = true
  · obtain ⟨name, rest, rfl, hname⟩ := List.eq_append_cons_of_mem h.1
    rw [cut_append hname] at h
    exact Or.inr ⟨name, rest, rfl, h.2.1, h.2.2, splitScheme_append h.2.1 h.2.2⟩
  · exact Or.inl (if_neg h)

theorem splitNetloc_cases (l : List Char) : splitNetloc l = ([], l) ∨
    ∃ rest, l = '/' :: '/' :: rest ∧ (splitNetloc l).1 ++ (splitNetloc l).2 = rest := by
  unfold splitNetloc
  split
  · next rest => exact Or.inr ⟨rest, rfl, List.takeWhile_append_dropWhile⟩
  · exact Or.inl rfl

theorem cut_subset (d : Char) (l : List Char) : (cut d l).1 ⊆ l ∧ (cut d l).2 ⊆ l :=
  ⟨(List.takeWhile_sublist _).subset, ((List.drop_sublist _ _).trans (List.dropWhile_sublist _)).subset⟩

theorem splitScheme_subset (url : List Char) : (splitScheme url).2 ⊆ url := by
  unfold splitScheme
  dsimp only
  split
  · exact (cut_subset ':' url).2
  · exact fun _ hc => hc

theorem splitNetloc_subset (l : List Char) : (splitNetloc l).1 ++ (splitNetloc l).2 ⊆ l := by
  rcases splitNetloc_cases l with h | ⟨rest, rfl, h⟩
  · rw [h]
    exact fun _ hc => hc
  · rw [h]
    exact fun _ hc => List.mem_cons_of_mem _ (List.mem_cons_of_mem _ hc)

theorem urlsplit_subset {rules : HostRules} {r : SplitResult} (h : rules.urlsplit url = some r) : r.netloc ++ r.path ⊆ url := by
  unfold HostRules.urlsplit at h
  dsimp only at h
  split at h
  · obtain rfl := Option.some.inj h
    intro c hc
    have hkept : c ∈ (splitNetloc (splitScheme ((url.dropWhile (·.toNat ≤ 0x20)).filter fun c => !(c = '\t' || c = '\r' || c = '\n'))).2).1 ++
        (splitNetloc (splitScheme ((url.dropWhile (·.toNat ≤ 0x20)).filter fun c => !(c = '\t' || c = '\r' || c = '\n'))).2).2 :=
      (List.mem_append.mp hc).elim (List.mem_append_left _) fun hc => List.mem_append_right _ ((cut_subset _ _).1 ((cut_subset _ _).1 hc))
    exact (List.dropWhile_sublist _).subset (List.mem_of_mem_filter (splitScheme_subset _ (splitNetloc_subset _ hkept)))
  · cases h

end Pieces
end CestaPlan.Urls
