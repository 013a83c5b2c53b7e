import CestaPlan.Library.Regex
import CestaPlan.Library.Urls
import Mathlib

/-! The two copies of the filter of storage references: that of the executor (`tools/apply_history_lane_remediation.py`), and that of the
    loader of authorization packages (`provenance/authorization.py`).

    A reference is an opaque id without separators, or a bucket URI of an allowed scheme. The parser of URLs strips blanks before the
    scheme, takes an empty query or fragment for none, and raises for a port that is no number only when it is asked for the port. -/

namespace CestaPlan.Provenance
open Regex Urls

/-- What the library has of Unicode and of hosts. -/
structure StorageText where
  alphabet : Alphabet
  hosts : HostRules

/-- `ValueError` -/
inductive ValueError where
  | port
deriving DecidableEq

/-! ### The contract -/

def storageSchemes : List (List Char) := [['s', '3'], ['g', 's'], ['g', 'c', 's'], ['b', '2']]

def isOpaqueChar (c : Char) : Bool := c.isAlphanum || c = '.' || c = '_' || c = '-'

def isPathChar (c : Char) : Bool := isOpaqueChar c || c = '/'

/-- `_STORAGE_OPAQUE_RE` -/
def storageOpaqueRe : Pattern := .sequence [.start, .char Char.isAlphanum, .many isOpaqueChar 0 (some 199), .stop]

/-- `_STORAGE_PATH_RE` -/
def storagePathRe : Pattern := .sequence [.start, .char Char.isAlphanum, .many isPathChar 0 none, .stop]

/-- `_CONTROL_RE` -/
def isControl (c : Char) : Bool := c.toNat < 0x20 || c.toNat == 0x7f

/-- `"://" in text` -/
def hasAuthority (text : List Char) : Bool := text.tails.any ([':', '/', '/'].isPrefixOf ·)

namespace StorageText
variable (T : StorageText)

/-- `_STORAGE_SENSITIVE_RE` -/
def storageSensitiveRe : Pattern :=
  .choice (T.alphabet.literal "token")
    [T.alphabet.literal "secret", T.alphabet.literal "signature", T.alphabet.literal "sig=", T.alphabet.literal "credential",
      T.alphabet.literal "password", T.alphabet.literal "passwd", T.alphabet.literal "x-amz-",
      .sequence [T.alphabet.literal "access", .optional (T.alphabet.oneOf "_-"), T.alphabet.literal "key"],
      .sequence [T.alphabet.literal "api", .optional (T.alphabet.oneOf "_-"), T.alphabet.literal "key"]]

def isSensitive (ref : String) : Bool := (search T.storageSensitiveRe ref.toList).isSome

/-- `parsed.query or parsed.fragment or parsed.username or parsed.password or parsed.port`: the port is asked for last. -/
def carriesMore (parsed : SplitResult) : Except ValueError Bool :=
  if parsed.query ≠ [] || parsed.fragment ≠ [] || parsed.username.any (· ≠ []) || parsed.password.any (· ≠ []) then .ok true
  else match parsed.port with
    | none => .error .port
    | some port => .ok (port.any (· ≠ 0))

end StorageText

/-! ### The copies -/

/-- `sanitize_storage_reference` of the executor. -/
def Executor.sanitizeStorageReference (T : StorageText) (ref : String) : Except ValueError (Option String) :=
  if ¬(0 < ref.length ∧ ref.length ≤ 200) then .ok none
  else if ref.toList.any isControl then .ok none
  else if T.isSensitive ref || '@' ∈ ref.toList then .ok none
  else if !hasAuthority ref.toList then
    if [['/'], ['.', '/'], ['.', '.', '/']].any (·.isPrefixOf ref.toList) then .ok none
    else .ok (if (prefixMatch storageOpaqueRe ref.toList).isSome then some ref else none)
  else match T.hosts.urlsplit ref.toList with
    | none => .ok none
    | some parsed =>
      if !storageSchemes.contains (parsed.scheme.map Char.toLower) then .ok none
      else do
        if ← StorageText.carriesMore parsed then return none
        let hostPath := parsed.netloc ++ parsed.path
        if hostPath = [] ∨ (prefixMatch storagePathRe hostPath).isSome = false then return none
        return some ref

/-- `sanitize_storage_reference` of the loader of authorization packages. -/
def Loader.sanitizeStorageReference (T : StorageText) (ref : String) : Except ValueError (Option String) :=
  if ¬(0 < ref.length ∧ ref.length ≤ 200) then .ok none
  else if ref.toList.any isControl || T.isSensitive ref || '@' ∈ ref.toList then .ok none
  else if !hasAuthority ref.toList then .ok (if (prefixMatch storageOpaqueRe ref.toList).isSome then some ref else none)
  else match T.hosts.urlsplit ref.toList with
    | none => .ok none
    | some parsed =>
      if !storageSchemes.contains (parsed.scheme.map Char.toLower) then .ok none
      else do
        if ← StorageText.carriesMore parsed then return none
        let hostPath := parsed.netloc ++ parsed.path
        return if hostPath ≠ [] ∧ (prefixMatch storagePathRe hostPath).isSome then some ref else none

/-! ### What is let through -/

/-- The checks of length and characters, which come first. -/
structure Screened (T : StorageText) (ref : String) : Prop where
  nonempty : 0 < ref.length
  short : ref.length ≤ 200
  control : ref.toList.any isControl = false
  insensitive : T.isSensitive ref = false
  userless : '@' ∉ ref.toList

/-- A letter or a digit, then letters, digits, dots, underscores and hyphens. -/
def OpaqueId (text : List Char) : Prop := ∃ a rest, text = a :: rest ∧ a.isAlphanum = true ∧ rest.all isOpaqueChar = true

/-- Host and path, without a port. -/
def HostPath (path : List Char) : Prop := ∃ a rest, path = a :: rest ∧ a.isAlphanum = true ∧ rest.all isPathChar = true

/-- A URI of an allowed scheme, with what the parser of URLs passes over before and behind it. -/
def BucketUri (blanks marks text : List Char) : Prop :=
  ∃ scheme path, text = blanks ++ (scheme ++ ':' :: '/' :: '/' :: (path ++ marks)) ∧ scheme.map Char.toLower ∈ storageSchemes ∧
    HostPath path ∧ (∀ c ∈ blanks, c = ' ') ∧ marks ∈ [[], ['?'], ['#'], ['?', '#']]

/-- The port of a reference is asked for, and is no number of a port. -/
def BadPort (T : StorageText) (ref : String) : Prop :=
  Screened T ref ∧ hasAuthority ref.toList = true ∧ ∃ parsed, T.hosts.urlsplit ref.toList = some parsed ∧
    parsed.scheme.map Char.toLower ∈ storageSchemes ∧ parsed.query = [] ∧ parsed.fragment = [] ∧ parsed.port = none

section Characters
variable {c : Char} {text path : List Char}

theorem isAlpha_iff : c.isAlpha = true ↔ (65 ≤ c.toNat ∧ c.toNat ≤ 90) ∨ (97 ≤ c.toNat ∧ c.toNat ≤ 122) := by
  simp only [Char.isAlpha, Char.isUpper, Char.isLower, Bool.or_eq_true, Bool.and_eq_true, decide_eq_true_eq]
  exact Iff.rfl

theorem isAlphanum_iff : c.isAlphanum = true ↔
    ((65 ≤ c.toNat ∧ c.toNat ≤ 90) ∨ (97 ≤ c.toNat ∧ c.toNat ≤ 122)) ∨ (48 ≤ c.toNat ∧ c.toNat ≤ 57) := by
  rw [Char.isAlphanum, Bool.or_eq_true, isAlpha_iff, Char.isDigit, Bool.and_eq_true, decide_eq_true_eq, decide_eq_true_eq]
  exact Iff.rfl

theorem isAlpha_toLower : c.toLower.isAlpha = true ↔ c.isAlpha = true := by
  rw [isAlpha_iff, isAlpha_iff]
  rcases Text.toLower_cases c with ⟨hlo, hhi, hn⟩ | ⟨-, h⟩
  · omega
  · rw [h]

theorem isAlphanum_toLower : c.toLower.isAlphanum = true ↔ c.isAlphanum = true := by
  rw [isAlphanum_iff, isAlphanum_iff]
  rcases Text.toLower_cases c with ⟨hlo, hhi, hn⟩ | ⟨-, h⟩
  · omega
  · rw [h]

theorem isPathChar_toNat (h : isPathChar c = true) : (45 ≤ c.toNat ∧ c.toNat ≤ 57) ∨ (65 ≤ c.toNat ∧ c.toNat ≤ 90) ∨
    c.toNat = 95 ∨ (97 ≤ c.toNat ∧ c.toNat ≤ 122) := by
  simp only [isPathChar, isOpaqueChar, Bool.or_eq_true, isAlphanum_iff, decide_eq_true_eq] at h
  rcases h with (((h | rfl) | rfl) | rfl) | rfl
  · omega
  all_goals decide

theorem isPathChar_spec (h : isPathChar c = true) : c.toNat < 128 ∧ isControl c = false ∧
    c ∉ [':', '@', '[', ']', '?', '#', ' '] := by
  have hn := isPathChar_toNat h
  refine ⟨by omega, ?_, fun hmem => ?_⟩
  · simp only [isControl, Bool.or_eq_false_iff, decide_eq_false_iff_not, beq_eq_false_iff_ne]
    omega
  · simp only [List.mem_cons, List.not_mem_nil, or_false] at hmem
    rcases hmem with rfl | rfl | rfl | rfl | rfl | rfl | rfl <;> revert hn <;> decide

theorem isPathChar_of_isOpaqueChar (h : isOpaqueChar c = true) : isPathChar c = true := by
  rw [isPathChar, h, Bool.true_or]

theorem isPathChar_of_isAlphanum (h : c.isAlphanum = true) : isPathChar c = true := by
  rw [isPathChar, isOpaqueChar, h, Bool.true_or, Bool.true_or, Bool.true_or, Bool.true_or]

theorem HostPath.all (h : HostPath path) : ∀ c ∈ path, isPathChar c = true := by
  obtain ⟨a, rest, rfl, ha, hrest⟩ := h
  exact List.forall_mem_cons.mpr ⟨isPathChar_of_isAlphanum ha, List.all_eq_true.mp hrest⟩

theorem HostPath.not_mem (h : HostPath path) (hc : c ∈ [':', '@', '[', ']', '?', '#', ' ']) : c ∉ path :=
  fun hmem => (isPathChar_spec (h.all c hmem)).2.2 hc

theorem OpaqueId.hostPath (h : OpaqueId text) : HostPath text := by
  obtain ⟨a, rest, rfl, ha, hrest⟩ := h
  exact ⟨a, rest, rfl, ha, List.all_eq_true.mpr fun c hc => isPathChar_of_isOpaqueChar (List.all_eq_true.mp hrest c hc)⟩

theorem scheme_spec {scheme : List Char} (h : scheme.map Char.toLower ∈ storageSchemes) :
    scheme.head?.any Char.isAlpha = true ∧ scheme.all isSchemeChar = true := by
  have hknown : ∀ known ∈ storageSchemes, known.head?.any Char.isAlpha = true ∧ known.all Char.isAlphanum = true := by decide
  obtain ⟨hhead, hall⟩ := hknown _ h
  refine ⟨?_, List.all_eq_true.mpr fun c hc => ?_⟩
  · rw [List.head?_map] at hhead
    cases hc : scheme.head? with
    | none => rw [hc] at hhead; cases hhead
    | some c =>
      rw [hc] at hhead
      exact isAlpha_toLower.mp hhead
  · have hlower := List.all_eq_true.mp hall _ (List.mem_map_of_mem hc)
    rw [isSchemeChar, isAlphanum_toLower.mp hlower]
    rfl

theorem hasAuthority_iff : hasAuthority text = true ↔ ∃ a b, text = a ++ ':' :: '/' :: '/' :: b := by
  simp only [hasAuthority, List.any_eq_true, List.mem_tails, List.isPrefixOf_iff_prefix]
  constructor
  · rintro ⟨t, ⟨a, rfl⟩, b, rfl⟩
    exact ⟨a, b, rfl⟩
  · rintro ⟨a, b, rfl⟩
    exact ⟨_, ⟨a, rfl⟩, b, rfl⟩

end Characters

/-! ### The split of a bucket URI -/

section Split
variable {T : StorageText} {parsed : SplitResult} {text blanks marks path rest : List Char}

theorem cut_marks (hquery : '?' ∉ path) (hfragment : '#' ∉ path) (hmarks : marks ∈ [[], ['?'], ['#'], ['?', '#']]) :
    cut '?' (cut '#' (path ++ marks)).1 = (path, []) ∧ (cut '#' (path ++ marks)).2 = [] := by
  have hboth : '#' ∉ path ++ ['?'] := by simp [hfragment]
  simp only [List.mem_cons, List.not_mem_nil, or_false] at hmarks
  rcases hmarks with rfl | rfl | rfl | rfl
  · rw [List.append_nil, cut_of_not_mem hfragment]
    exact ⟨cut_of_not_mem hquery, rfl⟩
  · rw [cut_of_not_mem hboth]
    exact ⟨cut_append hquery, rfl⟩
  · rw [cut_append hfragment]
    exact ⟨cut_of_not_mem hquery, rfl⟩
  · have hsplit : path ++ ['?', '#'] = (path ++ ['?']) ++ '#' :: [] := by simp
    rw [hsplit, cut_append hboth]
    exact ⟨cut_append hquery, rfl⟩

theorem marks_of_cut (hfragment : (cut '#' rest).2 = []) (hquery : (cut '?' (cut '#' rest).1).2 = []) :
    ∃ marks ∈ [[], ['?'], ['#'], ['?', '#']], rest = (cut '?' (cut '#' rest).1).1 ++ marks := by
  obtain ⟨-, hrest⟩ := eq_of_cut_nil hfragment
  obtain ⟨-, hfirst⟩ := eq_of_cut_nil hquery
  rcases hrest with hrest | hrest <;> rcases hfirst with hfirst | hfirst
  · exact ⟨[], by simp, by rw [List.append_nil, ← hfirst, ← hrest]⟩
  · exact ⟨['?'], by simp, by rw [← hfirst, ← hrest]⟩
  · exact ⟨['#'], by simp, by rw [← hfirst, ← hrest]⟩
  · exact ⟨['?', '#'], by simp, by
      conv_lhs => rw [hrest, hfirst]
      rw [List.append_assoc]; rfl⟩

theorem filter_eq_self_of_control (h : text.any isControl = false) :
    (text.filter fun c => !(c = '\t' || c = '\r' || c = '\n')) = text := by
  refine List.filter_eq_self.mpr fun c hc => ?_
  have hcontrol := List.any_eq_false.mp h c hc
  rw [Bool.not_eq_true']
  refine Bool.eq_false_iff.mpr fun hbreak => hcontrol ?_
  simp only [Bool.or_eq_true, decide_eq_true_eq] at hbreak
  rcases hbreak with (rfl | rfl) | rfl <;> decide

theorem accepts_of_pathChars (h : ∀ c ∈ text, isPathChar c = true) : T.hosts.accepts text = true := by
  have hopen : '[' ∉ text := fun hc => (isPathChar_spec (h _ hc)).2.2 (by decide)
  have hclose : ']' ∉ text := fun hc => (isPathChar_spec (h _ hc)).2.2 (by decide)
  have hascii : (text.all (·.toNat < 128)) = true :=
    List.all_eq_true.mpr fun c hc => decide_eq_true (isPathChar_spec (h c hc)).1
  simp [HostRules.accepts, hopen, hclose, hascii]

theorem splitNetloc_marks (hmarks : marks ∈ [[], ['?'], ['#'], ['?', '#']]) : splitNetloc ('/' :: '/' :: (path ++ marks)) =
    (path.takeWhile (!isDelimiter ·), path.dropWhile (!isDelimiter ·) ++ marks) := by
  have htake : marks.takeWhile (!isDelimiter ·) = [] ∧ marks.dropWhile (!isDelimiter ·) = marks := by
    revert marks
    decide
  have hhost : (path ++ marks).takeWhile (!isDelimiter ·) = path.takeWhile (!isDelimiter ·) := by
    rw [List.takeWhile_append, htake.1]
    split
    · next hlength => rw [List.append_nil, (List.takeWhile_sublist _).eq_of_length hlength]
    · rfl
  have hrest : (path ++ marks).dropWhile (!isDelimiter ·) = path.dropWhile (!isDelimiter ·) ++ marks := by
    rw [List.dropWhile_append, htake.2]
    split
    · next hempty => rw [List.isEmpty_iff.mp hempty, List.nil_append]
    · rfl
  rw [splitNetloc, hhost, hrest]

theorem urlsplit_of_bucketUri (hcontrol : text.any isControl = false) (h : BucketUri blanks marks text) :
    ∃ parsed, T.hosts.urlsplit text = some parsed ∧ parsed.scheme ∈ storageSchemes ∧ HostPath (parsed.netloc ++ parsed.path) ∧
      parsed.query = [] ∧ parsed.fragment = [] := by
  obtain ⟨scheme, path, htext, hscheme, hpath, hblanks, hmarks⟩ := h
  obtain ⟨hhead, hall⟩ := scheme_spec hscheme
  have hblank : ∀ c ∈ blanks, decide (c.toNat ≤ 0x20) = true := fun c hc => by rw [hblanks c hc]; decide
  have hstrip : text.dropWhile (·.toNat ≤ 0x20) = scheme ++ ':' :: '/' :: '/' :: (path ++ marks) := by
    rw [htext, List.dropWhile_append_of_pos hblank]
    cases scheme with
    | nil => cases hhead
    | cons a scheme =>
      refine List.dropWhile_cons_of_neg ?_
      have hn := isAlpha_iff.mp hhead
      simp only [decide_eq_true_eq]
      omega
  have hkept : ((text.dropWhile (·.toNat ≤ 0x20)).filter fun c => !(c = '\t' || c = '\r' || c = '\n')) =
      scheme ++ ':' :: '/' :: '/' :: (path ++ marks) := by
    rw [filter_eq_self_of_control, hstrip]
    exact List.any_eq_false.mpr fun c hc => List.any_eq_false.mp hcontrol c ((List.dropWhile_sublist _).subset hc)
  have hmem (c : Char) (hc : c ∈ path.dropWhile (!isDelimiter ·)) : c ∈ path := (List.dropWhile_sublist _).subset hc
  obtain ⟨hpieces, hfragment⟩ := cut_marks (fun hc => hpath.not_mem (by decide) (hmem '?' hc))
    (fun hc => hpath.not_mem (by decide) (hmem '#' hc)) hmarks
  have haccepts : T.hosts.accepts (path.takeWhile (!isDelimiter ·)) = true :=
    accepts_of_pathChars fun c hc => hpath.all c ((List.takeWhile_sublist _).subset hc)
  refine ⟨⟨scheme.map Char.toLower, path.takeWhile (!isDelimiter ·), path.dropWhile (!isDelimiter ·), [], []⟩, ?_, hscheme, ?_, rfl, rfl⟩
  · rw [HostRules.urlsplit, hkept, splitScheme_append hhead hall]
    dsimp only
    rw [splitNetloc_marks hmarks]
    dsimp only
    rw [hpieces, hfragment, if_pos haccepts]
  · rw [List.takeWhile_append_dropWhile]
    exact hpath

/-- A text with `://` in it that is split into a scheme of the storage and a path, and nothing else, is a bucket URI. -/
theorem bucketUri_of_urlsplit (hcontrol : text.any isControl = false) (hauthority : hasAuthority text = true)
    (h : T.hosts.urlsplit text = some parsed) (hscheme : parsed.scheme.map Char.toLower ∈ storageSchemes) (hquery : parsed.query = [])
    (hfragment : parsed.fragment = []) (hpath : HostPath (parsed.netloc ++ parsed.path)) : ∃ blanks marks, BucketUri blanks marks text := by
  have hblanks : ∀ c ∈ text.takeWhile (·.toNat ≤ 0x20), c = ' ' := fun c hc => by
    have hlow : c.toNat ≤ 0x20 := by simpa using List.mem_takeWhile_imp hc
    have hnot := List.any_eq_false.mp hcontrol c ((List.takeWhile_sublist _).subset hc)
    simp only [isControl, Bool.or_eq_true, decide_eq_true_eq, beq_iff_eq, not_or] at hnot
    exact Char.toNat_inj.mp (show c.toNat = 0x20 by omega)
  have hkept : ((text.dropWhile (·.toNat ≤ 0x20)).filter fun c => !(c = '\t' || c = '\r' || c = '\n')) =
      text.dropWhile (·.toNat ≤ 0x20) :=
    filter_eq_self_of_control <|
      List.any_eq_false.mpr fun c hc => List.any_eq_false.mp hcontrol c ((List.dropWhile_sublist _).subset hc)
  rw [HostRules.urlsplit, hkept] at h
  dsimp only at h
  split at h
  · next haccepts =>
    obtain rfl := Option.some.inj h
    dsimp only at hscheme hquery hfragment hpath
    have htext : text = text.takeWhile (·.toNat ≤ 0x20) ++ text.dropWhile (·.toNat ≤ 0x20) := List.takeWhile_append_dropWhile.symm
    generalize text.takeWhile (·.toNat ≤ 0x20) = blanks, text.dropWhile (·.toNat ≤ 0x20) = url at *
    subst htext
    rcases splitScheme_cases url with hnone | ⟨scheme, rest, rfl, -, hall, hsplit⟩
    · rw [hnone] at hscheme
      exact absurd (show [] ∈ storageSchemes from hscheme) (by decide)
    rw [hsplit] at hscheme hquery hfragment hpath
    dsimp only at hscheme hquery hfragment hpath
    obtain ⟨marks, hmarks, hpieces⟩ := marks_of_cut hfragment hquery
    have hlower : scheme.map Char.toLower ∈ storageSchemes := by
      rw [List.map_map] at hscheme
      rwa [show Char.toLower ∘ Char.toLower = Char.toLower from funext Text.toLower_toLower] at hscheme
    rcases splitNetloc_cases rest with hnone | ⟨inside, rfl, hinside⟩
    · -- without a host, the one colon would have both a letter or digit and a slash behind it
      rw [hnone] at hpath hpieces
      dsimp only [List.nil_append] at hpath hpieces
      generalize (cut '?' (cut '#' rest).1).1 = path at hpath hpieces
      subst hpieces
      obtain ⟨a, b, hab⟩ := hasAuthority_iff.mp hauthority
      have hcolon : ':' ∉ blanks ++ scheme := fun hc => (List.mem_append.mp hc).elim
        (fun hc => absurd (hblanks _ hc) (by decide)) (not_isSchemeChar_colon hall)
      have hmark : ∀ marks ∈ [[], ['?'], ['#'], ['?', '#']], ':' ∉ marks := by decide
      have hrest : ':' ∉ path ++ marks := fun hc =>
        (List.mem_append.mp hc).elim (hpath.not_mem (by decide)) (hmark marks hmarks)
      rw [← List.append_assoc] at hab
      obtain ⟨-, -, hslash⟩ := (List.append_cons_inj_of_notMem hcolon hrest).mp hab
      obtain ⟨first, path, rfl, hfirst, -⟩ := hpath
      obtain ⟨rfl, -⟩ := List.cons.inj hslash
      exact absurd hfirst (by decide)
    · refine ⟨blanks, marks, scheme, _, ?_, hlower, hpath, hblanks, hmarks⟩
      rw [List.append_assoc, ← hpieces, hinside]
  · cases h

theorem bucketUri_iff (T : StorageText) (hcontrol : text.any isControl = false) (hauthority : hasAuthority text = true) :
    (∃ blanks marks, BucketUri blanks marks text) ↔ ∃ parsed, T.hosts.urlsplit text = some parsed ∧
      parsed.scheme.map Char.toLower ∈ storageSchemes ∧ parsed.query = [] ∧ parsed.fragment = [] ∧ HostPath (parsed.netloc ++ parsed.path) := by
  constructor
  · rintro ⟨blanks, marks, h⟩
    obtain ⟨parsed, hsplit, hscheme, hpath, hquery, hfragment⟩ := urlsplit_of_bucketUri hcontrol h
    have hlower : ∀ scheme ∈ storageSchemes, scheme.map Char.toLower = scheme := by decide
    exact ⟨parsed, hsplit, (hlower _ hscheme).symm ▸ hscheme, hquery, hfragment, hpath⟩
  · rintro ⟨parsed, hsplit, hscheme, hquery, hfragment, hpath⟩
    exact bucketUri_of_urlsplit hcontrol hauthority hsplit hscheme hquery hfragment hpath

end Split

/-! ### The contract of both copies -/

section Contract
variable {T : StorageText} {ref kept : String} {parsed : SplitResult} {path : List Char}

theorem not_mem_newline {text : List Char} (h : text.any isControl = false) : '\n' ∉ text :=
  fun hc => List.any_eq_false.mp h _ hc (by decide)

theorem opaqueRe_iff (h : ref.toList.any isControl = false) (hlength : ref.length ≤ 200) :
    (prefixMatch storageOpaqueRe ref.toList).isSome = true ↔ OpaqueId ref.toList := by
  refine (prefixMatch_word_iff (not_mem_newline h)).trans ⟨?_, ?_⟩
  · rintro ⟨a, rest, htext, ha, hrest, -⟩
    exact ⟨a, rest, htext, ha, hrest⟩
  · rintro ⟨a, rest, htext, ha, hrest⟩
    refine ⟨a, rest, htext, ha, hrest, ?_⟩
    rintro m ⟨⟩
    rw [← String.length_toList, htext, List.length_cons] at hlength
    omega

theorem pathRe_iff (h : path.any isControl = false) : (prefixMatch storagePathRe path).isSome = true ↔ HostPath path := by
  refine (prefixMatch_word_iff (not_mem_newline h)).trans ⟨?_, ?_⟩
  · rintro ⟨a, rest, htext, ha, hrest, -⟩
    exact ⟨a, rest, htext, ha, hrest⟩
  · rintro ⟨a, rest, htext, ha, hrest⟩
    exact ⟨a, rest, htext, ha, hrest, fun m hm => nomatch hm⟩

theorem carriesMore_eq (h : '@' ∉ parsed.netloc) : StorageText.carriesMore parsed =
    if parsed.query ≠ [] ∨ parsed.fragment ≠ [] then .ok true
    else match parsed.port with
      | none => .error .port
      | some port => .ok (port.any (· ≠ 0)) := by
  have hnone : parsed.userinfo = none := if_neg h
  simp [StorageText.carriesMore, SplitResult.username, SplitResult.password, hnone]

theorem port_of_hostPath (h : HostPath (parsed.netloc ++ parsed.path)) : parsed.port = some none := by
  have hmem {c : Char} (hc : c ∈ parsed.hostinfo) : c ∈ parsed.netloc :=
    List.mem_reverse.mp ((List.takeWhile_sublist _).subset (List.mem_reverse.mp hc))
  have hcolon : ':' ∉ parsed.hostinfo := fun hc => h.not_mem (by decide) (List.mem_append_left _ (hmem hc))
  have hopen : '[' ∉ parsed.hostinfo := fun hc => h.not_mem (by decide) (List.mem_append_left _ (hmem hc))
  have htext : parsed.portText = [] := by rw [SplitResult.portText, if_neg hopen, cut_of_not_mem hcolon]
  rw [SplitResult.port, if_pos htext]

theorem Loader.of_not_screened (h : ¬Screened T ref) : Loader.sanitizeStorageReference T ref = .ok none := by
  unfold Loader.sanitizeStorageReference
  split
  · rfl
  · next hlength =>
    rw [not_not] at hlength
    refine if_pos ?_
    by_contra hchecks
    simp only [Bool.or_eq_true, decide_eq_true_eq, not_or, Bool.not_eq_true] at hchecks
    exact h ⟨hlength.1, hlength.2, hchecks.1.1, hchecks.1.2, hchecks.2⟩

theorem not_any_control {text : List Char} (h : ref.toList.any isControl = false) (hsub : text ⊆ ref.toList) :
    text.any isControl = false :=
  List.any_eq_false.mpr fun c hc => List.any_eq_false.mp h c (hsub hc)

theorem Loader.of_screened (h : Screened T ref) : Loader.sanitizeStorageReference T ref =
    if hasAuthority ref.toList = false then .ok (if (prefixMatch storageOpaqueRe ref.toList).isSome then some ref else none)
    else match T.hosts.urlsplit ref.toList with
      | none => .ok none
      | some parsed =>
        if parsed.scheme.map Char.toLower ∉ storageSchemes ∨ parsed.query ≠ [] ∨ parsed.fragment ≠ [] then .ok none
        else if parsed.port = none then .error .port
        else .ok (if (prefixMatch storagePathRe (parsed.netloc ++ parsed.path)).isSome then some ref else none) := by
  have hchecks : (ref.toList.any isControl || T.isSensitive ref || decide ('@' ∈ ref.toList)) = false := by
    rw [h.control, h.insensitive, decide_eq_false h.userless]
    rfl
  unfold Loader.sanitizeStorageReference
  rw [if_neg (not_not.mpr ⟨h.nonempty, h.short⟩), hchecks, if_neg Bool.false_ne_true]
  cases hasAuthority ref.toList with
  | false => rfl
  | true =>
    rw [if_neg (by decide), if_neg (by decide)]
    cases hsplit : T.hosts.urlsplit ref.toList with
    | none => rfl
    | some parsed =>
      have hsub := urlsplit_subset hsplit
      have huser : '@' ∉ parsed.netloc := fun hc => h.userless (hsub (List.mem_append_left _ hc))
      have hpath := pathRe_iff (not_any_control h.control hsub)
      dsimp only
      by_cases hscheme : parsed.scheme.map Char.toLower ∉ storageSchemes
      · rw [if_pos (by simpa using hscheme), if_pos (Or.inl hscheme)]
      rw [if_neg (by simpa using hscheme), carriesMore_eq huser]
      by_cases hmore : parsed.query ≠ [] ∨ parsed.fragment ≠ []
      · rw [if_pos hmore, if_pos (Or.inr hmore)]
        rfl
      rw [if_neg hmore, if_neg (not_or.mpr ⟨hscheme, hmore⟩)]
      cases hport : parsed.port with
      | none => rfl
      | some port =>
        rw [if_neg (Option.some_ne_none port)]
        by_cases hkept : HostPath (parsed.netloc ++ parsed.path)
        · obtain rfl : port = none := Option.some.inj (hport.symm.trans (port_of_hostPath hkept))
          obtain ⟨a, rest, hcons, -⟩ := hkept
          have hne : parsed.netloc ++ parsed.path ≠ [] := by rw [hcons]; exact List.cons_ne_nil _ _
          simp [bind, Except.bind, pure, Except.pure, hne]
        · rw [if_neg fun hmatch => hkept (hpath.mp hmatch)]
          have hmatch : ¬(parsed.netloc ++ parsed.path ≠ [] ∧ (prefixMatch storagePathRe (parsed.netloc ++ parsed.path)).isSome = true) :=
            fun hmatch => hkept (hpath.mp hmatch.2)
          simp only [bind, Except.bind, pure, Except.pure, if_neg hmatch, ite_self]

/-- The two copies agree. -/
theorem sanitizeStorageReference_copies (T : StorageText) (ref : String) :
    Executor.sanitizeStorageReference T ref = Loader.sanitizeStorageReference T ref := by
  unfold Executor.sanitizeStorageReference Loader.sanitizeStorageReference
  split
  · rfl
  · next hlength =>
    rw [not_not] at hlength
    cases hcontrol : ref.toList.any isControl with
    | true => rfl
    | false =>
      simp only [Bool.false_eq_true, if_false, Bool.false_or]
      split
      · rfl
      split
      · -- what looks like a local path is no opaque id
        split
        · next hlocal =>
          refine congrArg Except.ok (if_neg fun hmatch => ?_).symm
          obtain ⟨a, rest, htext, ha, -⟩ := (opaqueRe_iff hcontrol hlength.2).mp hmatch
          rw [htext] at hlocal
          have hfirst : '/' = a ∨ '.' = a := by
            simp only [List.any_cons, List.any_nil, List.isPrefixOf_cons_cons, Bool.or_eq_true, Bool.and_eq_true, beq_iff_eq] at hlocal
            tauto
          rcases hfirst with rfl | rfl <;> exact absurd ha (by decide)
        · rfl
      · cases T.hosts.urlsplit ref.toList with
        | none => rfl
        | some parsed =>
          dsimp only
          split
          · rfl
          cases StorageText.carriesMore parsed with
          | error e => rfl
          | ok more =>
            cases more with
            | true => rfl
            | false =>
              by_cases hpath : parsed.netloc ++ parsed.path ≠ [] ∧
                  (prefixMatch storagePathRe (parsed.netloc ++ parsed.path)).isSome = true
              · have hmatch : ¬(parsed.netloc ++ parsed.path = [] ∨
                    (prefixMatch storagePathRe (parsed.netloc ++ parsed.path)).isSome = false) := by
                  rintro (h | h)
                  · exact hpath.1 h
                  · exact Bool.false_ne_true (h.symm.trans hpath.2)
                simp only [bind, Except.bind, pure, Except.pure, Bool.false_eq_true, if_false, if_neg hmatch, if_pos hpath]
              · have hmatch : parsed.netloc ++ parsed.path = [] ∨
                    (prefixMatch storagePathRe (parsed.netloc ++ parsed.path)).isSome = false := by
                  rw [not_and_or, not_not, Bool.not_eq_true] at hpath
                  exact hpath
                simp only [bind, Except.bind, pure, Except.pure, Bool.false_eq_true, if_false, if_neg hpath, if_pos hmatch]

theorem Loader.raises_iff {e : ValueError} : Loader.sanitizeStorageReference T ref = .error e ↔ BadPort T ref := by
  by_cases hscreened : Screened T ref
  · rw [Loader.of_screened hscreened]
    cases hauthority : hasAuthority ref.toList with
    | false => exact iff_of_false (fun h => nomatch h) fun h => Bool.false_ne_true (hauthority.symm.trans h.2.1)
    | true =>
      rw [if_neg (by decide)]
      cases hsplit : T.hosts.urlsplit ref.toList with
      | none => exact iff_of_false (fun h => nomatch h) fun ⟨_, _, parsed, h, _⟩ => nomatch hsplit.symm.trans h
      | some parsed =>
        have hbad : BadPort T ref ↔ parsed.scheme.map Char.toLower ∈ storageSchemes ∧ parsed.query = [] ∧ parsed.fragment = [] ∧
            parsed.port = none := by
          refine ⟨fun ⟨_, _, other, h, hother⟩ => ?_, fun h => ⟨hscreened, hauthority, parsed, hsplit, h⟩⟩
          rwa [Option.some.inj (hsplit.symm.trans h)]
        rw [hbad]
        dsimp only
        split
        · next h => exact iff_of_false (fun h => nomatch h) fun ⟨hscheme, hquery, hfragment, _⟩ => by grind
        · split
          · next h hport => exact iff_of_true rfl (by grind)
          · next hport => exact iff_of_false (fun h => nomatch h) fun h => hport h.2.2.2
  · rw [Loader.of_not_screened hscreened]
    exact iff_of_false (fun h => nomatch h) fun h => hscreened h.1

theorem Loader.keeps_iff : Loader.sanitizeStorageReference T ref = .ok (some kept) ↔
    kept = ref ∧ Screened T ref ∧ (OpaqueId ref.toList ∨ ∃ blanks marks, BucketUri blanks marks ref.toList) := by
  by_cases hscreened : Screened T ref
  · have hkept {p : Prop} [Decidable p] : (Except.ok (if p then some ref else none) : Except ValueError (Option String)) = .ok (some kept) ↔
        kept = ref ∧ p := by
      by_cases hp : p <;> simp [hp, eq_comm]
    have huri (h : ∃ blanks marks, BucketUri blanks marks ref.toList) : hasAuthority ref.toList = true := by
      obtain ⟨blanks, marks, scheme, path, htext, -⟩ := h
      exact hasAuthority_iff.mpr ⟨blanks ++ scheme, path ++ marks, by rw [htext, List.append_assoc]⟩
    have hid (h : OpaqueId ref.toList) : hasAuthority ref.toList = false := Bool.eq_false_iff.mpr fun hauthority => by
      obtain ⟨a, b, htext⟩ := hasAuthority_iff.mp hauthority
      exact h.hostPath.not_mem (c := ':') (by decide) (by rw [htext]; simp)
    rw [Loader.of_screened hscreened]
    cases hauthority : hasAuthority ref.toList with
    | false =>
      rw [if_pos rfl, hkept, opaqueRe_iff hscreened.control hscreened.short]
      exact and_congr_right fun _ => ⟨fun h => ⟨hscreened, Or.inl h⟩, fun ⟨_, h⟩ => h.elim id fun h =>
        absurd (hauthority.symm.trans (huri h)) Bool.false_ne_true⟩
    | true =>
      rw [if_neg (by decide)]
      have hiff : Screened T ref ∧ (OpaqueId ref.toList ∨ ∃ blanks marks, BucketUri blanks marks ref.toList) ↔ _ :=
        Iff.trans ⟨fun h => h.2.resolve_left fun h => absurd (hauthority.symm.trans (hid h)) (by decide), fun h => ⟨hscreened, Or.inr h⟩⟩
          (bucketUri_iff T hscreened.control hauthority)
      rw [hiff]
      cases hsplit : T.hosts.urlsplit ref.toList with
      | none => exact iff_of_false (fun h => nomatch h) fun ⟨_, _, h, _⟩ => nomatch h
      | some parsed =>
        have hpath := pathRe_iff (not_any_control hscreened.control (urlsplit_subset hsplit))
        simp only [Option.some.injEq, exists_eq_left']
        split
        · next h => exact iff_of_false (fun h => nomatch h) fun ⟨_, hscheme, hquery, hfragment, _⟩ => by grind
        · next h =>
          split
          · next hport =>
            exact iff_of_false (fun h => nomatch h) fun ⟨_, _, _, _, h⟩ => nomatch hport.symm.trans (port_of_hostPath h)
          · rw [hkept, hpath]
            grind
  · rw [Loader.of_not_screened hscreened]
    exact iff_of_false (fun h => nomatch h) fun h => hscreened h.2.1

end Contract

/-! ### When the contract holds -/

/-- Nothing of a URL but scheme, host and path is in the text, and no word of a credential. -/
structure Safe (T : StorageText) (text : String) : Prop where
  control : text.toList.any isControl = false
  insensitive : T.isSensitive text = false
  shape : OpaqueId text.toList ∨ ∃ scheme path, text.toList = scheme ++ ':' :: '/' :: '/' :: path ∧
    scheme.map Char.toLower ∈ storageSchemes ∧ HostPath path

/-- The copies return the same, raise nothing, and let only safe references through, unchanged. -/
def Sanitizes (T : StorageText) (ref : String) : Prop :=
  Executor.sanitizeStorageReference T ref = Loader.sanitizeStorageReference T ref ∧
    ∃ result, Loader.sanitizeStorageReference T ref = .ok result ∧ ∀ kept ∈ result, kept = ref ∧ Safe T kept

/-- A bucket URI with blanks before it, or with an empty query or fragment. -/
def Surrounded (T : StorageText) (ref : String) : Prop :=
  Screened T ref ∧ ∃ blanks marks, BucketUri blanks marks ref.toList ∧ (blanks ≠ [] ∨ marks ≠ [])

section Sanitizing
variable {T : StorageText} {ref : String} {blanks marks : List Char}

theorem Safe.not_mem {c : Char} (h : Safe T ref) (hc : c ∈ [' ', '?', '#']) : c ∉ ref.toList := by
  obtain ⟨hname, hsep, hmem⟩ : isSchemeChar c = false ∧ c ∉ [':', '/', '/'] ∧ c ∈ [':', '@', '[', ']', '?', '#', ' '] := by
    simp only [List.mem_cons, List.not_mem_nil, or_false] at hc
    rcases hc with rfl | rfl | rfl <;> decide
  rcases h.shape with h | ⟨scheme, path, htext, hscheme, hpath⟩
  · exact h.hostPath.not_mem hmem
  · rw [htext, List.mem_append]
    rintro (h | h)
    · exact Bool.false_ne_true (hname.symm.trans (List.all_eq_true.mp (scheme_spec hscheme).2 c h))
    · have happ : c ∈ [':', '/', '/'] ++ path := h
      exact (List.mem_append.mp happ).elim hsep (hpath.not_mem hmem)

theorem sanitizes_iff : Sanitizes T ref ↔ ¬BadPort T ref ∧ ¬Surrounded T ref := by
  constructor
  · rintro ⟨-, result, hresult, hkept⟩
    refine ⟨fun hbad => (nomatch hresult.symm.trans ((Loader.raises_iff (e := .port)).mpr hbad)), ?_⟩
    rintro ⟨hscreened, blanks, marks, huri, hmore⟩
    have hok := Loader.keeps_iff.mpr ⟨rfl, hscreened, Or.inr ⟨blanks, marks, huri⟩⟩
    obtain rfl : result = some ref := Except.ok.inj (hresult.symm.trans hok)
    obtain ⟨-, hsafe⟩ := hkept ref rfl
    obtain ⟨scheme, path, htext, -, -, hblanks, hmarks⟩ := huri
    rcases hmore with hmore | hmore
    · obtain ⟨c, rest, rfl⟩ := List.exists_cons_of_ne_nil hmore
      obtain rfl := hblanks c List.mem_cons_self
      exact hsafe.not_mem (c := ' ') (by decide) (by rw [htext]; exact List.mem_append_left _ List.mem_cons_self)
    · obtain ⟨c, hc, hmem⟩ : ∃ c, c ∈ [' ', '?', '#'] ∧ c ∈ marks := by
        simp only [List.mem_cons, List.not_mem_nil, or_false] at hmarks
        rcases hmarks with rfl | rfl | rfl | rfl
        · exact absurd rfl hmore
        · exact ⟨'?', by simp⟩
        · exact ⟨'#', by simp⟩
        · exact ⟨'?', by simp⟩
      exact hsafe.not_mem hc (by rw [htext]; simp [hmem])
  · rintro ⟨hbad, hsurrounded⟩
    refine ⟨sanitizeStorageReference_copies T ref, ?_⟩
    cases hresult : Loader.sanitizeStorageReference T ref with
    | error e => exact absurd (Loader.raises_iff.mp hresult) hbad
    | ok result =>
      refine ⟨result, rfl, ?_⟩
      rintro kept rfl
      obtain ⟨rfl, hscreened, hshape⟩ := Loader.keeps_iff.mp hresult
      refine ⟨rfl, hscreened.control, hscreened.insensitive, hshape.imp id ?_⟩
      rintro ⟨blanks, marks, huri⟩
      obtain ⟨rfl, rfl⟩ : blanks = [] ∧ marks = [] := by
        by_contra h
        exact hsurrounded ⟨hscreened, blanks, marks, huri, by tauto⟩
      obtain ⟨scheme, path, htext, hscheme, hpath, -⟩ := huri
      exact ⟨scheme, path, by rw [htext, List.append_nil]; rfl, hscheme, hpath⟩

end Sanitizing

/-- Letters and digits of ASCII, and hosts that need no further checks. -/
def asciiStorageText : StorageText where
  alphabet := Alphabet.ascii
  hosts := ⟨fun _ => true, fun _ => true⟩

/-- A port that is no number is raised to the caller. -/
theorem not_sanitizes_badPort : ¬Sanitizes asciiStorageText "s3://bucket:abc/dump" := by
  have hraises : (Loader.sanitizeStorageReference asciiStorageText "s3://bucket:abc/dump").isOk = false := by decide +kernel
  rintro ⟨-, result, hresult, -⟩
  rw [hresult] at hraises
  cases hraises

end CestaPlan.Provenance
