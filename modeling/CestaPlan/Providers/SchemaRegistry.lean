import CestaPlan.Library.Dict
import CestaPlan.Providers.SchemaTools
import Mathlib.Data.List.Destutter

/-! The registry of provider schemas (`ingestion/providers/schema_registry.py`). A schema that was fetched is stored beside the
    earlier versions, and graded by comparing the documents themselves (`diff_json` of `ingestion/providers/schema_tools.py`). -/

namespace CestaPlan.Providers
open Overlays

/-! ### Documents -/

/-- What the library has of floats, by their `repr`. -/
structure Floats where
  eqInt : String → ℤ → Bool
  eq : String → String → Bool

section Documents
variable (F : Floats)

/-- `==` of numbers; a boolean is the integer 0 or 1. -/
def sameNumber : Json String → Json String → Bool
  | .int m, .int n => m = n
  | .int m, .bool b | .bool b, .int m => m = b.toNat
  | .bool b, .bool c => b = c
  | .float r, .float r' => F.eq r r'
  | .float r, .int n | .int n, .float r => F.eqInt r n
  | .float r, .bool b | .bool b, .float r => F.eqInt r b.toNat
  | _, _ => false

mutual
/-- `==` -/
def same : Json String → Json String → Bool
  | .null, .null => true
  | .str s, .str t | .other s, .other t => s = t
  | .arr items, .arr items' => sameItems items items'
  | .obj entries, .obj entries' => entries.length = entries'.length && sameEntries entries entries'
  | a, b => sameNumber F a b

def sameItems : List (Json String) → List (Json String) → Bool
  | [], [] => true
  | a :: items, b :: items' => same a b && sameItems items items'
  | _, _ => false

/-- Each key has an equal value on the other side. -/
def sameEntries : List (String × Json String) → List (String × Json String) → Bool
  | [], _ => true
  | (k, a) :: entries, entries' =>
    (match entries'.lookup k with
      | none => false
      | some b => same a b) && sameEntries entries entries'
end

inductive JsonChangeKind where
  | removedField | addedField | listChanged
  /-- The text names the two values. -/
  | typeChanged (old new : Json String)

structure JsonChange where
  path : String
  change : JsonChangeKind

/-- `sorted(set(old) | set(new))` -/
def unionKeys (olds news : List (String × Json String)) : List String :=
  (olds.map Prod.fst ++ news.map Prod.fst).dedup.insertionSort (· ≤ ·)

/-- `path or "<root>"` -/
def rooted (path : String) : String := if path = "" then "<root>" else path

mutual
/-- `diff_json` -/
def diffJson : Json String → Json String → String → List JsonChange
  | .obj olds, .obj news, path =>
    (unionKeys olds news).flatMap fun k => ((diffEntries olds news path).lookup k).getD [⟨here path k, .addedField⟩]
  | .arr olds, .arr news, path => if sameItems F olds news then [] else [⟨rooted path, .listChanged⟩]
  | old, new, path => if same F old new then [] else [⟨rooted path, .typeChanged old new⟩]

/-- The changes of each key of the old object. -/
def diffEntries : List (String × Json String) → List (String × Json String) → String → List (String × List JsonChange)
  | [], _, _ => []
  | (k, old) :: olds, news, path =>
    (k, match news.lookup k with
      | none => [⟨here path k, .removedField⟩]
      | some new => diffJson old new (here path k)) :: diffEntries olds news path
end

/-- `classify_drift` of the changes of documents -/
def gradeChanges (changes : List JsonChange) : Drift :=
  let isTypeChanged := fun c : JsonChange => match c.change with | .typeChanged _ _ => true | _ => false
  let isRemoved := fun c : JsonChange => match c.change with | .removedField => true | _ => false
  let isAdded := fun c : JsonChange => match c.change with | .addedField => true | _ => false
  if changes.isEmpty then .unchanged
  else if changes.any isTypeChanged then .breaking
  else if changes.any isRemoved then .breaking
  else if changes.all isAdded then .additiveCompatible
  else .reviewRequired

/-- The status of `compute_drift` -/
def computeDrift (old new : Json String) : Drift := gradeChanges (diffJson F old new "")

end Documents

mutual
/-- The keys of the objects that `diff_json` enters are distinct. -/
def KeyedJson : Json String → Prop
  | .obj entries => (entries.map Prod.fst).Nodup ∧ KeyedEntries entries
  | _ => True

def KeyedEntries : List (String × Json String) → Prop
  | [] => True
  | (_, v) :: entries => KeyedJson v ∧ KeyedEntries entries
end

/-! ### The registry -/

structure SchemaVersionMeta (H : Type) where
  provider : String
  version : Nat
  sourceUrl : String
  fetchedAt : Int
  sha256 : H
  openapiVersion : String
  providerSchemaVersion : String
  previousSha256 : Option H
  compatibilityStatus : Drift
  reviewedAt : Option Int := none
  reviewedBy : Option String

/-- A directory `vN`, with its two files. -/
structure StoredVersion (H : Type) where
  schema : Json String
  metadata : SchemaVersionMeta H

/-- The directories of each provider, by their numbers. -/
abbrev Registry (H : Type) := Dict String (Dict Nat (StoredVersion H))

/-- The arguments of `store_schema`. -/
structure Submission where
  schema : Json String
  provider : String
  sourceUrl : String
  now : Int
  reviewedBy : Option String := none

section Registry
variable {H : Type} [DecidableEq H] (F : Floats) (sha : List Char → H) (str : Json String → String)

/-- `_sha256` -/
def sha256Of (schema : Json String) : H := sha (Json.dumps compact schema)

def directories (registry : Registry H) (provider : String) : Dict Nat (StoredVersion H) := registry.getD provider .empty

/-- `_versions` -/
def versionsOf (dirs : Dict Nat (StoredVersion H)) : List Nat := dirs.keys.insertionSort (· ≤ ·)

/-- The version that `latest_meta` and `_load_schema` read. -/
def latestVersion (registry : Registry H) (provider : String) : Option (StoredVersion H) :=
  let dirs := directories registry provider
  (versionsOf dirs).getLast?.bind dirs.get?

/-- The version that a submission makes, after the last one. -/
def newVersion (version : Nat) (prev : Option (StoredVersion H)) (s : Submission) : StoredVersion H where
  schema := s.schema
  metadata :=
    { provider := s.provider
      version := version
      sourceUrl := s.sourceUrl
      fetchedAt := s.now
      sha256 := sha256Of sha s.schema
      openapiVersion := match s.schema with
        | .obj entries => str ((entries.lookup "openapi").getD (.str "unknown"))
        | _ => "unknown"
      providerSchemaVersion := s!"v{version}"
      previousSha256 := prev.map (·.metadata.sha256)
      compatibilityStatus := prev.elim .unchanged fun old => computeDrift F old.schema s.schema
      reviewedBy := s.reviewedBy }

def storeSchema (s : Submission) (registry : Registry H) : SchemaVersionMeta H × Registry H :=
  let prev := latestVersion registry s.provider
  match prev.filter (·.metadata.sha256 = sha256Of sha s.schema) with
  | some same => (same.metadata, registry)
  | none =>
    let dirs := directories registry s.provider
    let version := (versionsOf dirs).getLast?.elim 1 (· + 1)
    let stored := newVersion F sha str version prev s
    (stored.metadata, registry.set s.provider (dirs.set version stored))

/-- The compatibility of `check_drift`; without a version the source says `unavailable`. -/
def checkDrift (schema : Json String) (provider : String) (registry : Registry H) : Option Drift :=
  (latestVersion registry provider).map fun old => computeDrift F old.schema schema

def storeAll (submissions : List Submission) : Registry H :=
  submissions.foldl (fun registry s => (storeSchema F sha str s registry).2) .empty

end Registry

/-! ### What the comparison finds -/

section Compared
variable {F : Floats} {olds news : List (String × Json String)} {path : String}

theorem fst_diffEntries : (diffEntries F olds news path).map Prod.fst = olds.map Prod.fst := by
  induction olds with
  | nil => rfl
  | cons e olds ih => rw [diffEntries, List.map_cons, ih, List.map_cons]

/-- Two objects differ nowhere if no key of the old one has a change, and the new one has no other key. -/
theorem diffJson_obj (hkeys : (olds.map Prod.fst).Nodup) : diffJson F (.obj olds) (.obj news) path = [] ↔
    (∀ e ∈ diffEntries F olds news path, e.2 = []) ∧ news.map Prod.fst ⊆ olds.map Prod.fst := by
  let changes : Dict String (List JsonChange) := ⟨diffEntries F olds news path, by rwa [fst_diffEntries]⟩
  have hmem {k : String} : k ∈ olds.map Prod.fst ↔ ∃ v, changes.get? k = some v := by
    have hfst : (diffEntries F olds news path).map Prod.fst = olds.map Prod.fst := fst_diffEntries
    rw [← Dict.mem_keys_iff, ← hfst]
    rfl
  have hunion {k : String} : k ∈ unionKeys olds news ↔ k ∈ olds.map Prod.fst ∨ k ∈ news.map Prod.fst := by
    rw [unionKeys, List.mem_insertionSort, List.mem_dedup, List.mem_append]
  rw [diffJson, List.flatMap_eq_nil_iff]
  constructor
  · intro h
    refine ⟨fun e he => ?_, fun k hk => ?_⟩
    · have hget : changes.get? e.1 = some e.2 := Dict.mem_entries_iff.mp he
      have hnil := h e.1 (hunion.mpr (.inl (hmem.mpr ⟨_, hget⟩)))
      rwa [show (diffEntries F olds news path).lookup e.1 = some e.2 from hget] at hnil
    · by_contra hnew
      have hnone : changes.get? k = none := Option.eq_none_iff_forall_not_mem.mpr fun v hv => hnew (hmem.mpr ⟨v, hv⟩)
      have hnil := h k (hunion.mpr (.inr hk))
      rw [show (diffEntries F olds news path).lookup k = none from hnone] at hnil
      cases hnil
  · rintro ⟨hall, hsub⟩ k hk
    obtain ⟨v, hv⟩ := hmem.mp ((hunion.mp hk).elim id fun h => hsub h)
    rw [show (diffEntries F olds news path).lookup k = some v from hv]
    exact hall (k, v) (Dict.mem_entries_iff.mpr hv)

/-- Of two objects with distinct keys, one of which has all keys of the other, both have the same if they are as many. -/
theorem keys_subset_iff (hkeys : (olds.map Prod.fst).Nodup) (hkeys' : (news.map Prod.fst).Nodup)
    (hsub : olds.map Prod.fst ⊆ news.map Prod.fst) :
    news.map Prod.fst ⊆ olds.map Prod.fst ↔ olds.length = news.length := by
  constructor
  · intro hsup
    have hperm := (List.perm_ext_iff_of_nodup hkeys hkeys').mpr fun k => ⟨fun h => hsub h, fun h => hsup h⟩
    simpa using hperm.length_eq
  · intro hlength
    have hperm := (List.subperm_of_subset hkeys hsub).perm_of_length_le (by simp [hlength])
    exact hperm.symm.subset

theorem KeyedEntries.lookup (h : KeyedEntries news) {k : String} {v : Json String} (hv : news.lookup k = some v) : KeyedJson v := by
  induction news with
  | nil => cases hv
  | cons e news ih =>
    rw [lookup_entry] at hv
    split at hv
    · cases hv
      exact h.1
    · exact ih h.2 hv

theorem sameEntries_subset (h : sameEntries F olds news = true) : olds.map Prod.fst ⊆ news.map Prod.fst := by
  induction olds with
  | nil => exact List.nil_subset _
  | cons e olds ih =>
    rw [sameEntries, Bool.and_eq_true] at h
    refine List.cons_subset.mpr ⟨?_, ih h.2⟩
    cases hnew : news.lookup e.1 with
    | none =>
      rw [hnew] at h
      cases h.1
    | some new => exact List.mem_map.mpr ⟨_, mem_of_lookup hnew, rfl⟩

mutual
/-- The comparison finds nothing exactly if the documents are equal. -/
theorem diffJson_eq_nil_iff (F : Floats) : ∀ (a b : Json String) (path : String), KeyedJson a → KeyedJson b →
    (diffJson F a b path = [] ↔ same F a b = true)
  | .obj olds, b, path, ha, hb => by
    cases b with
    | obj news =>
      rw [diffJson_obj ha.1, diffEntries_eq_nil_iff F olds news path ha.2 hb.2, same, Bool.and_eq_true, decide_eq_true_eq, and_comm]
      exact and_congr_left fun hsame => keys_subset_iff ha.1 hb.1 (sameEntries_subset hsame)
    | _ => simp [diffJson]
  | .arr items, b, path, _, _ => by
    cases b with
    | arr items' => simp [diffJson, same]
    | _ => simp [diffJson]
  | .null, b, path, _, _ | .bool _, b, path, _, _ | .int _, b, path, _, _ | .float _, b, path, _, _ | .str _, b, path, _, _
  | .other _, b, path, _, _ => by simp [diffJson]

theorem diffEntries_eq_nil_iff (F : Floats) : ∀ (olds news : List (String × Json String)) (path : String), KeyedEntries olds →
    KeyedEntries news → ((∀ e ∈ diffEntries F olds news path, e.2 = []) ↔ sameEntries F olds news = true)
  | [], _, _, _, _ => by simp [diffEntries, sameEntries]
  | (k, old) :: olds, news, path, ha, hb => by
    rw [diffEntries, List.forall_mem_cons, diffEntries_eq_nil_iff F olds news path ha.2 hb, sameEntries, Bool.and_eq_true]
    refine and_congr_left' ?_
    cases hnew : news.lookup k with
    | none => simp
    | some new => exact diffJson_eq_nil_iff F old new (here path k) ha.1 (hb.lookup hnew)
end

theorem gradeChanges_unchanged_iff {changes : List JsonChange} : gradeChanges changes = .unchanged ↔ changes = [] := by
  cases changes with
  | nil => simp [gradeChanges]
  | cons c changes =>
    simp only [gradeChanges, List.isEmpty_cons, Bool.false_eq_true, if_false, reduceCtorEq, iff_false]
    split_ifs <;> simp

/-- A document is graded unchanged exactly if Python takes it for equal to the earlier one: the order of the keys does not count, and
    `1`, `1.0` and `true` are one value. -/
theorem computeDrift_unchanged_iff {a b : Json String} (ha : KeyedJson a) (hb : KeyedJson b) :
    computeDrift F a b = .unchanged ↔ same F a b = true :=
  gradeChanges_unchanged_iff.trans (diffJson_eq_nil_iff F a b "" ha hb)

/-- A flag that was a number is graded unchanged, although it is another text. -/
theorem computeDrift_unchanged_iff_flag : ∃ a b : Json String, a ≠ b ∧ KeyedJson a ∧ KeyedJson b ∧
    (computeDrift ⟨fun _ _ => false, (· = ·)⟩ a b = .unchanged ↔ same ⟨fun _ _ => false, (· = ·)⟩ a b = true) ∧
    computeDrift ⟨fun _ _ => false, (· = ·)⟩ a b = .unchanged := by
  have ha : KeyedJson (.obj [("required", .int 1)]) := ⟨by simp, trivial, trivial⟩
  have hb : KeyedJson (.obj [("required", .bool true)]) := ⟨by simp, trivial, trivial⟩
  exact ⟨_, _, by simp, ha, hb, computeDrift_unchanged_iff ha hb, (computeDrift_unchanged_iff ha hb).mpr (by decide +kernel)⟩

end Compared

/-! ### Runs -/

section Histories
variable {α : Type} {R : α → α → Prop} [DecidableRel R]

theorem destutter'_concat (a x : α) (l : List α) : (l ++ [x]).destutter' R a =
    if R ((l.destutter' R a).getLast (l.destutter'_ne_nil R)) x then l.destutter' R a ++ [x] else l.destutter' R a := by
  induction l generalizing a with
  | nil => rfl
  | cons b l ih =>
    rw [List.cons_append]
    by_cases h : R a b
    · simp only [List.destutter'_cons_pos _ h, ih, List.getLast_cons (l.destutter'_ne_nil R)]
      split <;> rfl
    · simp only [List.destutter'_cons_neg _ h, ih]

/-- What comes last stays if it differs from what stayed last. -/
theorem destutter_concat (l : List α) (x : α) : (l ++ [x]).destutter R =
    if ∀ y ∈ (l.destutter R).getLast?, R y x then l.destutter R ++ [x] else l.destutter R := by
  cases l with
  | nil => simp
  | cons a l =>
    rw [List.cons_append, List.destutter_cons', List.destutter_cons', destutter'_concat,
      List.getLast?_eq_some_getLast (l.destutter'_ne_nil R)]
    simp

end Histories

section Runs
variable {H : Type} (F : Floats) (sha : List Char → H) (str : Json String → String)

/-- The versions that submissions make one after the other. -/
def historyFrom (prev : Option (StoredVersion H)) (n : Nat) : List Submission → List (StoredVersion H)
  | [] => []
  | s :: rest =>
    let stored := newVersion F sha str (n + 1) prev s
    stored :: historyFrom (some stored) (n + 1) rest

/-- Two submissions with documents of different fingerprints. -/
def Differ (s s' : Submission) : Prop := sha256Of sha s.schema ≠ sha256Of sha s'.schema

instance [DecidableEq H] : DecidableRel (Differ sha) := fun s s' => inferInstanceAs (Decidable (sha256Of sha s.schema ≠ sha256Of sha s'.schema))

/-- The submissions of a provider, without those that repeat the document before. -/
def distinctSubmissions [DecidableEq H] (submissions : List Submission) (provider : String) : List Submission :=
  (submissions.filter (·.provider = provider)).destutter (Differ sha)

/-- The versions of a provider, from the first. -/
def history [DecidableEq H] (submissions : List Submission) (provider : String) : List (StoredVersion H) :=
  historyFrom F sha str none 0 (distinctSubmissions sha submissions provider)

variable {F sha str}
variable {prev : Option (StoredVersion H)} {n : Nat} {s : Submission} {kept submissions : List Submission} {provider : String}
  {dirs : Dict Nat (StoredVersion H)} {stored : List (StoredVersion H)}

theorem length_historyFrom : (historyFrom F sha str prev n kept).length = kept.length := by
  induction kept generalizing prev n with
  | nil => rfl
  | cons s kept ih => rw [historyFrom, List.length_cons, ih, List.length_cons]

theorem historyFrom_concat : historyFrom F sha str prev n (kept ++ [s]) = historyFrom F sha str prev n kept ++
    [newVersion F sha str (n + kept.length + 1) ((historyFrom F sha str prev n kept).getLast?.or prev) s] := by
  induction kept generalizing prev n with
  | nil => rfl
  | cons s' kept ih =>
    rw [List.cons_append, historyFrom, historyFrom, ih, List.cons_append, List.length_cons]
    simp only [List.getLast?_cons, Option.some_or, Nat.add_assoc, Nat.add_comm 1]
    cases (historyFrom F sha str (some (newVersion F sha str (n + 1) prev s')) (n + 1) kept).getLast? <;> rfl

/-- The last version has the fingerprint of the last document. -/
theorem sha256_getLast?_historyFrom : (historyFrom F sha str none 0 kept).getLast?.map (·.metadata.sha256) =
    kept.getLast?.map fun s => sha256Of sha s.schema := by
  induction kept using List.reverseRecOn with
  | nil => rfl
  | append_singleton kept s _ =>
    rw [historyFrom_concat, List.getLast?_concat, List.getLast?_concat]
    rfl

/-- The directories are numbered from one, without a gap, and hold these versions. -/
def Numbered (dirs : Dict Nat (StoredVersion H)) (stored : List (StoredVersion H)) : Prop :=
  ∀ n, dirs.get? n = if n = 0 then none else stored[n - 1]?

theorem Numbered.mem_keys (h : Numbered dirs stored) : n ∈ dirs.keys ↔ 1 ≤ n ∧ n ≤ stored.length := by
  rw [Dict.mem_keys_iff, h n]
  split
  · next hn => simp [hn]
  · rw [← Option.isSome_iff_exists, isSome_getElem?]
    show n - 1 < stored.length ↔ _
    omega

theorem Numbered.getLast?_versionsOf (h : Numbered dirs stored) :
    (versionsOf dirs).getLast? = if stored = [] then none else some stored.length := by
  have hmem {m : Nat} : m ∈ versionsOf dirs ↔ 1 ≤ m ∧ m ≤ stored.length := (List.mem_insertionSort _).trans h.mem_keys
  split
  · next hnil =>
    rw [List.getLast?_eq_none_iff, List.eq_nil_iff_forall_not_mem]
    intro m hm
    rw [hmem, hnil] at hm
    simp at hm
    omega
  · next hne =>
    have hlast : stored.length ∈ versionsOf dirs := hmem.mpr ⟨List.length_pos_of_ne_nil hne, le_rfl⟩
    have hne' := List.ne_nil_of_mem hlast
    have hle := (List.pairwise_insertionSort (· ≤ ·) dirs.keys).rel_getLast hlast
    have hge := (hmem.mp (List.getLast_mem hne')).2
    rw [List.getLast?_eq_some_getLast hne']
    exact congrArg some (le_antisymm hge hle)

theorem Numbered.set (h : Numbered dirs stored) (v : StoredVersion H) : Numbered (dirs.set (stored.length + 1) v) (stored ++ [v]) := by
  intro n
  rw [Dict.get?_set, h n, List.getElem?_append]
  by_cases hn : n = stored.length + 1
  · simp [hn]
  · by_cases hzero : n = 0
    · simp [hzero]
    · rw [if_neg hn, if_neg hzero, if_neg hzero]
      split
      · rfl
      · rw [List.getElem?_eq_none (by omega), List.getElem?_eq_none (by simp; omega)]

theorem Numbered.latestVersion {registry : Registry H} (h : Numbered (directories registry provider) stored) :
    latestVersion registry provider = stored.getLast? := by
  rw [Providers.latestVersion, h.getLast?_versionsOf]
  split
  · next hnil => rw [hnil]; rfl
  · next hne =>
    rw [Option.bind_some, h, if_neg (List.length_pos_of_ne_nil hne).ne', List.getLast?_eq_getElem?]

theorem directories_set {registry : Registry H} {provider' : String} : directories (registry.set provider' dirs) provider =
    if provider = provider' then dirs else directories registry provider := by
  rw [directories, Dict.getD, Dict.get?_set]
  split <;> rfl

variable [DecidableEq H]

/-- A submission of the provider adds a version, unless it repeats the document before. -/
theorem history_concat : history F sha str (submissions ++ [s]) provider =
    let before := history F sha str submissions provider
    if s.provider = provider ∧ before.getLast?.map (·.metadata.sha256) ≠ some (sha256Of sha s.schema) then
      before ++ [newVersion F sha str (before.length + 1) before.getLast? s]
    else before := by
  unfold history distinctSubmissions
  rw [List.filter_append]
  by_cases hprovider : s.provider = provider
  · rw [List.filter_cons_of_pos (by simpa using hprovider), List.filter_nil, destutter_concat]
    simp only [sha256_getLast?_historyFrom, hprovider, true_and]
    generalize (submissions.filter (·.provider = provider)).destutter (Differ sha) = kept
    have hdiffer : (∀ y ∈ kept.getLast?, Differ sha y s) ↔
        kept.getLast?.map (fun s => sha256Of sha s.schema) ≠ some (sha256Of sha s.schema) := by
      cases kept.getLast? with
      | none => simp
      | some y => simp [Differ]
    simp only [hdiffer]
    split
    · rw [historyFrom_concat, length_historyFrom, Option.or_none, Nat.zero_add]
    · rfl
  · rw [List.filter_cons_of_neg (by simpa using hprovider), List.filter_nil, List.append_nil]
    simp [hprovider]

/-- The registry holds the histories. -/
def Records (F : Floats) (sha : List Char → H) (str : Json String → String) (submissions : List Submission) (registry : Registry H) :
    Prop :=
  ∀ provider, Numbered (directories registry provider) (history F sha str submissions provider)

theorem Records.storeSchema {registry : Registry H} (h : Records F sha str submissions registry) (s : Submission) :
    Records F sha str (submissions ++ [s]) (storeSchema F sha str s registry).2 ∧
      (history F sha str (submissions ++ [s]) s.provider).getLast?.map (·.metadata) = some (storeSchema F sha str s registry).1 := by
  have hbefore := h s.provider
  have hother {registry' : Registry H}
      (hsame : ∀ provider, provider ≠ s.provider → directories registry' provider = directories registry provider)
      (hown : Numbered (directories registry' s.provider) (history F sha str (submissions ++ [s]) s.provider)) :
      Records F sha str (submissions ++ [s]) registry' := by
    intro provider
    by_cases hprovider : provider = s.provider
    · exact hprovider ▸ hown
    · rw [hsame provider hprovider, history_concat]
      simpa [Ne.symm hprovider] using h provider
  have hconcat : history F sha str (submissions ++ [s]) s.provider = _ := history_concat
  simp only [true_and] at hconcat
  rw [Providers.storeSchema, hbefore.latestVersion]
  generalize history F sha str submissions s.provider = before at hbefore hconcat
  cases hrepeats : before.getLast?.filter (·.metadata.sha256 = sha256Of sha s.schema) with
  | some old =>
    obtain ⟨hold, hsha⟩ := Option.filter_eq_some_iff.mp hrepeats
    rw [if_neg (by simpa [hold] using hsha)] at hconcat
    exact ⟨hother (fun _ _ => rfl) (by rw [hconcat]; exact hbefore), by rw [hconcat, hold]; rfl⟩
  | none =>
    have hdiffers : before.getLast?.map (·.metadata.sha256) ≠ some (sha256Of sha s.schema) := by
      cases hold : before.getLast? with
      | none => simp
      | some old => simpa [hold] using hrepeats
    rw [if_pos hdiffers] at hconcat
    have hversion : (versionsOf (directories registry s.provider)).getLast?.elim 1 (· + 1) = before.length + 1 := by
      rw [hbefore.getLast?_versionsOf]
      split
      · next hnil => rw [hnil]; rfl
      · rfl
    simp only [hversion, hconcat, List.getLast?_concat]
    exact ⟨hother (fun _ hprovider => by rw [directories_set, if_neg hprovider])
      (by rw [directories_set, if_pos rfl, hconcat]; exact hbefore.set _), rfl⟩

/-- However submissions of all providers follow one another, the directories of a provider are numbered from one without a gap, and
    hold its documents but for those that repeat the one before, each with the fingerprint of the version before and graded against
    it; and a submission returns what the last directory says. -/
theorem records_storeAll (submissions : List Submission) : Records F sha str submissions (storeAll F sha str submissions) ∧
    ∀ s, (latestVersion (storeAll F sha str (submissions ++ [s])) s.provider).map (·.metadata) =
      some (storeSchema F sha str s (storeAll F sha str submissions)).1 := by
  have hall : Records F sha str submissions (storeAll F sha str submissions) := by
    induction submissions using List.reverseRecOn with
    | nil => exact fun provider n => by cases n <;> rfl
    | append_singleton submissions s ih =>
      rw [storeAll, List.foldl_append]
      exact (ih.storeSchema s).1
  refine ⟨hall, fun s => ?_⟩
  obtain ⟨hnext, hlast⟩ := hall.storeSchema s
  rw [storeAll, List.foldl_append]
  exact (congrArg (Option.map _) (hnext s.provider).latestVersion).trans hlast

end Runs

end CestaPlan.Providers
