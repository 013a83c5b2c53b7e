import CestaPlan.Providers.SchemaMerging

/-! The text of a structure tells it, so its fingerprint does; the comparison of two structures finds every difference, and no more
    than added fields only where the old one is the new one without them; and a synthetic payload has the structure of the real one,
    but for arrays that are empty. -/

namespace CestaPlan.Providers
open Overlays Structure Json

/-! ### Fingerprints -/

section Text
variable {a b : Structure} {x y : Option Structure} {fields fields' : List (String × Structure)} {f g : String × Structure}
  {r r' : List Char}

def text (s : Structure) : List Char := dumps compact s.json

def elementText (x : Option Structure) : List Char := dumps compact (elementJson x)

def fieldText (f : String × Structure) : List Char := plain.quote f.1 ++ ':' :: text f.2

/-- What follows a field. -/
def tailText (fields : List (String × Structure)) : List Char := fields.flatMap (fun f => ',' :: fieldText f) ++ ['\x7d']

theorem fieldsJson_eq (fields : List (String × Structure)) : fieldsJson fields = fields.map fun f => (f.1, f.2.json) := by
  induction fields with
  | nil => rfl
  | cons f fields ih => rw [fieldsJson, ih, List.map_cons]

theorem text_array (x : Option Structure) : text (.array x) = '[' :: (plain.quote "array" ++ ',' :: (elementText x ++ [']'])) := by
  show '[' :: ([','].intercalate [plain.quote "array", elementText x] ++ [']']) = _
  rw [List.intercalate_cons_cons, List.intercalate_singleton, List.append_assoc, List.append_assoc]
  rfl

theorem intercalate_cons_eq {α β : Type} (c : α) (f : β → List α) (b : β) (bs : List β) :
    [c].intercalate ((b :: bs).map f) = f b ++ bs.flatMap (fun b => c :: f b) := by
  induction bs generalizing b with
  | nil => simp
  | cons b' bs ih =>
    rw [List.map_cons, List.map_cons, List.intercalate_cons_cons, ← List.map_cons, ih, List.flatMap_cons, List.append_assoc]
    rfl

theorem text_object (h : Ordered fields) :
    text (.object fields) = '\x7b' :: ([','].intercalate (fields.map fieldText) ++ ['\x7d']) := by
  have hentries : dumpsEntries compact (fieldsJson fields) = fields.map fun f => (f.1, text f.2) := by
    rw [dumpsEntries_eq, fieldsJson_eq, List.map_map]
    rfl
  have hsorted : (fields.map fun f => (f.1, text f.2)).Pairwise fun e e' => e.1 ≤ e'.1 :=
    List.pairwise_map.mpr (List.Pairwise.imp (fun hlt => le_of_lt hlt) h)
  show "\x7b".toList ++ [','].intercalate (((dumpsEntries compact (fieldsJson fields)).insertionSort fun e e' => e.1 ≤ e'.1).map
    fun e => compact.quote e.1 ++ ":".toList ++ e.2) ++ "\x7d".toList = _
  rw [hentries, hsorted.insertionSort_eq, List.map_map]
  have hfield : (fun e : String × List Char => compact.quote e.1 ++ ":".toList ++ e.2) ∘ (fun f : String × Structure => (f.1, text f.2)) =
      fieldText := funext fun f => List.append_assoc ..
  rw [hfield]
  rfl

theorem text_head (h : InOrder a) : ∃ c rest, text a = c :: rest ∧ c ≠ 'n' := by
  cases h with
  | scalar => exact ⟨'"', _, rfl, by decide⟩
  | array => exact ⟨'[', _, text_array _, by decide⟩
  | object keys => exact ⟨'\x7b', _, text_object keys, by decide⟩

/-- The text of `a` ends by itself, and tells `a`. -/
def TellsText (a : Structure) : Prop := ∀ {b : Structure} {r r' : List Char}, InOrder b → text a ++ r = text b ++ r' → a = b ∧ r = r'

theorem field_unique (ih : TellsText f.2) (hg : InOrder g.2) (h : fieldText f ++ r = fieldText g ++ r') : f = g ∧ r = r' := by
  rw [fieldText, fieldText, List.append_assoc, List.append_assoc] at h
  obtain ⟨hkey, hrest⟩ := quote_unique h
  obtain ⟨hvalue, hr⟩ := ih hg (List.cons.inj hrest).2
  exact ⟨Prod.ext hkey hvalue, hr⟩

theorem tail_unique (ih : ∀ f ∈ fields, TellsText f.2) (hfields' : ∀ f ∈ fields', InOrder f.2)
    (h : tailText fields ++ r = tailText fields' ++ r') : fields = fields' ∧ r = r' := by
  induction fields generalizing fields' with
  | nil => cases fields' with
    | nil => exact ⟨rfl, (List.cons.inj h).2⟩
    | cons g fields' => exact absurd (List.cons.inj h).1 (by decide)
  | cons f fields ihfields => cases fields' with
    | nil => exact absurd (List.cons.inj h).1 (by decide)
    | cons g fields' =>
      have hstep (f : String × Structure) (fields : List (String × Structure)) (r : List Char) :
          tailText (f :: fields) ++ r = ',' :: (fieldText f ++ (tailText fields ++ r)) := by
        simp only [tailText, List.flatMap_cons, List.cons_append, List.append_assoc]
      rw [hstep, hstep] at h
      obtain ⟨ihhead, ihtail⟩ := List.forall_mem_cons.mp ih
      obtain ⟨hhead, htail⟩ := List.forall_mem_cons.mp hfields'
      obtain ⟨rfl, hrest⟩ := field_unique ihhead hhead (List.cons.inj h).2
      obtain ⟨rfl, hr⟩ := ihfields ihtail htail hrest
      exact ⟨rfl, hr⟩

theorem element_unique (ih : ∀ a ∈ x, TellsText a) (hx : AllInOrder x) (hy : AllInOrder y)
    (h : elementText x ++ r = elementText y ++ r') : x = y ∧ r = r' := by
  have hnull {s : Structure} (hs : InOrder s) (r r' : List Char) : "null".toList ++ r ≠ text s ++ r' := by
    obtain ⟨c, rest, heq, hc⟩ := text_head hs
    intro h
    rw [heq] at h
    exact hc (List.cons.inj h).1.symm
  cases x with
  | none => cases y with
    | none => exact ⟨rfl, List.append_cancel_left h⟩
    | some b => exact absurd h (hnull (hy b rfl) r r')
  | some a => cases y with
    | none => exact absurd h.symm (hnull (hx a rfl) r' r)
    | some b =>
      obtain ⟨rfl, hr⟩ := ih a rfl (hy b rfl) h
      exact ⟨rfl, hr⟩

theorem text_unique (ha : InOrder a) : TellsText a := by
  induction a using structure_induction with
  | scalar name =>
    intro b r r' hb h
    cases hb with
    | scalar name' =>
      obtain ⟨rfl, hr⟩ := quote_unique h
      exact ⟨rfl, hr⟩
    | array =>
      rw [text_array] at h
      exact absurd (List.cons.inj h).1 (by decide)
    | object keys =>
      rw [text_object keys] at h
      exact absurd (List.cons.inj h).1 (by decide)
  | array element ih =>
    intro b r r' hb h
    rw [text_array] at h
    cases ha with
    | array hx => cases hb with
      | scalar => exact absurd (List.cons.inj h).1 (by decide)
      | array hy =>
        rw [text_array, List.cons_append, List.cons_append, List.append_assoc, List.append_assoc] at h
        have h : (elementText element ++ [']']) ++ r = (elementText _ ++ [']']) ++ r' :=
          (List.cons.inj (List.append_cancel_left (List.cons.inj h).2)).2
        rw [List.append_assoc, List.append_assoc] at h
        obtain ⟨rfl, hr⟩ := element_unique (fun a ha => ih a ha (hx a ha)) hx hy h
        exact ⟨rfl, (List.cons.inj hr).2⟩
      | object keys =>
        rw [text_object keys] at h
        exact absurd (List.cons.inj h).1 (by decide)
  | object fields ih =>
    intro b r r' hb h
    cases ha with
    | object keys values =>
      rw [text_object keys] at h
      cases hb with
      | scalar => exact absurd (List.cons.inj h).1 (by decide)
      | array =>
        rw [text_array] at h
        exact absurd (List.cons.inj h).1 (by decide)
      | @object fields' keys' values' =>
        rw [text_object keys', List.cons_append, List.cons_append] at h
        have h := (List.cons.inj h).2
        have ih : ∀ f ∈ fields, TellsText f.2 := fun f hf => ih f hf (values f hf)
        cases fields with
        | nil => cases fields' with
          | nil => exact ⟨rfl, (List.cons.inj h).2⟩
          | cons g fields' =>
            rw [intercalate_cons_eq, List.append_assoc, List.append_assoc] at h
            exact absurd (List.cons.inj h).1 (by decide)
        | cons f fields => cases fields' with
          | nil =>
            rw [intercalate_cons_eq, List.append_assoc, List.append_assoc] at h
            exact absurd (List.cons.inj h).1 (by decide)
          | cons g fields' =>
            rw [intercalate_cons_eq, intercalate_cons_eq, List.append_assoc, List.append_assoc, List.append_assoc, List.append_assoc,
              ← List.append_assoc (fields.flatMap _), ← List.append_assoc (fields'.flatMap _)] at h
            obtain ⟨ihhead, ihtail⟩ := List.forall_mem_cons.mp ih
            obtain ⟨hhead, htail⟩ := List.forall_mem_cons.mp values'
            obtain ⟨rfl, hrest⟩ := field_unique ihhead hhead h
            obtain ⟨rfl, hr⟩ := tail_unique ihtail htail hrest
            exact ⟨rfl, hr⟩

theorem schemaFingerprint_inj {H : Type} {sha256 : List Char → H} (hsha : Function.Injective sha256) (hx : AllInOrder x)
    (hy : AllInOrder y) : schemaFingerprint sha256 x = schemaFingerprint sha256 y ↔ x = y := by
  constructor
  · intro h
    have htext : elementText x ++ [] = elementText y ++ [] := congrArg (· ++ []) (hsha h)
    exact (element_unique (fun a ha => text_unique (hx a ha)) hx hy htext).1
  · rintro rfl
    rfl

end Text

/-! ### Drift -/

/-- A structure that `canonical_structure` or `merge_samples` builds. -/
inductive Built : Option Structure → Prop
  | canonical (v : Json String) : Built (some (canonicalStructure v))
  | merged (samples : List (Json String)) : Built (mergeSamples samples)

/-- The old structure is the new one without some of the fields of its objects. -/
inductive Thinned : Structure → Structure → Prop
  | scalar (name : String) : Thinned (.scalar name) (.scalar name)
  | empty : Thinned (.array none) (.array none)
  | array {a b : Structure} (element : Thinned a b) : Thinned (.array (some a)) (.array (some b))
  | object {fields fields' : List (String × Structure)} (there : ∀ k a, fields.lookup k = some a → fields'.lookup k ≠ none)
      (values : ∀ k a b, fields.lookup k = some a → fields'.lookup k = some b → Thinned a b) :
      Thinned (.object fields) (.object fields')

inductive ThinnedTo : Option Structure → Option Structure → Prop
  | nothing : ThinnedTo none none
  | structures {a b : Structure} (h : Thinned a b) : ThinnedTo (some a) (some b)

section Drift
variable {a b : Structure} {x y : Option Structure} {as bs : List (String × Structure)} {k path : String}

theorem Built.allInOrder (h : Built x) : AllInOrder x := by
  cases h with
  | canonical v => exact allInOrder_some (inOrder_canonicalStructure v)
  | merged samples => exact (merged_mergeSamples (List.Subset.refl samples)).allInOrder

theorem typeChanged_eq_nil : typeChanged x y path = [] ↔ x = y := by
  unfold typeChanged
  split
  · next h => exact ⟨fun _ => h, fun _ => rfl⟩
  · next h => exact ⟨fun hnil => absurd hnil (List.cons_ne_nil _ _), fun heq => absurd heq h⟩

theorem eq_of_typeChanged (h : ∀ c ∈ typeChanged x y path, c.change = .addedField) : x = y := by
  by_contra hne
  rw [typeChanged, if_neg hne] at h
  cases h _ List.mem_cons_self

theorem lookup_diffFields : (diffFields as bs path).lookup k = match as.lookup k, bs.lookup k with
    | none, none => none
    | none, some _ => some [⟨here path k, .addedField⟩]
    | some _, none => some [⟨here path k, .removedField⟩]
    | some a, some b => some (diffOf a b (here path k)) := by
  induction as with
  | nil =>
    show (bs.map fun f => (f.1, [(⟨here path f.1, .addedField⟩ : Change)])).lookup k = _
    induction bs with
    | nil => rfl
    | cons f bs ih =>
      rw [List.map_cons, lookup_entry, lookup_entry, ih]
      split
      · next heq => rw [heq]; rfl
      · rfl
  | cons f as ih =>
    obtain ⟨l, a⟩ := f
    rw [diffFields, lookup_insertEntry, lookup_entry, ih]
    split
    · next heq =>
      subst heq
      cases bs.lookup k <;> rfl
    · rfl

theorem ordered_diffFields (h : Ordered bs) : Ordered (diffFields as bs path) := by
  induction as with
  | nil => exact List.pairwise_map.mpr h
  | cons f as ih => exact ordered_insertEntry ih

theorem mem_diffOf (h : Ordered bs) {c : Change} : c ∈ diffOf (.object as) (.object bs) path ↔
    ∃ k changes, (diffFields as bs path).lookup k = some changes ∧ c ∈ changes := by
  show c ∈ (diffFields as bs path).flatMap Prod.snd ↔ _
  rw [List.mem_flatMap]
  constructor
  · rintro ⟨e, he, hc⟩
    exact ⟨e.1, e.2, (ordered_diffFields h).lookup_of_mem he, hc⟩
  · rintro ⟨k, changes, hk, hc⟩
    exact ⟨(k, changes), mem_of_lookup hk, hc⟩

theorem eq_of_diffOf (ha : InOrder a) (hb : InOrder b) (h : diffOf a b path = []) : a = b := by
  induction a using structure_induction generalizing b path with
  | scalar name => exact Option.some.inj (typeChanged_eq_nil.mp h)
  | array element ih =>
    cases b with
    | scalar | object => exact Option.some.inj (typeChanged_eq_nil.mp h)
    | array element' =>
      cases element with
      | none => exact congrArg _ (typeChanged_eq_nil.mp h)
      | some a => cases element' with
        | none => exact congrArg _ (typeChanged_eq_nil.mp h)
        | some b =>
          have heq := ih a rfl (allInOrder_child ha .element a rfl) (allInOrder_child hb .element b rfl) h
          rw [heq]
  | object as ih =>
    cases b with
    | scalar | array => exact Option.some.inj (typeChanged_eq_nil.mp h)
    | object bs =>
      have hlookup (k : String) : as.lookup k = bs.lookup k := by
        cases hb with
        | object keys' values' =>
          have hnil (changes : List Change) (hk : (diffFields as bs path).lookup k = some changes) : changes = [] :=
            List.eq_nil_iff_forall_not_mem.mpr fun c hc => by
              have hmem := (mem_diffOf keys').mpr ⟨k, changes, hk, hc⟩
              rw [h] at hmem
              cases hmem
          rw [lookup_diffFields] at hnil
          cases hx : as.lookup k with
          | none => cases hy : bs.lookup k with
            | none => rfl
            | some b =>
              rw [hx, hy] at hnil
              cases hnil _ rfl
          | some a => cases hy : bs.lookup k with
            | none =>
              rw [hx, hy] at hnil
              cases hnil _ rfl
            | some b =>
              rw [hx, hy] at hnil
              exact congrArg some (ih (k, a) (mem_of_lookup hx) (allInOrder_child ha (.field k) a hx) (values' _ (mem_of_lookup hy))
                (hnil _ rfl))
      cases ha with
      | object keys => cases hb with
        | object keys' => exact congrArg _ (keys.ext keys' hlookup)

theorem diffOf_self (ha : InOrder a) (path : String) : diffOf a a path = [] := by
  induction a using structure_induction generalizing path with
  | scalar name => exact if_pos rfl
  | array element ih =>
    cases element with
    | none => exact (typeChanged_eq_nil.mpr rfl : typeChanged none none (path ++ "[]") = [])
    | some a => exact ih a rfl (allInOrder_child ha .element a rfl) _
  | object fields ih =>
    cases ha with
    | object keys values =>
      refine List.eq_nil_iff_forall_not_mem.mpr fun c hc => ?_
      obtain ⟨k, changes, hk, hc⟩ := (mem_diffOf keys).mp hc
      rw [lookup_diffFields] at hk
      cases hx : fields.lookup k with
      | none =>
        rw [hx] at hk
        cases hk
      | some a =>
        rw [hx] at hk
        have hmem := mem_of_lookup hx
        obtain rfl := Option.some.inj hk
        rw [ih (k, a) hmem (values _ hmem)] at hc
        cases hc

theorem thinned_of_added (hb : InOrder b) (h : ∀ c ∈ diffOf a b path, c.change = .addedField) : Thinned a b := by
  induction a using structure_induction generalizing b path with
  | scalar name => exact Option.some.inj (eq_of_typeChanged h) ▸ .scalar name
  | array element ih =>
    cases b with
    | scalar | object => cases eq_of_typeChanged h
    | array element' =>
      cases element with
      | none =>
        have heq := eq_of_typeChanged (show ∀ c ∈ typeChanged none element' (path ++ "[]"), c.change = .addedField from by
          cases element' <;> exact h)
        exact heq ▸ .empty
      | some a => cases element' with
        | none => cases eq_of_typeChanged (show ∀ c ∈ typeChanged (some a) none (path ++ "[]"), c.change = .addedField from h)
        | some b => exact .array (ih a rfl (allInOrder_child hb .element b rfl) h)
  | object as ih =>
    cases b with
    | scalar | array => cases eq_of_typeChanged h
    | object bs =>
      cases hb with
      | object keys values =>
        have hadded (k : String) (changes : List Change) (hk : (diffFields as bs path).lookup k = some changes) :
            ∀ c ∈ changes, c.change = .addedField := fun c hc => h c ((mem_diffOf keys).mpr ⟨k, changes, hk, hc⟩)
        refine .object (fun k a ha hnone => ?_) fun k a b ha hb => ?_
        · have hk := hadded k [⟨here path k, .removedField⟩] (by rw [lookup_diffFields, ha, hnone])
          cases hk _ List.mem_cons_self
        · exact ih (k, a) (mem_of_lookup ha) (values _ (mem_of_lookup hb)) (hadded k _ (by rw [lookup_diffFields, ha, hb]))

theorem ThinnedTo.labels (h : ThinnedTo x y) (place : List Step) {l : Label} (hl : labels x place = some l) :
    labels y place = some l := by
  induction place generalizing x y with
  | nil =>
    cases h with
    | nothing => exact hl
    | structures h => cases h <;> exact hl
  | cons step place ih =>
    cases h with
    | nothing => exact hl
    | @structures a b h =>
      suffices hstep : a.child step = none ∨ ThinnedTo (a.child step) (b.child step) by
        rcases hstep with hnone | hstep
        · rw [show labels (some a) (step :: place) = labels (a.child step) place from rfl, hnone, labels_none] at hl
          cases hl
        · exact ih hstep hl
      cases h with
      | scalar => exact .inl (by cases step <;> rfl)
      | empty => exact .inl (by cases step <;> rfl)
      | array h => cases step with
        | field => exact .inl rfl
        | element => exact .inr (.structures h)
      | @object fields fields' there values => cases step with
        | element => exact .inl rfl
        | field k =>
          show fields.lookup k = none ∨ ThinnedTo (fields.lookup k) (fields'.lookup k)
          cases hx : fields.lookup k with
          | none => exact .inl rfl
          | some a => cases hy : fields'.lookup k with
            | none => exact absurd hy (there k a hx)
            | some b => exact .inr (.structures (values k a b hx hy))

theorem diffStructures_eq_nil (hx : AllInOrder x) (hy : AllInOrder y) : diffStructures x y path = [] ↔ x = y := by
  cases x with
  | none => cases y <;> exact typeChanged_eq_nil
  | some a => cases y with
    | none => exact typeChanged_eq_nil
    | some b =>
      constructor
      · exact fun h => congrArg some (eq_of_diffOf (hx a rfl) (hy b rfl) h)
      · rintro ⟨⟩
        exact diffOf_self (hx a rfl) path

theorem thinnedTo_of_added (hy : AllInOrder y) (h : ∀ c ∈ diffStructures x y path, c.change = .addedField) : ThinnedTo x y := by
  cases x with
  | none => cases y with
    | none => exact .nothing
    | some b => cases eq_of_typeChanged h
  | some a => cases y with
    | none => cases eq_of_typeChanged h
    | some b => exact .structures (thinned_of_added (hy b rfl) h)

theorem classifyDrift_unchanged {changes : List Change} : classifyDrift changes = .unchanged ↔ changes = [] := by
  constructor
  · intro h
    by_contra hne
    rw [classifyDrift, if_neg hne] at h
    repeat' split at h
    all_goals cases h
  · rintro rfl
    rfl

theorem added_of_classifyDrift {changes : List Change} (h : classifyDrift changes = .additiveCompatible) :
    ∀ c ∈ changes, c.change = .addedField := by
  unfold classifyDrift at h
  repeat' split at h
  all_goals first
    | next hall => exact fun c hc => of_decide_eq_true (List.all_eq_true.mp hall c hc)
    | cases h

/-- There is no change, and no drift, between two structures if and only if their fingerprints are the same; and where the drift is
    only additive, the old structure is the new one without some fields, so all its places are there as before. -/
theorem drift_spec {H : Type} {sha256 : List Char → H} (hsha : Function.Injective sha256) (hx : Built x) (hy : Built y) (path : String) :
    (diffStructures x y path = [] ↔ schemaFingerprint sha256 x = schemaFingerprint sha256 y) ∧
      (classifyDrift (diffStructures x y path) = .unchanged ↔ schemaFingerprint sha256 x = schemaFingerprint sha256 y) ∧
      (classifyDrift (diffStructures x y path) = .additiveCompatible →
        ThinnedTo x y ∧ ∀ place l, labels x place = some l → labels y place = some l) := by
  have hnil : diffStructures x y path = [] ↔ schemaFingerprint sha256 x = schemaFingerprint sha256 y := by
    rw [schemaFingerprint_inj hsha hx.allInOrder hy.allInOrder]
    exact diffStructures_eq_nil hx.allInOrder hy.allInOrder
  refine ⟨hnil, classifyDrift_unchanged.trans hnil, fun h => ?_⟩
  have hthinned := thinnedTo_of_added hy.allInOrder (added_of_classifyDrift h)
  exact ⟨hthinned, fun place _ => hthinned.labels place⟩

/-- A field is added. -/
theorem drift_spec_addedField :
    ThinnedTo (some (canonicalStructure (.obj [("a", .int 1)]))) (mergeSamples [.obj [("a", .int 1), ("b", .null)]]) :=
  ((drift_spec (fun _ _ => id) (.canonical (.obj [("a", .int 1)])) (.merged [.obj [("a", .int 1), ("b", .null)]]) "").2.2
    (by decide +kernel)).1

end Drift

/-! ### Synthetic payloads -/

mutual
/-- The scalars are the made-up ones. -/
def isFake : Json String → Bool
  | .null => true
  | .bool b => !b
  | .int n => n = 0
  | .float repr => repr = "0.0"
  | .str s => s = "SYNTHETIC"
  | .other _ => false
  | .arr items => areFake items
  | .obj entries => entriesAreFake entries

def areFake : List (Json String) → Bool
  | [] => true
  | v :: items => isFake v && areFake items

def entriesAreFake : List (String × Json String) → Bool
  | [] => true
  | (_, v) :: entries => isFake v && entriesAreFake entries
end

/-- No name is an alternative of several types. -/
abbrev NoAlternative : Structure → Prop := All (fun name => '|' ∉ name.toList) fun _ => True

/-- Every array has an element. -/
inductive Whole : Structure → Prop
  | scalar (name : String) : Whole (.scalar name)
  | array {a : Structure} (h : Whole a) : Whole (.array (some a))
  | object {fields : List (String × Structure)} (h : ∀ f ∈ fields, Whole f.2) : Whole (.object fields)

/-- The synthetic payload has the structure of the real one, so its fingerprint under any hash, and none of its strings and numbers. -/
structure Synthesized (v : Json String) : Prop where
  structure_eq : canonicalStructure (canonicalStructure v).synthesize = canonicalStructure v
  fingerprint_eq : ∀ {H : Type} (sha256 : List Char → H),
    schemaFingerprint sha256 (some (canonicalStructure (canonicalStructure v).synthesize)) = schemaFingerprint sha256 (some (canonicalStructure v))
  fake : isFake (canonicalStructure v).synthesize = true

section Synthetic
variable {a : Structure} {fields : List (String × Structure)} {v : Json String}

/-- A name of a JSON type, or an alternative. -/
def Known (name : String) : Prop := name ∈ fake.map Prod.fst ∨ '|' ∈ name.toList

theorem known_alternative (s t : String) : Known (alternative s t) := by
  refine .inr ?_
  unfold alternative
  split <;> simp [String.toList_append]

theorem known_canonicalStructure (hv : v.isJson = true) : All Known (fun _ => True) (canonicalStructure v) :=
  all_canonicalStructure (fun s t _ _ => known_alternative s t) (fun _ _ _ => trivial) trivial (fun _ _ _ _ => trivial)
    (fun name hname => .inl (by revert name; decide)) (.inl hv)

theorem canonicalStructure_scalar {name : String} (h : name ∈ fake.map Prod.fst) :
    canonicalStructure (Structure.scalar name).synthesize = .scalar name := by
  revert name
  decide +kernel

theorem canonicalEntries_synthesizeFields (h : Ordered fields) :
    canonicalEntries (synthesizeFields fields) = fields.map fun f => (f.1, canonicalStructure f.2.synthesize) := by
  induction fields with
  | nil => rfl
  | cons f fields ih =>
    obtain ⟨hhead, htail⟩ := List.pairwise_cons.mp h
    rw [synthesizeFields, canonicalEntries, ih htail, List.map_cons]
    exact insertEntry_of_lt (List.forall_mem_map.mpr hhead)

theorem canonicalStructure_synthesize (hknown : All Known (fun _ => True) a) (hsingle : NoAlternative a) (horder : InOrder a) :
    canonicalStructure a.synthesize = a ↔ Whole a := by
  induction a using structure_induction with
  | scalar name =>
    cases hknown with
    | scalar hknown => cases hsingle with
      | scalar hsingle => exact ⟨fun _ => .scalar name, fun _ => canonicalStructure_scalar (hknown.resolve_right hsingle)⟩
  | array element ih =>
    cases element with
    | none =>
      constructor
      · intro h
        cases h
      · rintro ⟨⟩
    | some a =>
      cases hknown with
      | array hknown => cases hsingle with
        | array hsingle => cases horder with
          | array horder =>
            have ih := ih a rfl (hknown a rfl) (hsingle a rfl) (horder a rfl)
            constructor
            · intro h
              exact .array (ih.mp (Option.some.inj (Structure.array.inj h)))
            · rintro (_ | hwhole | _)
              exact congrArg (fun s => Structure.array (some s)) (ih.mpr hwhole)
  | object fields ih =>
    cases hknown with
    | object _ hknown => cases hsingle with
      | object _ hsingle => cases horder with
        | object keys horder =>
          have hfields : canonicalStructure (Structure.object fields).synthesize = .object fields ↔
              ∀ f ∈ fields, canonicalStructure f.2.synthesize = f.2 := by
            show Structure.object (canonicalEntries (synthesizeFields fields)) = _ ↔ _
            rw [canonicalEntries_synthesizeFields keys, Structure.object.injEq]
            constructor
            · intro h f hf
              have hmap : fields.map (fun f => (f.1, canonicalStructure f.2.synthesize)) = fields.map id := h.trans (List.map_id _).symm
              exact congrArg Prod.snd (List.map_inj_left.mp hmap f hf)
            · intro h
              have hmap : fields.map (fun f => (f.1, canonicalStructure f.2.synthesize)) = fields.map id :=
                List.map_congr_left fun f hf => Prod.ext rfl (h f hf)
              exact hmap.trans (List.map_id _)
          have ih (f : String × Structure) (hf : f ∈ fields) := ih f hf (hknown f hf) (hsingle f hf) (horder f hf)
          rw [hfields]
          constructor
          · intro h
            exact .object fun f hf => (ih f hf).mp (h f hf)
          · rintro (_ | _ | hwhole) f hf
            exact (ih f hf).mpr (hwhole f hf)

theorem isFake_synthesize (a : Structure) : isFake a.synthesize = true := by
  induction a using structure_induction with
  | scalar name =>
    show isFake ((fake.lookup (firstAlternative name)).getD (.str "SYNTHETIC")) = true
    cases h : fake.lookup (firstAlternative name) with
    | none => rfl
    | some v =>
      have hfake : ∀ e ∈ fake, isFake e.2 = true := by decide
      exact hfake _ (mem_of_lookup h)
  | array element ih =>
    cases element with
    | none => rfl
    | some a => exact Bool.and_eq_true_iff.mpr ⟨ih a rfl, rfl⟩
  | object fields ih =>
    show entriesAreFake (synthesizeFields fields) = true
    induction fields with
    | nil => rfl
    | cons f fields ihfields =>
      obtain ⟨hhead, htail⟩ := List.forall_mem_cons.mp ih
      exact Bool.and_eq_true_iff.mpr ⟨hhead, ihfields htail⟩

/-- Where no type is an alternative, a JSON value has a synthetic payload if and only if no array of its structure is empty. -/
theorem synthesized_iff_whole (hjson : v.isJson = true) (h : NoAlternative (canonicalStructure v)) :
    Synthesized v ↔ Whole (canonicalStructure v) := by
  have hiff := canonicalStructure_synthesize (known_canonicalStructure hjson) h (inOrder_canonicalStructure v)
  constructor
  · exact fun h => hiff.mp h.structure_eq
  · intro hwhole
    have heq := hiff.mpr hwhole
    exact ⟨heq, fun sha256 => by rw [heq], isFake_synthesize _⟩

/-- Prices in an array. -/
theorem synthesized_prices : Synthesized (.arr [.int 3, .int 5]) :=
  (synthesized_iff_whole rfl (.array fun _ hs => Option.some.inj hs ▸ .scalar (by decide))).mpr (.array (.scalar "int"))

/-- An empty array has no element type, and becomes an array of a text. -/
theorem not_synthesized_emptyArray : ¬ Synthesized (.arr []) := fun h => absurd h.structure_eq (by decide +kernel)

end Synthetic
end CestaPlan.Providers
