import CestaPlan.Library.JsonText
import CestaPlan.Providers.SchemaTools

/-! A structure is a partial map from the places of a payload to what stands there. Merging lays one map over another, as long as
    the two do not differ at a place where both have something; where they do, the merge depends on the order of the samples and on
    how often each is there, or forgets an object or an array. -/

namespace CestaPlan.Providers
open Overlays Structure

/-! ### Places -/

/-- A step from a structure into a part of it. -/
inductive Step where
  | field (key : String)
  | element

/-- What stands at a place. -/
inductive Label where
  | scalar (name : String)
  | array
  | object
deriving DecidableEq

def Structure.label : Structure → Label
  | .scalar name => .scalar name
  | .array _ => .array
  | .object _ => .object

def Structure.child : Structure → Step → Option Structure
  | .array element, .element => element
  | .object fields, .field key => fields.lookup key
  | _, _ => none

/-- The map of a structure. -/
def labels : Option Structure → List Step → Option Label
  | none, _ => none
  | some s, [] => some s.label
  | some s, step :: place => labels (s.child step) place

theorem labels_none (place : List Step) : labels none place = none := by cases place <;> rfl

/-! ### Structures in order -/

section Order
variable {a b : Structure} {fields : List (String × Structure)} {element : Option Structure} {k : String}

@[elab_as_elim]
theorem structure_induction {motive : Structure → Prop} (scalar : ∀ name, motive (.scalar name))
    (array : ∀ element, (∀ s ∈ element, motive s) → motive (.array element))
    (object : ∀ fields, (∀ f ∈ fields, motive f.2) → motive (.object fields)) (a : Structure) : motive a :=
  @Structure.rec motive (fun element => ∀ s ∈ element, motive s) (fun fields => ∀ f ∈ fields, motive f.2) (fun f => motive f.2)
    scalar array object (fun _ hs => nomatch hs) (fun _ hs _ ht => Option.some.inj ht ▸ hs) (fun _ hf => nomatch hf)
    (fun _ _ hhead htail => List.forall_mem_cons.mpr ⟨hhead, htail⟩) (fun _ _ hs => hs) a

/-- Every name is as `p` has it, and the fields of every object as `q` has them. -/
inductive Structure.All (p : String → Prop) (q : List (String × Structure) → Prop) : Structure → Prop
  | scalar {name : String} (names : p name) : All p q (.scalar name)
  | array {element : Option Structure} (elements : ∀ s ∈ element, All p q s) : All p q (.array element)
  | object {fields : List (String × Structure)} (keys : q fields) (values : ∀ f ∈ fields, All p q f.2) : All p q (.object fields)

/-- The fields of its objects stand in order. -/
abbrev Structure.InOrder : Structure → Prop := All (fun _ => True) Ordered

/-- What is there is in order. -/
def AllInOrder (x : Option Structure) : Prop := ∀ s ∈ x, InOrder s

theorem allInOrder_some (h : InOrder a) : AllInOrder (some a) := fun _ hs => Option.some.inj hs ▸ h

theorem allInOrder_child (h : InOrder a) (step : Step) : AllInOrder (a.child step) := by
  cases h with
  | scalar => exact fun _ hs => nomatch hs
  | array elements => cases step with
    | field => exact fun _ hs => nomatch hs
    | element => exact elements
  | object keys values => cases step with
    | field k => exact fun s hs => values _ (mem_of_lookup hs)
    | element => exact fun _ hs => nomatch hs

theorem child_eq_of_labels {step : Step} (ha : InOrder a) (hb : InOrder b)
    (h : ∀ place, labels (some a) place = labels (some b) place)
    (ih : ∀ s ∈ a.child step, ∀ {t : Structure}, InOrder s → InOrder t →
      (∀ place, labels (some s) place = labels (some t) place) → s = t) : a.child step = b.child step := by
  have hstep (place : List Step) : labels (a.child step) place = labels (b.child step) place := h (step :: place)
  have hsa := allInOrder_child ha step
  have hsb := allInOrder_child hb step
  cases hx : a.child step with
  | none => cases hy : b.child step with
    | none => rfl
    | some t =>
      have hnone := hstep []
      rw [hx, hy] at hnone
      cases hnone
  | some s => cases hy : b.child step with
    | none =>
      have hnone := hstep []
      rw [hx, hy] at hnone
      cases hnone
    | some t => exact congrArg some (ih s hx (hsa s hx) (hsb t hy) fun place => hx ▸ hy ▸ hstep place)

theorem eq_of_labels (ha : InOrder a) (hb : InOrder b) (h : ∀ place, labels (some a) place = labels (some b) place) : a = b := by
  induction a using structure_induction generalizing b with
  | scalar name =>
    have hroot : some (Label.scalar name) = some b.label := h []
    cases b with
    | scalar name' => exact congrArg _ (Label.scalar.inj (Option.some.inj hroot))
    | array | object => cases hroot
  | array element ih =>
    have hroot : some Label.array = some b.label := h []
    cases b with
    | array element' => exact congrArg _ (@child_eq_of_labels _ _ .element ha hb h fun s hs _ => ih s hs)
    | scalar | object => cases hroot
  | object fields ih =>
    have hroot : some Label.object = some b.label := h []
    cases b with
    | object fields' =>
      have hlookup (k : String) : fields.lookup k = fields'.lookup k :=
        @child_eq_of_labels _ _ (.field k) ha hb h fun s hs _ => ih (k, s) (mem_of_lookup hs)
      cases ha with
      | object keys => cases hb with
        | object keys' => exact congrArg _ (keys.ext keys' hlookup)
    | scalar | array => cases hroot

theorem option_eq_of_labels {x y : Option Structure} (hx : AllInOrder x) (hy : AllInOrder y)
    (h : ∀ place, labels x place = labels y place) : x = y := by
  cases x with
  | none => cases y with
    | none => rfl
    | some b => cases h []
  | some a => cases y with
    | none => cases h []
    | some b => exact congrArg some (eq_of_labels (hx a rfl) (hy b rfl) h)

end Order

/-! ### One merge -/

section Merge
variable {a b : Structure} {x y : Option Structure} {as bs : List (String × Structure)} {k : String}

theorem mergeStructures_self (a : Structure) : mergeStructures a a = a := by
  unfold mergeStructures
  exact if_pos rfl

theorem merge_self (x : Option Structure) : merge x x = x := by
  cases x with
  | none => rfl
  | some a => exact congrArg some (mergeStructures_self a)

theorem lookup_mergeFields : (mergeFields as bs).lookup k = merge (as.lookup k) (bs.lookup k) := by
  induction as with
  | nil => rfl
  | cons f as ih =>
    obtain ⟨l, a⟩ := f
    rw [mergeFields, lookup_insertEntry, lookup_entry, ih]
    split
    · next heq =>
      subst heq
      cases bs.lookup k <;> rfl
    · rfl

theorem mergeStructures_object (h : Structure.object as ≠ .object bs) :
    mergeStructures (.object as) (.object bs) = .object (mergeFields as bs) := by
  unfold mergeStructures
  exact if_neg h

theorem mergeStructures_array (h : Structure.array x ≠ .array y) : mergeStructures (.array x) (.array y) = .array (merge x y) := by
  unfold mergeStructures
  exact if_neg h

theorem label_merge (h : a.label = b.label) : (mergeStructures a b).label = a.label := by
  by_cases hab : a = b
  · rw [hab, mergeStructures_self]
  · cases a <;> cases b <;> first
      | exact absurd (congrArg Structure.scalar (Label.scalar.inj h)) hab
      | (unfold mergeStructures; rw [if_neg hab]; rfl)
      | cases h

theorem child_merge (h : a.label = b.label) (step : Step) :
    (mergeStructures a b).child step = merge (a.child step) (b.child step) := by
  by_cases hab : a = b
  · rw [hab, mergeStructures_self, merge_self]
  · cases a with
    | scalar name =>
      cases b with
      | scalar => exact absurd (congrArg Structure.scalar (Label.scalar.inj h)) hab
      | array | object => cases h
    | array x =>
      cases b with
      | array y =>
        rw [mergeStructures_array hab]
        cases step <;> rfl
      | scalar | object => cases h
    | object as =>
      cases b with
      | object bs =>
        rw [mergeStructures_object hab]
        cases step with
        | field k => exact lookup_mergeFields
        | element => rfl
      | scalar | array => cases h

theorem labels_merge (h : Agree (labels x) (labels y)) (place : List Step) :
    labels (merge x y) place = (labels x place).or (labels y place) := by
  induction place generalizing x y with
  | nil =>
    cases x with
    | none => exact (Option.none_or).symm
    | some a => cases y with
      | none => rfl
      | some b => exact congrArg some (label_merge (h [] _ _ rfl rfl))
  | cons step place ih =>
    cases x with
    | none => exact (Option.none_or).symm
    | some a => cases y with
      | none => exact (Option.or_none).symm
      | some b =>
        have hroot : a.label = b.label := h [] _ _ rfl rfl
        show labels ((mergeStructures a b).child step) place = _
        rw [child_merge hroot]
        exact ih fun place => h (step :: place)

theorem toList_alternative (s t : String) : (alternative s t).toList.length = s.toList.length + t.toList.length + 1 := by
  unfold alternative
  split <;> simp only [String.toList_append, List.length_append] <;> simp <;> omega

/-- A merge that gives the first one back has found nothing in the second one that stands against it, but for an object or an array
    in the place of a name. -/
theorem label_eq_of_merge (h : mergeStructures a b = a) (hkept : b.label = .array ∨ b.label = .object → a.label = b.label) :
    a.label = b.label := by
  by_cases hab : a = b
  · rw [hab]
  · cases b with
    | array | object => exact hkept (by simp [Structure.label])
    | scalar t =>
      unfold mergeStructures at h
      rw [if_neg hab] at h
      cases a with
      | scalar s =>
        have hlength := congrArg (fun s => s.toList.length) (Structure.scalar.inj h)
        rw [toList_alternative] at hlength
        omega
      | array | object => cases h

theorem labels_of_merge_eq (h : merge x y = x)
    (hkept : ∀ place l, labels y place = some l → l = .array ∨ l = .object → labels x place = some l) (place : List Step) {l : Label}
    (hl : labels y place = some l) : labels x place = some l := by
  induction place generalizing x y with
  | nil =>
    cases y with
    | none => cases hl
    | some b => cases x with
      | none => cases h
      | some a =>
        have hroot := label_eq_of_merge (Option.some.inj h) fun hb => Option.some.inj (hkept [] _ rfl hb)
        exact (congrArg some hroot).trans hl
  | cons step place ih =>
    cases y with
    | none => cases hl
    | some b => cases x with
      | none => cases h
      | some a =>
        have h := Option.some.inj h
        have hroot := label_eq_of_merge h fun hb => Option.some.inj (hkept [] _ rfl hb)
        exact ih ((child_merge hroot step).symm.trans (congrArg (·.child step) h)) (fun place => hkept (step :: place)) hl

theorem ordered_mergeFields (h : Ordered bs) : Ordered (mergeFields as bs) := by
  induction as with
  | nil => exact h
  | cons f as ih => exact ordered_insertEntry ih

section Parts
variable {p : String → Prop} {q : List (String × Structure) → Prop}

theorem all_mergeFields (ih : ∀ f ∈ as, ∀ {b : Structure}, All p q b → All p q (mergeStructures f.2 b))
    (has : ∀ f ∈ as, All p q f.2) (hbs : ∀ f ∈ bs, All p q f.2) : ∀ f ∈ mergeFields as bs, All p q f.2 := by
  induction as with
  | nil => exact hbs
  | cons f as ihas =>
    obtain ⟨k, a⟩ := f
    obtain ⟨hhead, htail⟩ := List.forall_mem_cons.mp has
    obtain ⟨ihhead, ihtail⟩ := List.forall_mem_cons.mp ih
    intro f hf
    rcases mem_insertEntry hf with rfl | hf
    · cases hb : bs.lookup k with
      | none => exact hhead
      | some b => exact ihhead (hbs _ (mem_of_lookup hb))
    · exact ihas ihtail htail f hf

theorem all_merge (hp : ∀ s t, p s → p t → p (alternative s t)) (hq : ∀ as bs, q bs → q (mergeFields as bs)) (ha : All p q a)
    (hb : All p q b) : All p q (mergeStructures a b) := by
  induction a using structure_induction generalizing b with
  | scalar name =>
    unfold mergeStructures
    split
    · exact ha
    · cases ha with
      | scalar hs => cases hb with
        | scalar ht => exact .scalar (hp _ _ hs ht)
        | array | object => exact .scalar hs
  | array element ih =>
    by_cases hab : Structure.array element = b
    · rw [hab, mergeStructures_self]
      exact hb
    · cases ha with
      | array hx => cases hb with
        | @array element' hy =>
          rw [mergeStructures_array hab]
          refine .array fun s hs => ?_
          cases element with
          | none => exact hy s hs
          | some a => cases element' with
            | none => exact hx s hs
            | some b => exact Option.some.inj hs ▸ ih a rfl (hx a rfl) (hy b rfl)
        | scalar ht =>
          unfold mergeStructures
          rw [if_neg hab]
          exact .scalar ht
        | object =>
          unfold mergeStructures
          rw [if_neg hab]
          exact .array hx
  | object as ih =>
    by_cases hab : Structure.object as = b
    · rw [hab, mergeStructures_self]
      exact hb
    · cases ha with
      | object keys hvalues => cases hb with
        | object keys' hvalues' =>
          rw [mergeStructures_object hab]
          exact .object (hq _ _ keys') (all_mergeFields (fun f hf _ => ih f hf (hvalues f hf)) hvalues hvalues')
        | scalar ht =>
          unfold mergeStructures
          rw [if_neg hab]
          exact .scalar ht
        | array =>
          unfold mergeStructures
          rw [if_neg hab]
          exact .object keys hvalues

theorem all_merge_options (hp : ∀ s t, p s → p t → p (alternative s t)) (hq : ∀ as bs, q bs → q (mergeFields as bs))
    (hx : ∀ s ∈ x, All p q s) (hy : ∀ s ∈ y, All p q s) : ∀ s ∈ merge x y, All p q s := by
  cases x with
  | none => exact hy
  | some a => cases y with
    | none => exact hx
    | some b => exact fun _ hs => Option.some.inj hs ▸ all_merge hp hq (hx a rfl) (hy b rfl)

theorem areJson_eq (items : List (Json String)) : Json.areJson items = items.all Json.isJson := by
  induction items with
  | nil => rfl
  | cons v items ih => rw [Json.areJson, ih, List.all_cons]

theorem entriesAreJson_eq (entries : List (String × Json String)) : Json.entriesAreJson entries = entries.all (Json.isJson ·.2) := by
  induction entries with
  | nil => rfl
  | cons e entries ih => rw [Json.entriesAreJson, ih, List.all_cons]

theorem all_canonicalStructure (hp : ∀ s t, p s → p t → p (alternative s t)) (hq : ∀ as bs, q bs → q (mergeFields as bs))
    (hnil : q []) (hinsert : ∀ k a fields, q fields → q (insertEntry k a fields))
    (hname : ∀ name ∈ ["null", "bool", "int", "float", "str"], p name) {v : Json String} (hv : v.isJson = true ∨ p "unknown") :
    All p q (canonicalStructure v) := by
  induction v using Json.value_induction with
  | null | bool | int | float | str => exact .scalar (hname _ (by simp [typeName]))
  | other text => exact .scalar (hv.resolve_left Bool.false_ne_true)
  | arr items ih =>
    rw [Json.isJson, areJson_eq, List.all_eq_true] at hv
    have hitems (merged : Option Structure) (hmerged : ∀ s ∈ merged, All p q s) : ∀ s ∈ canonicalItems merged items, All p q s := by
      induction items generalizing merged with
      | nil => exact hmerged
      | cons item items ihitems =>
        obtain ⟨hhead, htail⟩ := List.forall_mem_cons.mp ih
        have hitem := hhead (hv.imp_left fun h => h item List.mem_cons_self)
        exact ihitems htail (hv.imp_left fun h w hw => h w (List.mem_cons_of_mem _ hw)) _
          (all_merge_options hp hq hmerged fun _ hs => Option.some.inj hs ▸ hitem)
    exact .array (hitems none fun _ hs => nomatch hs)
  | obj entries ih =>
    rw [Json.isJson, entriesAreJson_eq, List.all_eq_true] at hv
    have hentries : q (canonicalEntries entries) ∧ ∀ f ∈ canonicalEntries entries, All p q f.2 := by
      induction entries with
      | nil => exact ⟨hnil, fun _ hf => nomatch hf⟩
      | cons e entries ihentries =>
        obtain ⟨hhead, htail⟩ := List.forall_mem_cons.mp ih
        obtain ⟨hkeys, hvalues⟩ := ihentries htail (hv.imp_left fun h w hw => h w (List.mem_cons_of_mem _ hw))
        refine ⟨hinsert _ _ _ hkeys, fun f hf => ?_⟩
        rcases mem_insertEntry hf with rfl | hf
        · exact hhead (hv.imp_left fun h => h e List.mem_cons_self)
        · exact hvalues f hf
    exact .object hentries.1 hentries.2

end Parts

theorem allInOrder_merge (hx : AllInOrder x) (hy : AllInOrder y) : AllInOrder (merge x y) :=
  all_merge_options (fun _ _ _ _ => trivial) (fun _ _ => ordered_mergeFields) hx hy

end Merge

/-! ### Samples -/

theorem inOrder_canonicalStructure (v : Json String) : InOrder (canonicalStructure v) :=
  all_canonicalStructure (fun _ _ _ _ => trivial) (fun _ _ => ordered_mergeFields) .nil (fun _ _ _ => ordered_insertEntry)
    (fun _ _ => trivial) (.inr trivial)

section Samples
variable {samples samples' : List (Json String)} {x y z : Option Structure}

/-- The map of a sample. -/
def places (v : Json String) : List Step → Option Label := labels (some (canonicalStructure v))

/-- No two samples have different things at one place: an object and an array, an object or an array and a scalar, or scalars of
    different types. -/
def Agreeing (samples : List (Json String)) : Prop := ∀ v ∈ samples, ∀ w ∈ samples, Agree (places v) (places w)

/-- What the merges of the samples yield, in any order. -/
inductive Merged (samples : List (Json String)) : Option Structure → Prop
  | nothing : Merged samples none
  | sample {v : Json String} (mem : v ∈ samples) : Merged samples (some (canonicalStructure v))
  | merge {x y : Option Structure} (left : Merged samples x) (right : Merged samples y) : Merged samples (merge x y)

/-- The merge of the samples does not depend on their order and on how often each is there, is a semilattice on what they merge to,
    and loses no object or array. -/
structure Steady (samples : List (Json String)) : Prop where
  invariant : ∀ repeated ⊆ samples, ∀ samples', samples'.Perm (samples ++ repeated) → mergeSamples samples' = mergeSamples samples
  comm : ∀ x y, Merged samples x → Merged samples y → merge x y = merge y x
  assoc : ∀ x y z, Merged samples x → Merged samples y → Merged samples z → merge (merge x y) z = merge x (merge y z)
  idem : ∀ x, Merged samples x → merge x x = x
  kept : ∀ v ∈ samples, ∀ place label, places v place = some label → label = .array ∨ label = .object →
    labels (mergeSamples samples) place = some label

theorem mergeSamples_concat (samples : List (Json String)) (v : Json String) :
    mergeSamples (samples ++ [v]) = merge (mergeSamples samples) (some (canonicalStructure v)) := List.foldl_concat ..

theorem merged_mergeSamples {part : List (Json String)} (h : part ⊆ samples) : Merged samples (mergeSamples part) := by
  induction part using List.reverseRecOn with
  | nil => exact .nothing
  | append_singleton part v ih =>
    rw [mergeSamples_concat]
    exact .merge (ih fun w hw => h (List.mem_append_left _ hw)) (.sample (h (List.mem_append_right _ List.mem_cons_self)))

theorem Merged.allInOrder (h : Merged samples x) : AllInOrder x := by
  induction h with
  | nothing => exact fun _ hs => nomatch hs
  | sample => exact allInOrder_some (inOrder_canonicalStructure _)
  | merge _ _ ihx ihy => exact allInOrder_merge ihx ihy

/-- Whatever is in a merge is from a sample. -/
theorem Merged.from_sample (hagree : Agreeing samples) (h : Merged samples x) {place : List Step} {l : Label}
    (hl : labels x place = some l) : ∃ v ∈ samples, places v place = some l := by
  induction h generalizing place l with
  | nothing =>
    rw [labels_none] at hl
    cases hl
  | sample hv => exact ⟨_, hv, hl⟩
  | merge _ _ ihx ihy =>
    have hxy : Agree (labels _) (labels _) := fun place l l' hx hy => by
      obtain ⟨v, hv, hvl⟩ := ihx hx
      obtain ⟨w, hw, hwl⟩ := ihy hy
      exact hagree v hv w hw place l l' hvl hwl
    rw [labels_merge hxy] at hl
    exact ((or_eq_some_iff hxy).mp hl).elim ihx ihy

theorem Merged.agree (hagree : Agreeing samples) (hx : Merged samples x) (hy : Merged samples y) : Agree (labels x) (labels y) :=
  fun place l l' hl hl' => by
    obtain ⟨v, hv, hvl⟩ := hx.from_sample hagree hl
    obtain ⟨w, hw, hwl⟩ := hy.from_sample hagree hl'
    exact hagree v hv w hw place l l' hvl hwl

theorem labels_mergeSamples (hagree : Agreeing samples) {place : List Step} {l : Label} :
    labels (mergeSamples samples) place = some l ↔ ∃ v ∈ samples, places v place = some l := by
  constructor
  · exact (merged_mergeSamples (List.Subset.refl _)).from_sample hagree
  · induction samples using List.reverseRecOn with
    | nil => exact fun ⟨_, hv, _⟩ => nomatch hv
    | append_singleton samples v ih =>
      rintro ⟨w, hw, hl⟩
      have hpart : Merged (samples ++ [v]) (mergeSamples samples) := merged_mergeSamples (List.subset_append_left _ _)
      have hlast : v ∈ samples ++ [v] := List.mem_append_right _ List.mem_cons_self
      have hmaps := hpart.agree hagree (.sample hlast)
      rw [mergeSamples_concat, labels_merge hmaps, or_eq_some_iff hmaps]
      rcases List.mem_append.mp hw with hw | hw
      · refine .inl (ih (fun v hv w hw => ?_) ⟨w, hw, hl⟩)
        exact hagree v (List.mem_append_left _ hv) w (List.mem_append_left _ hw)
      · exact .inr (List.mem_singleton.mp hw ▸ hl)

theorem Steady.places_le (h : Steady samples) {v : Json String} (hv : v ∈ samples) {place : List Step} {l : Label}
    (hl : places v place = some l) : labels (mergeSamples samples) place = some l := by
  have hrepeat := h.invariant [v] (List.cons_subset.mpr ⟨hv, List.nil_subset _⟩) (samples ++ [v]) (.refl _)
  rw [mergeSamples_concat] at hrepeat
  exact labels_of_merge_eq hrepeat (h.kept v hv) place hl

/-- The merge of the samples is steady if and only if they agree. -/
theorem steady_iff_agreeing (samples : List (Json String)) : Steady samples ↔ Agreeing samples := by
  constructor
  · intro h v hv w hw place l l' hl hl'
    exact Option.some.inj ((h.places_le hv hl).symm.trans (h.places_le hw hl'))
  · intro hagree
    have hlaw {x y : Option Structure} (hx : Merged samples x) (hy : Merged samples y) (place : List Step) :
        labels (merge x y) place = (labels x place).or (labels y place) := labels_merge (hx.agree hagree hy) place
    refine ⟨fun repeated hrepeated samples' hperm => ?_, fun x y hx hy => ?_, fun x y z hx hy hz => ?_, fun x _ => merge_self x,
      fun v hv place l hl _ => (labels_mergeSamples hagree).mpr ⟨v, hv, hl⟩⟩
    · have hmem (v : Json String) : v ∈ samples' ↔ v ∈ samples := by
        rw [hperm.mem_iff, List.mem_append]
        exact or_iff_left_of_imp (@hrepeated v)
      have hagree' : Agreeing samples' := fun v hv w hw => hagree v ((hmem v).mp hv) w ((hmem w).mp hw)
      refine option_eq_of_labels (merged_mergeSamples (List.Subset.refl _)).allInOrder
        (merged_mergeSamples (List.Subset.refl _)).allInOrder fun place => Option.ext fun l => ?_
      rw [labels_mergeSamples hagree', labels_mergeSamples hagree]
      simp only [hmem]
    · refine option_eq_of_labels (Merged.merge hx hy).allInOrder (Merged.merge hy hx).allInOrder fun place => ?_
      rw [hlaw hx hy, hlaw hy hx]
      exact (hx.agree hagree hy).or_comm place
    · refine option_eq_of_labels (Merged.merge (.merge hx hy) hz).allInOrder (Merged.merge hx (.merge hy hz)).allInOrder fun place => ?_
      rw [hlaw (.merge hx hy) hz, hlaw hx hy, hlaw hx (.merge hy hz), hlaw hy hz, Option.or_assoc]

/-- A price that is missing in the second sample: its object is lost. -/
theorem not_steady_missingPrice : ¬ Steady [.obj [("price", .obj [("amount", .int 1)])], .obj [("price", .null)]] := by
  intro h
  have hlost := h.kept _ List.mem_cons_self [.field "price"] .object rfl (.inr rfl)
  exact absurd hlost (by decide +kernel)

end Samples

end CestaPlan.Providers
