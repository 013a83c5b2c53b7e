import CestaPlan.History.ProviderSync
import CestaPlan.History.Rollback
import CestaPlan.Library.Dict

/-! The projection of the history into the prices of the planner (`project_current_prices`), and their selection
    (`_latest_prices`).

    The projection only adds rows. A rollback that makes an older observation current again leaves the row of the
    withdrawn one behind it, and the planner goes on taking the newest row. -/

namespace CestaPlan.History
open Selection

structure ProductVariant where
  id : Int
  productId : Option Int
  retailerId : Int
  active : Bool := true
deriving DecidableEq

inductive Availability where
  | inStock | outOfStock
deriving DecidableEq, Repr

structure ProductPrice where
  id : Nat
  retailerId : Int
  storeId : Int
  productId : Int
  amount : ℚ
  currency : String
  unitPrice : Option ℚ
  promotion : Option String
  availability : Option Availability
  observedAt : Instant
  confidenceScore : ℚ
deriving DecidableEq

/-- The tables that the projection joins. -/
structure Shop where
  db : Db := {}
  variants : List ProductVariant := []
  prices : List ProductPrice := []
  nextPriceId : Nat := 1
deriving DecidableEq

/-! ### The projection -/

/-- `_price_exists`: it compares neither the retailer nor the amount. -/
def priceExists (s : Shop) (storeId productId : Int) (observedAt : Instant) : Bool :=
  s.prices.any fun q => q.storeId = storeId && q.productId = productId && q.observedAt = observedAt

def availability (available : Option Bool) : Option Availability :=
  available.map fun a => if a then .inStock else .outOfStock

def projectedPrice (obs : PriceObservation) (storeId productId : Int) (id : Nat) : ProductPrice where
  id := id
  retailerId := obs.retailerId
  storeId := storeId
  productId := productId
  amount := obs.amount
  currency := obs.currency
  unitPrice := obs.unitAmount
  promotion := obs.promotionText
  availability := availability obs.available
  observedAt := obs.observedAt
  confidenceScore := obs.confidenceScore

def Shop.addPrice (s : Shop) (q : ProductPrice) : Shop :=
  { s with prices := s.prices ++ [q], nextPriceId := s.nextPriceId + 1 }

/-- What one variant shows: its product, its latest valid observation, and the store of that. -/
def shown (db : Db) (v : ProductVariant) : Option (Int × Int × PriceObservation) := do
  let productId ← v.productId
  let obs ← latestValid db v.id none none false none
  let storeId ← obs.storeId
  pure (storeId, productId, obs)

/-- One turn of the loop. The session sends no pending row before a query, so a price that an earlier turn added is
    not found: the search sees the tables as they were before the loop. -/
def projectVariant (tables s : Shop) (v : ProductVariant) : Shop :=
  match shown tables.db v with
  | some (storeId, productId, obs) =>
    if priceExists tables storeId productId obs.observedAt then s
    else s.addPrice (projectedPrice obs storeId productId s.nextPriceId)
  | none => s

def byId (a b : ProductVariant) : Prop := a.id ≤ b.id

instance (a b : ProductVariant) : Decidable (byId a b) := inferInstanceAs (Decidable (_ ≤ _))

def Shop.activeVariants (s : Shop) (retailerId : Int) : List ProductVariant :=
  (s.variants.filter fun v => v.retailerId = retailerId && v.active).insertionSort byId

/-- `project_current_prices`: the tables after it, and the number of rows it wrote. -/
def projectCurrentPrices (s : Shop) (retailerId : Int) : Shop × Nat :=
  let s' := (s.activeVariants retailerId).foldl (projectVariant s) s
  (s', s'.prices.length - s.prices.length)

/-! ### The selection of the planner -/

/-- By product, and in a product the last observed first, then the last inserted. -/
def priceOrder (a b : ProductPrice) : Prop :=
  a.productId < b.productId ∨ (a.productId = b.productId ∧
    (b.observedAt < a.observedAt ∨ (a.observedAt = b.observedAt ∧ b.id ≤ a.id)))

instance (a b : ProductPrice) : Decidable (priceOrder a b) := inferInstanceAs (Decidable (_ ∨ _))

/-- `_latest_prices`, with the stores of the default zone; without any it reads every store of the chain. A price
    always has a store, so the clause for national prices finds none. -/
def latestPrices (prices : List ProductPrice) (retailerId : Option Int) (zone : List Int) : Dict Int ProductPrice :=
  match retailerId with
  | none => .empty
  | some retailer =>
    let rows := prices.filter fun q => q.retailerId = retailer && (zone.isEmpty || zone.contains q.storeId)
    (rows.insertionSort priceOrder).foldl (fun latest q => latest.setDefault q.productId q) .empty

/-- The price with which the planner costs a product of the chain at a store. -/
def Shop.planned (s : Shop) (retailerId storeId productId : Int) : Option ProductPrice :=
  (latestPrices s.prices (some retailerId) [storeId]).get? productId

/-! ### Runs -/

/-- A step of the tables: a price write of any writer, a rollback, a change of the catalogue, or a projection. -/
inductive ShopOp where
  | observe (obs : NormalizedObservation) (ctx : ObservationContext)
  | sync (w : SyncWrite)
  | record (call : RecordCall)
  | rollback (runPublicId : String) (actorUserId : Option Int) (force : Bool) (now : Instant)
  | catalogue (variants : List ProductVariant)
  | project (retailerId : Int)
deriving DecidableEq

def Shop.project (s : Shop) (retailerId : Int) : Shop := (projectCurrentPrices s retailerId).1

def Shop.apply (s : Shop) : ShopOp → Shop
  | .observe obs ctx => { s with db := s.db.observe obs ctx }
  | .sync w => { s with db := s.db.sync w }
  | .record call => { s with db := s.db.record call }
  | .rollback runPublicId actorUserId force now => { s with db := s.db.rollback runPublicId actorUserId force now }
  | .catalogue variants => { s with variants := variants }
  | .project retailerId => s.project retailerId

def Shop.applyAll (s : Shop) (ops : List ShopOp) : Shop := ops.foldl Shop.apply s

/-! ### The newest row -/

section Newest
variable {s : Shop} {retailerId storeId productId : Int} {q : ProductPrice} {rows : List ProductPrice}

instance : Std.Total priceOrder where
  total a b := by
    unfold priceOrder
    have hid := le_total a.id b.id
    rcases lt_trichotomy a.productId b.productId with hp | hp | hp <;>
      rcases lt_trichotomy a.observedAt b.observedAt with h | h | h <;> simp [hp, h, hid.symm]

instance : IsTrans ProductPrice priceOrder where
  trans a b c := by
    unfold priceOrder
    grind

theorem get?_foldl_setDefault {d : Dict Int ProductPrice} :
    (rows.foldl (fun latest q => latest.setDefault q.productId q) d).get? productId =
      (d.get? productId).or (rows.find? (·.productId = productId)) := by
  induction rows generalizing d with
  | nil => simp
  | cons q rows ih =>
    rw [List.foldl_cons, ih, Dict.get?_setDefault]
    by_cases hq : productId = q.productId
    · subst hq
      cases hd : d.get? q.productId with
      | none => simp [Dict.getD, hd]
      | some q' => simp [Dict.getD, hd]
    · have hq' : ¬q.productId = productId := fun h => hq h.symm
      simp [hq, hq']

theorem planned_eq : s.planned retailerId storeId productId = first priceOrder (s.prices.filter fun q =>
    q.productId = productId && (q.retailerId = retailerId && q.storeId = storeId)) := by
  show Dict.get? (List.foldl _ _ (List.insertionSort priceOrder _)) productId = _
  rw [get?_foldl_setDefault, Dict.get?_empty, Option.none_or, find?_insertionSort, List.filter_filter]
  congr 1
  refine List.filter_congr fun q _ => ?_
  simp

end Newest

/-! ### One projection -/

/-- The rows of a product at a store, of whatever chain. -/
def Shop.pricesAt (s : Shop) (storeId productId : Int) : List ProductPrice :=
  s.prices.filter fun q => q.productId = productId && q.storeId = storeId

/-- The order of instants, the last one first. -/
def seenLast (a b : Instant × ℚ) : Prop := b.1 ≤ a.1

instance (a b : Instant × ℚ) : Decidable (seenLast a b) := inferInstanceAs (Decidable (_ ≤ _))

instance : Std.Total seenLast where
  total a b := le_total b.1 a.1

instance : IsTrans (Instant × ℚ) seenLast where
  trans _ _ _ hab hbc := le_trans hbc hab

def ProductPrice.seen (q : ProductPrice) : Instant × ℚ := (q.observedAt, q.amount)

/-- What a variant shows of a product at a store. -/
def shownAt (db : Db) (storeId productId : Int) (v : ProductVariant) : Option (Instant × ℚ) :=
  (shown db v).bind fun x => if x.1 = storeId ∧ x.2.1 = productId then some (x.2.2.observedAt, x.2.2.amount) else none

/-- The newest stored price of the product at the store, then what the variants show there, the last variant first. -/
def Shop.contenders (s : Shop) (retailerId storeId productId : Int) : List (Instant × ℚ) :=
  ((s.planned retailerId storeId productId).map (·.seen)).toList ++
    ((s.activeVariants retailerId).filterMap (shownAt s.db storeId productId)).reverse

section Loop
variable {s tables : Shop} {retailerId storeId productId : Int} {v : ProductVariant} {vs : List ProductVariant}

/-- Where the loop stands after some variants. -/
structure Projecting (tables : Shop) (storeId productId : Int) (vs : List ProductVariant) (s : Shop) : Prop where
  db : s.db = tables.db
  variants : s.variants = tables.variants
  added : ∀ q ∈ s.prices, q ∈ tables.prices ∨ q.id < s.nextPriceId
  newest : (first priceOrder (s.pricesAt storeId productId)).map (·.seen) =
    Option.merge (pick seenLast) ((first priceOrder (tables.pricesAt storeId productId)).map (·.seen))
      (first seenLast (vs.filterMap (shownAt tables.db storeId productId)).reverse)

theorem Projecting.start : Projecting tables storeId productId [] tables where
  db := rfl
  variants := rfl
  added _ hq := Or.inl hq
  newest := by simp [first_nil]

theorem priceExists_iff {t : Instant} : priceExists tables storeId productId t = true ↔
    ∃ q ∈ tables.pricesAt storeId productId, q.observedAt = t := by
  simp only [priceExists, Shop.pricesAt, List.any_eq_true, List.mem_filter, Bool.and_eq_true, decide_eq_true_eq]
  tauto

theorem pricesAt_addPrice {q : ProductPrice} : (s.addPrice q).pricesAt storeId productId =
    s.pricesAt storeId productId ++ if q.productId = productId ∧ q.storeId = storeId then [q] else [] := by
  show List.filter _ (s.prices ++ [q]) = _
  rw [List.filter_append]
  congr 1
  by_cases h : q.productId = productId ∧ q.storeId = storeId
  · rw [if_pos h, List.filter_cons_of_pos (by simpa using h)]
    rfl
  · rw [if_neg h, List.filter_cons_of_neg (by simpa using h)]
    rfl

theorem merge_assoc (a b c : Option (Instant × ℚ)) :
    Option.merge (pick seenLast) (Option.merge (pick seenLast) a b) c =
      Option.merge (pick seenLast) a (Option.merge (pick seenLast) b c) := Std.Associative.assoc a b c

theorem merge_blocked {stored rest : Option (Instant × ℚ)} {c : Instant × ℚ} (h : ∃ b, stored = some b ∧ seenLast b c) :
    Option.merge (pick seenLast) stored (Option.merge (pick seenLast) (some c) rest) =
      Option.merge (pick seenLast) stored rest := by
  obtain ⟨b, rfl, hb⟩ := h
  rw [← merge_assoc]
  show Option.merge _ (some (pick seenLast b c)) _ = _
  rw [pick_left hb]

theorem merge_free {stored rest : Option (Instant × ℚ)} {c : Instant × ℚ} (h : ∀ b, stored = some b → b.1 ≠ c.1) :
    Option.merge (pick seenLast) stored (Option.merge (pick seenLast) (some c) rest) =
      Option.merge (pick seenLast) (some c) (Option.merge (pick seenLast) stored rest) := by
  cases stored with
  | none => simp
  | some b =>
    have hcomm : pick seenLast b c = pick seenLast c b := by
      rcases lt_or_gt_of_ne (h b rfl) with hlt | hgt
      · rw [pick_right (r := seenLast) (not_le_of_gt hlt), pick_left (r := seenLast) hlt.le]
      · rw [pick_left (r := seenLast) hgt.le, pick_right (r := seenLast) (not_le_of_gt hgt)]
    rw [← merge_assoc, ← merge_assoc]
    show Option.merge _ (some _) _ = Option.merge _ (some _) _
    rw [hcomm]

theorem Projecting.blocked (h : Projecting tables storeId productId vs s) {c : Instant × ℚ}
    (hshown : shownAt tables.db storeId productId v = some c)
    (hexists : ∃ q ∈ tables.pricesAt storeId productId, q.observedAt = c.1) :
    Projecting tables storeId productId (vs ++ [v]) s where
  db := h.db
  variants := h.variants
  added := h.added
  newest := by
    obtain ⟨q, hq, hqt⟩ := hexists
    obtain ⟨b, hb, hbq⟩ := first_precedes (r := priceOrder) hq
    have hseen : seenLast b.seen c := by
      show c.1 ≤ b.observedAt
      rw [← hqt]
      rcases hbq with rfl | hbq
      · exact le_rfl
      · obtain ⟨-, hbp⟩ := List.mem_filter.mp (first_mem hb)
        obtain ⟨-, hqp⟩ := List.mem_filter.mp hq
        simp only [Bool.and_eq_true, decide_eq_true_eq] at hbp hqp
        rcases hbq with hlt | ⟨-, hlt | ⟨heq, -⟩⟩
        · exact absurd hlt (by rw [hbp.1, hqp.1]; exact lt_irrefl _)
        · exact hlt.le
        · exact heq.ge
    rw [h.newest, List.filterMap_append, List.filterMap_cons_some hshown, List.filterMap_nil, List.reverse_append,
      List.reverse_singleton, List.singleton_append, first_cons, merge_blocked ⟨b.seen, by rw [hb]; rfl, hseen⟩]

theorem Projecting.skip (h : Projecting tables storeId productId vs s) (hshown : shownAt tables.db storeId productId v = none) :
    Projecting tables storeId productId (vs ++ [v]) s where
  db := h.db
  variants := h.variants
  added := h.added
  newest := by rw [h.newest, List.filterMap_append, List.filterMap_cons_none hshown, List.filterMap_nil, List.append_nil]

theorem Projecting.added_addPrice (h : Projecting tables storeId productId vs s) {q : ProductPrice} (hid : q.id = s.nextPriceId) :
    ∀ q' ∈ (s.addPrice q).prices, q' ∈ tables.prices ∨ q'.id < (s.addPrice q).nextPriceId := by
  intro q' hq'
  show _ ∨ q'.id < s.nextPriceId + 1
  rcases List.mem_append.mp hq' with hq' | hq'
  · exact (h.added q' hq').imp id Nat.lt_succ_of_lt
  · rw [List.mem_singleton.mp hq', hid]
    exact Or.inr (Nat.lt_succ_self _)

/-- A row for another product or store. -/
theorem Projecting.elsewhere (h : Projecting tables storeId productId vs s) {q : ProductPrice} (hid : q.id = s.nextPriceId)
    (hne : ¬(q.productId = productId ∧ q.storeId = storeId)) : Projecting tables storeId productId vs (s.addPrice q) where
  db := h.db
  variants := h.variants
  added := h.added_addPrice hid
  newest := by rw [pricesAt_addPrice, if_neg hne, List.append_nil, h.newest]

theorem Projecting.add (h : Projecting tables storeId productId vs s) {q : ProductPrice} (hid : q.id = s.nextPriceId)
    (hq : q.productId = productId ∧ q.storeId = storeId) (hshown : shownAt tables.db storeId productId v = some q.seen)
    (hfree : ∀ q' ∈ tables.pricesAt storeId productId, q'.observedAt ≠ q.observedAt) :
    Projecting tables storeId productId (vs ++ [v]) (s.addPrice q) where
  db := h.db
  variants := h.variants
  added := h.added_addPrice hid
  newest := by
    rw [pricesAt_addPrice, if_pos hq, first_append, first_singleton, List.filterMap_append, List.filterMap_cons_some hshown,
      List.filterMap_nil, List.reverse_append, List.reverse_singleton, List.singleton_append, first_cons, merge_free,
      ← h.newest]
    · -- The row has a greater number than any of its instant, so it comes before them.
      cases hfirst : first priceOrder (s.pricesAt storeId productId) with
      | none => rfl
      | some b =>
        obtain ⟨hb, hbp⟩ := List.mem_filter.mp (first_mem hfirst)
        simp only [Bool.and_eq_true, decide_eq_true_eq] at hbp
        have horder : priceOrder b q ↔ q.observedAt < b.observedAt := by
          have hid' : b.observedAt = q.observedAt → ¬q.id ≤ b.id := by
            intro heq
            rcases h.added b hb with htables | hlt
            · exact absurd heq (hfree b (List.mem_filter.mpr ⟨htables, by simpa using hbp⟩))
            · omega
          unfold priceOrder
          rw [hbp.1, hq.1]
          constructor
          · rintro (hlt | ⟨-, hlt | ⟨heq, hle⟩⟩)
            · exact absurd hlt (lt_irrefl _)
            · exact hlt
            · exact absurd hle (hid' heq)
          · exact fun hlt => Or.inr ⟨rfl, Or.inl hlt⟩
        show some (ProductPrice.seen (pick priceOrder b q)) = some (pick seenLast q.seen b.seen)
        by_cases hlt : q.observedAt < b.observedAt
        · rw [pick_left (horder.mpr hlt), pick_right (r := seenLast) (not_le_of_gt hlt)]
        · rw [pick_right (horder.not.mpr hlt), pick_left (r := seenLast) (not_lt.mp hlt)]
    · intro b hb
      obtain ⟨b', hb', rfl⟩ := Option.map_eq_some_iff.mp hb
      exact hfree b' (first_mem hb')

theorem Projecting.step (h : Projecting tables storeId productId vs s) :
    Projecting tables storeId productId (vs ++ [v]) (projectVariant tables s v) := by
  unfold projectVariant
  cases hshown : shown tables.db v with
  | none => exact h.skip (by simp [shownAt, hshown])
  | some x =>
    obtain ⟨st, p, obs⟩ := x
    have hat : shownAt tables.db storeId productId v =
        if st = storeId ∧ p = productId then some (obs.observedAt, obs.amount) else none := by
      rw [shownAt, hshown]
      rfl
    show Projecting _ _ _ _ (if priceExists tables st p obs.observedAt then s else _)
    by_cases hhere : st = storeId ∧ p = productId
    · obtain ⟨rfl, rfl⟩ := hhere
      rw [if_pos ⟨rfl, rfl⟩] at hat
      split
      · next hex => exact h.blocked hat (priceExists_iff.mp hex)
      · next hex =>
        exact h.add rfl ⟨rfl, rfl⟩ hat fun q' hq' heq => hex (priceExists_iff.mpr ⟨q', hq', heq⟩)
    · rw [if_neg hhere] at hat
      split
      · exact h.skip hat
      · exact (h.skip hat).elsewhere rfl fun hq => hhere hq.symm

theorem projecting_foldl (h : Projecting tables storeId productId vs s) (rest : List ProductVariant) :
    Projecting tables storeId productId (vs ++ rest) (rest.foldl (projectVariant tables) s) := by
  induction rest generalizing vs s with
  | nil => rwa [List.append_nil]
  | cons v rest ih =>
    rw [List.foldl_cons, ← List.singleton_append, ← List.append_assoc]
    exact ih h.step

variable (retailerId storeId productId) in
theorem projecting_project : Projecting s storeId productId (s.activeVariants retailerId) (s.project retailerId) := by
  have h := projecting_foldl (Projecting.start : Projecting s storeId productId [] s)
    (s.activeVariants retailerId)
  rwa [List.nil_append] at h

end Loop

/-! ### What the planner costs with -/

/-- A row at a store belongs to the chain of the store. -/
def Db.Owned (owner : Int → Int) (db : Db) : Prop :=
  ∀ r ∈ db.observations, ∀ storeId, r.storeId = some storeId → r.retailerId = owner storeId

structure Shop.Owned (owner : Int → Int) (s : Shop) : Prop where
  observations : s.db.Owned owner
  prices : ∀ q ∈ s.prices, q.retailerId = owner q.storeId

/-- The planner costs each product of the chain, at each of its stores, with the amount of the current observation of
    the variant there, and with none where there is none. -/
def Shop.Costed (owner : Int → Int) (s : Shop) (retailerId : Int) : Prop :=
  ∀ v ∈ s.activeVariants retailerId, ∀ productId, v.productId = some productId → ∀ storeId, owner storeId = retailerId →
    (s.planned retailerId storeId productId).map (·.amount) =
      (latestValid s.db v.id (some storeId) none false none).map (·.amount)

/-- Of the newest stored price and of what the variants of the product show, the last seen has that amount. -/
def Shop.Due (owner : Int → Int) (s : Shop) (retailerId : Int) : Prop :=
  ∀ v ∈ s.activeVariants retailerId, ∀ productId, v.productId = some productId → ∀ storeId, owner storeId = retailerId →
    (first seenLast (s.contenders retailerId storeId productId)).map Prod.snd =
      (latestValid s.db v.id (some storeId) none false none).map (·.amount)

section Costing
variable {s : Shop} {owner : Int → Int} {retailerId storeId productId : Int} {v : ProductVariant} {obs : PriceObservation}

theorem shown_eq_some {x : Int × Int × PriceObservation} : shown s.db v = some x ↔
    v.productId = some x.2.1 ∧ latestValid s.db v.id none none false none = some x.2.2 ∧ x.2.2.storeId = some x.1 := by
  obtain ⟨st, p, obs⟩ := x
  unfold shown
  cases hp : v.productId with
  | none => simp
  | some p' =>
    cases hl : latestValid s.db v.id none none false none with
    | none => simp
    | some obs' =>
      cases hst : obs'.storeId with
      | none =>
        simp only [Option.bind_eq_bind, Option.bind_some, hst, Option.bind_none, Option.some.injEq, reduceCtorEq, false_iff]
        rintro ⟨-, rfl, hst'⟩
        rw [hst] at hst'
        cases hst'
      | some st' =>
        simp only [Option.bind_eq_bind, Option.bind_some, hst, Option.pure_def, Option.some.injEq, Prod.mk.injEq]
        constructor
        · rintro ⟨rfl, rfl, rfl⟩
          exact ⟨rfl, rfl, hst⟩
        · rintro ⟨rfl, rfl, hst'⟩
          exact ⟨Option.some.inj (hst.symm.trans hst'), rfl, rfl⟩

theorem latestValid_mem {db : Db} {variantId : Int} {store : Option Int} {scope : Option PriceScope} {staging : Bool}
    {asOf : Option Instant} (h : latestValid db variantId store scope staging asOf = some obs) : obs ∈ db.observations :=
  (List.mem_filter.mp (first_mem (r := precedes) h)).1

theorem latestValid_at_store {db : Db} {variantId : Int} (h : latestValid db variantId none none false none = some obs)
    (hst : obs.storeId = some storeId) : latestValid db variantId (some storeId) none false none = some obs := by
  have hfirst := first_filter (r := precedes) (p := fun r => decide (r.storeId = some storeId)) h (decide_eq_true hst)
  rw [List.filter_filter] at hfirst
  refine Eq.trans ?_ hfirst
  show first precedes _ = first precedes _
  congr 1
  refine List.filter_congr fun r _ => ?_
  simp only [Option.all_some, Option.all_none, Bool.and_true, inView]
  rw [Bool.and_comm]

theorem Shop.Owned.addPrice (h : s.Owned owner) {q : ProductPrice} (hq : q.retailerId = owner q.storeId) :
    (s.addPrice q).Owned owner where
  observations := h.observations
  prices q' hq' := by
    rcases List.mem_append.mp hq' with hq' | hq'
    · exact h.prices q' hq'
    · rw [List.mem_singleton.mp hq']
      exact hq

theorem Shop.Owned.projectVariant {tables : Shop} (ht : tables.Owned owner) (h : s.Owned owner) :
    (projectVariant tables s v).Owned owner := by
  unfold History.projectVariant
  cases hshown : shown tables.db v with
  | none => exact h
  | some x =>
    obtain ⟨st, p, obs⟩ := x
    obtain ⟨-, hobs, hst⟩ := shown_eq_some.mp hshown
    show (if priceExists tables st p obs.observedAt then s else _).Owned owner
    split
    · exact h
    · exact h.addPrice (ht.observations obs (latestValid_mem hobs) st hst)

theorem Shop.Owned.project (h : s.Owned owner) : (s.project retailerId).Owned owner := by
  have hfold : ∀ (vs : List ProductVariant) (s' : Shop), s'.Owned owner → (vs.foldl (History.projectVariant s) s').Owned owner := by
    intro vs
    induction vs with
    | nil => exact fun _ h' => h'
    | cons v vs ih => exact fun s' h' => ih _ (h.projectVariant h')
  exact hfold _ s h

theorem planned_of_owned (h : s.Owned owner) (hst : owner storeId = retailerId) :
    s.planned retailerId storeId productId = first priceOrder (s.pricesAt storeId productId) := by
  rw [planned_eq, Shop.pricesAt]
  congr 1
  refine List.filter_congr fun q hq => ?_
  have howner := h.prices q hq
  by_cases hq' : q.storeId = storeId
  · simp [hq', howner, hst]
  · simp [hq']

theorem planned_project (h : s.Owned owner) (hst : owner storeId = retailerId) :
    ((s.project retailerId).planned retailerId storeId productId).map (·.seen) =
      first seenLast (s.contenders retailerId storeId productId) := by
  rw [planned_of_owned h.project hst, (projecting_project retailerId storeId productId).newest, Shop.contenders, first_append, planned_of_owned h hst]
  congr 1
  cases (first priceOrder (s.pricesAt storeId productId)).map (·.seen) <;> rfl

theorem costed_project_iff (h : s.Owned owner) : (s.project retailerId).Costed owner retailerId ↔ s.Due owner retailerId := by
  have hp := projecting_project (s := s) retailerId 0 0
  have hvariants : (s.project retailerId).activeVariants retailerId = s.activeVariants retailerId := by
    unfold Shop.activeVariants
    rw [hp.variants]
  unfold Shop.Costed Shop.Due
  rw [hvariants, hp.db]
  refine forall₂_congr fun v _ => forall₂_congr fun p _ => forall₂_congr fun st hst => ?_
  rw [← planned_project h hst, Option.map_map]
  rfl

theorem contenders_sole (hsole : (s.activeVariants retailerId).filter (·.productId = some productId) = [v]) :
    s.contenders retailerId storeId productId =
      ((s.planned retailerId storeId productId).map (·.seen)).toList ++ (shownAt s.db storeId productId v).toList := by
  have hother : (s.activeVariants retailerId).filterMap (shownAt s.db storeId productId) =
      ((s.activeVariants retailerId).filter (·.productId = some productId)).filterMap (shownAt s.db storeId productId) := by
    rw [List.filterMap_filter]
    refine List.filterMap_congr fun u _ => ?_
    split
    · rfl
    · next hu =>
      rw [shownAt, Option.bind_eq_none_iff]
      rintro ⟨st, p, obs⟩ hx
      refine if_neg fun hhere => hu ?_
      have hp : u.productId = some p := (shown_eq_some.mp hx).1
      exact decide_eq_true (hp.trans (congrArg some hhere.2))
  rw [Shop.contenders, hother, hsole]
  cases hv : shownAt s.db storeId productId v <;> simp [hv]

/-- For the only variant of a product it is due, at the store of its current observation, that no stored price there
    was seen as late, unless the newest one has the same amount. -/
theorem due_sole_iff (hsole : (s.activeVariants retailerId).filter (·.productId = some productId) = [v])
    (hobs : latestValid s.db v.id none none false none = some obs) (hst : obs.storeId = some storeId) :
    (first seenLast (s.contenders retailerId storeId productId)).map Prod.snd =
        (latestValid s.db v.id (some storeId) none false none).map (·.amount) ↔
      ∀ q, s.planned retailerId storeId productId = some q → obs.observedAt ≤ q.observedAt → q.amount = obs.amount := by
  have hv : v.productId = some productId := by
    have hmem : v ∈ (s.activeVariants retailerId).filter (·.productId = some productId) := hsole ▸ List.mem_cons_self
    exact of_decide_eq_true (List.mem_filter.mp hmem).2
  have hshown : shownAt s.db storeId productId v = some (obs.observedAt, obs.amount) := by
    have hx : shown s.db v = some (storeId, productId, obs) := shown_eq_some.mpr ⟨hv, hobs, hst⟩
    rw [shownAt, hx]
    exact if_pos ⟨rfl, rfl⟩
  rw [contenders_sole hsole, hshown, latestValid_at_store hobs hst]
  cases s.planned retailerId storeId productId with
  | none => simp [first_singleton]
  | some q =>
    rw [Option.map_some, Option.toList_some, Option.toList_some, first_append, first_singleton, first_singleton]
    show Option.map Prod.snd (some (pick seenLast q.seen (obs.observedAt, obs.amount))) = some obs.amount ↔ _
    by_cases hle : seenLast q.seen (obs.observedAt, obs.amount)
    · have hle' : obs.observedAt ≤ q.observedAt := hle
      rw [pick_left hle]
      simp [hle', ProductPrice.seen]
    · have hle' : ¬obs.observedAt ≤ q.observedAt := hle
      rw [pick_right hle]
      simp [hle']

end Costing

/-! ### Runs -/

section Run
variable {s : Shop} {owner : Int → Int} {op : ShopOp} {ops pre : List ShopOp} {retailerId : Int} {db : Db}

def ShopOp.IsRollback : ShopOp → Prop
  | .rollback .. => True
  | _ => False

/-- A write is of the chain of its store, and a staged one has its routing. -/
def ShopOp.Owned (owner : Int → Int) : ShopOp → Prop
  | .observe _ ctx => ∀ storeId, ctx.storeId = some storeId → ctx.retailerId = owner storeId
  | .sync w => ∀ storeId, w.storeId = some storeId → w.retailerId = owner storeId
  | .record call => (∃ lane, call.candidate.lane? = some lane) ∧
      ∀ storeId, call.candidate.storeId = some storeId → call.candidate.retailerId = owner storeId
  | _ => True

theorem Db.Owned.map (h : db.Owned owner) {f : PriceObservation → PriceObservation}
    (hf : ∀ r, (f r).storeId = r.storeId ∧ (f r).retailerId = r.retailerId) :
    Db.Owned owner { db with observations := db.observations.map f } := by
  intro r hr storeId hst
  obtain ⟨r₀, hr₀, rfl⟩ := List.mem_map.mp hr
  rw [(hf r₀).2]
  exact h r₀ hr₀ storeId ((hf r₀).1 ▸ hst)

theorem Db.Owned.update (h : db.Owned owner) {p : PriceObservation → Bool} {f : PriceObservation → PriceObservation}
    (hf : ∀ r, (f r).storeId = r.storeId ∧ (f r).retailerId = r.retailerId) : (db.update p f).Owned owner := by
  refine h.map fun r => ?_
  split
  · exact hf r
  · exact ⟨rfl, rfl⟩

theorem Db.Owned.insert (h : db.Owned owner) {r : PriceObservation} {d : Bool}
    (hr : ∀ storeId, r.storeId = some storeId → r.retailerId = owner storeId) : (db.insert r d).Owned owner := by
  intro r' hr'
  rcases List.mem_append.mp hr' with hr' | hr'
  · exact h r' hr'
  · rw [List.mem_singleton.mp hr']
    exact hr

theorem Db.Owned.observe (h : db.Owned owner) {obs : NormalizedObservation} {ctx : ObservationContext}
    (hctx : ∀ storeId, ctx.storeId = some storeId → ctx.retailerId = owner storeId) : (db.observe obs ctx).Owned owner := by
  rcases observe_cases db obs ctx with ⟨heq, -⟩ | hstep
  · rwa [heq]
  · generalize db.observe obs ctx = db' at hstep
    cases hstep with
    | quarantined hfits => exact Db.Owned.insert h (d := false) (r := buildRow obs ctx _ _ _ hfits) hctx
    | again => exact h.update fun _ => ⟨rfl, rfl⟩
    | changed => exact (h.update (f := (·.endAt ctx.asOf)) fun _ => ⟨rfl, rfl⟩).insert hctx
    | first => exact h.insert hctx

theorem Db.Owned.sync (h : db.Owned owner) {w : SyncWrite}
    (hw : ∀ storeId, w.storeId = some storeId → w.retailerId = owner storeId) : (db.sync w).Owned owner := by
  cases hfits : w.candidate.fact.fits with
  | false => rwa [sync_of_not_fits hfits]
  | true =>
    have hstep : SyncStep db w (db.sync w) := syncStep hfits
    generalize db.sync w = db' at hstep
    cases hstep with
    | again => exact h.update fun _ => ⟨rfl, rfl⟩
    | changed => exact (h.update (f := (·.close w.product.observedAt (some w.runId))) fun _ => ⟨rfl, rfl⟩).insert hw
    | late => exact h.insert hw
    | first => exact h.insert hw

theorem Db.Owned.record (h : db.Owned owner) {call : RecordCall} {lane : Lane} (hl : call.candidate.lane? = some lane)
    (hcall : ∀ storeId, call.candidate.storeId = some storeId → call.candidate.retailerId = owner storeId) :
    (db.record call).Owned owner := by
  rcases record_step db hl with heq | ⟨-, -, db₁, hstep, hsame⟩
  · rwa [heq]
  · unfold Db.Owned
    rw [hsame.observations]
    cases hstep with
    | reused => exact h
    | conflicted =>
      have hmarked : (db.conflictAt lane call.candidate.observedAt).Owned owner :=
        h.update (f := PriceObservation.collapse) fun _ => ⟨rfl, rfl⟩
      exact hmarked.insert hcall
    | placed =>
      have hclosed : (db.closeBefore lane call.candidate.observedAt call.provenance.crawlRunId).Owned owner :=
        h.update (f := (·.close call.candidate.observedAt call.provenance.crawlRunId)) fun _ => ⟨rfl, rfl⟩
      exact hclosed.insert hcall

theorem Db.Owned.rollback (h : db.Owned owner) {runPublicId : String} {actorUserId : Option Int} {force : Bool} {now : Instant} :
    (db.rollback runPublicId actorUserId force now).Owned owner := by
  rcases rollback_cases db runPublicId actorUserId force now with heq | ⟨run, -, -, heq⟩
  · rwa [heq]
  · rw [heq]
    refine h.map fun r => ?_
    unfold PriceObservation.withdraw
    split <;> simp

theorem Shop.Owned.apply (h : s.Owned owner) (hop : op.Owned owner) : (s.apply op).Owned owner := by
  cases op with
  | observe obs ctx => exact ⟨h.observations.observe hop, h.prices⟩
  | sync w => exact ⟨h.observations.sync hop, h.prices⟩
  | record call =>
    obtain ⟨⟨lane, hl⟩, hcall⟩ := hop
    exact ⟨h.observations.record hl hcall, h.prices⟩
  | rollback runPublicId actorUserId force now => exact ⟨h.observations.rollback, h.prices⟩
  | catalogue variants => exact ⟨h.observations, h.prices⟩
  | project retailerId => exact h.project

theorem Shop.Owned.applyAll (h : s.Owned owner) (hops : ∀ op ∈ ops, op.Owned owner) : (s.applyAll ops).Owned owner := by
  induction ops generalizing s with
  | nil => exact h
  | cons op ops ih => exact ih (h.apply (hops op List.mem_cons_self)) fun op' hop' => hops op' (List.mem_cons_of_mem _ hop')

/-- In any interleaving of writes, rollbacks and projections, a projection that follows a rollback leaves the chain
    costed with its current prices exactly when that was due in the state before it. -/
theorem costed_after_rollback_iff (h : s.Owned owner) (hops : ∀ op ∈ ops, op.Owned owner) :
    (∀ pre retailerId, pre ++ [.project retailerId] <+: ops → (∃ op ∈ pre, op.IsRollback) →
        (s.applyAll (pre ++ [.project retailerId])).Costed owner retailerId) ↔
      ∀ pre retailerId, pre ++ [.project retailerId] <+: ops → (∃ op ∈ pre, op.IsRollback) →
        (s.applyAll pre).Due owner retailerId := by
  refine forall₂_congr fun pre retailerId => forall₂_congr fun hpre _ => ?_
  have howned : (s.applyAll pre).Owned owner :=
    h.applyAll fun op hop => hops op (hpre.subset (List.mem_append_left _ hop))
  have hstep : s.applyAll (pre ++ [.project retailerId]) = (s.applyAll pre).project retailerId := by
    unfold Shop.applyAll
    rw [List.foldl_append]
    rfl
  rw [hstep]
  exact costed_project_iff howned

end Run

/-- One chain with a store, and one product. -/
def dairy : Shop where
  db := { crawlRuns := [⟨1, "a"⟩, ⟨2, "b"⟩] }
  variants := [{ id := 7, productId := some 70, retailerId := 1 }]

/-- A price of the product in the store, written in production when it was observed. -/
def storeMilk (price : ℚ) (observedAt : Instant) (run : Int) : ShopOp :=
  .sync { milkSync price observedAt run with storeId := some 5 }

theorem storeMilk_owned {price : ℚ} {t : Instant} {run : Int} : (storeMilk price t run).Owned fun _ => 1 := fun _ _ => rfl

/-- The second price is rolled back before it was projected. -/
theorem costed_after_rollback_iff_dairy :
    let ops := [storeMilk 2 10 1, .project 1, storeMilk 3 20 2, .rollback "b" none false 99, .project 1]
    (∀ pre retailerId, pre ++ [.project retailerId] <+: ops → (∃ op ∈ pre, op.IsRollback) →
        (dairy.applyAll (pre ++ [.project retailerId])).Costed (fun _ => 1) retailerId) ↔
      ∀ pre retailerId, pre ++ [.project retailerId] <+: ops → (∃ op ∈ pre, op.IsRollback) →
        (dairy.applyAll pre).Due (fun _ => 1) retailerId := by
  intro ops
  refine costed_after_rollback_iff ⟨by simp [dairy, Db.Owned], by simp [dairy]⟩ ?_
  simp only [ops, List.forall_mem_cons]
  exact ⟨storeMilk_owned, trivial, storeMilk_owned, trivial, trivial, List.forall_mem_nil _⟩

/-- The second price is rolled back after it was projected: the planner goes on using it. -/
theorem not_costed_after_rollback :
    ¬(dairy.applyAll [storeMilk 2 10 1, .project 1, storeMilk 3 20 2, .project 1, .rollback "b" none false 99,
      .project 1]).Costed (fun _ => 1) 1 := by
  intro h
  have hplanned := h { id := 7, productId := some 70, retailerId := 1 } (by decide +kernel) 70 rfl 5 rfl
  revert hplanned
  decide +kernel

end CestaPlan.History
