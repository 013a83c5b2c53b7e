import CestaPlan.Grocery.Sound
import CestaPlan.Library.Runs

/-! The lines of a grocery list stay sound over the edits that take a price of the plan's own chain, and that keep only
    the packages, the price and the cost that fit the new product. -/

namespace CestaPlan.Grocery
open Engine Catalog Updates

/-! ### What an edit may do -/

/-- The new price of a line fits what the line keeps: with a price, the packages that stay selected still cover what is
    pending; without one, there is nothing to keep. -/
structure Refits (py : Runtime) (factors : Factors) (m : Measure) (item : GroceryListItem) (price : Option ProductPrice) :
    Prop where
  priced : ∀ p n, price = some p → item.packagesSelected = some n → n ≠ 0 →
    Covers py factors m n p.packageQuantity p.packageUnit item.pendingQuantity
  unpriced : price = none → item.unitPrice = none ∧ item.totalCost.getD 0 = 0 ∧ item.packagesSelected.getD 0 = 0

/-- An added product whose latest price is one of the plan's chain, or a product whose price fits the line. -/
def Fits (py : Runtime) (factors : Factors) (measure : Nat → Measure) (db : Database) : Edit → Prop
  | .add userId payload => ∀ plan product price, resolvePlan db userId = .ok plan →
      payload.productId.mapM (resolveProduct db) = .ok (some product) → latestPrice db.shop product.id = some price →
      plan.retailerId = some price.retailerId
  | .substitute userId itemId productId => ∀ plan items item product, resolvePlan db userId = .ok plan →
      resolveList db = .ok items → resolveItem items itemId = .ok item → resolveProduct db productId = .ok product →
      Refits py factors (measure itemId) item (latestPriceForRetailer db.shop product.id plan.retailerId)
  | .toggle _ _ => True
  | .observed _ => True

section Prices
variable {shop : Shop} {productId : Nat} {price : ProductPrice}

theorem latestPrice_mem (h : latestPrice shop productId = some price) :
    price ∈ shop.prices ∧ price.productId = productId := by
  obtain ⟨hmem, hid⟩ := List.mem_filter.mp ((List.mem_insertionSort _).mp (List.mem_of_mem_head? h))
  exact ⟨hmem, of_decide_eq_true hid⟩

theorem latestPriceForRetailer_mem {retailerId : Option Nat}
    (h : latestPriceForRetailer shop productId retailerId = some price) :
    price ∈ shop.prices ∧ price.productId = productId ∧ retailerId = some price.retailerId := by
  cases retailerId with
  | none => cases h
  | some retailerId =>
    obtain ⟨hmem, hrow⟩ := List.mem_filter.mp ((List.mem_insertionSort _).mp (List.mem_of_mem_head? h))
    simp only [Bool.and_eq_true, decide_eq_true_eq] at hrow
    exact ⟨hmem, hrow.1, congrArg some hrow.2.symm⟩

end Prices

/-! ### The rows of an edit -/

section Rows
variable {py : Runtime} {factors : Factors} {m : Measure} {retailerId : Option Nat} {prices : List ProductPrice}
  {item row : GroceryListItem}

/-- A line that is written back as it was stays sound. -/
theorem Sound.check (h : Sound py factors retailerId prices m item) (checked : Bool) :
    Sound py factors retailerId prices m { item with isChecked := checked } := ⟨h.price, h.missing, h.covers, h.cost⟩

theorem Sound.mono (h : Sound py factors retailerId prices m item) {later : List ProductPrice}
    (hsub : prices ⊆ later) : Sound py factors retailerId later m item where
  price id hid := by
    obtain ⟨price, hmem, hprice⟩ := h.price id hid
    exact ⟨price, hsub hmem, hprice⟩
  missing := h.missing
  covers := h.covers
  cost n hn hpos := by
    obtain ⟨price, hmem, hprice⟩ := h.cost n hn hpos
    exact ⟨price, hsub hmem, hprice⟩

/-- An added line is sound exactly where its price, if any, is one of the plan's chain. -/
theorem sound_added_iff {shop : Shop} (hids : (shop.prices.map (·.id)).Nodup) {payload : GroceryItemIn} {publicId : Nat}
    {ingredientId : Option Nat} {product : Option Product}
    (hflush : flush (addedItem payload publicId ingredientId (product.map (·.id))
      (product.bind fun product => latestPrice shop product.id)) = .ok row) :
    Sound py factors retailerId shop.prices m row ↔
      ∀ p price, product = some p → latestPrice shop p.id = some price → retailerId = some price.retailerId := by
  obtain ⟨-, rfl⟩ := flush_eq_ok.mp hflush
  constructor
  · rintro h p price rfl hprice
    obtain ⟨price', hmem, hid, -, hretailer⟩ := h.price price.id
      (by simp [GroceryListItem.stored, addedItem, hprice])
    obtain rfl : price' = price := List.inj_on_of_nodup_map hids hmem (latestPrice_mem hprice).1 hid
    exact hretailer
  · intro h
    refine ⟨fun id hid => ?_, fun hstatus => ?_, fun n hn => (by cases hn), fun n hn => (by cases hn)⟩
    · obtain ⟨price, hprice, rfl⟩ := Option.map_eq_some_iff.mp hid
      obtain ⟨p, rfl, hlatest⟩ := Option.bind_eq_some_iff.mp hprice
      obtain ⟨hmem, hproduct⟩ := latestPrice_mem hlatest
      exact ⟨price, hmem, rfl, congrArg some hproduct.symm, h p price rfl hlatest⟩
    · cases hprice : product.bind fun product => latestPrice shop product.id with
      | none => exact ⟨rfl, rfl⟩
      | some price =>
        rw [hprice] at hstatus
        cases hstatus

/-- A line with another product is sound exactly where the price fits what the line keeps. -/
theorem sound_substituted_iff (hpy : py.Precise) {shop : Shop} (hcolumns : Columns shop.prices) (hitem : item.stored = item)
    {product : Product}
    (hflush : flush (substituted py item product (latestPriceForRetailer shop product.id retailerId)) = .ok row) :
    Sound py factors retailerId shop.prices m row ↔
      Refits py factors m item (latestPriceForRetailer shop product.id retailerId) := by
  obtain ⟨hfits, rfl⟩ := flush_eq_ok.mp hflush
  have hpending : Numeric.roundScale 4 item.pendingQuantity = item.pendingQuantity :=
    congrArg GroceryListItem.pendingQuantity hitem
  have hunit : item.unitPrice.map (Numeric.roundScale 6) = item.unitPrice := congrArg GroceryListItem.unitPrice hitem
  have htotal : item.totalCost.map (Numeric.roundScale 4) = item.totalCost := congrArg GroceryListItem.totalCost hitem
  cases hprice : latestPriceForRetailer shop product.id retailerId with
  | none =>
    have hrow : (substituted py item product none).stored =
        { item with productId := some product.id, priceProductPriceId := none, priceStatus := .missing } := by
      rw [← hitem]
      simp only [substituted, GroceryListItem.stored, Numeric.roundScale_roundScale, Option.map_map, Function.comp_def]
    rw [hrow]
    constructor
    · intro h
      refine ⟨fun p n hp => (by cases hp), fun _ => ?_⟩
      obtain ⟨hnone, hfree⟩ := h.missing rfl
      refine ⟨hnone, hfree, ?_⟩
      cases hn : item.packagesSelected with
      | none => rfl
      | some n =>
        by_contra hpos
        obtain ⟨price, -, hid, -⟩ := h.cost n hn hpos
        cases hid
    · intro h
      obtain ⟨hnone, hfree, hidle⟩ := h.unpriced rfl
      have hno : ∀ n, item.packagesSelected = some n → n = 0 := fun n hn => by rwa [hn] at hidle
      exact ⟨fun id hid => (by cases hid), fun _ => ⟨hnone, hfree⟩, fun n hn hpos => absurd (hno n hn) hpos,
        fun n hn hpos => absurd (hno n hn) hpos⟩
  | some p =>
    obtain ⟨hmem, hproduct, hretailer⟩ := latestPriceForRetailer_mem hprice
    have hquantity := hcolumns.packageQuantity p hmem
    rw [hprice] at hfits
    constructor
    · intro h
      refine ⟨fun p' n hp hn hpos => ?_, fun hnone => by cases hnone⟩
      obtain rfl := Option.some.inj hp
      obtain ⟨quantity, unit, hq, hu, hcovers⟩ := h.covers n hn hpos
      obtain rfl : p.packageQuantity = quantity :=
        Option.some.inj ((congrArg some hquantity).symm.trans hq)
      obtain rfl : p.packageUnit = unit := Option.some.inj hu
      exact hpending ▸ hcovers
    · intro h
      refine ⟨fun id hid => ?_, fun hstatus => (by cases hstatus), fun n hn hpos => ?_, fun n hn hpos => ?_⟩
      · exact ⟨p, hmem, Option.some.inj hid, congrArg some hproduct.symm, hretailer⟩
      · refine ⟨p.packageQuantity, p.packageUnit, congrArg some hquantity, rfl, ?_⟩
        have hcovers := h.priced p n rfl hn hpos
        rw [← hpending] at hcovers
        exact hcovers
      · have hcost : (substituted py item product (some p)).totalCost = some (py.mul p.amount n) := by
          have hn : item.packagesSelected = some n := hn
          simp [substituted, hn, hpos]
        refine ⟨p, hmem, rfl, ?_⟩
        show (substituted py item product (some p)).totalCost.map _ = _
        rw [hcost, Option.map_some, stored_mul hpy (stored_natCast_mul n (hcolumns.amount p hmem)) (fits_totalCost hfits hcost)]

end Rows

/-! ### A step -/

/-- The prices are as their columns keep them, and so are the lines, which are sound. -/
structure Intact (py : Runtime) (factors : Factors) (measure : Nat → Measure) (db : Database) : Prop where
  columns : Columns db.shop.prices
  stored : ∀ items, db.groceryList = some items → ∀ item ∈ items, item.stored = item
  sound : ∀ items, db.groceryList = some items → ∀ item ∈ items,
    Sound py factors db.mealPlan.retailerId db.shop.prices (measure item.publicId) item

section Steps
variable {py : Runtime} {factors : Factors} {measure : Nat → Measure} {db db' : Database}

theorem resolvePlan_eq_ok {userId : Nat} {plan : MealPlan} (h : resolvePlan db userId = .ok plan) : plan = db.mealPlan := by
  unfold resolvePlan at h
  split at h
  · cases h
  · split at h
    · cases h
    · split at h
      · exact (Except.ok.inj h).symm
      · cases h

theorem resolveList_eq_ok {items : List GroceryListItem} : resolveList db = .ok items ↔ db.groceryList = some items := by
  unfold resolveList
  cases db.groceryList with
  | none => simp
  | some items => simp

theorem resolveItem_eq_ok {items : List GroceryListItem} {itemId : Nat} {item : GroceryListItem}
    (h : resolveItem items itemId = .ok item) : item ∈ items ∧ item.publicId = itemId := by
  unfold resolveItem at h
  split at h
  · cases h
  · next hrow =>
    obtain rfl := Except.ok.inj h
    exact ⟨mem_of_row? hrow, key_of_row? hrow⟩

theorem Intact.writeItem (h : Intact py factors measure db) {row : GroceryListItem} (hstored : row.stored = row)
    (hsound : Sound py factors db.mealPlan.retailerId db.shop.prices (measure row.publicId) row) :
    Intact py factors measure (db.writeItem row) := by
  have hmem : ∀ items, (db.writeItem row).groceryList = some items → ∀ item ∈ items,
      item = row ∨ ∃ old, db.groceryList = some old ∧ item ∈ old := by
    intro items hitems item hitem
    obtain ⟨old, hold, rfl⟩ := Option.map_eq_some_iff.mp hitems
    obtain ⟨x, hx, rfl⟩ := mem_updateAt.mp hitem
    split
    · exact Or.inl rfl
    · exact Or.inr ⟨old, hold, hx⟩
  refine ⟨h.columns, fun items hitems item hitem => ?_, fun items hitems item hitem => ?_⟩
  · rcases hmem items hitems item hitem with rfl | ⟨old, hold, hx⟩
    · exact hstored
    · exact h.stored old hold item hx
  · rcases hmem items hitems item hitem with rfl | ⟨old, hold, hx⟩
    · exact hsound
    · exact h.sound old hold item hx

theorem Intact.toggle (h : Intact py factors measure db) {userId itemId : Nat}
    (hrun : toggleItem db userId itemId = .ok db') : Intact py factors measure db' := by
  obtain ⟨plan, -, hrun⟩ := Runs.bind_eq_ok.mp hrun
  obtain ⟨items, hitems, hrun⟩ := Runs.bind_eq_ok.mp hrun
  obtain ⟨item, hitem, hrun⟩ := Runs.bind_eq_ok.mp hrun
  obtain ⟨row, hflush, hrun⟩ := Runs.bind_eq_ok.mp hrun
  obtain ⟨-, rfl⟩ := flush_eq_ok.mp hflush
  obtain rfl := Except.ok.inj hrun
  obtain ⟨hmem, -⟩ := resolveItem_eq_ok hitem
  have hitems := resolveList_eq_ok.mp hitems
  -- Nothing but the flag is written.
  have hrow : ({ item with isChecked := !item.isChecked } : GroceryListItem).stored =
      { item with isChecked := !item.isChecked } := by
    have hstored := h.stored items hitems item hmem
    calc ({ item with isChecked := !item.isChecked } : GroceryListItem).stored
        = { item.stored with isChecked := !item.isChecked } := rfl
      _ = { item with isChecked := !item.isChecked } := by rw [hstored]
  rw [hrow]
  exact h.writeItem hrow ((h.sound items hitems item hmem).check _)

theorem Intact.add (h : Intact py factors measure db) {userId : Nat} {payload : GroceryItemIn}
    (hfits : Fits py factors measure db (.add userId payload)) (hrun : addItem db userId payload = .ok db') :
    Intact py factors measure db' := by
  obtain ⟨plan, hplan, hrun⟩ := Runs.bind_eq_ok.mp hrun
  obtain ⟨items, hitems, hrun⟩ := Runs.bind_eq_ok.mp hrun
  obtain ⟨ingredientId, -, hrun⟩ := Runs.bind_eq_ok.mp hrun
  obtain ⟨product, hproduct, hrun⟩ := Runs.bind_eq_ok.mp hrun
  obtain ⟨row, hflush, hrun⟩ := Runs.bind_eq_ok.mp hrun
  obtain rfl := Except.ok.inj hrun
  have hitems := resolveList_eq_ok.mp hitems
  have hstored : row.stored = row := by
    obtain ⟨-, rfl⟩ := flush_eq_ok.mp hflush
    exact stored_stored
  have hsound : Sound py factors db.mealPlan.retailerId db.shop.prices (measure row.publicId) row := by
    refine (sound_added_iff h.columns.ids hflush).mpr fun p price hp hlatest => ?_
    rw [← resolvePlan_eq_ok hplan]
    exact hfits plan p price hplan (hproduct.trans (congrArg _ hp)) hlatest
  refine ⟨h.columns, fun rows hrows item hitem => ?_, fun rows hrows item hitem => ?_⟩
  · obtain rfl := Option.some.inj hrows
    rcases List.mem_append.mp hitem with hitem | hitem
    · exact h.stored items hitems item hitem
    · exact List.mem_singleton.mp hitem ▸ hstored
  · obtain rfl := Option.some.inj hrows
    rcases List.mem_append.mp hitem with hitem | hitem
    · exact h.sound items hitems item hitem
    · exact List.mem_singleton.mp hitem ▸ hsound

theorem Intact.substitute (hpy : py.Precise) (h : Intact py factors measure db) {userId itemId productId : Nat}
    (hfits : Fits py factors measure db (.substitute userId itemId productId))
    (hrun : substituteItem db userId py itemId productId = .ok db') : Intact py factors measure db' := by
  obtain ⟨plan, hplan, hrun⟩ := Runs.bind_eq_ok.mp hrun
  obtain ⟨items, hitems, hrun⟩ := Runs.bind_eq_ok.mp hrun
  obtain ⟨item, hitem, hrun⟩ := Runs.bind_eq_ok.mp hrun
  obtain ⟨product, hproduct, hrun⟩ := Runs.bind_eq_ok.mp hrun
  obtain ⟨row, hflush, hrun⟩ := Runs.bind_eq_ok.mp hrun
  obtain rfl := Except.ok.inj hrun
  have hrefits := hfits plan items item product hplan hitems hitem hproduct
  obtain rfl := resolvePlan_eq_ok hplan
  obtain ⟨hmem, rfl⟩ := resolveItem_eq_ok hitem
  have hitems := resolveList_eq_ok.mp hitems
  have hstored : row.stored = row := by
    obtain ⟨-, rfl⟩ := flush_eq_ok.mp hflush
    exact stored_stored
  have hid : row.publicId = item.publicId := by
    obtain ⟨-, rfl⟩ := flush_eq_ok.mp hflush
    cases latestPriceForRetailer db.shop product.id db.mealPlan.retailerId <;> rfl
  refine h.writeItem hstored ?_
  rw [hid]
  exact (sound_substituted_iff hpy h.columns (h.stored items hitems item hmem) hflush).mpr hrefits

theorem Intact.observe (h : Intact py factors measure db) (price : ProductPrice) :
    Intact py factors measure (db.observe price) := by
  unfold Database.observe
  split
  · exact h
  · next hfresh =>
    refine ⟨⟨?_, fun p hp => ?_, fun p hp => ?_⟩, h.stored, fun items hitems item hitem =>
      (h.sound items hitems item hitem).mono (List.subset_append_left _ _)⟩
    · rw [List.map_append]
      exact List.Nodup.append h.columns.ids (List.nodup_singleton _) (by simpa using hfresh)
    · rcases List.mem_append.mp hp with hp | hp
      · exact h.columns.amount p hp
      · obtain rfl := List.mem_singleton.mp hp
        exact Numeric.roundScale_roundScale _
    · rcases List.mem_append.mp hp with hp | hp
      · exact h.columns.packageQuantity p hp
      · obtain rfl := List.mem_singleton.mp hp
        exact Numeric.roundScale_roundScale _

theorem Intact.step (hpy : py.Precise) (h : Intact py factors measure db) (edit : Edit)
    (hfits : Fits py factors measure db edit) : Intact py factors measure (step py db edit) := by
  unfold Grocery.step
  cases hrun : request py db edit with
  | error fault => exact h
  | ok db' =>
    cases edit with
    | add userId payload => exact h.add hfits hrun
    | substitute userId itemId productId => exact h.substitute hpy hfits hrun
    | toggle userId itemId => exact h.toggle hrun
    | observed price =>
      obtain rfl := Except.ok.inj hrun
      exact h.observe price

theorem observe_mealPlan (price : ProductPrice) : (db.observe price).mealPlan = db.mealPlan := by
  unfold Database.observe
  split <;> rfl

theorem step_mealPlan (edit : Edit) : (step py db edit).mealPlan = db.mealPlan := by
  unfold step
  cases hrun : request py db edit with
  | error fault => rfl
  | ok db' =>
    cases edit with
    | add userId payload =>
      obtain ⟨_, -, hrun⟩ := Runs.bind_eq_ok.mp hrun
      obtain ⟨_, -, hrun⟩ := Runs.bind_eq_ok.mp hrun
      obtain ⟨_, -, hrun⟩ := Runs.bind_eq_ok.mp hrun
      obtain ⟨_, -, hrun⟩ := Runs.bind_eq_ok.mp hrun
      obtain ⟨_, -, hrun⟩ := Runs.bind_eq_ok.mp hrun
      exact Except.ok.inj hrun ▸ rfl
    | substitute userId itemId productId =>
      obtain ⟨_, -, hrun⟩ := Runs.bind_eq_ok.mp hrun
      obtain ⟨_, -, hrun⟩ := Runs.bind_eq_ok.mp hrun
      obtain ⟨_, -, hrun⟩ := Runs.bind_eq_ok.mp hrun
      obtain ⟨_, -, hrun⟩ := Runs.bind_eq_ok.mp hrun
      obtain ⟨_, -, hrun⟩ := Runs.bind_eq_ok.mp hrun
      exact Except.ok.inj hrun ▸ rfl
    | toggle userId itemId =>
      obtain ⟨_, -, hrun⟩ := Runs.bind_eq_ok.mp hrun
      obtain ⟨_, -, hrun⟩ := Runs.bind_eq_ok.mp hrun
      obtain ⟨_, -, hrun⟩ := Runs.bind_eq_ok.mp hrun
      obtain ⟨_, -, hrun⟩ := Runs.bind_eq_ok.mp hrun
      exact Except.ok.inj hrun ▸ rfl
    | observed price =>
      obtain rfl := Except.ok.inj hrun
      exact observe_mealPlan price

theorem Intact.run (hpy : py.Precise) (h : Intact py factors measure db) {edits : List Edit}
    (hfits : Runs.Along (Grocery.step py) (Fits py factors measure) db edits) :
    Intact py factors measure (edits.foldl (Grocery.step py) db) := by
  induction edits generalizing db with
  | nil => exact h
  | cons edit edits ih => exact ih (h.step hpy edit hfits.1) hfits.2

end Steps

/-! ### The list of a plan -/

section Plan
variable {py : Runtime} {settings : Settings} {scan : List IngredientProductMapping} {inp : PlanInput} {r : PlanResult}
  {db : Database} {items : List GroceryListItem}

/-- A plan of the chain has been generated, and its list written. -/
structure Generated (py : Runtime) (settings : Settings) (scan : List IngredientProductMapping) (inp : PlanInput)
    (r : PlanResult) (db : Database) : Prop where
  mappings : scan.Perm db.shop.mappings
  columns : Columns db.shop.prices
  catalog : inp.catalog = buildCatalog settings db.shop db.mealPlan.retailerId
  plan : generatePlan py inp = .completed r
  written : ∃ items, persistGroceryList settings db.shop scan db.mealPlan.retailerId r.groceryLines = .ok items ∧
    db.groceryList = some items

/-- The lines are measured as the plan has it. -/
def Measures (py : Runtime) (inp : PlanInput) (r : PlanResult) (measure : Nat → Measure) : Prop :=
  ∀ line ∈ r.groceryLines.zipIdx, Measured py inp r line.1 (measure line.2)

theorem Generated.intact (hpy : py.Precise) (h : Generated py settings scan inp r db) {measure : Nat → Measure}
    (hmeasure : Measures py inp r measure)
    (hcharged : ∀ line ∈ r.groceryLines.zipIdx, WellCharged py (inp.converter py)
      (latestPrices settings db.shop db.mealPlan.retailerId) (resolverRows db.shop scan) (measure line.2) line.1) :
    Intact py (inp.converter py) measure db := by
  obtain ⟨items, hpersist, hlist⟩ := h.written
  have hrows : ∀ item ∈ items, ∃ line ∈ r.groceryLines.zipIdx,
      flush (generatedItem (lineResolver settings db.shop scan db.mealPlan.retailerId) line.1 line.2) = .ok item :=
    (Runs.exists_of_forall₂ (Runs.forall₂_of_mapM_eq_ok hpersist)).2
  refine ⟨h.columns, fun rows hrows' item hitem => ?_, fun rows hrows' item hitem => ?_⟩
  · obtain rfl : items = rows := Option.some.inj (hlist.symm.trans hrows')
    obtain ⟨line, -, hflush⟩ := hrows item hitem
    obtain ⟨-, rfl⟩ := flush_eq_ok.mp hflush
    exact stored_stored
  · obtain rfl : items = rows := Option.some.inj (hlist.symm.trans hrows')
    obtain ⟨line, hline, hflush⟩ := hrows item hitem
    have hfacts := lineFacts h.mappings h.catalog (hmeasure line hline)
    have hid : item.publicId = line.2 := by
      obtain ⟨-, rfl⟩ := flush_eq_ok.mp hflush
      rfl
    rw [hid]
    exact sound_generated hpy h.columns hfacts (hcharged line hline) hflush

/-- After the generation of a plan that charges its lines right, and every run of edits that fit, every line is sound. -/
theorem soundLines (hpy : py.Precise) (h : Generated py settings scan inp r db) {measure : Nat → Measure}
    (hmeasure : Measures py inp r measure)
    (hcharged : ∀ line ∈ r.groceryLines.zipIdx, WellCharged py (inp.converter py)
      (latestPrices settings db.shop db.mealPlan.retailerId) (resolverRows db.shop scan) (measure line.2) line.1)
    {edits : List Edit} (hfits : Runs.Along (step py) (Fits py (inp.converter py) measure) db edits)
    {rows : List GroceryListItem} (hrows : (edits.foldl (step py) db).groceryList = some rows) {item : GroceryListItem}
    (hitem : item ∈ rows) :
    Sound py (inp.converter py) db.mealPlan.retailerId (edits.foldl (step py) db).shop.prices (measure item.publicId)
      item := by
  have hrun := (h.intact hpy hmeasure hcharged).run hpy hfits
  have hplan : (edits.foldl (step py) db).mealPlan = db.mealPlan :=
    Runs.foldl_induction (I := fun db' : Database => db'.mealPlan = db.mealPlan) (fun _ hs edit _ => (step_mealPlan edit).trans hs) rfl
  rw [← hplan]
  exact hrun.sound rows hrows item hitem

end Plan

/-! ### A litre of milk, and a product of another chain -/

theorem replay_precise (draws : List Nat) : (Runtime.replay draws).Precise := fun x => by
  show |x - x| ≤ _
  rw [sub_self, abs_zero]
  positivity

/-- The plan of the first chain, whose list its owner edits. -/
def listDb (shop : Shop) (items : List GroceryListItem) : Database where
  shop := shop
  members := [{ householdId := 1, userId := 1, role := .owner }]
  mealPlan := { householdId := 1, retailerId := some 1 }
  groceryList := some items

/-- The litre is replaced by the litre and a half, which is then ticked off. -/
def milkEdits : List Edit := [.substitute 1 0 2, .toggle 1 0]

def milkMeasure : Measure where
  unit := "l"
  canonicalName := "leche"

theorem milkPlan_measured {r : PlanResult} {line : GroceryLineDTO} {m : Measure}
    (h : Measured (Runtime.replay []) (milkPlan 1) r line m) : m = milkMeasure := by
  obtain ⟨recipes, key, lineMeta, hassigns, -, hmeta, -, rfl⟩ := h
  have hone : ∀ recipes, (milkPlan 1).Assigns (Runtime.replay []) recipes → recipes = (milkPlan 1).candidates := by
    intro recipes hassigns
    obtain ⟨slot, hslots⟩ : ∃ slot, (milkPlan 1).slots = [slot] := ⟨_, rfl⟩
    rw [PlanInput.Assigns, hslots] at hassigns
    cases hassigns with
    | cons hmem hrest =>
      cases hrest
      exact congrArg (· :: []) (List.mem_singleton.mp (List.mem_filter.mp (List.mem_filter.mp hmem).1).1)
  obtain rfl := hone recipes hassigns
  have hall : ((Provisioner.demandOf (Runtime.replay []) ((milkPlan 1).provisioner (Runtime.replay []))
      (buildMeals [] (milkPlan 1).slots (milkPlan 1).candidates)).lineMeta.entries.all fun entry =>
        entry.2.targetUnit = "l" && entry.2.canonicalName = "leche") = true := by
    decide +kernel
  have hentry := List.all_eq_true.mp hall _ (Dict.mem_entries_iff.mpr hmeta)
  simp only [Bool.and_eq_true, decide_eq_true_eq] at hentry
  rw [hentry.1, hentry.2]
  rfl

/-- The row of the litre. -/
def milkItem (line : GroceryLineDTO) : GroceryListItem :=
  { generatedItem {} line 0 with
    productId := some 1
    ingredientId := some 1
    unitPrice := none
    priceProductPriceId := some 1 }

theorem generatedItem_milk {line : GroceryLineDTO} (hid : line.productId = some "1") (hname : line.canonicalName = "leche") :
    generatedItem (lineResolver {} milkShop milkShop.mappings (some 1)) line 0 = milkItem line := by
  have hrow : ({ id := 1, canonicalName := "leche", displayName := "Leche" }, { id := 1 }) ∈
      resolverRows milkShop milkShop.mappings := by
    decide +kernel
  have hlatest : ((latestPrices {} milkShop (some 1)).get? 1).map (fun price => (price.productId, price.id, price.unitPrice)) =
      some (1, 1, none) := by
    decide +kernel
  obtain ⟨price, hget, hprice⟩ := Option.map_eq_some_iff.mp hlatest
  simp only [Prod.mk.injEq] at hprice
  have hresolve : (lineResolver {} milkShop milkShop.mappings (some 1)).resolve line =
      { productId := some 1, priceId := some 1, unitPrice := none } := by
    rw [resolve_of_row milkShop_ids hrow hid, keptPrice, hget]
    simp [ProductPrice.provenance, hprice]
  have hingredient : (lineResolver {} milkShop milkShop.mappings (some 1)).ingredientId.get? "leche" = some 1 := by
    decide +kernel
  rw [generatedItem, hresolve, hname, hingredient]
  rfl

theorem milkPlan_list : ∃ r items, generatePlan (Runtime.replay []) (milkPlan 1) = .completed r ∧
    persistGroceryList {} milkShop milkShop.mappings (some 1) r.groceryLines = .ok items ∧
    (∀ line ∈ r.groceryLines, line.productId = some "1" ∧ line.packagePrice = some 1 ∧ line.packageUnit = some "l") ∧
    (∀ item ∈ items, item.pendingQuantity = 1 ∧ item.packagesSelected = some 1) ∧
    ∃ rows, (milkEdits.foldl (step (Runtime.replay [])) (listDb milkShop items)).groceryList = some rows ∧
      ∃ item ∈ rows, item.productId = some 2 ∧ item.isChecked = true := by
  have hplan : ((generatePlan (Runtime.replay []) (milkPlan 1)).result?.any fun r => r.groceryLines.length = 1 &&
      r.groceryLines.all fun line =>
        line.productId = some "1" && line.canonicalName = "leche" && line.packagePrice = some 1 &&
          line.packageUnit = some "l" && (milkItem line).fits &&
          (milkItem line).stored.pendingQuantity = 1 && line.packagesCount = 1 &&
          (milkEdits.foldl (step (Runtime.replay [])) (listDb milkShop [(milkItem line).stored])).groceryList.any fun rows =>
            rows.any fun item => item.productId = some 2 && item.isChecked) = true := by
    decide +kernel
  obtain ⟨r, hr, hfacts⟩ := exists_completed _ hplan
  simp only [Bool.and_eq_true, List.all_eq_true, decide_eq_true_eq] at hfacts
  obtain ⟨hone, hfacts⟩ := hfacts
  obtain ⟨line, hlines⟩ := List.length_eq_one_iff.mp hone
  obtain ⟨⟨⟨⟨⟨⟨⟨hid, hname⟩, hprice⟩, hunit⟩, hfits⟩, hpending⟩, hcount⟩, hafter⟩ := hfacts line (by simp [hlines])
  obtain ⟨rows, hrun, hany⟩ := (Option.any_eq_true _ _).mp hafter
  obtain ⟨item, hitem, hticked⟩ := List.any_eq_true.mp hany
  simp only [Bool.and_eq_true, decide_eq_true_eq] at hticked
  have hflush : flush (generatedItem (lineResolver {} milkShop milkShop.mappings (some 1)) line 0) =
      .ok (milkItem line).stored := by
    rw [generatedItem_milk hid hname]
    exact flush_eq_ok.mpr ⟨hfits, rfl⟩
  refine ⟨r, [(milkItem line).stored], hr, ?_, ?_, ?_, rows, hrun, item, hitem, hticked⟩
  · rw [hlines, persistGroceryList, List.zipIdx_singleton, List.mapM_cons, hflush]
    rfl
  · rw [hlines]
    exact List.forall_mem_singleton.mpr ⟨hid, hprice, hunit⟩
  · exact List.forall_mem_singleton.mpr ⟨hpending, congrArg some hcount⟩

theorem milkShop_columns : Columns milkShop.prices :=
  ⟨milkShop_ids, by decide +kernel, by decide +kernel⟩

theorem milkPlan_charged {line : GroceryLineDTO} (hid : line.productId = some "1") (hprice : line.packagePrice = some 1)
    (hunit : line.packageUnit = some "l") : WellCharged (Runtime.replay []) ((milkPlan 1).converter (Runtime.replay []))
      (latestPrices {} milkShop (some 1)) (resolverRows milkShop milkShop.mappings) milkMeasure line where
  charge _ := by
    have hlatest : ((latestPrices {} milkShop (some 1)).get? 1).map (·.amount) = some 1 := by decide +kernel
    obtain ⟨price, hget, hamount⟩ := Option.map_eq_some_iff.mp hlatest
    refine ⟨1, price, hid, ?_, hamount ▸ hprice⟩
    rw [keptPrice, hget]
    rfl
  unit quantity unit _ _ hsome := by
    obtain rfl : "l" = unit := Option.some.inj (hunit.symm.trans hsome)
    exact Or.inl rfl
  uncharged _ _ hnone := by
    rw [hprice] at hnone
    cases hnone

theorem milkEdits_fit {items : List GroceryListItem}
    (hitems : ∀ item ∈ items, item.pendingQuantity = 1 ∧ item.packagesSelected = some 1) :
    Runs.Along (step (Runtime.replay [])) (Fits (Runtime.replay []) ((milkPlan 1).converter (Runtime.replay []))
      fun _ => milkMeasure) (listDb milkShop items) milkEdits := by
  refine ⟨fun plan rows item product hplan hrows hitem hproduct => ?_, trivial, trivial⟩
  obtain rfl := resolvePlan_eq_ok hplan
  obtain rfl : items = rows := Option.some.inj (resolveList_eq_ok.mp hrows)
  obtain ⟨hpending, hone⟩ := hitems item (resolveItem_eq_ok hitem).1
  obtain rfl : { id := 2 } = product := Except.ok.inj hproduct
  have hlatest : (latestPriceForRetailer milkShop 2 (some 1)).any
      (fun price => price.packageUnit = "l" && price.packageQuantity = 3 / 2) = true := by
    decide +kernel
  obtain ⟨price, hprice, hformat⟩ := (Option.any_eq_true _ _).mp hlatest
  simp only [Bool.and_eq_true, decide_eq_true_eq] at hformat
  constructor
  · intro p n hp hn _
    obtain rfl : price = p := Option.some.inj (hprice.symm.trans hp)
    obtain rfl : 1 = n := Option.some.inj (hone.symm.trans hn)
    rw [hformat.1, hformat.2, hpending]
    exact covers_of_unit rfl (by norm_num)
  · intro hnone
    exact absurd (hprice.symm.trans hnone) (by simp)

theorem soundLines_milk : ∃ r db rows, Generated (Runtime.replay []) {} milkShop.mappings (milkPlan 1) r db ∧
    (milkEdits.foldl (step (Runtime.replay [])) db).groceryList = some rows ∧
    (∃ item ∈ rows, item.productId = some 2 ∧ item.isChecked = true) ∧
    ∀ item ∈ rows, Sound (Runtime.replay []) ((milkPlan 1).converter (Runtime.replay [])) db.mealPlan.retailerId
      (milkEdits.foldl (step (Runtime.replay [])) db).shop.prices milkMeasure item := by
  obtain ⟨r, items, hr, hpersist, hlines, hitems, rows, hrun, hticked⟩ := milkPlan_list
  have hgenerated : Generated (Runtime.replay []) {} milkShop.mappings (milkPlan 1) r (listDb milkShop items) :=
    ⟨.refl _, milkShop_columns, rfl, hr, items, hpersist, rfl⟩
  have hmeasure : Measures (Runtime.replay []) (milkPlan 1) r fun _ => milkMeasure := by
    intro line hline
    obtain ⟨m, hm⟩ := exists_measured hr (List.mem_of_getElem? (List.mem_zipIdx_iff_getElem?.mp hline))
    rwa [milkPlan_measured hm] at hm
  refine ⟨r, listDb milkShop items, rows, hgenerated, hrun, hticked, fun item hitem => ?_⟩
  refine soundLines (replay_precise []) hgenerated hmeasure (fun line hline => ?_) (milkEdits_fit hitems) hrun hitem
  obtain ⟨hid, hprice, hunit⟩ := hlines line.1 (List.mem_of_getElem? (List.mem_zipIdx_iff_getElem?.mp hline))
  exact milkPlan_charged hid hprice hunit

/-- A litre of milk of another chain. -/
def otherShop : Shop where
  products := [{ id := 1 }]
  prices :=
    [{ id := 1, retailerId := 2, storeId := 2, productId := 1, amount := 1, packageQuantity := 1, packageUnit := "l",
       sourceType := "official", sourceName := "carrefour", observedAt := 0 }]

/-- A plan without meals, so that its list is empty. -/
def emptyWeek : PlanInput where
  members := [{ memberAlias := "Ana" }]
  mealRequirements := []
  budget := { amount := 5 }
  dateRange := (719200, 719200)
  catalog := buildCatalog {} otherShop (some 1)
  candidates := []

/-- A line is added for a product that only another chain sells, and it refers to that chain's price. -/
theorem not_soundLines_otherChain : ¬∀ (py : Runtime) (settings : Settings) (scan : List IngredientProductMapping)
    (inp : PlanInput) (r : PlanResult) (db : Database), py.Precise → Generated py settings scan inp r db →
      ∀ measure, Measures py inp r measure → ∀ (edits : List Edit) rows,
        (edits.foldl (step py) db).groceryList = some rows → ∀ item ∈ rows,
          Sound py (inp.converter py) db.mealPlan.retailerId (edits.foldl (step py) db).shop.prices
            (measure item.publicId) item := by
  intro h
  have hplan : generatePlan (Runtime.replay []) emptyWeek = .completed (emptyWeek.emptyPlan (Runtime.replay [])) :=
    generatePlan_completed_iff.mpr (.inl ⟨rfl, rfl⟩)
  have hgenerated : Generated (Runtime.replay []) {} [] emptyWeek (emptyWeek.emptyPlan (Runtime.replay []))
      (listDb otherShop []) :=
    ⟨.refl _, ⟨by decide, by decide +kernel, by decide +kernel⟩, rfl, hplan, [], rfl, rfl⟩
  have hmeasure : Measures (Runtime.replay []) emptyWeek (emptyWeek.emptyPlan (Runtime.replay [])) fun _ => milkMeasure := by
    intro line hline
    cases hline
  have hadded : ([Edit.add 1 { productId := some 1, neededQuantity := 1, unit := "l" }].foldl (step (Runtime.replay []))
      (listDb otherShop [])).groceryList.any (fun rows => rows.any (·.priceProductPriceId = some 1)) = true := by
    decide +kernel
  obtain ⟨rows, hrows, hany⟩ := (Option.any_eq_true _ _).mp hadded
  obtain ⟨item, hitem, hid⟩ := List.any_eq_true.mp hany
  have hsound := h _ _ _ _ _ _ (replay_precise []) hgenerated _ hmeasure _ rows hrows item hitem
  obtain ⟨price, hprice, -, -, hretailer⟩ := hsound.price 1 (of_decide_eq_true hid)
  have hshop : ∀ price ∈ ([Edit.add 1 { productId := some 1, neededQuantity := 1, unit := "l" }].foldl
      (step (Runtime.replay [])) (listDb otherShop [])).shop.prices, price.retailerId = 2 := by
    decide +kernel
  rw [hshop price hprice] at hretailer
  cases hretailer

end CestaPlan.Grocery
