import CestaPlan.History.Confluence
import CestaPlan.History.CurrentPrice
import CestaPlan.History.PriceHistory
import CestaPlan.Library.Selection

/-! The production branch of the provider sync (`services/provider_sync.py`), and the line that it leaves to the reader.

    The reader takes an open row before the last observed one, so it relies on a single open row in the line. The
    branch sees prices again in place and ends the open row at a change, without interval logic for late prices. -/

namespace CestaPlan.History
open Selection

/-- What the production branch looks the rows up by. -/
structure PriceLine where
  productVariantId : Int
  storeId : Option Int
  priceScope : PriceScope
deriving DecidableEq

def PriceObservation.line (r : PriceObservation) : PriceLine where
  productVariantId := r.productVariantId
  storeId := r.storeId
  priceScope := r.priceScope

def PriceObservation.openIn (line : PriceLine) (r : PriceObservation) : Bool :=
  r.line = line && !r.stagingOnly && r.validUntil.isNone && r.rolledBackAt.isNone

/-- The open rows of a line in production that no rollback has withdrawn. -/
def Db.openRows (db : Db) (line : PriceLine) : List PriceObservation := db.observations.filter (·.openIn line)

/-- A call of the production branch, with the store that the postal code of the product resolved to. -/
structure SyncWrite where
  retailerId : Int
  storeId : Option Int
  variantId : Int
  product : ExternalCatalogProduct
  runId : Int
  asOf : Instant
deriving DecidableEq

/-- The row that the branch would add has the fields of a staged one, without the flag. -/
def SyncWrite.candidate (w : SyncWrite) : Candidate :=
  { (appendObservation w.retailerId w.storeId w.variantId w.product w.runId w.asOf).candidate with
    stagingOnly := some false }

def SyncWrite.line (w : SyncWrite) : PriceLine where
  productVariantId := w.variantId
  storeId := w.storeId
  priceScope := w.product.priceScope

/-- The order of the query for the prior row. The source leaves rows with one start in no order. -/
def startsLast (a b : PriceObservation) : Prop := b.validFrom ≤ a.validFrom

instance (a b : PriceObservation) : Decidable (startsLast a b) := inferInstanceAs (Decidable (_ ≤ _))

def priorRow (db : Db) (line : PriceLine) : Option PriceObservation := first startsLast (db.openRows line)

def samePrice (w : SyncWrite) (r : PriceObservation) : Bool :=
  r.amount = w.product.regularPrice && r.currency = w.product.currency

/-- The production branch of `_append_observation`: the tables after it, and whether it created a row. -/
def appendProduction (db : Db) (w : SyncWrite) : Except RecordError (Db × Bool) :=
  let prior := priorRow db w.line
  match prior.filter (samePrice w) with
  | some r => .ok (db.update (·.id = r.id) (·.revalidate w.product.observedAt w.asOf), false)
  | none =>
    if h : w.candidate.fact.fits = true then
      -- A prior row that starts after the price was observed stays open.
      let closed := match prior.filter (·.validFrom ≤ w.product.observedAt) with
        | some r => db.update (·.id = r.id) (·.close w.product.observedAt (some w.runId))
        | none => db
      .ok (closed.insert (w.candidate.row none false w.asOf db.nextObservationId h) false, true)
    else .error .numericFieldOverflow

/-- The tables after a call, or those before it where it fails. -/
def Db.sync (db : Db) (w : SyncWrite) : Db :=
  match appendProduction db w with
  | .ok (db', _) => db'
  | .error _ => db

def Db.syncAll (db : Db) (ws : List SyncWrite) : Db := ws.foldl Db.sync db

/-! ### One call -/

section Call
variable {db : Db} {line : PriceLine} {w : SyncWrite} {r : PriceObservation}

theorem openIn_iff : r.openIn line = true ↔
    r.line = line ∧ r.stagingOnly = false ∧ r.validUntil = none ∧ r.rolledBackAt = none := by
  simp [PriceObservation.openIn, and_assoc]

theorem mem_openRows : r ∈ db.openRows line ↔ r ∈ db.observations ∧
    r.line = line ∧ r.stagingOnly = false ∧ r.validUntil = none ∧ r.rolledBackAt = none := by
  rw [Db.openRows, List.mem_filter, openIn_iff]

theorem priorRow_mem (h : priorRow db line = some r) : r ∈ db.openRows line := first_mem h

theorem priorRow_eq_none : priorRow db line = none ↔ db.openRows line = [] := first_eq_none_iff

theorem priorRow_singleton (h : db.openRows line = [r]) : priorRow db line = some r := by
  rw [priorRow, h]
  exact first_singleton

theorem samePrice_fits (h : samePrice w r = true) : w.candidate.fact.fits = true := by
  obtain ⟨hamount, -⟩ := Bool.and_eq_true_iff.mp h
  have hroom := (Bool.and_eq_true_iff.mp r.columns.fits).1
  rw [of_decide_eq_true hamount] at hroom
  exact Bool.and_eq_true_iff.mpr ⟨hroom, rfl⟩

theorem sync_of_not_fits (h : w.candidate.fact.fits = false) : db.sync w = db := by
  have hnone : (priorRow db w.line).filter (samePrice w) = none := by
    refine Option.filter_eq_none_iff.mpr fun r _ hsame => ?_
    rw [samePrice_fits hsame] at h
    cases h
  simp [Db.sync, appendProduction, hnone, h]

/-- What a call with room does: it sees the prior row again, or ends it, or leaves it open beside the new one. -/
inductive SyncStep (db : Db) (w : SyncWrite) : Db → Prop
  | again (r : PriceObservation) (hprior : priorRow db w.line = some r) (hsame : samePrice w r = true) :
      SyncStep db w (db.update (·.id = r.id) (·.revalidate w.product.observedAt w.asOf))
  | changed (r : PriceObservation) (h : w.candidate.fact.fits = true) (hprior : priorRow db w.line = some r)
      (hsame : samePrice w r = false) (hle : r.validFrom ≤ w.product.observedAt) :
      SyncStep db w ((db.update (·.id = r.id) (·.close w.product.observedAt (some w.runId))).insert
        (w.candidate.row none false w.asOf db.nextObservationId h) false)
  | late (r : PriceObservation) (h : w.candidate.fact.fits = true) (hprior : priorRow db w.line = some r)
      (hsame : samePrice w r = false) (hlt : w.product.observedAt < r.validFrom) :
      SyncStep db w (db.insert (w.candidate.row none false w.asOf db.nextObservationId h) false)
  | first (h : w.candidate.fact.fits = true) (hprior : priorRow db w.line = none) :
      SyncStep db w (db.insert (w.candidate.row none false w.asOf db.nextObservationId h) false)

theorem syncStep (h : w.candidate.fact.fits = true) : SyncStep db w (db.sync w) := by
  cases hprior : priorRow db w.line with
  | none =>
    simp only [Db.sync, appendProduction, hprior, Option.filter_none, h, dite_true]
    exact .first h hprior
  | some r =>
    cases hsame : samePrice w r with
    | true =>
      simp only [Db.sync, appendProduction, hprior, Option.filter_some, hsame, if_true]
      exact .again r hprior hsame
    | false =>
      by_cases hle : r.validFrom ≤ w.product.observedAt
      · simp only [Db.sync, appendProduction, hprior, Option.filter_some, hsame, Bool.false_eq_true, if_false, h,
          dite_true, hle, decide_true, if_true]
        exact .changed r h hprior hsame hle
      · simp only [Db.sync, appendProduction, hprior, Option.filter_some, hsame, Bool.false_eq_true, if_false, h,
          dite_true, hle, decide_false]
        exact .late r h hprior hsame (lt_of_not_ge hle)

end Call

/-! ### The open rows of a line -/

section Lines
variable {db db' : Db} {line : PriceLine} {w : SyncWrite} {r s : PriceObservation} {t u : Instant} {run : Option Int}

theorem SyncStep.keyed (h : SyncStep db w db') (hk : db.Keyed) : db'.Keyed := by
  cases h with
  | again => exact hk.update fun _ => rfl
  | changed => exact (hk.update (f := (·.close w.product.observedAt (some w.runId))) fun _ => rfl).insert rfl
  | late => exact hk.insert rfl
  | first => exact hk.insert rfl

theorem close_openIn : (r.close t run).openIn line = false := by simp [PriceObservation.openIn, PriceObservation.close]

theorem newRow_openIn {id : Nat} (h : w.candidate.fact.fits = true) :
    (w.candidate.row none false w.asOf id h).openIn line = decide (w.line = line) := by
  rw [Bool.eq_iff_iff, openIn_iff, decide_eq_true_eq]
  exact and_iff_left ⟨rfl, rfl, rfl⟩

theorem Db.openRows_insert {id : Nat} (h : w.candidate.fact.fits = true) :
    (db.insert (w.candidate.row none false w.asOf id h) false).openRows line =
      db.openRows line ++ if w.line = line then [w.candidate.row none false w.asOf id h] else [] := by
  show List.filter _ (db.observations ++ [_]) = _
  rw [List.filter_append, List.filter_singleton, newRow_openIn]
  by_cases hl : w.line = line <;> simp [hl, Db.openRows]

theorem Db.openRows_revalidate {id : Nat} : (db.update (·.id = id) (·.revalidate t u)).openRows line =
    (db.openRows line).map fun s => if s.id = id then s.revalidate t u else s := by
  simp only [Db.openRows, Db.update, List.filter_map, decide_eq_true_eq]
  congr 1
  refine List.filter_congr fun s _ => ?_
  rw [Function.comp_apply]
  split <;> rfl

theorem Db.openRows_close {id : Nat} : (db.update (·.id = id) (·.close t run)).openRows line =
    (db.openRows line).filter (·.id ≠ id) := by
  have hpoint : ∀ s : PriceObservation, (if decide (s.id = id) = true then s.close t run else s).openIn line =
      (decide (s.id ≠ id) && s.openIn line) := by
    intro s
    by_cases hid : s.id = id <;> simp [hid, close_openIn]
  simp only [Db.openRows, Db.update, List.filter_map, List.filter_filter, Function.comp_def, hpoint]
  refine (List.map_congr_left fun s hs => ?_).trans (List.map_id _)
  have hne := (Bool.and_eq_true_iff.mp (List.mem_filter.mp hs).2).1
  rw [if_neg (by simpa using hne)]
  rfl

theorem openRows_id_ne (hk : db.Keyed) (hr : r ∈ db.openRows line) {other : PriceLine} (hs : s ∈ db.openRows other)
    (hne : other ≠ line) : s.id ≠ r.id := by
  intro hid
  obtain ⟨hsmem, hsline, -⟩ := mem_openRows.mp hs
  obtain ⟨hrmem, hrline, -⟩ := mem_openRows.mp hr
  have heq : s = r := List.inj_on_of_nodup_map hk.ids hsmem hrmem hid
  exact hne (hsline.symm.trans (heq ▸ hrline))

theorem SyncStep.openRows_of_ne (h : SyncStep db w db') (hk : db.Keyed) (hne : line ≠ w.line) :
    db'.openRows line = db.openRows line := by
  have hne' : w.line ≠ line := Ne.symm hne
  cases h with
  | again r hprior =>
    rw [Db.openRows_revalidate]
    refine (List.map_congr_left fun s hs => ?_).trans (List.map_id _)
    exact if_neg (openRows_id_ne hk (priorRow_mem hprior) hs hne)
  | changed r hfits hprior =>
    rw [Db.openRows_insert hfits, if_neg hne', List.append_nil, Db.openRows_close]
    refine List.filter_eq_self.mpr fun s hs => ?_
    exact decide_eq_true (openRows_id_ne hk (priorRow_mem hprior) hs hne)
  | late r hfits => rw [Db.openRows_insert hfits, if_neg hne', List.append_nil]
  | first hfits => rw [Db.openRows_insert hfits, if_neg hne', List.append_nil]

theorem sync_openRows_of_ne (hk : db.Keyed) (hne : line ≠ w.line) : (db.sync w).openRows line = db.openRows line := by
  cases hfits : w.candidate.fact.fits with
  | true => exact (syncStep hfits).openRows_of_ne hk hne
  | false => rw [sync_of_not_fits hfits]

theorem sync_keyed (hk : db.Keyed) : (db.sync w).Keyed := by
  cases hfits : w.candidate.fact.fits with
  | true => exact (syncStep hfits).keyed hk
  | false => rwa [sync_of_not_fits hfits]

/-- At most one row is open in the line, and it is a price that started no later than it was last seen. -/
structure InOrder (db : Db) (line : PriceLine) : Prop where
  keyed : db.Keyed
  single : (db.openRows line).length ≤ 1
  undisputed : ∀ r ∈ db.openRows line, r.isDisputed = false
  seen : ∀ r ∈ db.openRows line, r.validFrom ≤ r.observedAt

/-- The row shows the price of the call, as the columns keep it. -/
def PriceObservation.Shows (r : PriceObservation) (w : SyncWrite) : Prop :=
  r.amount = w.candidate.fact.store.amount ∧ r.currency = w.product.currency ∧ r.observedAt = w.product.observedAt

theorem InOrder.eq_nil_or_singleton (h : InOrder db line) :
    db.openRows line = [] ∨ ∃ r, db.openRows line = [r] := by
  rcases hopen : db.openRows line with _ | ⟨r, _ | ⟨s, rest⟩⟩
  · exact Or.inl rfl
  · exact Or.inr ⟨r, rfl⟩
  · have := h.single
    rw [hopen] at this
    simp at this

theorem revalidate_shows (hsame : samePrice w r = true) : (r.revalidate w.product.observedAt u).Shows w := by
  obtain ⟨hamount, hcurrency⟩ := Bool.and_eq_true_iff.mp hsame
  refine ⟨?_, of_decide_eq_true hcurrency, rfl⟩
  have hkept : Numeric.roundScale 4 r.amount = r.amount := congrArg PriceFact.amount r.columns.kept
  show r.amount = Numeric.roundScale 4 w.product.regularPrice
  rw [← of_decide_eq_true hamount, hkept]

theorem InOrder.advance (h : InOrder db w.line) (hstep : SyncStep db w db')
    (hle : ∀ r ∈ db.openRows w.line, r.observedAt ≤ w.product.observedAt) :
    ∃ r, db'.openRows w.line = [r] ∧ r.Shows w ∧ r.isDisputed = false ∧ r.validFrom ≤ r.observedAt := by
  have hnew : ∀ hfits, (w.candidate.row none false w.asOf db.nextObservationId hfits).Shows w := fun _ => ⟨rfl, rfl, rfl⟩
  rcases h.eq_nil_or_singleton with hopen | ⟨r, hopen⟩
  · have hprior : priorRow db w.line = none := priorRow_eq_none.mpr hopen
    cases hstep with
    | again r' hprior' => rw [hprior] at hprior'; cases hprior'
    | changed r' _ hprior' => rw [hprior] at hprior'; cases hprior'
    | late r' _ hprior' => rw [hprior] at hprior'; cases hprior'
    | first hfits =>
      exact ⟨_, by rw [Db.openRows_insert hfits, if_pos rfl, hopen, List.nil_append], hnew hfits, rfl, le_rfl⟩
  · have hr : r ∈ db.openRows w.line := hopen ▸ List.mem_cons_self
    have hprior : priorRow db w.line = some r := priorRow_singleton hopen
    have hstart : r.validFrom ≤ w.product.observedAt := (h.seen r hr).trans (hle r hr)
    cases hstep with
    | again r' hprior' hsame =>
      cases hprior.symm.trans hprior'
      refine ⟨r.revalidate w.product.observedAt w.asOf, ?_, revalidate_shows hsame, h.undisputed r hr, hstart⟩
      rw [Db.openRows_revalidate, hopen, List.map_singleton, if_pos rfl]
    | changed r' hfits hprior' =>
      cases hprior.symm.trans hprior'
      refine ⟨_, ?_, hnew hfits, rfl, le_rfl⟩
      rw [Db.openRows_insert hfits, if_pos rfl, Db.openRows_close, hopen]
      simp
    | late r' _ hprior' _ hlt =>
      cases hprior.symm.trans hprior'
      exact absurd hlt (not_lt_of_ge hstart)
    | first _ hprior' => rw [hprior] at hprior'; cases hprior'

theorem InOrder.fall_back (h : InOrder db w.line) (hstep : SyncStep db w db') (hr : r ∈ db.openRows w.line)
    (hlt : w.product.observedAt < r.observedAt) : (db'.openRows w.line).length = 2 ∨
      ∃ r' ∈ db'.openRows w.line, r'.observedAt < r.observedAt := by
  obtain ⟨r₀, hopen⟩ := h.eq_nil_or_singleton.resolve_left (List.ne_nil_of_mem hr)
  have hr₀ : r = r₀ := List.mem_singleton.mp (hopen ▸ hr)
  subst hr₀
  have hprior : priorRow db w.line = some r := priorRow_singleton hopen
  cases hstep with
  | again r' hprior' =>
    cases hprior.symm.trans hprior'
    refine Or.inr ⟨r.revalidate w.product.observedAt w.asOf, ?_, hlt⟩
    rw [Db.openRows_revalidate, hopen, List.map_singleton, if_pos rfl]
    exact List.mem_cons_self
  | changed r' hfits =>
    refine Or.inr ⟨w.candidate.row none false w.asOf db.nextObservationId hfits, ?_, hlt⟩
    rw [Db.openRows_insert hfits, if_pos rfl]
    exact List.mem_append_right _ List.mem_cons_self
  | late r' hfits =>
    left
    rw [Db.openRows_insert hfits, if_pos rfl, hopen]
    rfl
  | first _ hprior' => rw [hprior] at hprior'; cases hprior'

end Lines

/-! ### What the reader finds -/

section Reader
variable {db : Db} {line : PriceLine} {r : PriceObservation}

/-- Asked for a line with one open row, the reader returns it. Asked for no store, it reads those of every store, and
    may prefer one that was seen no earlier. -/
theorem latestValid_line (asOf : Option Instant) (hopen : db.openRows line = [r]) (hactive : r.isDisputed = false) :
    ∃ s, latestValid db line.productVariantId line.storeId (some line.priceScope) false asOf = some s ∧
      (s = r ∨ line.storeId = none ∧ s.line ≠ line ∧ r.observedAt ≤ s.observedAt) := by
  obtain ⟨hmem, hline, hproduction, hu, hlive⟩ := mem_openRows.mp (hopen ▸ List.mem_cons_self : r ∈ db.openRows line)
  have hread : r ∈ db.observations.filter fun r =>
      r.productVariantId = line.productVariantId && r.rolledBackAt.isNone && !r.isDisputed && r.stagingOnly == false &&
        line.storeId.all (fun s => r.storeId = some s) && (some line.priceScope).all (fun s => r.priceScope = s) &&
        inView false asOf r := by
    refine List.mem_filter.mpr ⟨hmem, ?_⟩
    subst hline
    cases hstore : r.storeId <;> simp [hlive, hactive, hproduction, inView, PriceObservation.line, hstore]
  obtain ⟨s, hs, hfirst⟩ := first_precedes (r := precedes) hread
  refine ⟨s, hs, ?_⟩
  rcases hfirst with rfl | hprec
  · exact Or.inl rfl
  · -- The first row is open as well, so it is the one of the line or one of another store.
    have hsopen : s.validUntil = none ∧ r.observedAt ≤ s.observedAt := by
      rcases hprec with ⟨-, hfalse⟩ | ⟨hiff, hobs⟩
      · rw [hu] at hfalse
        cases hfalse
      · rw [hu] at hiff
        exact ⟨by simpa using hiff, hobs.elim le_of_lt fun h => h.1.ge⟩
    obtain ⟨hsmem, hsread⟩ := List.mem_filter.mp (first_mem hs)
    simp only [Bool.and_eq_true, decide_eq_true_eq, Option.isNone_iff_eq_none, beq_iff_eq, Option.all_some] at hsread
    obtain ⟨⟨⟨⟨⟨⟨hvariant, hslive⟩, -⟩, hsproduction⟩, hstore⟩, hscope⟩, -⟩ := hsread
    by_cases hsline : s.line = line
    · have : s ∈ db.openRows line := mem_openRows.mpr ⟨hsmem, hsline, hsproduction, hsopen.1, hslive⟩
      rw [hopen] at this
      exact Or.inl (List.mem_singleton.mp this)
    · refine Or.inr ⟨?_, hsline, hsopen.2⟩
      cases hst : line.storeId with
      | none => rfl
      | some st =>
        refine absurd ?_ hsline
        have hsst : s.storeId = some st := by simpa [hst] using hstore
        cases line with
        | mk variant store scope =>
          cases hst
          exact congr (congr (congrArg PriceLine.mk hvariant) hsst) hscope

end Reader

/-! ### Runs -/

/-- The calls of a run that write to a line. -/
def written (line : PriceLine) (ws : List SyncWrite) : List SyncWrite :=
  ws.filter fun w => w.line = line && w.candidate.fact.fits

/-- The call with the price that was observed last, the later call of two at the same instant. -/
def Newest (ws : List SyncWrite) (w : SyncWrite) : Prop :=
  ∃ pre post, ws = pre ++ w :: post ∧ (∀ v ∈ pre, v.product.observedAt ≤ w.product.observedAt) ∧
    ∀ v ∈ post, v.product.observedAt < w.product.observedAt

/-- What is due after a call: one open row, not seen earlier than the open row before, and a reader that finds the
    newest price. -/
structure KeepsCurrent (db db' : Db) (line : PriceLine) (ws : List SyncWrite) : Prop where
  single : (db'.openRows line).length ≤ 1
  forward : ∀ r ∈ db.openRows line, ∀ r' ∈ db'.openRows line, r.observedAt ≤ r'.observedAt
  newest : ∀ w, Newest (written line ws) w → ∀ asOf,
    ∃ s, latestValid db' line.productVariantId line.storeId (some line.priceScope) false asOf = some s ∧
      (s.Shows w ∨ line.storeId = none ∧ s.line ≠ line ∧ w.product.observedAt ≤ s.observedAt)

/-- The instants of the open row and of the calls that write to the line. -/
def Db.lineTimes (db : Db) (line : PriceLine) (ws : List SyncWrite) : List Instant :=
  (db.openRows line).map (·.observedAt) ++ (written line ws).map (·.product.observedAt)

section Run
variable {db : Db} {line : PriceLine} {ws pre : List SyncWrite} {w : SyncWrite}

theorem written_concat : written line (ws ++ [w]) =
    written line ws ++ if w.line = line ∧ w.candidate.fact.fits = true then [w] else [] := by
  rw [written, List.filter_append]
  congr 1
  by_cases h : w.line = line ∧ w.candidate.fact.fits = true
  · rw [if_pos h, List.filter_cons_of_pos (by simpa using h)]
    rfl
  · rw [if_neg h, List.filter_cons_of_neg (by simpa using h)]
    rfl

theorem syncAll_concat : db.syncAll (ws ++ [w]) = (db.syncAll ws).sync w := by
  rw [Db.syncAll, List.foldl_append]
  rfl

/-- The line after calls in the order of observation: its open row is the price of the last of them. -/
structure Followed (db : Db) (line : PriceLine) (ws : List SyncWrite) : Prop where
  inOrder : InOrder (db.syncAll ws) line
  unwritten : (db.syncAll ws).openRows line = [] → db.lineTimes line ws = []
  last : ∀ r ∈ (db.syncAll ws).openRows line, r.observedAt ∈ db.lineTimes line ws ∧
    (∀ t ∈ db.lineTimes line ws, t ≤ r.observedAt) ∧ ∀ w, (written line ws).getLast? = some w → r.Shows w

theorem Followed.start (h : InOrder db line) : Followed db line [] := by
  refine ⟨h, fun hnil => ?_, fun r hr => ⟨?_, fun t ht => ?_, fun w hw => ?_⟩⟩
  · exact List.append_eq_nil_iff.mpr ⟨List.map_eq_nil_iff.mpr hnil, rfl⟩
  · exact List.mem_append_left _ (List.mem_map_of_mem hr)
  · rcases h.eq_nil_or_singleton with hopen | ⟨r₀, hopen⟩
    · have hr' : r ∈ db.openRows line := hr
      rw [hopen] at hr'
      cases hr'
    · have hr' : r ∈ db.openRows line := hr
      simp only [Db.lineTimes, written, List.filter_nil, List.map_nil, List.append_nil, hopen, List.map_cons,
        List.mem_singleton] at ht hr'
      rw [ht, hr']
  · cases hw

theorem Followed.skip (h : Followed db line ws) (hw : ¬(w.line = line ∧ w.candidate.fact.fits = true)) :
    Followed db line (ws ++ [w]) := by
  have hwritten : written line (ws ++ [w]) = written line ws := by rw [written_concat, if_neg hw, List.append_nil]
  have htimes : db.lineTimes line (ws ++ [w]) = db.lineTimes line ws := by rw [Db.lineTimes, hwritten]; rfl
  have hopen : (db.syncAll (ws ++ [w])).openRows line = (db.syncAll ws).openRows line := by
    rw [syncAll_concat]
    by_cases hl : w.line = line
    · rw [sync_of_not_fits (by simpa using fun hf => hw ⟨hl, hf⟩)]
    · exact sync_openRows_of_ne h.inOrder.keyed (Ne.symm hl)
  have hkeyed : (db.syncAll (ws ++ [w])).Keyed := syncAll_concat ▸ sync_keyed h.inOrder.keyed
  refine ⟨⟨hkeyed, ?_, ?_, ?_⟩, ?_, ?_⟩
  · rw [hopen]; exact h.inOrder.single
  · rw [hopen]; exact h.inOrder.undisputed
  · rw [hopen]; exact h.inOrder.seen
  · rw [hopen, htimes]; exact h.unwritten
  · rw [hopen, htimes, hwritten]; exact h.last

theorem lineTimes_concat (hw : w.line = line ∧ w.candidate.fact.fits = true) :
    db.lineTimes line (ws ++ [w]) = db.lineTimes line ws ++ [w.product.observedAt] := by
  rw [Db.lineTimes, written_concat, if_pos hw, List.map_append, ← List.append_assoc]
  rfl

/-- A call with a price that is not older than those before it keeps the order. -/
theorem Followed.write (h : Followed db line ws) (hw : w.line = line ∧ w.candidate.fact.fits = true)
    (hle : ∀ t ∈ db.lineTimes line ws, t ≤ w.product.observedAt) : Followed db line (ws ++ [w]) := by
  obtain ⟨rfl, hfits⟩ := id hw
  obtain ⟨r, hopen, hshows, hactive, hseen⟩ :=
    h.inOrder.advance (syncStep hfits) fun r hr => hle _ (h.last r hr).1
  rw [← syncAll_concat] at hopen
  have hone : ∀ r' ∈ (db.syncAll (ws ++ [w])).openRows w.line, r' = r := by
    intro r' hr'
    rw [hopen] at hr'
    exact List.mem_singleton.mp hr'
  refine ⟨⟨syncAll_concat ▸ sync_keyed h.inOrder.keyed, by rw [hopen]; exact le_rfl, ?_, ?_⟩, ?_, ?_⟩
  · intro r' hr'; rw [hone r' hr']; exact hactive
  · intro r' hr'; rw [hone r' hr']; exact hseen
  · intro hnil; rw [hopen] at hnil; cases hnil
  · intro r' hr'
    rw [hone r' hr', lineTimes_concat hw, hshows.2.2]
    refine ⟨List.mem_append_right _ List.mem_cons_self, fun t ht => ?_, fun v hv => ?_⟩
    · rcases List.mem_append.mp ht with ht | ht
      · exact hle t ht
      · exact (List.mem_singleton.mp ht).le
    · rw [written_concat, if_pos hw, List.getLast?_concat] at hv
      exact Option.some.inj hv ▸ hshows

/-- In a line that is followed the last call has the newest price. -/
theorem Followed.newest (h : Followed db line ws) (hsorted : (db.lineTimes line ws).Pairwise (· ≤ ·))
    (hw : Newest (written line ws) w) (asOf : Option Instant) :
    ∃ s, latestValid (db.syncAll ws) line.productVariantId line.storeId (some line.priceScope) false asOf = some s ∧
      (s.Shows w ∨ line.storeId = none ∧ s.line ≠ line ∧ w.product.observedAt ≤ s.observedAt) := by
  obtain ⟨before, after, hsplit, -, hafter⟩ := hw
  have hlast : (written line ws).getLast? = some w := by
    cases after with
    | nil => rw [hsplit, List.getLast?_concat]
    | cons v after =>
      have hpair := (List.pairwise_append.mp hsorted).2.1
      rw [hsplit, List.map_append, List.pairwise_append] at hpair
      have hle : w.product.observedAt ≤ v.product.observedAt := List.rel_of_pairwise_cons hpair.2.1 (by simp)
      exact absurd (hafter v List.mem_cons_self) (not_lt_of_ge hle)
  have hmem : w.product.observedAt ∈ db.lineTimes line ws := by
    refine List.mem_append_right _ (List.mem_map_of_mem ?_)
    rw [hsplit]
    exact List.mem_append_right _ List.mem_cons_self
  rcases h.inOrder.eq_nil_or_singleton with hopen | ⟨r, hopen⟩
  · rw [h.unwritten hopen] at hmem
    cases hmem
  · have hr : r ∈ (db.syncAll ws).openRows line := hopen ▸ List.mem_cons_self
    obtain ⟨s, hs, hcases⟩ := latestValid_line asOf hopen (h.inOrder.undisputed r hr)
    have hshows := (h.last r hr).2.2 w hlast
    refine ⟨s, hs, ?_⟩
    rcases hcases with rfl | ⟨hstore, hother, hle⟩
    · exact Or.inl hshows
    · exact Or.inr ⟨hstore, hother, hshows.2.2 ▸ hle⟩

theorem Followed.keepsCurrent (h : Followed db line ws) (h' : Followed db line (ws ++ [w]))
    (hsorted : (db.lineTimes line (ws ++ [w])).Pairwise (· ≤ ·)) :
    KeepsCurrent (db.syncAll ws) (db.syncAll (ws ++ [w])) line (ws ++ [w]) where
  single := h'.inOrder.single
  forward r hr r' hr' := by
    refine (h'.last r' hr').2.1 _ ?_
    rcases List.mem_append.mp (h.last r hr).1 with ht | ht
    · exact List.mem_append_left _ ht
    · refine List.mem_append_right _ ?_
      rw [written_concat, List.map_append]
      exact List.mem_append_left _ ht
  newest _ hv asOf := h'.newest hsorted hv asOf

theorem Followed.not_keepsCurrent (h : Followed db line ws) (hw : w.line = line ∧ w.candidate.fact.fits = true)
    {t : Instant} (ht : t ∈ db.lineTimes line ws) (hlt : w.product.observedAt < t) {seen : List SyncWrite} :
    ¬KeepsCurrent (db.syncAll ws) (db.syncAll (ws ++ [w])) line seen := by
  obtain ⟨rfl, hfits⟩ := hw
  intro hkeeps
  rw [syncAll_concat] at hkeeps
  rcases h.inOrder.eq_nil_or_singleton with hopen | ⟨r, hopen⟩
  · rw [h.unwritten hopen] at ht
    cases ht
  · have hr : r ∈ (db.syncAll ws).openRows w.line := hopen ▸ List.mem_cons_self
    rcases h.inOrder.fall_back (syncStep hfits) hr (hlt.trans_le ((h.last r hr).2.1 t ht)) with htwo | ⟨r', hr', hback⟩
    · have := hkeeps.single
      omega
    · exact absurd (hkeeps.forward r hr r' hr') (not_le_of_gt hback)

theorem lineTimes_sorted_concat : (db.lineTimes line (ws ++ [w])).Pairwise (· ≤ ·) ↔
    (db.lineTimes line ws).Pairwise (· ≤ ·) ∧
      (w.line = line ∧ w.candidate.fact.fits = true → ∀ t ∈ db.lineTimes line ws, t ≤ w.product.observedAt) := by
  by_cases hw : w.line = line ∧ w.candidate.fact.fits = true
  · rw [lineTimes_concat hw, List.pairwise_append]
    simp [hw]
  · rw [Db.lineTimes, written_concat, if_neg hw, List.append_nil]
    simp [hw, Db.lineTimes]

theorem followed_iff (h : InOrder db line) :
    ((∀ pre w, pre ++ [w] <+: ws → KeepsCurrent (db.syncAll pre) (db.syncAll (pre ++ [w])) line (pre ++ [w])) ↔
      (db.lineTimes line ws).Pairwise (· ≤ ·)) ∧
    ((db.lineTimes line ws).Pairwise (· ≤ ·) → Followed db line ws) := by
  induction ws using List.reverseRecOn with
  | nil =>
    refine ⟨iff_of_true (fun pre w hpre => ?_) ?_, fun _ => Followed.start h⟩
    · exact absurd (List.prefix_nil.mp hpre) (List.append_ne_nil_of_right_ne_nil _ (List.cons_ne_nil _ _))
    · have : (db.openRows line).map (·.observedAt) ++ [] = db.lineTimes line [] := rfl
      rw [← this, List.append_nil]
      rcases h.eq_nil_or_singleton with hopen | ⟨r, hopen⟩ <;> rw [hopen] <;> simp
  | append_singleton ws w ih =>
    have hfollow : (db.lineTimes line (ws ++ [w])).Pairwise (· ≤ ·) → Followed db line (ws ++ [w]) := by
      intro hsorted
      obtain ⟨hbefore, hle⟩ := lineTimes_sorted_concat.mp hsorted
      by_cases hw : w.line = line ∧ w.candidate.fact.fits = true
      · exact (ih.2 hbefore).write hw (hle hw)
      · exact (ih.2 hbefore).skip hw
    refine ⟨⟨fun hall => ?_, fun hsorted pre v hpre => ?_⟩, hfollow⟩
    · have hbefore := ih.1.mp fun pre v hpre => hall pre v (hpre.trans (List.prefix_append _ _))
      refine lineTimes_sorted_concat.mpr ⟨hbefore, fun hw t ht => ?_⟩
      by_contra hlt
      exact (ih.2 hbefore).not_keepsCurrent hw ht (lt_of_not_ge hlt) (hall ws w List.prefix_rfl)
    · have hbefore := (lineTimes_sorted_concat.mp hsorted).1
      rcases List.prefix_concat_iff.mp hpre with heq | hpre
      · obtain ⟨rfl, hv⟩ := List.append_inj' heq rfl
        cases hv
        exact (ih.2 hbefore).keepsCurrent (hfollow hsorted) hsorted
      · exact ih.1.mpr hbefore pre v hpre

/-- Production syncs of any lines keep the current price of a line after every call exactly when the prices that they
    write to it come in the order of observation. -/
theorem syncAll_keepsCurrent_iff (h : InOrder db line) :
    (∀ pre w, pre ++ [w] <+: ws → KeepsCurrent (db.syncAll pre) (db.syncAll (pre ++ [w])) line (pre ++ [w])) ↔
      (db.lineTimes line ws).Pairwise (· ≤ ·) :=
  (followed_iff h).1

end Run

/-- A national price of one product in production, written when it was observed. -/
def milkSync (price : ℚ) (observedAt : Instant) (run : Int) : SyncWrite where
  retailerId := 1
  storeId := none
  variantId := 7
  product :=
    { provider := "mercadona", regularPrice := price, currency := "EUR", priceScope := .national, observedAt := observedAt }
  runId := run
  asOf := observedAt

/-- A price, seen again, and a change. -/
theorem syncAll_keepsCurrent_iff_milk :
    (∀ pre w, pre ++ [w] <+: [milkSync 2 10 1, milkSync 2 20 2, milkSync 3 30 3] →
      KeepsCurrent (({} : Db).syncAll pre) (({} : Db).syncAll (pre ++ [w])) (milkSync 2 10 1).line (pre ++ [w])) ↔
      (({} : Db).lineTimes (milkSync 2 10 1).line [milkSync 2 10 1, milkSync 2 20 2, milkSync 3 30 3]).Pairwise (· ≤ ·) :=
  syncAll_keepsCurrent_iff ⟨⟨by simp, by simp, by simp⟩, by decide, by simp [Db.openRows], by simp [Db.openRows]⟩

/-- A price of 20 arrives first and another one of 10 after it: both rows are open. -/
theorem not_keepsCurrent_late :
    ¬∀ pre w, pre ++ [w] <+: [milkSync 3 20 1, milkSync 2 10 2] →
      KeepsCurrent (({} : Db).syncAll pre) (({} : Db).syncAll (pre ++ [w])) (milkSync 2 10 1).line (pre ++ [w]) := by
  intro h
  have hsingle := (h [milkSync 3 20 1] (milkSync 2 10 2) List.prefix_rfl).single
  exact absurd hsingle (by decide +kernel)

end CestaPlan.History
