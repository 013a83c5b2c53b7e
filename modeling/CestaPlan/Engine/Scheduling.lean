import CestaPlan.Engine.Contracts
import Mathlib.Data.List.Sort

/-! The slots that a plan fills (`cestaplan_engine/scheduling.py`). -/

namespace CestaPlan.Engine

def mealOrder : MealType → Nat
  | .breakfast => 0
  | .lunch => 1
  | .snack => 2
  | .dinner => 3

def weekdayIndex : Weekday → Int
  | .monday => 0
  | .tuesday => 1
  | .wednesday => 2
  | .thursday => 3
  | .friday => 4
  | .saturday => 5
  | .sunday => 6

/-- `date.weekday`: the first day of the calendar, with ordinal 1, is a Monday. -/
def weekday (d : Date) : Int := (d + 6) % 7

structure MealSlot where
  index : Nat
  date : Date
  mealType : MealType
  servings : Nat
  maximumPreparationMinutes : Option Int
  requiresTupper : Bool
  reheatingAvailable : Bool
deriving DecidableEq

def datesInRange (start stop : Date) : List Date :=
  if stop < start then [start] else (List.range ((stop - start).toNat + 1)).map fun i => start + i

/-- The first `count` members of `source`, over and over. -/
def cycle (source : List Date) (count : Nat) : List Date :=
  (List.range count).filterMap fun i => source[i % source.length]?

def pickDates (req : MealRequirementDTO) (pool : List Date) : List Date :=
  let count := req.requestedCount
  let selected := req.selectedDates.getD []
  let days := req.preferredDays.getD []
  if count = 0 then []
  else if selected ≠ [] then cycle (selected.insertionSort (· ≤ ·)) count
  else if days ≠ [] then
    let preferred := pool.filter fun d => (days.map weekdayIndex).contains (weekday d)
    cycle (if preferred ≠ [] then preferred else pool) count
  else if req.autoDistribute && pool ≠ [] then
    (List.range count).filterMap fun i => pool[i * pool.length / count]?
  else cycle pool count

/-- The order of the slots: by date, then by meal. -/
def MealSlot.upTo (a b : MealSlot) : Prop :=
  a.date < b.date ∨ (a.date = b.date ∧ mealOrder a.mealType ≤ mealOrder b.mealType)

instance (a b : MealSlot) : Decidable (a.upTo b) := inferInstanceAs (Decidable (_ ∨ _))

def schedule (requirements : List MealRequirementDTO) (dateRange : Date × Date) : List MealSlot :=
  let pool := datesInRange dateRange.1 dateRange.2
  let slots := requirements.flatMap fun req => (pickDates req pool).map fun date =>
    { index := 0
      date := date
      mealType := req.mealType
      servings := req.defaultServings
      maximumPreparationMinutes := req.maximumPreparationMinutes
      requiresTupper := req.requiresTupper
      reheatingAvailable := req.reheatingAvailable }
  (slots.insertionSort MealSlot.upTo).zipIdx.map fun (s, i) => { s with index := i }

end CestaPlan.Engine
