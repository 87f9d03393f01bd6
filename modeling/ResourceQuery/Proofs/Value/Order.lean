/-
  Resource queries — the order of values.

  * `Value.rank`: the numbers that decide how a value compares with others of its type, the
    first difference counting.
  * `cmp?_eq_compare`: values of one type other than floats are ordered as their ranks, so the
    order is total and transitive.
  * `same_iff_rank`: they denote the same when their ranks are equal.
-/
import ResourceQuery.Proofs.Decimal.Number
import ResourceQuery.Value.Basic

namespace ResourceQuery

namespace Value

/-- The numbers that decide the order of the values of one type; floats have none. -/
def rank : Value → List ℚ
  | string t => t.map fun c => (c.toNat : ℚ)
  | integer i => [(i.toInt : ℚ)]
  | float _ => []
  | decimal d => [d.number]
  | boolean b => [(b.toNat : ℚ)]
  | dateTime i => [(i.date.year : ℚ), i.date.month, i.date.day, i.second, i.nano]
  | date d => [(d.year : ℚ), d.month, d.day]

/-! ## Numbers as ranks -/

theorem compare_natCast (m n : ℕ) : compare (m : ℚ) n = compare m n :=
  Decimal.compare_congr Nat.cast_lt Nat.cast_lt

theorem compare_intCast (i j : ℤ) : compare (i : ℚ) j = compare i j :=
  Decimal.compare_congr Int.cast_lt Int.cast_lt

theorem compare_singleton (a b : ℚ) : compare [a] [b] = compare a b := by
  rw [List.compare_cons_cons]
  exact Ordering.then_eq

theorem cmpText_eq (s t : Text) :
    cmpText s t = compare (string s).rank (string t).rank := by
  induction s generalizing t with
  | nil => cases t <;> rfl
  | cons c s ih =>
    cases t with
    | nil => rfl
    | cons d t =>
      show (compare c.toNat d.toNat).then (cmpText s t) =
        compare ((c.toNat : ℚ) :: (string s).rank) ((d.toNat : ℚ) :: (string t).rank)
      rw [List.compare_cons_cons, compare_natCast, ih]

theorem cmp_date_eq (a b : Date) : a.cmp b = compare (date a).rank (date b).rank := by
  simp only [rank, List.compare_cons_cons, compare_natCast, compare_intCast]
  rw [Date.cmp, List.compare_nil_nil, Ordering.then_eq]

theorem cmp_instant_eq (a b : Instant) : a.cmp b = compare (dateTime a).rank (dateTime b).rank := by
  simp only [rank, List.compare_cons_cons, compare_natCast, compare_intCast]
  rw [Instant.cmp, Date.cmp, List.compare_nil_nil, Ordering.then_eq]
  simp only [Ordering.then_assoc]

/-! ## Values of one type -/

variable {v w : Value}

/-- Values of one type other than floats are ordered as their ranks. -/
theorem cmp?_eq_compare (htype : v.dataType = w.dataType) (hf : v.dataType ≠ .float) :
    v.cmp? w = some (compare v.rank w.rank) := by
  cases v <;> cases w <;> cases htype
  case string s t => exact congrArg some (cmpText_eq s t)
  case integer i j =>
    rw [cmp?, rank, rank, compare_singleton, compare_intCast]
  case float => exact absurd rfl hf
  case decimal a b => rw [cmp?, rank, rank, compare_singleton, Decimal.cmp_eq]
  case boolean a b => rw [cmp?, rank, rank, compare_singleton, compare_natCast]
  case dateTime a b => exact congrArg some (cmp_instant_eq a b)
  case date a b => exact congrArg some (cmp_date_eq a b)

theorem rank_string_inj {s t : Text} : (string s).rank = (string t).rank ↔ s = t := by
  refine (List.map_inj_right fun c d h => ?_)
  exact Char.toNat_inj.1 (by exact_mod_cast h)

theorem rank_date_inj {a b : Date} : (date a).rank = (date b).rank ↔ a = b := by
  obtain ⟨year, month, day, _⟩ := a
  obtain ⟨year', month', day', _⟩ := b
  simp [rank]

theorem rank_instant_inj {a b : Instant} : (dateTime a).rank = (dateTime b).rank ↔ a = b := by
  obtain ⟨⟨year, month, day, _⟩, second, nano, _⟩ := a
  obtain ⟨⟨year', month', day', _⟩, second', nano', _⟩ := b
  simp [rank, and_assoc]

/-- Values of one type other than floats denote the same when their ranks are equal. -/
theorem same_iff_rank (htype : v.dataType = w.dataType) (hf : v.dataType ≠ .float) :
    v.same w ↔ v.rank = w.rank := by
  cases v <;> cases w <;> cases htype
  case string s t => rw [same, beq_iff_eq, rank_string_inj]
  case integer i j => simp [same, rank, Int64.toInt_inj]
  case float => exact absurd rfl hf
  case decimal a b => simp [same, rank, Decimal.same_iff]
  case boolean a b => cases a <;> cases b <;> simp [same, rank]
  case dateTime a b => rw [same, beq_iff_eq, rank_instant_inj]
  case date a b => rw [same, beq_iff_eq, rank_date_inj]

end Value

end ResourceQuery
