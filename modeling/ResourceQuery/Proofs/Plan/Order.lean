/-
  Resource queries — the order of results.

  * `Plan.Before`, `Plan.tied`: which of two items comes first by sort keys, and whether they
    agree on all of them.  Both are said of what the items hold, key by key.
  * `before_iff`, `tied_iff`: where no key ends at a float, the comparison of two items says
    which of the two it is.
  * `transCmp_cmpBy`: there the comparison is an order, with ties, of all items.
-/
import ResourceQuery.Plan
import ResourceQuery.Proofs.Value.Order

namespace ResourceQuery

namespace Plan

/-! ## What comes first -/

/-- Whether what one item holds comes before what another does: nothing before every value, and
    a value before the greater ones. -/
def ReadBefore : Option Value → Option Value → Prop
  | none, b => ∃ w, b = some w
  | some v, b => ∃ w, b = some w ∧ v.cmp? w = some .lt

/-- The same for a sort key of the given direction. -/
def KeyBefore : Direction → Option Value → Option Value → Prop
  | .ascending, a, b => ReadBefore a b
  | .descending, a, b => ReadBefore b a

/-- Whether two items hold the same, or nothing both. -/
def sameRead : Option Value → Option Value → Bool
  | none, none => true
  | some v, some w => v.same w
  | _, _ => false

variable {S : Schema} {e : S.Entity}

/-- Whether an item comes before another by sort keys: the first key on which they differ
    decides. -/
def Before : List (Path S e × Direction) → S.Item e → S.Item e → Prop
  | [], _, _ => False
  | (path, direction) :: keys, x, y =>
    KeyBefore direction (path.read x) (path.read y) ∨
      sameRead (path.read x) (path.read y) ∧ Before keys x y

/-- Whether two items hold the same for all sort keys. -/
def tied (keys : List (Path S e × Direction)) (x y : S.Item e) : Bool :=
  keys.all fun key => sameRead (key.1.read x) (key.1.read y)

/-- Whether no sort key ends at a float. -/
def WithoutFloats (keys : List (Path S e × Direction)) : Prop :=
  ∀ key ∈ keys, key.1.dataType? ≠ some .float

/-! ## One key -/

/-- What decides the place of an item for a sort key. -/
def readRank (path : Path S e) (x : S.Item e) : Option (List ℚ) := (path.read x).map Value.rank

variable {path : Path S e} {x y : S.Item e}

/-- Two values that stand at the end of one path can be compared, unless they are floats. -/
theorem comparable_of_read {v w : Value} (hf : path.dataType? ≠ some .float)
    (hx : path.read x = some v) (hy : path.read y = some w) :
    v.dataType = w.dataType ∧ v.dataType ≠ .float := by
  have hv := Path.dataType?_of_read hx
  have hw := Path.dataType?_of_read hy
  rw [hv] at hf hw
  exact ⟨Option.some.inj hw, fun h => hf (congrArg some h)⟩

theorem cmpRead_eq (hf : path.dataType? ≠ some .float) :
    cmpRead (path.read x) (path.read y) = compare (readRank path x) (readRank path y) := by
  rw [readRank, readRank]
  cases hx : path.read x with
  | none => cases path.read y <;> rfl
  | some v =>
    cases hy : path.read y with
    | none => rfl
    | some w =>
      obtain ⟨htype, hfloat⟩ := comparable_of_read hf hx hy
      rw [cmpRead, Value.cmp?_eq_compare htype hfloat]
      rfl

theorem readBefore_iff (hf : path.dataType? ≠ some .float) :
    ReadBefore (path.read x) (path.read y) ↔
      compare (readRank path x) (readRank path y) = .lt := by
  rw [← cmpRead_eq hf]
  cases hx : path.read x with
  | none => cases path.read y <;> simp [ReadBefore, cmpRead]
  | some v =>
    cases hy : path.read y with
    | none => simp [ReadBefore, cmpRead]
    | some w =>
      obtain ⟨htype, hfloat⟩ := comparable_of_read hf hx hy
      simp [ReadBefore, cmpRead, Value.cmp?_eq_compare htype hfloat]

theorem sameRead_iff (hf : path.dataType? ≠ some .float) :
    sameRead (path.read x) (path.read y) ↔
      compare (readRank path x) (readRank path y) = .eq := by
  rw [Std.compare_eq_iff_eq, readRank, readRank]
  cases hx : path.read x with
  | none => cases path.read y <;> simp [sameRead]
  | some v =>
    cases hy : path.read y with
    | none => simp [sameRead]
    | some w =>
      obtain ⟨htype, hfloat⟩ := comparable_of_read hf hx hy
      simp [sameRead, Value.same_iff_rank htype hfloat]

/-- The comparison of two items by one sort key. -/
def cmpKey (key : Path S e × Direction) (x y : S.Item e) : Ordering :=
  directed key.2 (compare (readRank key.1 x) (readRank key.1 y))

theorem transCmp_cmpKey (key : Path S e × Direction) : Std.TransCmp (cmpKey key) := by
  obtain ⟨path, direction⟩ := key
  have hascending : Std.TransCmp (compareOn (readRank path)) := inferInstance
  cases direction with
  | ascending => exact hascending
  | descending =>
    have hswap : cmpKey (path, .descending) = fun x y => compareOn (readRank path) y x := by
      ext x y
      exact Std.OrientedCmp.eq_swap.symm
    rw [hswap]
    exact Std.TransCmp.opposite

theorem keyBefore_iff (direction : Direction) (hf : path.dataType? ≠ some .float) :
    KeyBefore direction (path.read x) (path.read y) ↔ cmpKey (path, direction) x y = .lt := by
  cases direction with
  | ascending => exact readBefore_iff hf
  | descending =>
    rw [KeyBefore, readBefore_iff hf, cmpKey, directed, ← Std.OrientedCmp.eq_swap]

theorem cmpKey_eq_eq (direction : Direction) :
    cmpKey (path, direction) x y = .eq ↔
      compare (readRank path x) (readRank path y) = .eq := by
  cases direction with
  | ascending => rfl
  | descending => rw [cmpKey, directed, Ordering.swap_eq_eq]

/-! ## All keys -/

variable {key : Path S e × Direction} {keys : List (Path S e × Direction)}

theorem cmpBy_cons (hf : key.1.dataType? ≠ some .float) :
    cmpBy (key :: keys) = compareLex (cmpKey key) (cmpBy keys) := by
  ext x y
  rw [cmpBy, cmpRead_eq hf]
  rfl

/-- Sort keys without floats order all items, with ties. -/
theorem transCmp_cmpBy (hkeys : WithoutFloats keys) : Std.TransCmp (cmpBy keys) := by
  induction keys with
  | nil => exact { eq_swap := rfl, isLE_trans := fun _ _ => rfl }
  | cons key keys ih =>
    obtain ⟨hkey, hrest⟩ := List.forall_mem_cons.1 hkeys
    have hfirst := transCmp_cmpKey key
    have hthen := ih hrest
    rw [cmpBy_cons hkey]
    infer_instance

theorem tied_iff (hkeys : WithoutFloats keys) : tied keys x y ↔ cmpBy keys x y = .eq := by
  induction keys with
  | nil => exact iff_of_true rfl rfl
  | cons key keys ih =>
    obtain ⟨hkey, hrest⟩ := List.forall_mem_cons.1 hkeys
    rw [cmpBy_cons hkey, compareLex, Ordering.then_eq_eq, cmpKey_eq_eq, ← sameRead_iff hkey,
      ← ih hrest, tied, List.all_cons, Bool.and_eq_true]
    rfl

theorem before_iff (hkeys : WithoutFloats keys) : Before keys x y ↔ cmpBy keys x y = .lt := by
  induction keys with
  | nil => simp [Before, cmpBy]
  | cons key keys ih =>
    obtain ⟨hkey, hrest⟩ := List.forall_mem_cons.1 hkeys
    rw [cmpBy_cons hkey, compareLex, Ordering.then_eq_lt, ← keyBefore_iff _ hkey, cmpKey_eq_eq,
      ← sameRead_iff hkey, ← ih hrest]
    rfl

theorem isLE_iff (hkeys : WithoutFloats keys) :
    (cmpBy keys x y).isLE ↔ Before keys x y ∨ tied keys x y := by
  rw [Ordering.isLE_iff_eq_lt_or_eq_eq, before_iff hkeys, tied_iff hkeys]

/-- Of two items that are not tied exactly one comes first. -/
theorem not_before_iff (hkeys : WithoutFloats keys) :
    ¬ Before keys y x ↔ Before keys x y ∨ tied keys x y := by
  have hcmp := transCmp_cmpBy hkeys
  have hswap : cmpBy keys y x = (cmpBy keys x y).swap := Std.OrientedCmp.eq_swap
  rw [← isLE_iff hkeys, before_iff hkeys, hswap]
  cases cmpBy keys x y <;> decide

end Plan

end ResourceQuery
