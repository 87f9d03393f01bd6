/-
  Resource queries — the result of a plan.

  * `pairwise_select`, `filter_tied_select`: the items that pass are sorted, and those that are
    tied stay in the order in which they came.
  * `build_page`: the plan of a query with another page differs in the page only.
  * `flatMap_slices`: slices of one length, one after the other, are a front of the list.
  * `execute_eq_slice`: the result of a plan is a slice of the sorted items, and the pages of a
    query make them up.
-/
import ResourceQuery.Proofs.Outcome
import ResourceQuery.Proofs.Plan.Order

namespace ResourceQuery

open Outcome

namespace Plan

variable {S : Schema} {e : S.Entity} {p : Plan S e}

/-! ## Sorting -/

/-- The test that the sort is made with. -/
theorem isLE_trans (hkeys : WithoutFloats p.sort) (x y z : S.Item e)
    (hxy : (cmpBy p.sort x y).isLE) (hyz : (cmpBy p.sort y z).isLE) :
    (cmpBy p.sort x z).isLE := by
  have hcmp := transCmp_cmpBy hkeys
  exact Std.TransCmp.isLE_trans hxy hyz

theorem isLE_total (hkeys : WithoutFloats p.sort) (x y : S.Item e) :
    (cmpBy p.sort x y).isLE || (cmpBy p.sort y x).isLE := by
  have hcmp := transCmp_cmpBy hkeys
  have hswap : cmpBy p.sort y x = (cmpBy p.sort x y).swap := Std.OrientedCmp.eq_swap
  rw [hswap]
  cases cmpBy p.sort x y <;> rfl

theorem perm_select (p : Plan S e) (items : List (S.Item e)) :
    (p.select items).Perm (p.filter.apply items) := List.mergeSort_perm _ _

theorem pairwise_select (hkeys : WithoutFloats p.sort) (items : List (S.Item e)) :
    (p.select items).Pairwise fun x y => Before p.sort x y ∨ tied p.sort x y := by
  have hsorted := List.pairwise_mergeSort (isLE_trans hkeys) (isLE_total hkeys)
    (p.filter.apply items)
  refine hsorted.imp ?_
  intro x y h
  exact (isLE_iff hkeys).1 h

/-- Items that are tied with one item are tied. -/
theorem tied_of_tied (hkeys : WithoutFloats p.sort) {x y z : S.Item e} (hy : tied p.sort x y)
    (hz : tied p.sort x z) : tied p.sort y z := by
  have hcmp := transCmp_cmpBy hkeys
  rw [tied_iff hkeys] at *
  exact Std.TransCmp.eq_trans (Std.OrientedCmp.eq_symm hy) hz

/-- Items that are tied stay in the order in which they came. -/
theorem filter_tied_select (hkeys : WithoutFloats p.sort) (items : List (S.Item e))
    (x : S.Item e) :
    (p.select items).filter (tied p.sort x) = (p.filter.apply items).filter (tied p.sort x) := by
  have hperm := (perm_select p items).filter (tied p.sort x)
  -- tied items are sorted as they came, so sorting leaves them a part of the list
  have htied : ((p.filter.apply items).filter (tied p.sort x)).Pairwise
      fun y z => (cmpBy p.sort y z).isLE := by
    refine List.pairwise_of_forall_mem_list ?_
    intro y hy z hz
    exact (isLE_iff hkeys).2
      (.inr (tied_of_tied hkeys (List.mem_filter.1 hy).2 (List.mem_filter.1 hz).2))
  have hsub := List.sublist_mergeSort (isLE_trans hkeys) (isLE_total hkeys) htied
    List.filter_sublist
  have hpart := hsub.filter (tied p.sort x)
  rw [List.filter_filter] at hpart
  simp only [Bool.and_self] at hpart
  exact (hpart.eq_of_length hperm.length_eq.symm).symm

/-! ## Pages -/

/-- The page after `i` others of `k` items each. -/
def pageAt (k : UInt64) (i : Nat) : Page := ⟨k, .ofNat (i * k.toNat)⟩

/-- The results of the first pages of a query, with `k` items each. -/
def executePages (settings : Settings) (q : Query) (k : UInt64) (count : Nat)
    (items : List (S.Item e)) : Except Error (List (List (S.Item e))) :=
  (List.range count).mapM fun i =>
    (build settings { q with page := some (pageAt k i) }).map (·.execute items)

/-- A query with another page is planned as before, but for the page. -/
theorem build_page {settings : Settings} {q : Query} (h : build settings q = .ok p) (page : Page) :
    build settings { q with page := some page } = .ok { p with page := some page } := by
  obtain ⟨filter, hfilter, h⟩ := bind_eq_ok.1 h
  obtain ⟨sort, hsort, h⟩ := bind_eq_ok.1 h
  obtain ⟨projection, hprojection, h⟩ := bind_eq_ok.1 h
  rw [← pure_eq_ok.1 h]
  exact bind_eq_ok.2 ⟨filter, hfilter, bind_eq_ok.2 ⟨sort, hsort,
    bind_eq_ok.2 ⟨projection, hprojection, rfl⟩⟩⟩

theorem flatMap_slices {α : Type} (xs : List α) (k count : Nat) :
    ((List.range count).flatMap fun i => (xs.drop (i * k)).take k) = xs.take (count * k) := by
  induction count with
  | zero => simp
  | succ count ih =>
    rw [List.range_succ, List.flatMap_append, ih, List.flatMap_singleton, Nat.add_one_mul,
      List.take_add]

/-- The pages of a query are a front of the sorted items, as far as their offsets can be
    written. -/
theorem executePages_eq_ok {settings : Settings} {q : Query} (h : build settings q = .ok p)
    (items : List (S.Item e)) (k : UInt64) {count : Nat} (hcount : (count - 1) * k.toNat < 2 ^ 64) :
    ∃ pages, executePages settings q k count items = .ok pages ∧
      pages.flatten = (p.select items).take (count * k.toNat) := by
  refine ⟨(List.range count).map fun i => ((p.select items).drop (i * k.toNat)).take k.toNat,
    mapM_eq_ok.2 (List.forall₂_map_right_iff.2 (List.forall₂_same.2 ?_)), ?_⟩
  · intro i hi
    have hoffset : (UInt64.ofNat (i * k.toNat)).toNat = i * k.toNat := by
      have hle : i ≤ count - 1 := by
        have := List.mem_range.1 hi
        omega
      exact UInt64.toNat_ofNat_of_lt' ((Nat.mul_le_mul_right _ hle).trans_lt hcount)
    rw [build_page h]
    refine congrArg Except.ok ?_
    show ((p.select items).drop (UInt64.ofNat (i * k.toNat)).toNat).take k.toNat = _
    rw [hoffset]
  · rw [← List.flatMap_def, flatMap_slices]

/-- How many pages of `k` items a list of `n` takes. -/
def pageCount (n : Nat) (k : UInt64) : Nat := (n + (k.toNat - 1)) / k.toNat

theorem pageCount_spec {n : Nat} {k : UInt64} (hk : 0 < k) :
    n ≤ pageCount n k * k.toNat ∧ (pageCount n k - 1) * k.toNat ≤ n - 1 := by
  have hpos : 0 < k.toNat := hk
  have hdiv := Nat.div_add_mod (n + (k.toNat - 1)) k.toNat
  have hmod := Nat.mod_lt (n + (k.toNat - 1)) hpos
  rw [Nat.mul_comm] at hdiv
  rw [pageCount, Nat.sub_mul]
  omega

/-- The sort keys put any two items that are not tied into one order.  The result of a plan is
    its page of a list that holds the items that pass, in that order, with tied items as they
    came.  The pages of the query with `k` items each are a front of this list, as far as their
    offsets can be written, and so many of them as the list takes make it up.  No list in memory
    has more items than there are offsets. -/
theorem execute_eq_slice {settings : Settings} {q : Query} (hbuild : build settings q = .ok p)
    (hkeys : WithoutFloats p.sort) (items : List (S.Item e)) :
    (∀ x y : S.Item e, ¬ Before p.sort y x ↔ Before p.sort x y ∨ tied p.sort x y) ∧
    ∃ whole : List (S.Item e),
      whole.Perm (items.filter p.filter.accepts) ∧
      whole.Pairwise (fun x y => Before p.sort x y ∨ tied p.sort x y) ∧
      (∀ x, whole.filter (tied p.sort x) =
        (items.filter p.filter.accepts).filter (tied p.sort x)) ∧
      (p.page = none → p.execute items = whole) ∧
      (∀ page, p.page = some page →
        p.execute items = (whole.drop page.offset.toNat).take page.limit.toNat) ∧
      ∀ k : UInt64, 0 < k →
        (∀ count, (count - 1) * k.toNat < 2 ^ 64 →
          ∃ pages, executePages settings q k count items = .ok pages ∧
            pages.flatten = whole.take (count * k.toNat)) ∧
        (whole.length ≤ 2 ^ 64 →
          ∃ pages, executePages settings q k (pageCount whole.length k) items = .ok pages ∧
            pages.flatten = whole) := by
  refine ⟨fun x y => not_before_iff hkeys, p.select items, perm_select p items,
    pairwise_select hkeys items, filter_tied_select hkeys items, fun hpage => ?_,
    fun page hpage => ?_, fun k hk => ⟨?_, ?_⟩⟩
  · rw [execute, hpage, slice]
  · rw [execute, hpage, slice]
  · intro count hcount
    exact executePages_eq_ok hbuild items k hcount
  · intro hlength
    obtain ⟨hle, hlast⟩ := pageCount_spec (n := (p.select items).length) hk
    have hfits : (pageCount (p.select items).length k - 1) * k.toNat < 2 ^ 64 := by omega
    obtain ⟨pages, hpages, hflatten⟩ := executePages_eq_ok hbuild items k hfits
    exact ⟨pages, hpages, hflatten.trans (List.take_of_length_le hle)⟩

/-- An entity with a name and an age that may be missing. -/
def people : Schema where
  Entity := Unit
  Item _ := Text × Option Int64
  properties _ :=
    [.field "name".toList (Field.of Prod.fst), .field "age".toList (Field.of Prod.snd)]

/-- The second and the third of the oldest people, by name where they are of one age. -/
def oldest : Query where
  sort := [⟨.ofName "age".toList (by decide), .descending⟩,
    ⟨.ofName "name".toList (by decide), .ascending⟩]
  page := some ⟨2, 1⟩

/-- Two people of one age, and one of none. -/
def crowd : List (people.Item ()) :=
  [("b".toList, some 30), ("c".toList, none), ("a".toList, some 30)]

/-- The oldest of some people, in pages of two. -/
theorem execute_eq_slice_people : ∃ (p : Plan people ()) (whole : List (people.Item ())),
    build .standard oldest = .ok p ∧ WithoutFloats p.sort ∧
      whole.Perm (crowd.filter p.filter.accepts) ∧ p.execute crowd = (whole.drop 1).take 2 ∧
      ∃ pages, executePages .standard oldest 2 2 crowd = .ok pages ∧
        pages.flatten = whole.take 4 := by
  have hparts : (build (S := people) (e := ()) .standard oldest).map
      (fun p => (p.page, p.sort.map (·.1.dataType?))) =
        .ok (some ⟨2, 1⟩, [some .integer, some .string]) := by decide +kernel
  cases h : build (S := people) (e := ()) .standard oldest with
  | error e => rw [h] at hparts; cases hparts
  | ok p =>
    rw [h] at hparts
    obtain ⟨hpage, hsort⟩ := Prod.mk.inj (Except.ok.inj hparts)
    have hkeys : WithoutFloats p.sort := by
      intro key hkey hfloat
      have hmem : some DataType.float ∈ p.sort.map (·.1.dataType?) :=
        List.mem_map.2 ⟨key, hkey, hfloat⟩
      rw [hsort] at hmem
      revert hmem
      decide
    obtain ⟨-, whole, hperm, -, -, -, hslice, hpages⟩ := execute_eq_slice h hkeys crowd
    exact ⟨p, whole, rfl, hkeys, hperm, hslice _ hpage, (hpages 2 (by decide)).1 2 (by decide)⟩

end Plan

end ResourceQuery
