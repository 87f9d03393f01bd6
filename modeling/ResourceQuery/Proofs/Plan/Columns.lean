/-
  Resource queries — columns that no query names.

  * `Property.latest?`: the property of a name in a list of properties, of which the last one
    counts.
  * `Schema.scalars`: the fields of an entity, each once, in the order of their registration; a
    field that a later property replaces is none of them.
  * `scalars_sublist_fields`, `fields_eq_scalars`: they are among the fields by name, and are all
    of these when no name is registered twice.
  * `Property.Projects`: a path is the column of a field.
  * `build_without_columns`: when a query that names no columns has those of all fields.
-/
import ResourceQuery.Plan
import ResourceQuery.Proofs.Plan.Execution
import ResourceQuery.Proofs.Schema.Path

namespace ResourceQuery

open Outcome

/-! ## Properties by their names -/

namespace Property

variable {Entity : Type} {Item : Entity → Type} {e : Entity} {p q : Property Item e}
  {ps qs : List (Property Item e)} {name : Text}

theorem lower_name (p : Property Item e) : Text.lower p.name = p.name := by
  cases p <;> exact Text.lower_lower _

/-- The last of the properties with a name. -/
def latest? (ps : List (Property Item e)) (name : Text) : Option (Property Item e) :=
  ps.reverse.find? fun p => p.name == name

theorem latest?_append (ps qs : List (Property Item e)) (name : Text) :
    latest? (ps ++ qs) name = (latest? qs name).or (latest? ps name) := by
  rw [latest?, List.reverse_append, List.find?_append]
  rfl

theorem latest?_eq_none : latest? ps name = none ↔ ∀ p ∈ ps, p.name ≠ name := by
  simp [latest?]

theorem latest?_singleton (p : Property Item e) : latest? [p] p.name = some p := by
  simp [latest?]

theorem name_of_latest? (h : latest? ps name = some p) : p.name = name := by
  simpa using List.find?_some h

/-- The properties that no later one of the same name replaces, in order. -/
def lasting : List (Property Item e) → List (Property Item e)
  | [] => []
  | p :: ps => if ps.any (·.name == p.name) then lasting ps else p :: lasting ps

theorem lasting_sublist (ps : List (Property Item e)) : (lasting ps).Sublist ps := by
  induction ps with
  | nil => exact .slnil
  | cons p ps ih =>
    rw [lasting]
    split
    · exact ih.cons p
    · exact ih.cons_cons p

theorem nodup_lasting (ps : List (Property Item e)) : ((lasting ps).map Property.name).Nodup := by
  induction ps with
  | nil => exact List.nodup_nil
  | cons p ps ih =>
    rw [lasting]
    split
    · exact ih
    · rename_i hlast
      refine List.nodup_cons.2 ⟨fun hmem => hlast ?_, ih⟩
      obtain ⟨q, hq, hname⟩ := List.mem_map.1 hmem
      exact List.any_eq_true.2 ⟨q, (lasting_sublist ps).subset hq, beq_iff_eq.2 hname⟩

/-- What is found by a name is not replaced. -/
theorem mem_lasting_of_latest? (h : latest? ps name = some p) : p ∈ lasting ps := by
  induction ps with
  | nil => cases h
  | cons q ps ih =>
    rw [← List.singleton_append, latest?_append, Option.or_eq_some_iff] at h
    rw [lasting]
    rcases h with h | ⟨hnone, h⟩
    · split
      · exact ih h
      · exact List.mem_cons_of_mem _ (ih h)
    · obtain rfl : q = p := by
        have hfound := List.mem_of_find?_eq_some h
        simpa [eq_comm] using hfound
      have hname := name_of_latest? h
      rw [if_neg]
      · exact List.mem_cons_self
      · simpa [hname] using latest?_eq_none.1 hnone

/-- Looking up the name of each property finds all that are not replaced, in order.  The list is
    the rest of one in which the names are looked up. -/
theorem lasting_sublist_filterMap (ps qs : List (Property Item e)) :
    (lasting qs).Sublist (qs.filterMap fun q => latest? (ps ++ qs) q.name) := by
  induction qs generalizing ps with
  | nil => exact .slnil
  | cons q qs ih =>
    have hrest := ih (ps ++ [q])
    rw [List.append_assoc, List.singleton_append] at hrest
    rw [lasting]
    split
    · refine hrest.trans ?_
      rw [List.filterMap_cons]
      split
      · exact List.Sublist.refl _
      · exact List.sublist_cons_self _ _
    · rename_i hlast
      have hnone : latest? qs q.name = none := by
        rw [latest?_eq_none]
        simpa using hlast
      have hself : latest? (ps ++ q :: qs) q.name = some q := by
        rw [latest?_append, ← List.singleton_append, latest?_append, hnone, latest?_singleton]
        rfl
      rw [List.filterMap_cons, hself]
      exact hrest.cons_cons q

end Property

namespace Schema

variable {S : Schema} {e : S.Entity} {p : Property S.Item e}

theorem property?_name (p : Property S.Item e) :
    S.property? e p.name = Property.latest? (S.properties e) p.name := by
  rw [property?, Property.lower_name, Property.latest?]

/-- The fields of an entity, each once, in the order of their registration. -/
def scalars (S : Schema) (e : S.Entity) : List (Property S.Item e) :=
  (Property.lasting (S.properties e)).filter (·.dataType?.isSome)

theorem nodup_scalars (S : Schema) (e : S.Entity) : ((S.scalars e).map Property.name).Nodup :=
  (Property.nodup_lasting _).sublist (List.filter_sublist.map _)

theorem scalars_sublist_fields (S : Schema) (e : S.Entity) :
    (S.scalars e).Sublist (S.fields e) := by
  have h := Property.lasting_sublist_filterMap [] (S.properties e)
  simp only [List.nil_append, ← property?_name] at h
  exact h.filter _

/-- A field by name is what is found by its name. -/
theorem property?_of_mem_fields (h : p ∈ S.fields e) :
    S.property? e p.name = some p ∧ ∃ label f, p = .field label f := by
  obtain ⟨hmem, hfield⟩ := List.mem_filter.1 h
  obtain ⟨q, -, hq⟩ := List.mem_filterMap.1 hmem
  refine ⟨?_, ?_⟩
  · rw [property?_name] at hq
    rw [Property.name_of_latest? hq, property?_name, hq]
  · cases p with
    | field label f => exact ⟨label, f, rfl⟩
    | reference label target navigate => cases hfield

theorem mem_scalars_of_mem_fields (h : p ∈ S.fields e) : p ∈ S.scalars e := by
  have hfound := (property?_of_mem_fields h).1
  rw [property?_name] at hfound
  exact List.mem_filter.2 ⟨Property.mem_lasting_of_latest? hfound, (List.mem_filter.1 h).2⟩

/-- The fields by name are each there once exactly when no name of theirs is registered twice. -/
theorem fields_eq_scalars (h : ((S.fields e).map Property.name).Nodup) :
    S.fields e = S.scalars e := by
  have hsub : (S.fields e).length ≤ (S.scalars e).length :=
    ((List.Nodup.of_map _ h).subperm fun _ hp => mem_scalars_of_mem_fields hp).length_le
  have hsublist := scalars_sublist_fields S e
  exact (hsublist.eq_of_length (hsublist.length_le.antisymm hsub)).symm

/-- The route to a field of the entity itself is along one name. -/
theorem names_of_route?_eq_field {names : List Text} {f : Field (S.Item e)}
    (h : S.route? e names = some (.field f)) : ∃ name, names = [name] := by
  cases names with
  | nil => cases h
  | cons name names =>
    cases names with
    | nil => exact ⟨name, rfl⟩
    | cons name' names =>
      rw [route?] at h
      · split at h
        · obtain ⟨rest, -, hrest⟩ := Option.map_eq_some_iff.1 h
          cases hrest
        · cases h
      · exact List.cons_ne_nil _ _

end Schema

/-! ## Columns of fields -/

/-- Whether a path is the column of a field: it is named like the field and leads to its value. -/
def Property.Projects {S : Schema} {e : S.Entity} (p : Property S.Item e) (path : Path S e) :
    Prop :=
  path.text = p.name ∧ ∃ label f, p = .field label f ∧ path.route = .field f

namespace Plan

variable {S : Schema} {e : S.Entity} {p : Property S.Item e} {path : Path S e}

/-- A name that is one has the property that is registered under it for its path. -/
theorem exists_resolveName (hp : p ∈ S.fields e) (hname : IsName p.name) :
    ∃ path, resolveName p = .ok path ∧ p.Projects path := by
  obtain ⟨hfound, label, f, rfl⟩ := Schema.property?_of_mem_fields hp
  have hread : Target.read (Property.field label f).name = .ok (.ofName _ hname) :=
    Target.read_text (.ofName _ hname)
  refine ⟨⟨.ofName _ hname, .field f⟩, ?_, rfl, label, f, rfl, rfl⟩
  rw [resolveName, hread]
  refine Schema.resolve_eq_ok.2 ⟨rfl, ?_⟩
  rw [Target.ofName, Schema.route?, hfound]

/-- A text that is no name has other paths, if any. -/
theorem isName_of_projects (h : resolveName p = .ok path) (hpath : p.Projects path) :
    IsName p.name := by
  obtain ⟨t, -, hresolve⟩ := bind_eq_ok.1 h
  obtain ⟨rfl, hroute⟩ := Schema.resolve_eq_ok.1 hresolve
  obtain ⟨htext, label, f, -, hfield⟩ := hpath
  rw [hfield] at hroute
  obtain ⟨name, hnames⟩ := Schema.names_of_route?_eq_field hroute
  have hname : p.name = name := by
    rw [← htext, Path.text, Target.text, hnames]
    rfl
  rw [hname]
  exact path.target.valid.2 name (hnames ▸ List.mem_singleton_self name)

variable {settings : Settings} {q : Query} {f : Filter S e} {keys : List (Path S e × Direction)}

/-- Once the filter and the sort keys of a query without columns are there, the columns of the
    fields make its plan. -/
theorem build_eq_map_fields (hcolumns : q.hasProjection = false)
    (hfilter : Filter.build settings.wildcard q.criteria = .ok f)
    (hsort : q.sort.mapM resolveKey = .ok keys) :
    build settings q = ((S.fields e).mapM resolveName).map fun paths =>
      ⟨f, keys, paths, q.page <|> settings.defaultLimit.map fun limit => ⟨limit, 0⟩⟩ := by
  have hresolve : resolveColumns q = (S.fields e).mapM resolveName := by
    rw [resolveColumns, hcolumns]
    rfl
  rw [build, hfilter, hsort, hresolve]
  cases (S.fields e).mapM resolveName <;> rfl

/-- Fields with proper names have a column each, in the order of the fields. -/
theorem exists_build_of_isName (hcolumns : q.hasProjection = false)
    (hfilter : Filter.build settings.wildcard q.criteria = .ok f)
    (hsort : q.sort.mapM resolveKey = .ok keys) (hnames : ∀ p ∈ S.fields e, IsName p.name) :
    ∃ plan : Plan S e, build settings q = .ok plan ∧
      List.Forall₂ Property.Projects (S.fields e) plan.projection := by
  obtain ⟨paths, hpaths⟩ := exists_forall₂_iff.2 fun p hp => exists_resolveName hp (hnames p hp)
  rw [build_eq_map_fields hcolumns hfilter hsort]
  refine ⟨_, map_eq_ok.2 ⟨paths, mapM_eq_ok.2 ?_, rfl⟩, ?_⟩
  · exact hpaths.imp fun _ _ h => h.1
  · exact hpaths.imp fun _ _ h => h.2

/-- A query that names no columns, and whose filter and sort keys there are, has a plan with one
    column for each field when the fields have proper names.  Its columns are those of the fields,
    each once and in the order of their registration, exactly when, besides, no name of a field
    is registered twice. -/
theorem build_without_columns (hcolumns : q.hasProjection = false)
    (hfilter : Filter.build settings.wildcard q.criteria = .ok f)
    (hsort : q.sort.mapM resolveKey = .ok keys) :
    ((∀ p ∈ S.fields e, IsName p.name) → ∃ plan : Plan S e, build settings q = .ok plan ∧
      List.Forall₂ Property.Projects (S.fields e) plan.projection) ∧
    ((∃ plan : Plan S e, build settings q = .ok plan ∧
      List.Forall₂ Property.Projects (S.scalars e) plan.projection) ↔
        (∀ p ∈ S.fields e, IsName p.name) ∧ ((S.fields e).map Property.name).Nodup) := by
  refine ⟨exists_build_of_isName hcolumns hfilter hsort, ?_, ?_⟩
  · rintro ⟨plan, hplan, hscalars⟩
    rw [build_eq_map_fields hcolumns hfilter hsort] at hplan
    obtain ⟨paths, hpaths, rfl⟩ := map_eq_ok.1 hplan
    have hresolve := mapM_eq_ok.1 hpaths
    -- both lists of fields have a column each, so the one is not shorter than the other
    have hfields : S.scalars e = S.fields e :=
      (Schema.scalars_sublist_fields S e).eq_of_length
        (hscalars.length_eq.trans hresolve.length_eq.symm)
    rw [hfields] at hscalars
    refine ⟨fun p hp => ?_, ?_⟩
    · have hboth := List.Forall₂.mp (fun _ _ => And.intro) hresolve hscalars
      obtain ⟨path, -, hpath, hprojects⟩ := forall₂_mem_left hboth p hp
      exact isName_of_projects hpath hprojects
    · rw [← hfields]
      exact Schema.nodup_scalars S e
  · rintro ⟨hnames, hnodup⟩
    rw [← Schema.fields_eq_scalars hnodup]
    exact exists_build_of_isName hcolumns hfilter hsort hnames

/-- The oldest people, with the columns of all fields. -/
theorem build_without_columns_people : ∃ plan : Plan people (), build .standard oldest = .ok plan ∧
    List.Forall₂ Property.Projects (people.scalars ()) plan.projection := by
  have hkeys : ∃ keys : List (Path people () × Direction), oldest.sort.mapM resolveKey = .ok keys :=
    ⟨_, rfl⟩
  obtain ⟨keys, hkeys⟩ := hkeys
  exact (build_without_columns rfl rfl hkeys).2.2 (by decide)

/-- An entity with a name that is not one for a query. -/
def spaced : Schema where
  Entity := Unit
  Item _ := Int64 × Int64
  properties _ :=
    [.field "ok".toList (Field.of Prod.fst), .field "bad name".toList (Field.of Prod.snd)]

/-- An entity that gives one name to two fields. -/
def doubled : Schema where
  Entity := Unit
  Item _ := Int64 × Int64
  properties _ :=
    [.field "same".toList (Field.of Prod.fst), .field "same".toList (Field.of Prod.snd)]

/-- The query for everything fails for a field whose name is not one, and lists a field whose
    name is registered twice two times. -/
theorem exists_build_without_columns_ne :
    (build (S := spaced) (e := ()) .standard .empty).isOk = false ∧
    (build (S := doubled) (e := ()) .standard .empty).map columns =
      .ok ["same".toList, "same".toList] := by
  decide +kernel

end Plan

end ResourceQuery
