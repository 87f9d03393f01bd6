/-
  Resource queries — paths that go on.

  * `Route.LeadsTo`: a route ends at a reference to an entity; with the way from an item to the
    one that is reached.
  * `Route.extend?`, `route?_append`: the route along names in a row is the route along the first
    of them, extended by the route along the others from wherever the first one leads.
  * `Route.Continues`: what a route is and reads that goes on where another one leads.
  * `Route.hops`, `Route.leaf`, `resolveChain_eq`: a route as a chain of accessors, which reads
    the same; the chain of a target is that of its path.
  * `resolve_append`: the path of two targets in a row.
-/
import ResourceQuery.Proofs.Filter.Null
import ResourceQuery.Proofs.Target
import ResourceQuery.Schema.Chain

namespace ResourceQuery

open Outcome

/-! ## Targets in a row -/

theorem Text.joinWith_append {sep : Text} {ps qs : List Text} (hp : ps ≠ []) (hq : qs ≠ []) :
    joinWith sep (ps ++ qs) = joinWith sep ps ++ sep ++ joinWith sep qs := by
  induction ps with
  | nil => exact absurd rfl hp
  | cons p ps ih =>
    cases ps with
    | nil =>
      obtain ⟨q, qs, rfl⟩ := List.exists_cons_of_ne_nil hq
      rfl
    | cons p' ps =>
      have htail := ih (List.cons_ne_nil p' ps)
      rw [List.cons_append] at htail
      simp only [List.cons_append, joinWith, htail, List.append_assoc]

/-- The target of the names of two targets, one after the other. -/
def Target.append (p q : Target) : Target where
  names := p.names ++ q.names
  valid := ⟨by simp [p.valid.1], List.forall_mem_append.2 ⟨p.valid.2, q.valid.2⟩⟩

/-- The dotted path of two targets in a row. -/
theorem Target.text_append (p q : Target) : (p.append q).text = p.text ++ '.' :: q.text :=
  (Text.joinWith_append p.valid.1 q.valid.1).trans (by simp [text])

namespace Route

variable {S : Schema}

/-! ## Where routes lead -/

/-- Whether a route ends at a reference to the entity `u`, and `navigate` is the way from an item
    along the route to what is referred to. -/
inductive LeadsTo {S : Schema} : {e : S.Entity} → Route S e → (u : S.Entity) →
    (S.Item e → Option (S.Item u)) → Prop
  | reference {e u : S.Entity} {navigate : S.Item e → Option (S.Item u)} :
      LeadsTo (.reference navigate) u navigate
  | through {e v u : S.Entity} {navigate : S.Item e → Option (S.Item v)} {rest : Route S v}
      {onward : S.Item v → Option (S.Item u)} :
      LeadsTo rest u onward → LeadsTo (.through navigate rest) u fun x => (navigate x).bind onward

/-- What is not reached is what is null. -/
theorem LeadsTo.isNull_eq {e u : S.Entity} {r : Route S e}
    {navigate : S.Item e → Option (S.Item u)} (h : r.LeadsTo u navigate) (x : S.Item e) :
    r.isNull x = (navigate x).isNone := by
  induction h with
  | reference => rfl
  | @through e v u navigate rest onward _ ih =>
    show (navigate x).all rest.isNull = ((navigate x).bind onward).isNone
    cases navigate x with
    | none => rfl
    | some y => exact ih y

/-- The route that goes on, where a route leads to an entity, along the route given for that. -/
def extend? (next : (u : S.Entity) → Option (Route S u)) {e : S.Entity} :
    Route S e → Option (Route S e)
  | field _ => none
  | @reference _ _ u navigate => (next u).map (.through navigate)
  | through navigate rest => (rest.extend? next).map (.through navigate)

/-- Whether a route is, and reads, what the route `rest` does at the item that `navigate` comes
    to, and is null where there is none. -/
structure Continues {e u : S.Entity} (r : Route S e) (navigate : S.Item e → Option (S.Item u))
    (rest : Route S u) : Prop where
  dataType? : r.dataType? = rest.dataType?
  nullable : r.nullable = rest.nullable
  absent : ∀ x, navigate x = none → r.read x = none ∧ r.isNull x = true
  present : ∀ x y, navigate x = some y → r.read x = rest.read y ∧ r.isNull x = rest.isNull y

theorem Continues.through {e v u : S.Entity} {r : Route S v}
    {onward : S.Item v → Option (S.Item u)} {rest : Route S u} (h : r.Continues onward rest)
    (navigate : S.Item e → Option (S.Item v)) :
    (Route.through navigate r).Continues (fun x => (navigate x).bind onward) rest := by
  refine ⟨h.dataType?, h.nullable, fun x hx => ?_, fun x z hx => ?_⟩
  · rw [read, isNull]
    rw [Option.bind_eq_none_iff] at hx
    cases hy : navigate x with
    | none => exact ⟨rfl, rfl⟩
    | some y => exact h.absent y (hx y hy)
  · obtain ⟨y, hy, hz⟩ := Option.bind_eq_some_iff.1 hx
    rw [read, isNull, hy]
    exact h.present y z hz

/-- Where a route leads to an entity from which there is a route on, the two make one. -/
theorem LeadsTo.exists_continues {e u : S.Entity} {r : Route S e} {rest : Route S u}
    {navigate : S.Item e → Option (S.Item u)} (h : r.LeadsTo u navigate)
    (next : (u : S.Entity) → Option (Route S u)) (hnext : next u = some rest) :
    ∃ r', r.extend? next = some r' ∧ r'.Continues navigate rest := by
  induction h with
  | @reference e u navigate =>
    refine ⟨.through navigate rest, by rw [extend?, hnext]; rfl, rfl, rfl, fun x hx => ?_,
      fun x y hx => ?_⟩
    · rw [read, isNull, hx]
      exact ⟨rfl, rfl⟩
    · rw [read, isNull, hx]
      exact ⟨rfl, rfl⟩
  | @through e v u navigate r onward _ ih =>
    obtain ⟨r', hr', hcontinues⟩ := ih hnext
    exact ⟨.through navigate r', by rw [extend?, hr']; rfl, hcontinues.through navigate⟩

/-- Only a route to a reference is extended, and only where there is a route on. -/
theorem exists_leadsTo_of_extend? {next : (u : S.Entity) → Option (Route S u)} {e : S.Entity}
    {r r' : Route S e} (h : r.extend? next = some r') :
    ∃ (u : S.Entity) (navigate : S.Item e → Option (S.Item u)) (rest : Route S u),
      r.LeadsTo u navigate ∧ next u = some rest := by
  induction r with
  | field f => cases h
  | @reference e u navigate =>
    obtain ⟨rest, hrest, -⟩ := Option.map_eq_some_iff.1 h
    exact ⟨u, navigate, rest, .reference, hrest⟩
  | through navigate r ih =>
    obtain ⟨r'', hr'', -⟩ := Option.map_eq_some_iff.1 h
    obtain ⟨u, onward, rest, hleads, hrest⟩ := ih hr''
    exact ⟨u, _, rest, .through hleads, hrest⟩

end Route

namespace Schema

variable {S : Schema}

/-- The route along names in a row.  The last name of the first part is looked up as the end of
    a route there and as a way on in the whole, and a field is no way on. -/
theorem route?_append {names names' : List Text} (hne : names ≠ []) (hne' : names' ≠ [])
    (e : S.Entity) :
    S.route? e (names ++ names') = (S.route? e names).bind (Route.extend? (S.route? · names')) := by
  induction names generalizing e with
  | nil => exact absurd rfl hne
  | cons name names ih =>
    cases names with
    | nil =>
      obtain ⟨name', names', rfl⟩ := List.exists_cons_of_ne_nil hne'
      rw [List.singleton_append, route?, route?]
      · cases S.property? e name with
        | none => rfl
        | some p => cases p <;> rfl
      · exact List.cons_ne_nil _ _
    | cons name' names =>
      rw [List.cons_append, List.cons_append, route?, route?]
      · cases S.property? e name with
        | none => rfl
        | some p =>
          cases p with
          | field label f => rfl
          | reference label target navigate =>
            dsimp only
            rw [← List.cons_append, ih (List.cons_ne_nil _ _)]
            cases S.route? target (name' :: names) <;> rfl
      · exact List.cons_ne_nil _ _
      · exact List.cons_ne_nil _ _

end Schema

/-! ## Chains -/

namespace Route

variable {S : Schema} [DecidableEq S.Entity]

/-- The accessors of the references on the way, in order. -/
def hops {e : S.Entity} : Route S e → List (S.AnyItem → Option S.AnyItem)
  | field _ | reference _ => []
  | through navigate rest => Schema.navigator navigate :: rest.hops

/-- What stands at the end of a route. -/
def leaf {e : S.Entity} : Route S e → Leaf S
  | field f => .field f.dataType f.nullable (Schema.accessor f.get)
  | reference navigate => .reference (Schema.navigator navigate)
  | through _ rest => rest.leaf

end Route

/-- The chain of a path. -/
def Path.chain {S : Schema} [DecidableEq S.Entity] {e : S.Entity} (p : Path S e) : Chain S :=
  ⟨p.target, p.route.hops, p.route.leaf⟩

namespace Chain

variable {S : Schema} [DecidableEq S.Entity] {e : S.Entity}

theorem dataType?_chain (p : Path S e) : p.chain.dataType? = p.dataType? := by
  obtain ⟨t, r⟩ := p
  induction r with
  | field f => rfl
  | reference navigate => rfl
  | through navigate rest ih => exact ih

theorem nullable_chain (p : Path S e) : p.chain.nullable = p.nullable := by
  obtain ⟨t, r⟩ := p
  induction r with
  | field f => rfl
  | reference navigate => rfl
  | through navigate rest ih => exact ih

/-- The accessor of a reference on the way meets an item of its own entity, and the accessors
    after it go on from an item of the entity that it leads to. -/
theorem owner_through {target : S.Entity} (t : Target)
    (navigate : S.Item e → Option (S.Item target)) (rest : Route S target) (x : S.Item e) :
    (Path.chain ⟨t, .through navigate rest⟩).owner ⟨e, x⟩ =
      (navigate x).bind fun y => (Path.chain ⟨t, rest⟩).owner ⟨target, y⟩ := by
  show follow (S.navigator navigate :: rest.hops) ⟨e, x⟩ = _
  rw [follow, List.foldlM_cons, Schema.navigator_mk]
  cases navigate x <;> rfl

/-- A chain reads what its route does. -/
theorem read_chain (p : Path S e) (x : S.Item e) : p.chain.read ⟨e, x⟩ = p.read x := by
  obtain ⟨t, r⟩ := p
  induction r with
  | field f => exact Schema.accessor_mk f.get x
  | reference navigate => rfl
  | through navigate rest ih =>
    rw [read, owner_through, Path.read, Route.read]
    cases navigate x with
    | none => rfl
    | some y => exact ih y

theorem isNull_chain (p : Path S e) (x : S.Item e) : p.chain.isNull ⟨e, x⟩ = p.isNull x := by
  obtain ⟨t, r⟩ := p
  induction r with
  | field f => exact congrArg Option.isNone (Schema.accessor_mk f.get x)
  | reference navigate =>
    refine (congrArg Option.isNone (Schema.navigator_mk navigate x)).trans ?_
    exact Option.isNone_map
  | through navigate rest ih =>
    rw [isNull, owner_through, Path.isNull, Route.isNull]
    cases navigate x with
    | none => rfl
    | some y => exact ih y

end Chain

namespace Schema

variable {S : Schema} [DecidableEq S.Entity]

/-- Accessors that have been collected stay in front. -/
theorem foldlM_hop? (names : List Text) (e : S.Entity)
    (hops : List (S.AnyItem → Option S.AnyItem)) :
    names.foldlM S.hop? (e, hops) =
      (names.foldlM S.hop? (e, [])).map fun state => (state.1, hops ++ state.2) := by
  induction names generalizing e hops with
  | nil => simp
  | cons name names ih =>
    rw [List.foldlM_cons, List.foldlM_cons, hop?, hop?]
    cases S.property? e name with
    | none => rfl
    | some p =>
      cases p with
      | field label f => rfl
      | reference label target navigate =>
        show names.foldlM S.hop? (target, hops ++ [navigator navigate]) =
          (names.foldlM S.hop? (target, [navigator navigate])).map _
        rw [ih, ih target [navigator navigate], Option.map_map]
        simp [Function.comp_def]

/-- The chain along several names, the first of which is that of a reference, is its accessor and
    then the chain along the others from the entity that it leads to. -/
theorem chain?_reference {e target : S.Entity} {name label : Text}
    {navigate : S.Item e → Option (S.Item target)}
    (h : S.property? e name = some (.reference label target navigate)) (name' : Text)
    (names : List Text) :
    S.chain? e (name :: name' :: names) =
      (S.chain? target (name' :: names)).map fun c => (navigator navigate :: c.1, c.2) := by
  have hfirst : S.hop? (e, []) name = some (target, [navigator navigate]) := by rw [hop?, h]; rfl
  have hhops : (name :: (name' :: names).dropLast).foldlM S.hop? (e, []) =
      ((name' :: names).dropLast.foldlM S.hop? (target, [])).map fun state =>
        (state.1, navigator navigate :: state.2) := by
    rw [List.foldlM_cons, hfirst]
    exact foldlM_hop? _ target [navigator navigate]
  rw [chain?, chain?, List.getLast?_cons_cons, List.dropLast_cons_cons, hhops]
  cases (name' :: names).getLast? with
  | none => rfl
  | some last =>
    cases (name' :: names).dropLast.foldlM S.hop? (target, []) with
    | none => rfl
    | some state =>
      show (S.leaf? state.1 last).bind _ = ((S.leaf? state.1 last).bind _).map _
      cases S.leaf? state.1 last <;> rfl

/-- The chain along names is that of the route along them. -/
theorem chain?_eq (e : S.Entity) (names : List Text) :
    S.chain? e names = (S.route? e names).map fun r => (r.hops, r.leaf) := by
  induction names generalizing e with
  | nil => rfl
  | cons name names ih =>
    cases names with
    | nil =>
      show (S.leaf? e name).bind _ = _
      rw [leaf?, route?]
      cases S.property? e name with
      | none => rfl
      | some p => cases p <;> rfl
    | cons name' names =>
      cases hname : S.property? e name with
      | none =>
        rw [chain?, List.dropLast_cons_cons, List.foldlM_cons, hop?, route?, hname]
        · rfl
        · exact List.cons_ne_nil _ _
      | some p =>
        cases p with
        | field label f =>
          rw [chain?, List.dropLast_cons_cons, List.foldlM_cons, hop?, route?, hname]
          · rfl
          · exact List.cons_ne_nil _ _
        | reference label target navigate =>
          have hroute : S.route? e (name :: name' :: names) =
              (S.route? target (name' :: names)).map (.through navigate) := by
            rw [route?, hname]
            exact List.cons_ne_nil _ _
          rw [chain?_reference hname, ih, hroute, Option.map_map, Option.map_map]
          rfl

/-- The chain of a target is that of its path, and where it has no path there is the same
    error. -/
theorem resolveChain_eq (e : S.Entity) (t : Target) :
    S.resolveChain e t = (S.resolve e t).map Path.chain := by
  rw [resolveChain, resolve, chain?_eq]
  cases S.route? e t.names <;> rfl

end Schema

/-! ## Paths in a row -/

namespace Schema

variable {S : Schema} {e : S.Entity}

theorem resolve_eq_ok {t : Target} {path : Path S e} :
    S.resolve e t = .ok path ↔ path.target = t ∧ S.route? e t.names = some path.route := by
  rw [resolve]
  cases S.route? e t.names with
  | none => simp
  | some r =>
    obtain ⟨target, route⟩ := path
    simp [eq_comm]

/-- What is resolved along two targets in a row is the route along the first one, extended from
    where it leads along the second one. -/
theorem resolve_append_eq_ok {p q : Target} {path : Path S e} :
    S.resolve e (p.append q) = .ok path ↔ path.target = p.append q ∧
      ∃ first, S.resolve e p = .ok first ∧
        first.route.extend? (S.route? · q.names) = some path.route := by
  rw [resolve_eq_ok, Target.append, route?_append p.valid.1 q.valid.1, Option.bind_eq_some_iff]
  refine and_congr_right fun _ => ⟨?_, ?_⟩
  · rintro ⟨r, hr, hextend⟩
    exact ⟨⟨p, r⟩, resolve_eq_ok.2 ⟨rfl, hr⟩, hextend⟩
  · rintro ⟨first, hfirst, hextend⟩
    exact ⟨first.route, (resolve_eq_ok.1 hfirst).2, hextend⟩

/-- Two targets in a row have a path exactly when the first one leads to an entity on which the
    second one has one. -/
theorem exists_resolve_append_iff {p q : Target} :
    (∃ path, S.resolve e (p.append q) = .ok path) ↔
      ∃ (first : Path S e) (u : S.Entity) (navigate : S.Item e → Option (S.Item u))
        (rest : Path S u), S.resolve e p = .ok first ∧ first.route.LeadsTo u navigate ∧
          S.resolve u q = .ok rest := by
  constructor
  · rintro ⟨path, hpath⟩
    obtain ⟨-, first, hfirst, hextend⟩ := resolve_append_eq_ok.1 hpath
    obtain ⟨u, navigate, rest, hleads, hrest⟩ := Route.exists_leadsTo_of_extend? hextend
    exact ⟨first, u, navigate, ⟨q, rest⟩, hfirst, hleads, resolve_eq_ok.2 ⟨rfl, hrest⟩⟩
  · rintro ⟨first, u, navigate, rest, hfirst, hleads, hrest⟩
    obtain ⟨r, hr, -⟩ := hleads.exists_continues (S.route? · q.names) (resolve_eq_ok.1 hrest).2
    exact ⟨⟨p.append q, r⟩, resolve_append_eq_ok.2 ⟨rfl, first, hfirst, hr⟩⟩

/-- The path of two targets in a row goes on where the first one leads as the second one does. -/
theorem continues_of_resolve_append {p q : Target} {path first : Path S e} {u : S.Entity}
    {navigate : S.Item e → Option (S.Item u)} {rest : Path S u}
    (hpath : S.resolve e (p.append q) = .ok path) (hfirst : S.resolve e p = .ok first)
    (hleads : first.route.LeadsTo u navigate) (hrest : S.resolve u q = .ok rest) :
    path.text = p.text ++ '.' :: q.text ∧ path.route.Continues navigate rest.route := by
  obtain ⟨htarget, first', hfirst', hextend⟩ := resolve_append_eq_ok.1 hpath
  obtain rfl := Except.ok.inj (hfirst'.symm.trans hfirst)
  obtain ⟨r, hr, hcontinues⟩ := hleads.exists_continues (S.route? · q.names)
    (resolve_eq_ok.1 hrest).2
  obtain rfl := Option.some.inj (hr.symm.trans hextend)
  refine ⟨?_, hcontinues⟩
  rw [Path.text, htarget, Target.text_append]

/-- **Paths compose.**  Two dotted paths with a point between them name a target; it has a path
    on an entity exactly when the first of them has one that leads to an entity and the second
    one has a path there.  The path is then of the type of the second one, and reads and is null
    as that is at the item that is referred to, or reads nothing and is null where there is none.
    Otherwise the error names the whole dotted path.  The chain of accessors that one pass over
    the names collects is that of the path, of the same type, and reads the same from items of the
    entity; and a path to a field reads nothing exactly where it is null. -/
theorem resolve_append (S : Schema) [DecidableEq S.Entity] (e : S.Entity) (p q : Target) :
    Target.read (p.text ++ '.' :: q.text) = .ok (p.append q) ∧
    ((∃ path, S.resolve e (p.append q) = .ok path) ↔
      ∃ (first : Path S e) (u : S.Entity) (navigate : S.Item e → Option (S.Item u))
        (rest : Path S u), S.resolve e p = .ok first ∧ first.route.LeadsTo u navigate ∧
          S.resolve u q = .ok rest) ∧
    (∀ (path first : Path S e) (u : S.Entity) (navigate : S.Item e → Option (S.Item u))
      (rest : Path S u), S.resolve e (p.append q) = .ok path → S.resolve e p = .ok first →
        first.route.LeadsTo u navigate → S.resolve u q = .ok rest →
          path.text = p.text ++ '.' :: q.text ∧ path.route.Continues navigate rest.route ∧
            ∀ x, first.isNull x = (navigate x).isNone) ∧
    (∀ error, S.resolve e (p.append q) = .error error →
      error = .unknownProperty (p.text ++ '.' :: q.text)) ∧
    ∀ t : Target, S.resolveChain e t = (S.resolve e t).map Path.chain ∧
      ∀ path, S.resolve e t = .ok path → path.chain.dataType? = path.dataType? ∧
        path.chain.nullable = path.nullable ∧ ∀ x : S.Item e,
          path.chain.read ⟨e, x⟩ = path.read x ∧ path.chain.isNull ⟨e, x⟩ = path.isNull x ∧
            (path.dataType?.isSome → (path.read x = none ↔ path.isNull x)) := by
  refine ⟨?_, exists_resolve_append_iff, ?_, ?_, ?_⟩
  · rw [← Target.text_append]
    exact Target.read_text _
  · intro path first u navigate rest hpath hfirst hleads hrest
    obtain ⟨htext, hcontinues⟩ := continues_of_resolve_append hpath hfirst hleads hrest
    exact ⟨htext, hcontinues, hleads.isNull_eq⟩
  · intro error herror
    rw [resolve] at herror
    split at herror
    · cases herror
    · rw [← Except.error.inj herror, Target.text_append]
  · intro t
    refine ⟨resolveChain_eq e t, fun path _ => ⟨Chain.dataType?_chain path,
      Chain.nullable_chain path, fun x => ⟨Chain.read_chain path x, Chain.isNull_chain path x,
        fun htype => ?_⟩⟩⟩
    obtain ⟨type, htype⟩ := Option.isSome_iff_exists.1 htype
    exact Route.read_eq_none_iff htype

/-- The manager's manager of a member of the staff. -/
def managersManager : Target := ⟨["manager".toList, "manager".toList], by decide⟩

/-- The number of a member of the staff. -/
def number : Target := ⟨["number".toList], by decide⟩

/-- The number of the manager's manager is missing where there is no such manager, and otherwise
    it is the number of that member. -/
theorem resolve_append_staff : ∃ path : Path Filter.staff (),
    Filter.staff.resolve () (managersManager.append number) = .ok path ∧
      path.read (.member 1 (some (.member 2 none))) = none ∧
      path.read (.member 1 (some (.member 2 (some (.member 3 none))))) = some (.integer 3) := by
  have : DecidableEq Filter.staff.Entity := inferInstanceAs (DecidableEq Unit)
  obtain ⟨-, hresolves, hreads, -, -⟩ := resolve_append Filter.staff () managersManager number
  have hleads : (Filter.throughManager (.reference Filter.Member.manager)).LeadsTo ()
      fun x => (Filter.Member.manager x).bind Filter.Member.manager := .through .reference
  obtain ⟨path, hpath⟩ := hresolves.2 ⟨⟨managersManager, _⟩, (), _, ⟨number, _⟩, rfl, hleads, rfl⟩
  obtain ⟨-, hcontinues, -⟩ :=
    hreads path ⟨managersManager, _⟩ () _ ⟨number, _⟩ hpath rfl hleads rfl
  exact ⟨path, hpath, (hcontinues.absent _ rfl).1,
    (hcontinues.present _ (.member 3 none) rfl).1⟩

end Schema

end ResourceQuery
