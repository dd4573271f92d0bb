import SelectQuery.Proofs.Live.Names

/-!
# Steps as they are made

Steps that are made while a snapshot is held are steps like any other. `Session.madeAll` puts them
in their place among the rest, so that a run with nested steps is a run without (`run_madeAll`), and
what a session goes through is the runs of the first so many of them. Each of these steps has one
effect on the queries: `step_eq_effect`.
-/

namespace SelectQuery

/-! ### Answers to nested steps -/

mutual

/-- The answers in an answer, one for each step that was made. -/
def Answer.given : Answer → List Answer
  | .within inner seen => .within [] seen :: givenAll inner
  | a => [a]

def Answer.givenAll : List Answer → List Answer
  | [] => []
  | a :: as => a.given ++ givenAll as

end

namespace Step

/-- A step with no steps in it. -/
def Flat : Step → Prop
  | .within _ steps => steps = []
  | _ => True

end Step

namespace Session

mutual

/-- The steps that a step makes, without any in another. -/
def made (s : Session) : Step → List Step
  | .within source steps =>
    .within source [] :: match s.view source with
      | (s, .ok _) => madeAll s steps
      | (_, .error _) => []
  | t => [t]

def madeAll (s : Session) : List Step → List Step
  | [] => []
  | t :: ts => made s t ++ madeAll (step s t).1 ts

end

/-! ### Runs -/

theorem run_cons (s : Session) (t : Step) (ts : List Step) :
    run s (t :: ts) = ((run (step s t).1 ts).1, (step s t).2 :: (run (step s t).1 ts).2) := by
  rw [run]

theorem run_singleton (s : Session) (t : Step) : run s [t] = ((step s t).1, [(step s t).2]) := by
  rw [run_cons, run]

theorem run_append (s : Session) (ts us : List Step) :
    run s (ts ++ us) = ((run (run s ts).1 us).1, (run s ts).2 ++ (run (run s ts).1 us).2) := by
  induction ts generalizing s with
  | nil => rw [run]; rfl
  | cons t ts ih => rw [List.cons_append, run_cons, run_cons, ih]; rfl

theorem step_within_ok {s s' : Session} {source : ViewSource} {v : View}
    (h : s.view source = (s', .ok v)) (steps : List Step) :
    step s (.within source steps) =
      ((run s' steps).1, .within (run s' steps).2 (v.snapshot s'.store)) := by
  rw [step, withSnapshot, h]

theorem step_within_error {s s' : Session} {source : ViewSource} {name : String}
    (h : s.view source = (s', .error name)) (steps : List Step) :
    step s (.within source steps) = (s', .unknown name) := by
  rw [step, withSnapshot, h]

theorem step_openView_ok {s s' : Session} {source : ViewSource} {v : View}
    (h : s.view source = (s', .ok v)) (slot : String) :
    step s (.openView source slot) = ({ s' with views := bind slot v s'.views }, .done) := by
  rw [step, h]

theorem step_openView_error {s s' : Session} {source : ViewSource} {name : String}
    (h : s.view source = (s', .error name)) (slot : String) :
    step s (.openView source slot) = (s', .unknown name) := by
  rw [step, h]

theorem withSnapshot_ok {s s' : Session} {source : ViewSource} {v : View}
    (h : s.view source = (s', .ok v)) (f : Session → Snapshot → Session × Answer) :
    s.withSnapshot source f = f s' (v.snapshot s'.store) := by
  rw [withSnapshot, h]

theorem withSnapshot_error {s s' : Session} {source : ViewSource} {name : String}
    (h : s.view source = (s', .error name)) (f : Session → Snapshot → Session × Answer) :
    s.withSnapshot source f = (s', .unknown name) := by
  rw [withSnapshot, h]

/-! ### Flat steps -/

theorem made_of_flat {t : Step} (h : t.Flat) (s : Session) : s.made t = [t] := by
  cases t with
  | within source steps =>
    obtain rfl : steps = [] := h
    rw [made]
    rcases s.view source with ⟨s', v | name⟩ <;> rfl
  | _ => rfl

theorem given_step {t : Step} (h : t.Flat) (s : Session) :
    (step s t).2.given = [(step s t).2] := by
  cases t with
  | within source steps =>
    obtain rfl : steps = [] := h
    rcases hview : s.view source with ⟨s', name | v⟩
    · rw [step_within_error hview]
      rfl
    · rw [step_within_ok hview]
      rfl
  | ask m question => cases question <;> rfl
  | render m settings => cases settings <;> rfl
  | openView source slot =>
    rcases hview : s.view source with ⟨s', name | v⟩
    · rw [step_openView_error hview]
      rfl
    · rw [step_openView_ok hview]
      rfl
  | askView source question =>
    rcases hview : s.view source with ⟨s', name | v⟩
    · rw [step, withSnapshot_error hview]
      rfl
    · rw [step, withSnapshot_ok hview]
      cases question <;> rfl
  | iterate source it =>
    rcases hview : s.view source with ⟨s', name | v⟩
    · rw [step, withSnapshot_error hview]
      rfl
    · rw [step, withSnapshot_ok hview]
      rfl
  | next it =>
    rw [step]
    cases s.iterators.lookup it <;> rfl
  | _ => rfl

mutual

theorem run_made (s : Session) (t : Step) :
    run s (s.made t) = ((step s t).1, (step s t).2.given) := by
  have hflat : t.Flat → run s (s.made t) = ((step s t).1, (step s t).2.given) := by
    intro h
    rw [made_of_flat h, given_step h, run_singleton]
  cases t with
  | within source steps =>
    rcases hview : s.view source with ⟨s', name | v⟩
    · rw [made, hview, run_singleton, step_within_error hview, step_within_error hview]
      rfl
    · rw [made, hview, run_cons, step_within_ok hview, step_within_ok hview]
      simp only [run]
      rw [run_madeAll s' steps]
      rfl
  | _ => exact hflat trivial

theorem run_madeAll (s : Session) (ts : List Step) :
    run s (s.madeAll ts) = ((run s ts).1, Answer.givenAll (run s ts).2) := by
  cases ts with
  | nil => rfl
  | cons t ts =>
    rw [madeAll, run_append, run_made s t, run_madeAll (step s t).1 ts, run_cons]
    rfl

end

mutual

theorem flat_of_mem_made (s : Session) (t : Step) : ∀ u ∈ s.made t, u.Flat := by
  cases t with
  | within source steps =>
    rw [made]
    rcases s.view source with ⟨s', name | v⟩
    · exact List.forall_mem_singleton.mpr rfl
    · exact List.forall_mem_cons.mpr ⟨rfl, flat_of_mem_madeAll s' steps⟩
  | _ => exact List.forall_mem_singleton.mpr trivial

theorem flat_of_mem_madeAll (s : Session) (ts : List Step) : ∀ u ∈ s.madeAll ts, u.Flat := by
  cases ts with
  | nil => nofun
  | cons t ts =>
    rw [madeAll]
    exact List.forall_mem_append.mpr ⟨flat_of_mem_made s t, flat_of_mem_madeAll (step s t).1 ts⟩

end

theorem madeAll_of_flat {ts : List Step} (h : ∀ t ∈ ts, t.Flat) (s : Session) :
    s.madeAll ts = ts := by
  induction ts generalizing s with
  | nil => rfl
  | cons t ts ih =>
    obtain ⟨ht, hts⟩ := List.forall_mem_cons.mp h
    rw [madeAll, made_of_flat ht, ih hts]
    rfl

end Session

/-! ### What one step does -/

/-- Reading a list of a named query brings the query into being. -/
def ViewSource.effect : ViewSource → Effect
  | .named _ => .keep
  | .fresh m _ => .change m id

namespace Step

def effect : Step → Effect
  | .renew m => .begin m .empty
  | .forget m => .leave m
  | .sample m chosen => .begin m chosen.query
  | .setDistinct m b => .change m (·.setDistinct b)
  | .append m c e => .change m (·.append c e)
  | .ask m _ | .render m _ => .change m id
  | .openView source _ | .askView source _ | .iterate source _ | .within source _ => source.effect
  | .next _ => .keep

def views (s : Session) : Step → List (String × View)
  | .openView source slot =>
    match (s.view source).2 with
    | .ok v => Session.bind slot v s.views
    | .error _ => s.views
  | _ => s.views

end Step

namespace Session

theorem views_number (s : Session) (k : String) : (s.number k).1.views = s.views := by
  cases h : s.queries.lookup k with
  | some n => rw [number_of_some h]
  | none => rw [number_of_none h]; rfl

theorem views_apply (s : Session) (e : Effect) : (e.apply s).views = s.views := by
  cases e with
  | change k f => exact s.views_number k
  | _ => rfl

theorem modify_id (s : Session) (k : String) : s.modify k id = (s.number k).1 := by
  have hstore : (s.number k).1.store.modify (s.number k).2 id = (s.number k).1.store :=
    congrArg Store.mk (List.modify_id ..)
  exact congrArg (fun store => { (s.number k).1 with store }) hstore

theorem view_fst (s : Session) (source : ViewSource) :
    (s.view source).1 = source.effect.apply s := by
  cases source with
  | named a => rfl
  | fresh m c => exact (s.modify_id m).symm

/-- A step has its effect on the queries and does not reach into the rest of the session but to
name a view or to set an iterator. -/
theorem step_eq_effect {t : Step} (h : t.Flat) (s : Session) : ∃ iterators,
    (step s t).1 = { t.effect.apply s with views := t.views s, iterators } := by
  have hself : ∀ {e : Effect} {s' : Session}, s' = e.apply s →
      ∃ iterators, s' = { e.apply s with views := s.views, iterators } := by
    rintro e s' rfl
    exact ⟨(e.apply s).iterators, by rw [← s.views_apply e]⟩
  have hview : ∀ {source : ViewSource} {s' : Session} {r : Except String View},
      s.view source = (s', r) → s' = source.effect.apply s :=
    fun {source s' r} h => (congrArg Prod.fst h).symm.trans (s.view_fst source)
  cases t with
  | renew m => exact hself rfl
  | forget m => exact hself rfl
  | sample m chosen => exact hself rfl
  | setDistinct m b => exact hself rfl
  | append m c e => exact hself rfl
  | ask m question => exact hself (s.modify_id m).symm
  | render m settings => cases settings <;> exact hself (s.modify_id m).symm
  | openView source slot =>
    rcases hsource : s.view source with ⟨s', name | v⟩
    · rw [step_openView_error hsource, Step.views, hsource]
      exact hself (hview hsource)
    · obtain ⟨iterators, hs'⟩ := hself (hview hsource)
      rw [step_openView_ok hsource, Step.views, hsource]
      exact ⟨iterators, by rw [hs']; rfl⟩
  | askView source question =>
    rcases hsource : s.view source with ⟨s', name | v⟩
    · rw [step, withSnapshot_error hsource]
      exact hself (hview hsource)
    · rw [step, withSnapshot_ok hsource]
      exact hself (hview hsource)
  | iterate source it =>
    rcases hsource : s.view source with ⟨s', name | v⟩
    · rw [step, withSnapshot_error hsource]
      exact hself (hview hsource)
    · obtain ⟨iterators, hs'⟩ := hself (hview hsource)
      rw [step, withSnapshot_ok hsource, hs']
      exact ⟨_, rfl⟩
  | next it =>
    rw [step]
    cases s.iterators.lookup it with
    | none => exact hself rfl
    | some r => exact ⟨_, rfl⟩
  | within source steps =>
    obtain rfl : steps = [] := h
    rcases hsource : s.view source with ⟨s', name | v⟩
    · rw [step_within_error hsource]
      exact hself (hview hsource)
    · rw [step_within_ok hsource]
      exact hself (hview hsource)

end Session

end SelectQuery
