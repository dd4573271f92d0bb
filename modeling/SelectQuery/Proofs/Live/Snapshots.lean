import SelectQuery.Proofs.Live.Views

/-!
# Snapshots

A snapshot is what a list holds at one moment. It may be told as a whole, given out entry by entry
by an iterator, or held while other steps are made; the steps that are made meanwhile may append to
the list, but not to the snapshot. Main statement: `snapshots_stay`.
-/

namespace SelectQuery

namespace Step

def takesFrom (it : String) : Step → Bool
  | .next k => k = it
  | _ => false

/-- A step that gives an iterator's name to a new snapshot. -/
def resets (it : String) : Step → Bool
  | .iterate _ k => k = it
  | _ => false

def iterators (s : Session) : Step → List (String × Snapshot)
  | .iterate source it =>
    match s.view source with
    | (s', .ok v) => Session.bind it (v.snapshot s'.store) s.iterators
    | (_, .error _) => s.iterators
  | .next it => (s.iterators.lookup it).elim s.iterators fun r => Session.bind it r.rest s.iterators
  | _ => s.iterators

end Step

/-- The answers to the steps that take from an iterator. -/
def taken (it : String) (ts : List Step) (as : List Answer) : List Answer :=
  ((ts.zip as).filter (·.1.takesFrom it)).map (·.2)

namespace Session

/-! ### Iterators -/

theorem iterators_number (s : Session) (k : String) : (s.number k).1.iterators = s.iterators := by
  cases h : s.queries.lookup k with
  | some n => rw [number_of_some h]
  | none => rw [number_of_none h]; rfl

theorem iterators_view (s : Session) (source : ViewSource) :
    (s.view source).1.iterators = s.iterators := by
  cases source with
  | named a => rfl
  | fresh m c => exact s.iterators_number m

theorem iterators_step {t : Step} (h : t.Flat) (s : Session) :
    (step s t).1.iterators = t.iterators s := by
  have hview : ∀ {source : ViewSource} {s' : Session} {r : Except String View},
      s.view source = (s', r) → s'.iterators = s.iterators :=
    fun {source s' r} h =>
      (congrArg (fun p => p.1.iterators) h).symm.trans (s.iterators_view source)
  cases t with
  | setDistinct m b => exact s.iterators_number m
  | append m c e => exact s.iterators_number m
  | ask m question => exact s.iterators_number m
  | render m settings => cases settings <;> exact s.iterators_number m
  | openView source slot =>
    rcases hsource : s.view source with ⟨s', name | v⟩
    · rw [step_openView_error hsource]
      exact hview hsource
    · rw [step_openView_ok hsource]
      exact (hview hsource : s'.iterators = s.iterators)
  | askView source question =>
    rcases hsource : s.view source with ⟨s', name | v⟩
    · rw [step, withSnapshot_error hsource]
      exact hview hsource
    · rw [step, withSnapshot_ok hsource]
      exact hview hsource
  | iterate source it =>
    rcases hsource : s.view source with ⟨s', name | v⟩
    · rw [step, withSnapshot_error hsource, Step.iterators, hsource]
      exact hview hsource
    · rw [step, withSnapshot_ok hsource, Step.iterators, hsource]
      exact congrArg (bind it _) (hview hsource)
  | next it =>
    rw [step, Step.iterators]
    cases s.iterators.lookup it <;> rfl
  | within source steps =>
    obtain rfl : steps = [] := h
    rcases hsource : s.view source with ⟨s', name | v⟩
    · rw [step_within_error hsource]
      exact hview hsource
    · rw [step_within_ok hsource]
      exact hview hsource
  | _ => rfl

variable {s : Session} {it : String} {c : Clause} {es : List c.Entry}

theorem lookup_iterators_step {t : Step} (ht : t.Flat) (hresets : t.resets it = false)
    (htakes : t.takesFrom it = false) :
    (step s t).1.iterators.lookup it = s.iterators.lookup it := by
  rw [iterators_step ht]
  cases t with
  | iterate source k =>
    have hne : it ≠ k := fun h => by simp [Step.resets, h] at hresets
    rw [Step.iterators]
    rcases s.view source with ⟨s', name | v⟩
    · rfl
    · exact lookup_bind_of_ne s.iterators _ hne
  | next k =>
    have hne : it ≠ k := fun h => by simp [Step.takesFrom, h] at htakes
    rw [Step.iterators]
    cases s.iterators.lookup k with
    | none => rfl
    | some r => exact lookup_bind_of_ne s.iterators _ hne
  | _ => rfl

/-- What is taken from an iterator, at whatever moments, is what it held, entry by entry, and then
nothing. -/
theorem taken_run_of_flat {ts : List Step} (h : s.iterators.lookup it = some ⟨c, es⟩)
    (hflat : ∀ t ∈ ts, t.Flat) (hresets : ∀ t ∈ ts, t.resets it = false) :
    taken it ts (run s ts).2 =
      (List.range (ts.countP (·.takesFrom it))).map fun i => .taken (es[i]?.map (Sigma.mk c)) := by
  induction ts generalizing s es with
  | nil => rfl
  | cons t ts ih =>
    obtain ⟨ht, hts⟩ := List.forall_mem_cons.mp hflat
    obtain ⟨hreset, hrest⟩ := List.forall_mem_cons.mp hresets
    rw [run_cons, taken, List.zip_cons_cons]
    cases htakes : t.takesFrom it with
    | false =>
      rw [List.filter_cons_of_neg (by simp [htakes]), List.countP_cons_of_neg (by simp [htakes])]
      exact ih ((lookup_iterators_step ht hreset htakes).trans h) hts hrest
    | true =>
      obtain rfl : t = .next it := by
        cases t with
        | next k => rw [of_decide_eq_true htakes]
        | _ => cases htakes
      rw [List.filter_cons_of_pos (by exact htakes), List.countP_cons_of_pos htakes, takes_succ,
        step_next h, List.map_cons]
      exact congrArg (_ :: ·) (ih (lookup_bind_self _ it _) hts hrest)

theorem taken_run {ts : List Step} (h : s.iterators.lookup it = some ⟨c, es⟩)
    (hresets : ∀ t ∈ s.madeAll ts, t.resets it = false) :
    taken it (s.madeAll ts) (Answer.givenAll (run s ts).2) =
      (List.range ((s.madeAll ts).countP (·.takesFrom it))).map
        fun i => .taken (es[i]?.map (Sigma.mk c)) := by
  have htaken := taken_run_of_flat h (flat_of_mem_madeAll s ts) hresets
  rwa [run_madeAll] at htaken

/-! ### Views and their lists -/

theorem read_view (s : Session) (source : ViewSource) (v : View) :
    v.read (s.view source).1.store = v.read s.store := by
  cases source with
  | named a => rfl
  | fresh m c => exact congrArg (·.entries v.clause) (get_number v.query)

theorem lookup_iterators_iterate {s : Session} {source : ViewSource} {v : View}
    (h : (s.view source).2 = .ok v) (it : String) :
    (step s (.iterate source it)).1.iterators.lookup it = some ⟨v.clause, v.read s.store⟩ := by
  have hview : s.view source = ((s.view source).1, .ok v) := Prod.ext rfl h
  rw [step, withSnapshot_ok hview, ← s.read_view source v]
  exact lookup_bind_self _ it _

/-- The list of a view belongs to a query that has a name, or has lost the one it had. -/
theorem exists_owned_of_view {past : List Step} {source : ViewSource} {v : View}
    (h : ((run start past).1.view source).2 = .ok v) :
    ∃ owner, ((run start past).1.view source).1.Owned v.query owner := by
  cases source with
  | fresh m c =>
    obtain rfl := Except.ok.inj h
    exact ⟨some m, (sound_run sound_start past).number m _ lookup_number_self⟩
  | named a =>
    obtain ⟨first, later, m, hmade, hopened⟩ := exists_opened_of_view h
    obtain ⟨-, hlater⟩ := List.forall_mem_append.mp (hmade ▸ flat_of_mem_madeAll start past)
    have hlookup := hopened.lookup_views hlater
    rw [← hmade, fst_run_madeAll] at hlookup
    have hquery : v.query = ((run start first).1.number m).2 := by
      rw [view, hlookup] at h
      exact (congrArg View.query (Except.ok.inj h)).symm
    obtain ⟨b, rest, rfl⟩ := hopened.exists_cons
    show ∃ owner, (run start past).1.Owned v.query owner
    rw [hquery, ← fst_run_madeAll, hmade, run_append, run_cons]
    refine exists_owned_run ⟨some m, ?_⟩ rest
    rw [step_openView_ok rfl]
    exact (sound_run sound_start first).number m _ lookup_number_self

end Session

open Session

/-- Snapshots in runs of any length, with steps nested to any depth. -/
structure Snapshots : Prop where
  /-- Nested steps are made, and answered, in their place; so a moment among them is the end of a
  run too, and what is said of such moments below holds of them. -/
  nested : ∀ (s : Session) ts, run s (s.madeAll ts) = ((run s ts).1, Answer.givenAll (run s ts).2)
  /-- All entries that a view tells of are what its list holds at that moment. -/
  whole : ∀ past source v, ((run start past).1.view source).2 = .ok v →
    (step (run start past).1 (.askView source .entries)).2 =
      .entries ⟨v.clause, v.read (run start past).1.store⟩
  /-- An iterator gives out what the list held when it was set, each entry once and in order, and
  then nothing, at whatever later moments it is asked and whatever is done between them, as long as
  its name is not given to another. -/
  iterator : ∀ past source v it later, ((run start past).1.view source).2 = .ok v →
    let s := (run start (past ++ [.iterate source it])).1
    (∀ t ∈ s.madeAll later, t.resets it = false) →
    taken it (s.madeAll later) (Answer.givenAll (run s later).2) =
      (List.range ((s.madeAll later).countP (·.takesFrom it))).map
        fun i => .taken ((v.read (run start past).1.store)[i]?.map (Sigma.mk v.clause))
  /-- Whatever uses a snapshot and makes steps meanwhile gets what the list held before, and what it
  answers is the answer. The list then holds that and what the steps appended to it. -/
  held : ∀ past source v (f : Session → Snapshot → Session × Answer) steps,
    let s := (run start past).1
    let r : Snapshot := ⟨v.clause, v.read s.store⟩
    (s.view source).2 = .ok v → (f (s.view source).1 r).1 = (run (s.view source).1 steps).1 →
    (s.withSnapshot source f).2 = (f (s.view source).1 r).2 ∧
    ∃ owner, (s.view source).1.Owned v.query owner ∧
      v.read (s.withSnapshot source f).1.store = v.read s.store ++
        owner.elim [] fun m => brought m v.clause ((s.view source).1.madeAll steps)
  /-- Steps within a step are made by such a use of a snapshot. -/
  within : ∀ (s : Session) source steps, step s (.within source steps) =
    s.withSnapshot source fun s r => ((run s steps).1, .within (run s steps).2 r)
  /-- A snapshot starts whatever is read of its list later. -/
  lasting : ∀ past later (v : View),
    v.read (run start past).1.store <+: v.read (run start (past ++ later)).1.store

/-- A snapshot stays what its list held when it was taken, whatever is appended to the list. -/
theorem snapshots_stay : Snapshots where
  nested := run_madeAll
  whole past source v h := by
    rw [(shows_of_view_eq_ok h).entries, read_view]
  iterator past source v it later h := by
    intro s hresets
    have hs : s = (step (run start past).1 (.iterate source it)).1 := fst_run_concat start past _
    exact taken_run (hs ▸ lookup_iterators_iterate h it) hresets
  held past source v f steps := by
    intro s r h hf
    obtain ⟨owner, howned⟩ := exists_owned_of_view h
    have hview : s.view source = ((s.view source).1, .ok v) := Prod.ext rfl h
    have huse : s.withSnapshot source f = f (s.view source).1 r := by
      rw [withSnapshot_ok hview, View.snapshot, read_view]
    rw [huse, hf]
    refine ⟨rfl, owner, howned, ?_⟩
    rw [read_run howned, read_view]
  within s source steps := by rw [step]
  lasting past later v := by
    rw [run_append]
    exact read_prefix_read_run (sound_run sound_start past) v later

/-- An entry is appended while an iterator gives out, and while a snapshot is held. -/
theorem snapshots_stay_of_held_append :
    let past : List Step := [.append "m" .group ⟨"a", none⟩, .openView (.fresh "m" .group) "v"]
    let later : List Step := [.append "m" .group ⟨"b", none⟩,
      .within (.fresh "m" .group) [.next "i"], .next "i"]
    let source : ViewSource := .named "v"
    let v : View := ⟨0, .group⟩
    let s := (run start past).1
    let t := (run start (past ++ [.iterate source "i"])).1
    let use (s : Session) (r : Snapshot) : Session × Answer :=
      ((run s later).1, .number r.entries.length)
    (s.view source).2 = .ok v ∧
    (step s (.askView source .entries)).2 = .entries ⟨.group, [⟨"a", none⟩]⟩ ∧
    (∀ u ∈ t.madeAll later, u.resets "i" = false) ∧
    taken "i" (t.madeAll later) (Answer.givenAll (run t later).2) =
      [.taken (some ⟨.group, ⟨"a", none⟩⟩), .taken none] ∧
    (use (s.view source).1 ⟨.group, [⟨"a", none⟩]⟩).1 = (run (s.view source).1 later).1 ∧
    (s.withSnapshot source use).2 = .number 1 ∧
    ∃ owner, (s.view source).1.Owned v.query owner ∧
      v.read (s.withSnapshot source use).1.store = [⟨"a", none⟩] ++
        owner.elim [] fun m => brought m .group ((s.view source).1.madeAll later) := by
  intro past later source v s t use
  have hview : (s.view source).2 = .ok v := rfl
  have hresets : ∀ u ∈ t.madeAll later, u.resets "i" = false := by
    have hmade : t.madeAll later = [.append "m" .group ⟨"b", none⟩,
      .within (.fresh "m" .group) [], .next "i", .next "i"] := rfl
    rw [hmade]
    simp [Step.resets]
  have hused : (use (s.view source).1 ⟨.group, [⟨"a", none⟩]⟩).1 =
    (run (s.view source).1 later).1 := rfl
  exact ⟨hview, snapshots_stay.whole past source v hview, hresets,
    snapshots_stay.iterator past source v "i" later hview hresets, hused,
    snapshots_stay.held past source v use later hview hused⟩

end SelectQuery
