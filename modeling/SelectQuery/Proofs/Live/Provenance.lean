import SelectQuery.Proofs.Live.Snapshots

/-!
# Where entries come from

An entry that an answer tells of was appended by a step made before, or belongs to a sample that was
put in before, and it is told as it was given. One fact about single steps carries this: whatever a
session holds after a step, in its lists or in its iterators, it held before or the step put there
(`Session.Holds.of_step`).
-/

namespace SelectQuery

/-! ### Entries with their clauses -/

/-- The entries of all lists, each with its clause. -/
def Query.tagged (q : Query) : List (Sigma Clause.Entry) :=
  Clause.all.flatMap fun c => (q.entries c).map (Sigma.mk c)

/-- The entries, each with the clause of the snapshot. -/
def Snapshot.tagged (r : Snapshot) : List (Sigma Clause.Entry) := r.entries.map (Sigma.mk r.clause)

/-- The entries that an answer tells of, other answers in it apart. -/
def Answer.shown : Answer → List (Sigma Clause.Entry)
  | .entry e | .taken e => e.toList
  | .entries r | .within _ r => r.tagged
  | _ => []

/-- The entries that a step puts into lists. -/
def Step.puts : Step → List (Sigma Clause.Entry)
  | .append _ c e => [⟨c, e⟩]
  | .sample _ chosen => chosen.query.tagged
  | _ => []

namespace Query

theorem mem_tagged_iff {q : Query} {x : Sigma Clause.Entry} :
    x ∈ q.tagged ↔ x.2 ∈ q.entries x.1 := by
  obtain ⟨c, e⟩ := x
  simp only [tagged, List.mem_flatMap, List.mem_map, Sigma.mk.injEq]
  constructor
  · rintro ⟨d, -, e', he', rfl, he⟩
    rwa [← eq_of_heq he]
  · intro he
    exact ⟨c, c.mem_all, e, he, rfl, HEq.rfl⟩

theorem not_mem_tagged_empty (x : Sigma Clause.Entry) : x ∉ empty.tagged := by
  obtain ⟨c, e⟩ := x
  rw [mem_tagged_iff]
  cases c <;> exact List.not_mem_nil

theorem tagged_setDistinct (q : Query) (b : Bool) : (q.setDistinct b).tagged = q.tagged := rfl

theorem mem_tagged_append {q : Query} {c : Clause} {e : c.Entry} {x : Sigma Clause.Entry}
    (h : x ∈ (q.append c e).tagged) : x ∈ q.tagged ∨ x = ⟨c, e⟩ := by
  obtain ⟨d, e'⟩ := x
  rw [mem_tagged_iff] at h
  rw [mem_tagged_iff]
  by_cases hd : d = c
  · subst hd
    rw [entries_append_self, List.mem_append, List.mem_singleton] at h
    exact h.imp id (congrArg _)
  · rw [entries_append_of_ne q hd] at h
    exact .inl h

end Query

namespace Snapshot

variable {r : Snapshot} {x : Sigma Clause.Entry}

theorem mem_tagged_of_mem_rest (h : x ∈ r.rest.tagged) : x ∈ r.tagged :=
  List.map_subset _ (List.drop_subset 1 r.entries) h

theorem mem_tagged_of_mem_toList {o : Option r.clause.Entry} (ho : ∀ e ∈ o, e ∈ r.entries)
    (h : x ∈ (o.map (Sigma.mk r.clause)).toList) : x ∈ r.tagged := by
  obtain ⟨e, he, rfl⟩ := Option.map_eq_some_iff.mp (Option.mem_toList.mp h)
  exact List.mem_map_of_mem (ho e he)

theorem mem_tagged_of_mem_first (h : x ∈ r.first?.toList) : x ∈ r.tagged :=
  mem_tagged_of_mem_toList (fun _ => List.mem_of_mem_head?) h

end Snapshot

/-! ### Effects on the store -/

namespace Session

variable {s : Session} {k : String} {x : Sigma Clause.Entry}

theorem get_put_eq_or (q : Query) (n : Nat) :
    (s.put k q).store.get n = s.store.get n ∨ (s.put k q).store.get n = q := by
  rcases Nat.lt_trichotomy n s.store.queries.length with hn | rfl | hn
  · exact .inl (get_put q hn)
  · exact .inr (get_put_length q)
  · have hlength : (s.put k q).store.queries.length ≤ n := by
      rw [length_put]
      exact hn
    rw [Store.get, Store.get, List.getElem?_eq_none hlength,
      List.getElem?_eq_none (Nat.le_of_lt hn)]
    exact .inl rfl

theorem get_modify_eq_or (f : Query → Query) (n : Nat) :
    (s.modify k f).store.get n = s.store.get n ∨
      (s.modify k f).store.get n = f (s.store.get n) := by
  have hstore : (s.modify k f).store = (s.number k).1.store.modify (s.number k).2 f := rfl
  rw [hstore, ← get_number (k := k) n, Store.get, Store.get, Store.modify, List.getElem?_modify]
  cases (s.number k).1.store.queries[n]? with
  | none => exact .inl rfl
  | some q =>
    show (if (s.number k).2 = n then f q else q) = q ∨
      (if (s.number k).2 = n then f q else q) = f q
    split
    · exact .inr rfl
    · exact .inl rfl

/-- The entry is in a list of a query. -/
def Stores (s : Session) (x : Sigma Clause.Entry) : Prop := ∃ n, x ∈ (s.store.get n).tagged

end Session

namespace Effect

/-- The entry is one that an effect puts into a list. -/
def Puts (x : Sigma Clause.Entry) : Effect → Prop
  | .begin _ q => x ∈ q.tagged
  | .change _ f => ∃ q : Query, x ∈ (f q).tagged ∧ x ∉ q.tagged
  | _ => False

theorem stores_apply {s : Session} {e : Effect} {x : Sigma Clause.Entry}
    (h : (e.apply s).Stores x) : s.Stores x ∨ e.Puts x := by
  obtain ⟨n, hn⟩ := h
  cases e with
  | keep => exact .inl ⟨n, hn⟩
  | leave k => exact .inl ⟨n, hn⟩
  | begin k q =>
    rcases Session.get_put_eq_or (s := s) (k := k) q n with hget | hget
    · exact .inl ⟨n, hget ▸ hn⟩
    · exact .inr (show x ∈ q.tagged from hget ▸ hn)
  | change k f =>
    by_cases hold : x ∈ (s.store.get n).tagged
    · exact .inl ⟨n, hold⟩
    · rcases Session.get_modify_eq_or (s := s) (k := k) f n with hget | hget
      · exact absurd (hget ▸ hn) hold
      · exact .inr ⟨s.store.get n, hget ▸ hn, hold⟩

end Effect

theorem Step.mem_puts_of_effect {t : Step} {x : Sigma Clause.Entry} (h : t.effect.Puts x) :
    x ∈ t.puts := by
  have hsame : ∀ {k : String} {f : Query → Query}, (∀ q, (f q).tagged = q.tagged) →
      ¬(Effect.change k f).Puts x := by
    rintro k f hf ⟨q, hq, hnot⟩
    exact hnot (hf q ▸ hq)
  have hread : ∀ {k : String}, ¬(Effect.change k id).Puts x := hsame fun _ => rfl
  have hsource : ∀ source : ViewSource, ¬source.effect.Puts x := by
    intro source
    cases source with
    | named a => exact id
    | fresh m c => exact hread
  cases t with
  | renew m => exact absurd h (Query.not_mem_tagged_empty x)
  | forget m => exact h.elim
  | sample m chosen => exact h
  | setDistinct m b => exact absurd h (hsame fun q => q.tagged_setDistinct b)
  | append m c e =>
    obtain ⟨q, hq, hnot⟩ := h
    exact List.mem_singleton.mpr ((Query.mem_tagged_append hq).resolve_left hnot)
  | ask m question => exact absurd h hread
  | render m settings => exact absurd h hread
  | openView source slot => exact absurd h (hsource source)
  | askView source question => exact absurd h (hsource source)
  | iterate source it => exact absurd h (hsource source)
  | next it => exact h.elim
  | within source steps => exact absurd h (hsource source)

/-! ### Steps and runs -/

namespace Session

variable {s : Session} {t : Step} {x : Sigma Clause.Entry}

/-- The entry is in a list, or an iterator has yet to give it out. -/
def Holds (s : Session) (x : Sigma Clause.Entry) : Prop :=
  s.Stores x ∨ ∃ it r, s.iterators.lookup it = some r ∧ x ∈ r.tagged

theorem not_holds_start (x : Sigma Clause.Entry) : ¬start.Holds x := by
  rintro (⟨n, hn⟩ | ⟨it, r, hr, -⟩)
  · exact Query.not_mem_tagged_empty x hn
  · cases hr

/-- What the snapshot of a view has is in a list before the view is taken. -/
theorem stores_of_view {s' : Session} {source : ViewSource} {v : View}
    (hview : s.view source = (s', .ok v)) (h : x ∈ (v.snapshot s'.store).tagged) : s.Stores x := by
  obtain rfl : (s.view source).1 = s' := congrArg Prod.fst hview
  obtain ⟨e, he, rfl⟩ := List.mem_map.mp h
  have hread : e ∈ v.read s.store := s.read_view source v ▸ he
  exact ⟨v.query, Query.mem_tagged_iff.mpr hread⟩

theorem mem_tagged_of_answerView {r : Snapshot} {question : ViewQuestion}
    (h : x ∈ (answerView r question).shown) : x ∈ r.tagged := by
  cases question with
  | «at» i => exact Snapshot.mem_tagged_of_mem_toList (fun _ => List.mem_of_getElem?) h
  | first => exact Snapshot.mem_tagged_of_mem_first h
  | last => exact Snapshot.mem_tagged_of_mem_toList (fun _ => List.mem_of_mem_getLast?) h
  | entries => exact h
  | _ => exact absurd h List.not_mem_nil

theorem stores_of_withSnapshot {source : ViewSource} {f : Session → Snapshot → Session × Answer}
    (hf : ∀ s' r, x ∈ (f s' r).2.shown → x ∈ r.tagged)
    (h : x ∈ (s.withSnapshot source f).2.shown) : s.Stores x := by
  rcases hview : s.view source with ⟨s', name | v⟩
  · rw [withSnapshot_error hview] at h
    exact absurd h List.not_mem_nil
  · rw [withSnapshot_ok hview] at h
    exact stores_of_view hview (hf _ _ h)

/-- What the answer to a step tells of was held before the step. -/
theorem holds_of_shown (h : x ∈ (step s t).2.shown) : s.Holds x := by
  cases t with
  | ask m question => cases question <;> exact absurd h List.not_mem_nil
  | render m settings => cases settings <;> exact absurd h List.not_mem_nil
  | openView source slot =>
    rcases hview : s.view source with ⟨s', name | v⟩
    · rw [step_openView_error hview] at h
      exact absurd h List.not_mem_nil
    · rw [step_openView_ok hview] at h
      exact absurd h List.not_mem_nil
  | askView source question =>
    rw [step] at h
    exact .inl (stores_of_withSnapshot (fun _ _ => mem_tagged_of_answerView) h)
  | iterate source it =>
    rw [step] at h
    exact .inl (stores_of_withSnapshot (fun _ _ hx => absurd hx List.not_mem_nil) h)
  | next it =>
    rw [step] at h
    cases hr : s.iterators.lookup it with
    | none =>
      rw [hr] at h
      exact absurd h List.not_mem_nil
    | some r =>
      rw [hr] at h
      exact .inr ⟨it, r, hr, Snapshot.mem_tagged_of_mem_first h⟩
  | within source steps =>
    rw [step] at h
    exact .inl (stores_of_withSnapshot (fun _ _ => id) h)
  | _ => exact absurd h List.not_mem_nil

theorem eq_or_of_lookup_bind {α : Type} {names : List (String × α)} {m k : String} {a b : α}
    (h : (bind k a names).lookup m = some b) : b = a ∨ names.lookup m = some b := by
  by_cases hm : m = k
  · subst hm
    rw [lookup_bind_self] at h
    exact .inl (Option.some.inj h).symm
  · rw [lookup_bind_of_ne names a hm] at h
    exact .inr h

theorem Holds.of_step (ht : t.Flat) (h : (step s t).1.Holds x) : s.Holds x ∨ x ∈ t.puts := by
  rcases h with hstored | ⟨it, r, hr, hx⟩
  · obtain ⟨iterators, hstep⟩ := step_eq_effect ht s
    rw [hstep] at hstored
    exact (Effect.stores_apply hstored).imp .inl Step.mem_puts_of_effect
  · left
    rw [iterators_step ht] at hr
    cases t with
    | iterate source k =>
      rw [Step.iterators] at hr
      rcases hview : s.view source with ⟨s', name | v⟩
      · rw [hview] at hr
        exact .inr ⟨it, r, hr, hx⟩
      · rw [hview] at hr
        rcases eq_or_of_lookup_bind hr with rfl | hr
        · exact .inl (stores_of_view hview hx)
        · exact .inr ⟨it, r, hr, hx⟩
    | next k =>
      rw [Step.iterators] at hr
      cases hk : s.iterators.lookup k with
      | none =>
        rw [hk] at hr
        exact .inr ⟨it, r, hr, hx⟩
      | some r' =>
        rw [hk] at hr
        rcases eq_or_of_lookup_bind hr with rfl | hr
        · exact .inr ⟨k, r', hk, Snapshot.mem_tagged_of_mem_rest hx⟩
        · exact .inr ⟨it, r, hr, hx⟩
    | _ => exact .inr ⟨it, r, hr, hx⟩

/-- What flat steps show was held before them or put by one of them. -/
theorem holds_or_put_of_run {ts : List Step} (hflat : ∀ t ∈ ts, t.Flat) {a : Answer}
    (ha : a ∈ (run s ts).2) (hx : x ∈ a.shown) : s.Holds x ∨ ∃ t ∈ ts, x ∈ t.puts := by
  induction ts generalizing s with
  | nil => exact absurd ha List.not_mem_nil
  | cons t ts ih =>
    obtain ⟨ht, hts⟩ := List.forall_mem_cons.mp hflat
    rw [run_cons] at ha
    rcases List.mem_cons.mp ha with rfl | ha
    · exact .inl (holds_of_shown hx)
    · rcases ih hts ha with hholds | ⟨u, hu, hput⟩
      · refine (hholds.of_step ht).imp id fun hput => ?_
        exact ⟨t, List.mem_cons_self, hput⟩
      · exact .inr ⟨u, List.mem_cons_of_mem t hu, hput⟩

end Session

open Session

/-- Every entry that is told of in a run was put into a list by a step of the run. -/
theorem put_of_shown {steps : List Step} {a : Answer} {x : Sigma Clause.Entry}
    (ha : a ∈ Answer.givenAll (answers steps)) (hx : x ∈ a.shown) :
    ∃ t ∈ start.madeAll steps, x ∈ t.puts := by
  have hanswers : Answer.givenAll (answers steps) = (run start (start.madeAll steps)).2 := by
    rw [run_madeAll]
    rfl
  have hflat := flat_of_mem_madeAll start steps
  exact (holds_or_put_of_run hflat (hanswers ▸ ha) hx).resolve_left (not_holds_start x)

end SelectQuery
