import SelectQuery.Proofs.Live.Steps

/-!
# What has been appended

What a query holds is told by the steps alone: `held`, what was appended under a name since the name
was given a query, and `brought`, what is appended under it until it is given another one. A list of
a named query holds the first (`entries_named_run`), and in a run it grows by the second
(`entries_run`).
-/

namespace SelectQuery

namespace Step

/-- The query that a step leaves to a name instead of the one that it had. -/
def begins (m : String) : Step → Option Query
  | .renew k | .forget k => if k = m then some .empty else none
  | .sample k chosen => if k = m then some chosen.query else none
  | _ => none

/-- What a step appends to a list under a name. -/
def brings (m : String) (c : Clause) : Step → List c.Entry
  | .append k d e => if h : k = m ∧ d = c then [h.2 ▸ e] else []
  | _ => []

end Step

/-- What a list of the query of a name holds after steps from the start. -/
def held (m : String) (c : Clause) (steps : List Step) : List c.Entry :=
  steps.foldl (fun es t => (t.begins m).elim (es ++ t.brings m c) (·.entries c)) []

/-- What steps append to a list of the query that a name has before them. -/
def brought (m : String) (c : Clause) (steps : List Step) : List c.Entry :=
  (steps.takeWhile fun t => (t.begins m).isNone).flatMap (·.brings m c)

theorem brought_cons_of_none {m : String} {t : Step} (h : t.begins m = none) (c : Clause)
    (ts : List Step) : brought m c (t :: ts) = t.brings m c ++ brought m c ts := by
  rw [brought, List.takeWhile_cons_of_pos (by rw [h]; rfl), List.flatMap_cons]
  rfl

theorem brought_cons_of_some {m : String} {t : Step} {q : Query} (h : t.begins m = some q)
    (c : Clause) (ts : List Step) : brought m c (t :: ts) = [] := by
  rw [brought, List.takeWhile_cons_of_neg (by rw [h]; simp)]
  rfl

/-! ### Steps and their effects -/

theorem Step.parts_effect (m : String) (t : Step) : t.effect.parts m = (t.begins m).isSome := by
  have hsource : ∀ source : ViewSource, source.effect.parts m = false := by
    intro source
    cases source <;> rfl
  cases t with
  | renew k => by_cases hk : k = m <;> simp [effect, begins, Effect.parts, hk]
  | forget k => by_cases hk : k = m <;> simp [effect, begins, Effect.parts, hk]
  | sample k chosen => by_cases hk : k = m <;> simp [effect, begins, Effect.parts, hk]
  | openView source slot => exact hsource source
  | askView source question => exact hsource source
  | iterate source it => exact hsource source
  | within source steps => exact hsource source
  | _ => rfl

/-- What a step that begins nothing does to the query of a name. -/
def Step.edit (m : String) (q : Query) : Step → Query
  | .setDistinct k b => if k = m then q.setDistinct b else q
  | .append k c e => if k = m then q.append c e else q
  | _ => q

theorem Step.on_effect (m : String) (q : Query) (t : Step) :
    t.effect.on m q = (t.begins m).elim (t.edit m q) id := by
  have hread : ∀ k, (Effect.change k id).on m q = q := fun k => ite_self q
  have hsource : ∀ source : ViewSource, source.effect.on m q = q := by
    intro source
    cases source with
    | named a => rfl
    | fresh k d => exact hread k
  cases t with
  | renew k => by_cases hk : k = m <;> simp [effect, begins, edit, Effect.on, hk]
  | forget k => by_cases hk : k = m <;> simp [effect, begins, edit, Effect.on, hk]
  | sample k chosen => by_cases hk : k = m <;> simp [effect, begins, edit, Effect.on, hk]
  | setDistinct k b => rfl
  | append k d e => rfl
  | ask k question => exact hread k
  | render k settings => exact hread k
  | openView source slot => exact hsource source
  | askView source question => exact hsource source
  | iterate source it => exact hsource source
  | within source steps => exact hsource source
  | next it => rfl

theorem Step.entries_edit (m : String) (c : Clause) (q : Query) (t : Step) :
    (t.edit m q).entries c = q.entries c ++ t.brings m c := by
  cases t with
  | setDistinct k b =>
    have hentries : (q.setDistinct b).entries c = q.entries c := by cases c <;> rfl
    by_cases hk : k = m <;> simp [edit, brings, hk, hentries]
  | append k d e =>
    by_cases hk : k = m
    · by_cases hd : d = c
      · subst hd
        simp [edit, brings, hk]
      · have hentries := q.entries_append_of_ne (Ne.symm hd) e
        simp [edit, brings, hk, hd, hentries]
    · simp [edit, brings, hk]
  | _ => exact (List.append_nil _).symm

theorem Step.entries_on_effect (m : String) (c : Clause) (q : Query) (t : Step) :
    (t.effect.on m q).entries c =
      (t.begins m).elim (q.entries c ++ t.brings m c) (·.entries c) := by
  rw [on_effect, ← entries_edit]
  cases t.begins m <;> rfl

namespace Session

variable {s : Session} {t : Step} {ts : List Step} {n : Nat} {m : String}

/-! ### One step -/

theorem sound_step (hs : s.Sound) (ht : t.Flat) : (step s t).1.Sound := by
  obtain ⟨iterators, hstep⟩ := step_eq_effect ht s
  rw [hstep]
  exact Effect.sound_apply hs t.effect

theorem named_step (hs : s.Sound) (ht : t.Flat) (m : String) :
    (step s t).1.named m = t.effect.on m (s.named m) := by
  obtain ⟨iterators, hstep⟩ := step_eq_effect ht s
  rw [hstep]
  exact Effect.named_apply hs t.effect

theorem owned_none_step (h : s.Owned n none) (ht : t.Flat) :
    (step s t).1.Owned n none ∧ (step s t).1.store.get n = s.store.get n := by
  obtain ⟨iterators, hstep⟩ := step_eq_effect ht s
  rw [hstep]
  exact Effect.owned_none_apply h t.effect

/-- A query keeps its name and grows by what is appended under it, or loses the name as it is. -/
theorem owned_some_step (h : s.Owned n (some m)) (ht : t.Flat) :
    (t.begins m = none ∧ (step s t).1.Owned n (some m) ∧
      (step s t).1.store.get n = t.effect.on m (s.store.get n)) ∨
    ((t.begins m).isSome ∧ (step s t).1.Owned n none ∧
      (step s t).1.store.get n = s.store.get n) := by
  obtain ⟨iterators, hstep⟩ := step_eq_effect ht s
  have happly := Effect.owned_some_apply h t.effect
  rw [hstep]
  rw [t.parts_effect] at happly
  split at happly
  · next hbegins => exact .inr ⟨hbegins, happly⟩
  · next hbegins => exact .inl ⟨by simpa using hbegins, happly⟩

/-! ### Runs -/

theorem sound_run_of_flat (hs : s.Sound) (hts : ∀ t ∈ ts, t.Flat) : (run s ts).1.Sound := by
  induction ts generalizing s with
  | nil => exact hs
  | cons t ts ih =>
    obtain ⟨ht, hts⟩ := List.forall_mem_cons.mp hts
    rw [run_cons]
    exact ih (sound_step hs ht) hts

theorem entries_named_of_flat (hs : s.Sound) (hts : ∀ t ∈ ts, t.Flat) (m : String) (c : Clause) :
    ((run s ts).1.named m).entries c =
      ts.foldl (fun es t => (t.begins m).elim (es ++ t.brings m c) (·.entries c))
        ((s.named m).entries c) := by
  induction ts generalizing s with
  | nil => rfl
  | cons t ts ih =>
    obtain ⟨ht, hts⟩ := List.forall_mem_cons.mp hts
    rw [run_cons, ih (sound_step hs ht) hts, named_step hs ht, t.entries_on_effect]
    rfl

theorem owned_none_run_of_flat (h : s.Owned n none) (hts : ∀ t ∈ ts, t.Flat) :
    (run s ts).1.store.get n = s.store.get n := by
  induction ts generalizing s with
  | nil => rfl
  | cons t ts ih =>
    obtain ⟨ht, hts⟩ := List.forall_mem_cons.mp hts
    obtain ⟨howned, hget⟩ := owned_none_step h ht
    rw [run_cons, ih howned hts, hget]

theorem owned_some_run_of_flat (h : s.Owned n (some m)) (hts : ∀ t ∈ ts, t.Flat) (c : Clause) :
    ((run s ts).1.store.get n).entries c = (s.store.get n).entries c ++ brought m c ts := by
  induction ts generalizing s with
  | nil => exact (List.append_nil _).symm
  | cons t ts ih =>
    obtain ⟨ht, hts⟩ := List.forall_mem_cons.mp hts
    rw [run_cons]
    rcases owned_some_step h ht with ⟨hnone, howned, hget⟩ | ⟨hsome, howned, hget⟩
    · rw [brought_cons_of_none hnone, ← List.append_assoc, ih howned hts, hget,
        t.entries_on_effect, hnone]
      rfl
    · obtain ⟨q, hq⟩ := Option.isSome_iff_exists.mp hsome
      rw [brought_cons_of_some hq, List.append_nil, owned_none_run_of_flat howned hts, hget]

/-! ### Runs with nested steps -/

theorem fst_run_madeAll (s : Session) (ts : List Step) :
    (run s (s.madeAll ts)).1 = (run s ts).1 := by
  rw [run_madeAll]

theorem sound_run (hs : s.Sound) (ts : List Step) : (run s ts).1.Sound := by
  rw [← fst_run_madeAll]
  exact sound_run_of_flat hs (flat_of_mem_madeAll s ts)

theorem entries_named_run (m : String) (c : Clause) (ts : List Step) :
    ((run start ts).1.named m).entries c = held m c (start.madeAll ts) := by
  rw [← fst_run_madeAll, entries_named_of_flat sound_start (flat_of_mem_madeAll start ts)]
  cases c <;> rfl

theorem entries_run (h : s.Owned n (some m)) (c : Clause) (ts : List Step) :
    ((run s ts).1.store.get n).entries c =
      (s.store.get n).entries c ++ brought m c (s.madeAll ts) := by
  rw [← fst_run_madeAll]
  exact owned_some_run_of_flat h (flat_of_mem_madeAll s ts) c

theorem exists_owned_run_of_flat (hts : ∀ t ∈ ts, t.Flat) (h : ∃ owner, s.Owned n owner) :
    ∃ owner, (run s ts).1.Owned n owner := by
  induction ts generalizing s with
  | nil => exact h
  | cons t ts ih =>
    obtain ⟨ht, hts⟩ := List.forall_mem_cons.mp hts
    obtain ⟨owner, howned⟩ := h
    rw [run_cons]
    cases owner with
    | none => exact ih hts ⟨none, (owned_none_step howned ht).1⟩
    | some m =>
      rcases owned_some_step howned ht with ⟨-, hkeeps, -⟩ | ⟨-, hloses, -⟩
      · exact ih hts ⟨some m, hkeeps⟩
      · exact ih hts ⟨none, hloses⟩

theorem exists_owned_run (h : ∃ owner, s.Owned n owner) (ts : List Step) :
    ∃ owner, (run s ts).1.Owned n owner := by
  rw [← fst_run_madeAll]
  exact exists_owned_run_of_flat (flat_of_mem_madeAll s ts) h

/-- A list grows by what is appended under the name of its query, if the query has one. -/
theorem read_run {v : View} {owner : Option String} (h : s.Owned v.query owner) (ts : List Step) :
    v.read (run s ts).1.store =
      v.read s.store ++ owner.elim [] fun m => brought m v.clause (s.madeAll ts) := by
  cases owner with
  | none =>
    have hget := owned_none_run_of_flat h (flat_of_mem_madeAll s ts)
    rw [fst_run_madeAll] at hget
    rw [View.read, View.read, hget]
    exact (List.append_nil _).symm
  | some m => exact entries_run h v.clause ts

/-- What a view reads only grows, at the end. -/
theorem read_prefix_read_run (hs : s.Sound) (v : View) (ts : List Step) :
    v.read s.store <+: v.read (run s ts).1.store := by
  by_cases hn : v.query < s.store.queries.length
  · obtain ⟨owner, howned⟩ := hs.exists_owned hn
    rw [read_run howned]
    exact List.prefix_append _ _
  · have hempty : s.store.get v.query = .empty := by
      rw [Store.get, List.getElem?_eq_none (by omega)]
      rfl
    have hnil : v.read s.store = [] := by
      rw [View.read, hempty]
      cases v.clause <;> rfl
    rw [hnil]
    exact List.nil_prefix

end Session

end SelectQuery
