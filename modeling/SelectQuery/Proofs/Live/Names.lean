import Mathlib.Data.List.Basic
import SelectQuery.Live.Session

/-!
# Names of queries

A session reaches a query of its store by at most one name, and a query that has lost its name never
gets one again. Both are facts about four ways in which a step can touch the queries, `Effect`: it
leaves them alone, puts one under a name, takes a name away, or changes the query of a name.
-/

namespace SelectQuery

namespace Session

/-! ### Lists of names -/

section Names

variable {α : Type} {m k : String}

theorem lookup_filter_self (names : List (String × α)) (k : String) :
    (names.filter (·.1 ≠ k)).lookup k = none := by
  rw [List.lookup_eq_none_iff]
  intro p hp
  have hne : p.1 ≠ k := of_decide_eq_true (List.mem_filter.mp hp).2
  exact bne_iff_ne.mpr hne.symm

theorem lookup_filter_of_ne (names : List (String × α)) (h : m ≠ k) :
    (names.filter (·.1 ≠ k)).lookup m = names.lookup m := by
  induction names with
  | nil => rfl
  | cons p names ih =>
    obtain ⟨k', a⟩ := p
    by_cases hk : k' = k
    · have hm : (m == k') = false := beq_false_of_ne (hk ▸ h)
      rw [List.filter_cons_of_neg (by simpa using hk), ih, List.lookup_cons, hm]
    · rw [List.filter_cons_of_pos (by simpa using hk), List.lookup_cons, List.lookup_cons, ih]

theorem lookup_bind_self (names : List (String × α)) (k : String) (a : α) :
    (bind k a names).lookup k = some a :=
  List.lookup_cons_self

theorem lookup_bind_of_ne (names : List (String × α)) (a : α) (h : m ≠ k) :
    (bind k a names).lookup m = names.lookup m := by
  rw [bind, List.lookup_cons, beq_false_of_ne h]
  exact lookup_filter_of_ne names h

end Names

/-! ### Owners -/

/-- A query of the store has the name, or has none. -/
def Owned (s : Session) (n : Nat) (owner : Option String) : Prop :=
  n < s.store.queries.length ∧ ∀ m, s.queries.lookup m = some n ↔ owner = some m

/-- Every name has a query of its own. -/
def Sound (s : Session) : Prop := ∀ m n, s.queries.lookup m = some n → s.Owned n (some m)

/-- The query of a name, empty if the name has none. -/
def named (s : Session) (m : String) : Query := (s.queries.lookup m).elim .empty s.store.get

theorem named_of_some {s : Session} {m : String} {n : Nat} (h : s.queries.lookup m = some n) :
    s.named m = s.store.get n := by
  rw [named, h]
  rfl

theorem named_of_none {s : Session} {m : String} (h : s.queries.lookup m = none) :
    s.named m = .empty := by
  rw [named, h]
  rfl

theorem sound_start : start.Sound := nofun

theorem Sound.exists_owned {s : Session} (hs : s.Sound) {n : Nat}
    (hn : n < s.store.queries.length) : ∃ owner, s.Owned n owner := by
  by_cases h : ∃ m, s.queries.lookup m = some n
  · obtain ⟨m, hm⟩ := h
    exact ⟨some m, hs m n hm⟩
  · exact ⟨none, hn, fun m => ⟨fun hm => absurd ⟨m, hm⟩ h, nofun⟩⟩

variable {s : Session} {n : Nat} {owner : Option String} {m k : String}

/-! ### A query put under a name -/

theorem lookup_put_self (q : Query) :
    (s.put k q).queries.lookup k = some s.store.queries.length :=
  lookup_bind_self s.queries k _

theorem lookup_put_of_ne (q : Query) (h : m ≠ k) :
    (s.put k q).queries.lookup m = s.queries.lookup m :=
  lookup_bind_of_ne s.queries _ h

theorem length_put (q : Query) :
    (s.put k q).store.queries.length = s.store.queries.length + 1 :=
  List.length_append

theorem get_put_length (q : Query) : (s.put k q).store.get s.store.queries.length = q :=
  s.store.get_add q

theorem get_put (q : Query) (hn : n < s.store.queries.length) :
    (s.put k q).store.get n = s.store.get n :=
  s.store.get_add_of_lt q hn

theorem Owned.put (h : s.Owned n owner) (q : Query) :
    (s.put k q).Owned n (if owner = some k then none else owner) := by
  obtain ⟨hn, howner⟩ := h
  refine ⟨by rw [length_put]; omega, fun m => ?_⟩
  by_cases hm : m = k
  · have hlength : s.store.queries.length ≠ n := by omega
    rw [hm, lookup_put_self]
    split
    · simp [hlength]
    · next hk => simp [hlength, hk]
  · rw [lookup_put_of_ne q hm, howner]
    split
    · next hk => simp [hk, Ne.symm hm]
    · rfl

theorem Sound.put (hs : s.Sound) (q : Query) : (s.put k q).Sound := by
  intro m n hm
  by_cases hk : m = k
  · subst hk
    rw [lookup_put_self] at hm
    obtain rfl := Option.some.inj hm
    refine ⟨by rw [length_put]; omega, fun m' => ⟨fun hm' => ?_, fun hm' => ?_⟩⟩
    · by_contra hne
      rw [lookup_put_of_ne q fun h => hne (congrArg some h.symm)] at hm'
      -- No name had the number before it was given.
      exact absurd (hs m' _ hm').1 (Nat.lt_irrefl _)
    · obtain rfl := Option.some.inj hm'
      exact lookup_put_self q
  · rw [lookup_put_of_ne q hk] at hm
    have howned := (hs m n hm).put (k := k) q
    rwa [if_neg fun h => hk (Option.some.inj h)] at howned

theorem named_put (hs : s.Sound) (q : Query) :
    (s.put k q).named m = if k = m then q else s.named m := by
  by_cases hk : k = m
  · subst hk
    rw [if_pos rfl, named_of_some (lookup_put_self q)]
    exact get_put_length q
  · rw [if_neg hk, named, named, lookup_put_of_ne q (Ne.symm hk)]
    cases hm : s.queries.lookup m with
    | none => rfl
    | some n => exact get_put q (hs m n hm).1

/-! ### The query of a name -/

theorem number_of_some (h : s.queries.lookup k = some n) : s.number k = (s, n) := by
  rw [number, h]

theorem number_of_none (h : s.queries.lookup k = none) :
    s.number k = (s.put k .empty, s.store.queries.length) := by
  rw [number, h]

theorem lookup_number_self : (s.number k).1.queries.lookup k = some (s.number k).2 := by
  cases h : s.queries.lookup k with
  | some n => rw [number_of_some h, h]
  | none => rw [number_of_none h, lookup_put_self]

theorem Owned.number (h : s.Owned n owner) : (s.number k).1.Owned n owner := by
  cases hk : s.queries.lookup k with
  | some n' => rwa [number_of_some hk]
  | none =>
    have hne : owner ≠ some k := fun heq => by
      rw [(h.2 k).mpr heq] at hk
      cases hk
    have hput := h.put (k := k) .empty
    rw [if_neg hne] at hput
    rwa [number_of_none hk]

/-- A number that has not been given reads as an empty query, and an empty query is what comes into
being under it. -/
theorem get_number (n : Nat) : (s.number k).1.store.get n = s.store.get n := by
  cases hk : s.queries.lookup k with
  | some n' => rw [number_of_some hk]
  | none =>
    rw [number_of_none hk]
    by_cases hn : n < s.store.queries.length
    · exact get_put .empty hn
    · have hnone : s.store.queries[n]? = none := List.getElem?_eq_none (by omega)
      have happend : (s.store.queries ++ [Query.empty])[n]? =
          [Query.empty][n - s.store.queries.length]? := List.getElem?_append_right (by omega)
      have hlast : ([Query.empty][n - s.store.queries.length]?).getD .empty = Query.empty := by
        cases n - s.store.queries.length <;> rfl
      calc (s.put k .empty).store.get n
          = ((s.store.queries ++ [Query.empty])[n]?).getD .empty := rfl
        _ = Query.empty := by rw [happend, hlast]
        _ = s.store.get n := by rw [Store.get, hnone]; rfl

theorem Sound.number (hs : s.Sound) : (s.number k).1.Sound := by
  cases hk : s.queries.lookup k with
  | some n => rwa [number_of_some hk]
  | none =>
    rw [number_of_none hk]
    exact hs.put .empty

theorem named_number (hs : s.Sound) : (s.number k).1.named m = s.named m := by
  cases hk : s.queries.lookup k with
  | some n => rw [number_of_some hk]
  | none =>
    rw [number_of_none hk, named_put hs]
    split
    · next hkm => exact (named_of_none (hkm ▸ hk)).symm
    · rfl

theorem query_eq_named (hs : s.Sound) : (s.query k).2 = s.named k := by
  rw [← named_number hs (k := k), named_of_some lookup_number_self]
  rfl

/-! ### A query changed under its name -/

theorem Owned.modify (h : s.Owned n owner) (f : Query → Query) : (s.modify k f).Owned n owner := by
  obtain ⟨hn, howner⟩ := h.number (k := k)
  exact ⟨lt_of_lt_of_eq hn (List.length_modify ..).symm, howner⟩

theorem get_modify (h : s.Owned n owner) (f : Query → Query) :
    (s.modify k f).store.get n = if owner = some k then f (s.store.get n) else s.store.get n := by
  have hnumber := h.number (k := k)
  have hself := lookup_number_self (s := s) (k := k)
  have hstore : (s.modify k f).store = (s.number k).1.store.modify (s.number k).2 f := rfl
  rw [hstore, ← get_number (k := k) n]
  split
  · next howner =>
    have hn : (s.number k).2 = n := by
      rw [(hnumber.2 k).mpr howner] at hself
      exact (Option.some.inj hself).symm
    rw [hn]
    exact Store.get_modify _ f hnumber.1
  · next howner =>
    refine Store.get_modify_of_ne _ f fun hn => howner ((hnumber.2 k).mp ?_)
    rw [hself, hn]

theorem Sound.modify (hs : s.Sound) (f : Query → Query) : (s.modify k f).Sound := by
  intro m n hm
  obtain ⟨hn, howner⟩ := hs.number m n hm
  exact ⟨lt_of_lt_of_eq hn (List.length_modify ..).symm, howner⟩

theorem named_modify (hs : s.Sound) (f : Query → Query) :
    (s.modify k f).named m = if k = m then f (s.named m) else s.named m := by
  have hself := lookup_number_self (s := s) (k := k)
  rw [← named_number hs (k := k) (m := m)]
  by_cases hkm : k = m
  · subst hkm
    rw [if_pos rfl, named_of_some hself, named_of_some (s := s.modify k f) hself]
    exact Store.get_modify _ f (hs.number k _ hself).1
  · rw [if_neg hkm]
    cases hm : (s.number k).1.queries.lookup m with
    | none => rw [named_of_none hm, named_of_none (s := s.modify k f) hm]
    | some n =>
      rw [named_of_some hm, named_of_some (s := s.modify k f) hm]
      refine Store.get_modify_of_ne _ f fun hn => hkm ?_
      have howner := ((hs.number m n hm).2 k).mp (hn ▸ hself)
      exact (Option.some.inj howner).symm

/-! ### A name taken away -/

def forget (s : Session) (k : String) : Session :=
  { s with queries := s.queries.filter (·.1 ≠ k) }

theorem Owned.forget (h : s.Owned n owner) :
    (s.forget k).Owned n (if owner = some k then none else owner) := by
  obtain ⟨hn, howner⟩ := h
  refine ⟨hn, fun m => ?_⟩
  by_cases hm : m = k
  · rw [hm, Session.forget, lookup_filter_self]
    split
    · simp
    · next hk => simp [hk]
  · rw [Session.forget, lookup_filter_of_ne _ hm, howner]
    split
    · next hk => simp [hk, Ne.symm hm]
    · rfl

theorem Sound.forget (hs : s.Sound) : (s.forget k).Sound := by
  intro m n hm
  have hmk : m ≠ k := fun hmk => by
    rw [hmk, Session.forget, lookup_filter_self] at hm
    cases hm
  rw [Session.forget, lookup_filter_of_ne _ hmk] at hm
  have howned := (hs m n hm).forget (k := k)
  rwa [if_neg fun h => hmk (Option.some.inj h)] at howned

theorem named_forget : (s.forget k).named m = if k = m then .empty else s.named m := by
  split
  · next hkm => exact named_of_none (hkm ▸ lookup_filter_self s.queries k)
  · next hkm =>
    rw [named, named, Session.forget, lookup_filter_of_ne _ (Ne.symm hkm)]

/-! ### Effects -/

end Session

inductive Effect where
  | keep
  | begin (name : String) (q : Query)
  | leave (name : String)
  | change (name : String) (f : Query → Query)

namespace Effect

def apply (s : Session) : Effect → Session
  | .keep => s
  | .begin k q => s.put k q
  | .leave k => s.forget k
  | .change k f => s.modify k f

def on (m : String) (q : Query) : Effect → Query
  | .keep => q
  | .begin k q' => if k = m then q' else q
  | .leave k => if k = m then .empty else q
  | .change k f => if k = m then f q else q

/-- An effect after which the name no longer stands for the query that it stood for. -/
def parts (m : String) : Effect → Bool
  | .begin k _ | .leave k => k = m
  | _ => false

variable {s : Session} {n : Nat} {m : String}

theorem sound_apply (hs : s.Sound) (e : Effect) : (e.apply s).Sound := by
  cases e with
  | keep => exact hs
  | begin k q => exact hs.put q
  | leave k => exact hs.forget
  | change k f => exact hs.modify f

theorem named_apply (hs : s.Sound) (e : Effect) : (e.apply s).named m = e.on m (s.named m) := by
  cases e with
  | keep => rfl
  | begin k q => exact Session.named_put hs q
  | leave k => exact Session.named_forget
  | change k f => exact Session.named_modify hs f

/-- A query without a name keeps its entries and gets no name. -/
theorem owned_none_apply (h : s.Owned n none) (e : Effect) :
    (e.apply s).Owned n none ∧ (e.apply s).store.get n = s.store.get n := by
  cases e with
  | keep => exact ⟨h, rfl⟩
  | begin k q => exact ⟨h.put q, Session.get_put q h.1⟩
  | leave k => exact ⟨h.forget, rfl⟩
  | change k f => exact ⟨h.modify f, Session.get_modify h f⟩

theorem owned_some_apply (h : s.Owned n (some m)) (e : Effect) :
    if e.parts m then (e.apply s).Owned n none ∧ (e.apply s).store.get n = s.store.get n
    else (e.apply s).Owned n (some m) ∧ (e.apply s).store.get n = e.on m (s.store.get n) := by
  have hparts : ∀ k, some m = some k ↔ k = m := fun k => by rw [Option.some.injEq, eq_comm]
  cases e with
  | keep => exact ⟨h, rfl⟩
  | begin k q =>
    have hput := h.put (k := k) q
    have hget := Session.get_put (k := k) q h.1
    rw [parts]
    split
    · next hk =>
      rw [if_pos ((hparts k).mpr (of_decide_eq_true hk))] at hput
      exact ⟨hput, hget⟩
    · next hk =>
      have hne : k ≠ m := by simpa using hk
      rw [if_neg fun heq => hne ((hparts k).mp heq)] at hput
      exact ⟨hput, hget.trans (if_neg hne).symm⟩
  | leave k =>
    have hforget := h.forget (k := k)
    rw [parts]
    split
    · next hk =>
      rw [if_pos ((hparts k).mpr (of_decide_eq_true hk))] at hforget
      exact ⟨hforget, rfl⟩
    · next hk =>
      have hne : k ≠ m := by simpa using hk
      rw [if_neg fun heq => hne ((hparts k).mp heq)] at hforget
      exact ⟨hforget, (if_neg hne).symm⟩
  | change k f =>
    have hget := Session.get_modify (k := k) h f
    simp only [hparts] at hget
    exact ⟨h.modify f, hget⟩

end Effect

end SelectQuery
