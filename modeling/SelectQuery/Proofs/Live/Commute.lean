import SelectQuery.Proofs.Live.History

/-!
# The order of appends

What a query holds depends on the order of the appends to each of its lists and on the last flag
that was set, and on nothing else: not on how appends to different lists stand among each other, and
not on what is done to other queries meanwhile. Main statement: `appends_commute`.
-/

namespace SelectQuery

namespace Step

/-- A step with no steps in it that leaves a name its query. -/
def Keeps (m : String) (t : Step) : Prop := t.Flat ∧ t.begins m = none

/-- The flag that a step sets under a name. -/
def flag? (m : String) : Step → Option Bool
  | .setDistinct k b => if k = m then some b else none
  | _ => none

end Step

/-- What steps append to a list under a name, in order. -/
def appended (m : String) (c : Clause) (steps : List Step) : List c.Entry :=
  steps.flatMap (·.brings m c)

/-- The flags that steps set under a name, in order. -/
def flags (m : String) (steps : List Step) : List Bool := steps.filterMap (·.flag? m)

/-- The flag of a new query after steps: the last one set, if any was. -/
def lastFlag (m : String) (steps : List Step) : Bool := (flags m steps).getLast?.getD true

theorem Step.distinct_edit (m : String) (q : Query) (t : Step) :
    (t.edit m q).distinct = (t.flag? m).getD q.distinct := by
  cases t with
  | setDistinct k b => by_cases hk : k = m <;> simp [edit, flag?, hk, Query.setDistinct]
  | append k d e => by_cases hk : k = m <;> simp [edit, flag?, hk]
  | _ => rfl

namespace Session

variable {s : Session} {m : String} {ts : List Step}

theorem named_step_of_keeps {t : Step} (hs : s.Sound) (ht : t.Keeps m) :
    (step s t).1.named m = t.edit m (s.named m) := by
  obtain ⟨hflat, hbegins⟩ := ht
  rw [named_step hs hflat, t.on_effect, hbegins]
  rfl

theorem entries_named_of_keeps (hs : s.Sound) (hts : ∀ t ∈ ts, t.Keeps m) (c : Clause) :
    ((run s ts).1.named m).entries c = (s.named m).entries c ++ appended m c ts := by
  -- The session changes from step to step and stays sound; what the query held goes in front.
  induction ts generalizing s with
  | nil => exact (List.append_nil _).symm
  | cons t ts ih =>
    obtain ⟨ht, hts⟩ := List.forall_mem_cons.mp hts
    rw [run_cons, ih (sound_step hs ht.1) hts, named_step_of_keeps hs ht, t.entries_edit]
    exact List.append_assoc ..

theorem distinct_named_of_keeps (hs : s.Sound) (hts : ∀ t ∈ ts, t.Keeps m) :
    ((run s ts).1.named m).distinct = (flags m ts).getLast?.getD (s.named m).distinct := by
  induction ts generalizing s with
  | nil => rfl
  | cons t ts ih =>
    obtain ⟨ht, hts⟩ := List.forall_mem_cons.mp hts
    rw [run_cons, ih (sound_step hs ht.1) hts, named_step_of_keeps hs ht, t.distinct_edit, flags,
      flags, List.filterMap_cons]
    cases t.flag? m with
    | none => rfl
    | some b => rw [List.getLast?_cons]; rfl

/-! ### Queries that cannot be told apart -/

/-- Two queries, each of a session and under a name, are written alike under any settings, with the
same log, and every question about them or about one of their lists has one answer. -/
structure Alike (s₁ : Session) (m₁ : String) (s₂ : Session) (m₂ : String) : Prop where
  render : ∀ settings, (step s₁ (.render m₁ settings)).2 = (step s₂ (.render m₂ settings)).2
  ask : ∀ question, (step s₁ (.ask m₁ question)).2 = (step s₂ (.ask m₂ question)).2
  view : ∀ c question, (step s₁ (.askView (.fresh m₁ c) question)).2 =
    (step s₂ (.askView (.fresh m₂ c) question)).2

theorem alike_of_named_eq {s₁ s₂ : Session} {m₁ m₂ : String} (hs₁ : s₁.Sound) (hs₂ : s₂.Sound)
    (h : s₁.named m₁ = s₂.named m₂) : s₁.Alike m₁ s₂ m₂ := by
  have hquery : (s₁.query m₁).2 = (s₂.query m₂).2 := by
    rw [query_eq_named hs₁, query_eq_named hs₂, h]
  refine ⟨fun settings => ?_, fun question => ?_, fun c question => ?_⟩
  · cases settings with
    | error e => rfl
    | ok settings => exact congrArg (fun q => Answer.rendered (settings.render q)) hquery
  · exact congrArg (fun q => answer q question) hquery
  · exact congrArg (fun q => answerView ⟨c, q.entries c⟩ question) hquery

/-- A session in which a name has just been given a new query. -/
def renewed (past : List Step) (m : String) : Session := (run start (past ++ [.renew m])).1

theorem sound_renewed (past : List Step) (m : String) : (renewed past m).Sound :=
  sound_run sound_start _

theorem named_renewed (past : List Step) (m : String) : (renewed past m).named m = .empty := by
  rw [renewed, run_append, run_singleton]
  exact (named_put (sound_run sound_start past) .empty).trans (if_pos rfl)

end Session

open Session

/-- Two new queries with the same appends to each list, and the same last flag, cannot be told
apart, whatever the order of the appends to different lists and whatever else is done between them.
A query to which nothing is done meanwhile is the same before and after. -/
theorem appends_commute (past₁ past₂ : List Step) (m₁ m₂ : String) {ts₁ ts₂ : List Step}
    (hkeeps₁ : ∀ t ∈ ts₁, t.Keeps m₁) (hkeeps₂ : ∀ t ∈ ts₂, t.Keeps m₂)
    (happended : ∀ c, appended m₁ c ts₁ = appended m₂ c ts₂)
    (hflag : lastFlag m₁ ts₁ = lastFlag m₂ ts₂) :
    (run (renewed past₁ m₁) ts₁).1.Alike m₁ (run (renewed past₂ m₂) ts₂).1 m₂ ∧
    ∀ between, (∀ t ∈ between, t.Keeps m₁) → (∀ c, appended m₁ c between = []) →
      flags m₁ between = [] →
      (run (renewed past₁ m₁) ts₁).1.Alike m₁ (run (renewed past₁ m₁) (ts₁ ++ between)).1 m₁ := by
  have hs₁ := sound_run (sound_renewed past₁ m₁) ts₁
  have hs₂ := sound_run (sound_renewed past₂ m₂) ts₂
  refine ⟨alike_of_named_eq hs₁ hs₂ (Query.ext_entries ?_ fun c => ?_), ?_⟩
  · rw [distinct_named_of_keeps (sound_renewed past₁ m₁) hkeeps₁,
      distinct_named_of_keeps (sound_renewed past₂ m₂) hkeeps₂, named_renewed, named_renewed]
    exact hflag
  · rw [entries_named_of_keeps (sound_renewed past₁ m₁) hkeeps₁,
      entries_named_of_keeps (sound_renewed past₂ m₂) hkeeps₂, named_renewed, named_renewed,
      happended]
  · intro between hbetween hnothing hnoflag
    rw [run_append]
    refine alike_of_named_eq hs₁ (sound_run hs₁ between) (Query.ext_entries ?_ fun c => ?_)
    · rw [distinct_named_of_keeps hs₁ hbetween, hnoflag]
      rfl
    · rw [entries_named_of_keeps hs₁ hbetween, hnothing, List.append_nil]

/-- Two orders of five changes, the second among changes to another query; a sixth, which a later
flag undoes, does not count. Then the first query is written and asked while another is made. -/
theorem appends_commute_of_two_orders :
    let ts₁ : List Step := [
      .append "q" .select ⟨"a", none⟩, .append "q" .select ⟨"b", some "x"⟩,
      .append "q" .filter ⟨"p", .or⟩, .append "q" .having ⟨"h", .and⟩, .setDistinct "q" false]
    let ts₂ : List Step := [
      .setDistinct "r" true, .append "r" .having ⟨"h", .and⟩, .append "q" .select ⟨"c", none⟩,
      .append "r" .select ⟨"a", none⟩, .setDistinct "r" false, .append "r" .filter ⟨"p", .or⟩,
      .append "r" .select ⟨"b", some "x"⟩]
    (∀ t ∈ ts₁, t.Keeps "q") ∧ (∀ t ∈ ts₂, t.Keeps "r") ∧
    (∀ c, appended "q" c ts₁ = appended "r" c ts₂) ∧ lastFlag "q" ts₁ = lastFlag "r" ts₂ ∧
    (run (renewed [] "q") ts₁).1.Alike "q" (run (renewed ts₁ "r") ts₂).1 "r" ∧
    let between : List Step := [.render "q" (.ok {}), .renew "r", .append "r" .select ⟨"d", none⟩,
      .ask "q" .isEmpty, .setDistinct "r" false]
    (∀ t ∈ between, t.Keeps "q") ∧ (∀ c, appended "q" c between = []) ∧
    flags "q" between = [] ∧
    (run (renewed [] "q") ts₁).1.Alike "q" (run (renewed [] "q") (ts₁ ++ between)).1 "q" := by
  intro ts₁ ts₂
  have hkeeps₁ : ∀ t ∈ ts₁, t.Keeps "q" := by simp [ts₁, Step.Keeps, Step.Flat, Step.begins]
  have hkeeps₂ : ∀ t ∈ ts₂, t.Keeps "r" := by simp [ts₂, Step.Keeps, Step.Flat, Step.begins]
  have happended : ∀ c, appended "q" c ts₁ = appended "r" c ts₂ := by
    intro c
    cases c <;> rfl
  have hflag : lastFlag "q" ts₁ = lastFlag "r" ts₂ := rfl
  obtain ⟨horders, hbetween⟩ :=
    appends_commute [] ts₁ "q" "r" hkeeps₁ hkeeps₂ happended hflag
  refine ⟨hkeeps₁, hkeeps₂, happended, hflag, horders, ?_⟩
  intro between
  have hkeeps : ∀ t ∈ between, t.Keeps "q" := by
    simp [between, Step.Keeps, Step.Flat, Step.begins]
  have hnothing : ∀ c, appended "q" c between = [] := by
    intro c
    cases c <;> rfl
  exact ⟨hkeeps, hnothing, rfl, hbetween between hkeeps hnothing rfl⟩

end SelectQuery
