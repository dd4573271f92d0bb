import Mathlib.Data.List.Induction
import SelectQuery.Proofs.Live.History

/-!
# What views show

A view shows one list of one query: what had been appended to it when the view was opened, and what
has been appended since. Main statement: `views_show_appends`.
-/

namespace SelectQuery

namespace Session

/-! ### Ways to ask a view -/

/-- Every way to ask the view that a source gives tells of these entries. -/
structure Shows (s : Session) (source : ViewSource) (c : Clause) (es : List c.Entry) : Prop where
  length : (step s (.askView source .length)).2 = .number es.length
  isEmpty : (step s (.askView source .isEmpty)).2 = .flag (es.length == 0)
  nth : ∀ i, (step s (.askView source (.at i))).2 = .entry (es[i]?.map (Sigma.mk c))
  first : (step s (.askView source .first)).2 = .entry (es[0]?.map (Sigma.mk c))
  last : (step s (.askView source .last)).2 = .entry (es[es.length - 1]?.map (Sigma.mk c))
  entries : (step s (.askView source .entries)).2 = .entries ⟨c, es⟩
  json : (Snapshot.mk c es).toJson = .arr (es.map c.entryJson)
  line : (step s (.askView source .line)).2 = .text (Inspect.list (es.map c.entryInspect)).line
  lines : (step s (.askView source .lines)).2 = .text (Inspect.list (es.map c.entryInspect)).lines
  iterate : ∀ it k, (run s (.iterate source it :: List.replicate k (.next it))).2 =
    .done :: (List.range k).map fun i => .taken (es[i]?.map (Sigma.mk c))
  within : ∀ steps, ∃ inner, (step s (.within source steps)).2 = .within inner ⟨c, es⟩

theorem step_next {s : Session} {it : String} {c : Clause} {es : List c.Entry}
    (h : s.iterators.lookup it = some ⟨c, es⟩) :
    step s (.next it) =
      ({ s with iterators := bind it ⟨c, es.drop 1⟩ s.iterators },
        .taken (es.head?.map (Sigma.mk c))) := by
  rw [step, h]
  rfl

/-- The answers of an iterator: the entries one after the other, and then none. -/
theorem takes_succ {c : Clause} (es : List c.Entry) (k : Nat) :
    ((List.range (k + 1)).map fun i => Answer.taken (es[i]?.map (Sigma.mk c))) =
      .taken (es.head?.map (Sigma.mk c)) ::
        (List.range k).map fun i => .taken ((es.drop 1)[i]?.map (Sigma.mk c)) := by
  rw [List.range_succ_eq_map, List.map_cons, List.map_map, List.head?_eq_getElem?]
  simp only [List.getElem?_drop, Function.comp_def, Nat.add_comm 1]

theorem answers_next {s : Session} {it : String} {c : Clause} {es : List c.Entry}
    (h : s.iterators.lookup it = some ⟨c, es⟩) (k : Nat) :
    (run s (List.replicate k (.next it))).2 =
      (List.range k).map fun i => .taken (es[i]?.map (Sigma.mk c)) := by
  induction k generalizing s es with
  | zero => rfl
  | succ k ih =>
    rw [List.replicate_succ, run_cons, step_next h, ih (lookup_bind_self _ it _), takes_succ]

theorem shows_of_view_eq_ok {s : Session} {source : ViewSource} {v : View}
    (h : (s.view source).2 = .ok v) : s.Shows source v.clause (v.read (s.view source).1.store) := by
  have hview : s.view source = ((s.view source).1, .ok v) := Prod.ext rfl h
  have hask : ∀ question, (step s (.askView source question)).2 =
      answerView (v.snapshot (s.view source).1.store) question := by
    intro question
    rw [step, withSnapshot_ok hview]
  refine ⟨hask .length, ?_, fun i => hask (.at i), ?_, ?_, hask .entries, rfl, hask .line,
    hask .lines, fun it k => ?_, fun steps => ?_⟩
  · have hlength : ∀ es : List v.clause.Entry, es.isEmpty = (es.length == 0) := by
      intro es
      cases es <;> rfl
    rw [hask, ← hlength]
    rfl
  · rw [hask, ← List.head?_eq_getElem?]
    rfl
  · rw [hask, ← List.getLast?_eq_getElem?]
    rfl
  · rw [run_cons, step, withSnapshot_ok hview]
    exact congrArg (Answer.done :: ·) (answers_next (lookup_bind_self _ it _) k)
  · rw [step_within_ok hview]
    exact ⟨_, rfl⟩

/-! ### Reading changes nothing -/

end Session

def Step.Reads : Step → Prop
  | .ask _ _ | .render _ _ | .openView _ _ | .askView _ _ | .iterate _ _ | .next _ => True
  | .within _ steps => steps = []
  | _ => False

theorem Step.effect_of_reads {t : Step} (h : t.Reads) :
    t.effect = .keep ∨ ∃ k, t.effect = .change k id := by
  have hsource : ∀ source : ViewSource,
      source.effect = .keep ∨ ∃ k, source.effect = .change k id := by
    intro source
    cases source with
    | named a => exact .inl rfl
    | fresh m c => exact .inr ⟨m, rfl⟩
  cases t with
  | ask m question => exact .inr ⟨m, rfl⟩
  | render m settings => exact .inr ⟨m, rfl⟩
  | openView source slot => exact hsource source
  | askView source question => exact hsource source
  | iterate source it => exact hsource source
  | next it => exact .inl rfl
  | within source steps => exact hsource source
  | _ => exact h.elim

namespace Session

theorem step_reads {s : Session} {t : Step} (hs : s.Sound) (ht : t.Flat) (h : t.Reads) :
    (∀ n, (step s t).1.store.get n = s.store.get n) ∧ ∀ m, (step s t).1.named m = s.named m := by
  obtain ⟨iterators, hstep⟩ := step_eq_effect ht s
  rcases Step.effect_of_reads h with heffect | ⟨k, heffect⟩
  · refine ⟨fun n => ?_, fun m => ?_⟩
    · rw [hstep, heffect]
      rfl
    · rw [named_step hs ht, heffect]
      rfl
  · refine ⟨fun n => ?_, fun m => ?_⟩
    · rw [hstep, heffect, Effect.apply, modify_id]
      exact get_number n
    · rw [named_step hs ht, heffect, Effect.on]
      exact ite_self _

theorem run_reads_of_flat {s : Session} {ts : List Step} (hs : s.Sound) (hts : ∀ t ∈ ts, t.Flat)
    (h : ∀ t ∈ ts, t.Reads) :
    (∀ n, (run s ts).1.store.get n = s.store.get n) ∧ ∀ m, (run s ts).1.named m = s.named m := by
  induction ts generalizing s with
  | nil => exact ⟨fun _ => rfl, fun _ => rfl⟩
  | cons t ts ih =>
    obtain ⟨ht, hts⟩ := List.forall_mem_cons.mp hts
    obtain ⟨hread, hreads⟩ := List.forall_mem_cons.mp h
    obtain ⟨hget, hnamed⟩ := step_reads hs ht hread
    obtain ⟨hgets, hnameds⟩ := ih (sound_step hs ht) hts hreads
    rw [run_cons]
    exact ⟨fun n => (hgets n).trans (hget n), fun m => (hnameds m).trans (hnamed m)⟩

theorem run_reads {s : Session} {ts : List Step} (hs : s.Sound) (h : ∀ t ∈ s.madeAll ts, t.Reads) :
    (∀ n, (run s ts).1.store.get n = s.store.get n) ∧ ∀ m, (run s ts).1.named m = s.named m := by
  rw [← fst_run_madeAll]
  exact run_reads_of_flat hs (flat_of_mem_madeAll s ts) h

end Session

/-! ### Named views -/

/-- After steps of which the first opened a view on a list of a query, a name holds that view: it
was given the view then, or a copy of it later, and was not given another since. -/
inductive Opened (m : String) (c : Clause) (past : List Step) : List Step → String → Prop
  | fresh (a : String) : Opened m c past [.openView (.fresh m c) a] a
  | clone {later : List Step} {a : String} (b : String) (h : Opened m c past later a) :
    Opened m c past (later ++ [.openView (.named a) b]) b
  | keep {later : List Step} {a : String} {t : Step} (h : Opened m c past later a)
    (ht : ∀ source, t = .openView source a →
      (Session.step (Session.run .start (past ++ later)).1 t).2 ≠ .done) :
    Opened m c past (later ++ [t]) a

namespace Session

theorem fst_run_concat (s : Session) (ts : List Step) (t : Step) :
    (run s (ts ++ [t])).1 = (step (run s ts).1 t).1 := by
  rw [run_append, run_singleton]

theorem lookup_views_step {s : Session} {t : Step} {a : String} (ht : t.Flat)
    (h : ∀ source, t = .openView source a → (step s t).2 ≠ .done) :
    (step s t).1.views.lookup a = s.views.lookup a := by
  obtain ⟨iterators, hstep⟩ := step_eq_effect ht s
  have hviews : (step s t).1.views = t.views s := by rw [hstep]
  rw [hviews]
  cases t with
  | openView source slot =>
    rcases hsource : s.view source with ⟨s', name | v⟩
    · rw [Step.views, hsource]
    · have hslot : a ≠ slot := by
        rintro rfl
        exact h source rfl (by rw [step_openView_ok hsource])
      rw [Step.views, hsource]
      exact lookup_bind_of_ne s.views v hslot
  | _ => rfl

end Session

namespace Opened

open Session

variable {m : String} {c : Clause} {past later : List Step} {a : String}

theorem exists_cons (h : Opened m c past later a) :
    ∃ b rest, later = .openView (.fresh m c) b :: rest := by
  induction h with
  | fresh b => exact ⟨b, [], rfl⟩
  | clone b' h ih =>
    obtain ⟨b, rest, rfl⟩ := ih
    exact ⟨b, rest ++ _, rfl⟩
  | keep h ht ih =>
    obtain ⟨b, rest, rfl⟩ := ih
    exact ⟨b, rest ++ _, rfl⟩

theorem lookup_views (h : Opened m c past later a) (hflat : ∀ t ∈ later, t.Flat) :
    (run start (past ++ later)).1.views.lookup a =
      some ⟨((run start past).1.number m).2, c⟩ := by
  induction h with
  | fresh b =>
    rw [fst_run_concat, step_openView_ok rfl]
    exact lookup_bind_self _ b _
  | @clone later a b h ih =>
    have hview : (run start (past ++ later)).1.view (.named a) =
        ((run start (past ++ later)).1, .ok ⟨((run start past).1.number m).2, c⟩) := by
      rw [view, ih (List.forall_mem_append.mp hflat).1]
      rfl
    rw [← List.append_assoc, fst_run_concat, step_openView_ok hview]
    exact lookup_bind_self _ b _
  | @keep later a t h ht ih =>
    obtain ⟨hlater, hlast⟩ := List.forall_mem_append.mp hflat
    rw [← List.append_assoc, fst_run_concat,
      lookup_views_step (hlast t (List.mem_singleton_self t)) ht, ih hlater]

theorem entries_eq (h : Opened m c past later a) (hpast : ∀ t ∈ past, t.Flat)
    (hlater : ∀ t ∈ later, t.Flat) :
    ((run start (past ++ later)).1.store.get ((run start past).1.number m).2).entries c =
      held m c past ++ brought m c later := by
  obtain ⟨b, rest, rfl⟩ := h.exists_cons
  obtain ⟨hopen, hrest⟩ := List.forall_mem_cons.mp hlater
  have hs := sound_run sound_start past
  have hsound := sound_step hs hopen
  have hlookup : (step (run start past).1 (.openView (.fresh m c) b)).1.queries.lookup m =
      some ((run start past).1.number m).2 := by
    rw [step_openView_ok rfl]
    exact lookup_number_self
  have hbefore : ((step (run start past).1 (.openView (.fresh m c) b)).1.store.get
      ((run start past).1.number m).2).entries c = held m c past := by
    rw [← named_of_some hlookup, named_step hs hopen, Step.entries_on_effect, entries_named_run,
      madeAll_of_flat hpast]
    exact List.append_nil _
  rw [run_append, run_cons, entries_run (hsound m _ hlookup), hbefore, madeAll_of_flat hrest,
    brought_cons_of_none rfl]
  rfl

end Opened

namespace Session

/-- Every named view was opened once. -/
theorem exists_opened {ts : List Step} (hflat : ∀ t ∈ ts, t.Flat) {a : String} {v : View}
    (h : (run start ts).1.views.lookup a = some v) :
    ∃ past later m, ts = past ++ later ∧ Opened m v.clause past later a := by
  induction ts using List.reverseRecOn generalizing a v with
  | nil => cases h
  | append_singleton ts t ih =>
    obtain ⟨hts, hlast⟩ := List.forall_mem_append.mp hflat
    have ht := hlast t (List.mem_singleton_self t)
    have hkeep : (∀ source, t = .openView source a → (step (run start ts).1 t).2 ≠ .done) →
        ∃ past later m, ts ++ [t] = past ++ later ∧ Opened m v.clause past later a := by
      intro hopens
      rw [fst_run_concat, lookup_views_step ht hopens] at h
      obtain ⟨past, later, m, rfl, hopened⟩ := ih hts h
      exact ⟨past, later ++ [t], m, List.append_assoc .., hopened.keep hopens⟩
    by_cases hopens : ∀ source, t = .openView source a → (step (run start ts).1 t).2 ≠ .done
    · exact hkeep hopens
    · simp only [not_forall, not_not] at hopens
      obtain ⟨source, rfl, hdone⟩ := hopens
      rcases hsource : (run start ts).1.view source with ⟨s', name | v'⟩
      · rw [step_openView_error hsource] at hdone
        cases hdone
      · rw [fst_run_concat, step_openView_ok hsource] at h
        obtain rfl := Option.some.inj ((lookup_bind_self _ a v').symm.trans h)
        cases source with
        | fresh m c =>
          obtain ⟨-, hv⟩ := Prod.mk.inj hsource
          obtain rfl := Except.ok.inj hv
          exact ⟨ts, _, m, rfl, .fresh a⟩
        | named b =>
          obtain ⟨-, hv⟩ := Prod.mk.inj hsource
          cases hb : (run start ts).1.views.lookup b with
          | none =>
            rw [hb] at hv
            cases hv
          | some w =>
            rw [hb] at hv
            obtain rfl := Except.ok.inj hv
            obtain ⟨past, later, m, rfl, hopened⟩ := ih hts hb
            exact ⟨past, _, m, List.append_assoc .., hopened.clone a⟩

/-! ### All views at all moments -/

theorem shows_fresh (past : List Step) (m : String) (c : Clause) :
    (run start past).1.Shows (.fresh m c) c (held m c (start.madeAll past)) := by
  have hs := sound_run sound_start past
  have hread : View.read ⟨((run start past).1.number m).2, c⟩
      ((run start past).1.number m).1.store = held m c (start.madeAll past) := by
    rw [← entries_named_run, ← named_number hs (k := m), named_of_some lookup_number_self]
    rfl
  have hview : ((run start past).1.view (.fresh m c)).2 =
      .ok ⟨((run start past).1.number m).2, c⟩ := rfl
  rw [← hread]
  exact shows_of_view_eq_ok hview

theorem shows_of_opened {ts past later : List Step} {m : String} {c : Clause} {a : String}
    (hts : start.madeAll ts = past ++ later) (h : Opened m c past later a) :
    (run start ts).1.Shows (.named a) c (held m c past ++ brought m c later) := by
  obtain ⟨hpast, hlater⟩ := List.forall_mem_append.mp (hts ▸ flat_of_mem_madeAll start ts)
  have hview : ((run start ts).1.view (.named a)).2 =
      .ok ⟨((run start past).1.number m).2, c⟩ := by
    rw [← fst_run_madeAll start ts, hts, view, h.lookup_views hlater]
    rfl
  have hread : View.read ⟨((run start past).1.number m).2, c⟩ (run start ts).1.store =
      held m c past ++ brought m c later := by
    rw [← fst_run_madeAll start ts, hts, ← h.entries_eq hpast hlater]
    rfl
  rw [← hread]
  exact shows_of_view_eq_ok hview

theorem exists_opened_of_view {ts : List Step} {a : String} {v : View}
    (h : ((run start ts).1.view (.named a)).2 = .ok v) :
    ∃ past later m, start.madeAll ts = past ++ later ∧ Opened m v.clause past later a := by
  refine exists_opened (flat_of_mem_madeAll start ts) ?_
  rw [fst_run_madeAll]
  cases ha : (run start ts).1.views.lookup a with
  | none =>
    rw [view, ha] at h
    cases h
  | some w =>
    rw [view, ha] at h
    exact congrArg some (Except.ok.inj h)

theorem getElem?_read_run {s : Session} (hs : s.Sound) (v : View) (ts : List Step) {i : Nat}
    {e : v.clause.Entry} (h : (v.read s.store)[i]? = some e) :
    (v.read (run s ts).1.store)[i]? = some e := by
  obtain ⟨es, hes⟩ := read_prefix_read_run hs v ts
  obtain ⟨hi, -⟩ := List.getElem?_eq_some_iff.mp h
  rw [← hes, List.getElem?_append_left hi, h]

theorem entries_query_run (past : List Step) (m : String) (c : Clause) :
    ((run start past).1.query m).2.entries c = held m c (start.madeAll past) := by
  rw [query_eq_named (sound_run sound_start past), entries_named_run]

theorem answer_isEmpty_iff (q : Query) :
    answer q .isEmpty = .flag true ↔ ∀ c, q.entries c = [] := by
  rw [answer, Answer.flag.injEq, Query.isEmpty_eq_true_iff]

end Session

open Session

/-- Views, names and iterators over runs of any length with steps nested to any depth. -/
structure LiveViews : Prop where
  /-- Nested steps are made, and answered, in their place. -/
  nested : ∀ (s : Session) ts, run s (s.madeAll ts) = ((run s ts).1, Answer.givenAll (run s ts).2)
  /-- Any first steps of a run, nested ones included, are a run. -/
  moment : ∀ (s : Session) ts now, now <+: s.madeAll ts → s.madeAll now = now
  /-- A view opened now shows what has been appended to its list. -/
  fresh : ∀ past m c, (run start past).1.Shows (.fresh m c) c (held m c (start.madeAll past))
  /-- A view opened earlier, or a copy of it, shows that and what has been appended since. -/
  opened : ∀ ts past later m c a, start.madeAll ts = past ++ later → Opened m c past later a →
    (run start ts).1.Shows (.named a) c (held m c past ++ brought m c later)
  /-- There are no other named views. -/
  origin : ∀ ts a v, ((run start ts).1.view (.named a)).2 = .ok v →
    ∃ past later m, start.madeAll ts = past ++ later ∧ Opened m v.clause past later a
  /-- An entry that a view has shown stays where it is. -/
  lasting : ∀ past later (v : View) (i : Nat) e, (v.read (run start past).1.store)[i]? = some e →
    (v.read (run start (past ++ later)).1.store)[i]? = some e
  /-- Reads and renders change no list and no query. -/
  reading : ∀ past later, (∀ t ∈ (run start past).1.madeAll later, t.Reads) →
    (∀ v : View, v.read (run start (past ++ later)).1.store = v.read (run start past).1.store) ∧
    ∀ m, ((run start (past ++ later)).1.query m).2 = ((run start past).1.query m).2
  /-- A query is asked and written as what has been appended to its lists; it is empty when that is
  nothing. -/
  query : ∀ past m, ∃ q : Query, (∀ c, q.entries c = held m c (start.madeAll past)) ∧
    (∀ question, (step (run start past).1 (.ask m question)).2 = answer q question) ∧
    (∀ settings, (step (run start past).1 (.render m (.ok settings))).2 =
      .rendered (settings.render q)) ∧
    ((step (run start past).1 (.ask m .isEmpty)).2 = .flag true ↔
      ∀ c, held m c (start.madeAll past) = [])
  /-- A predicate that comes without a connective is held with AND. -/
  connective : ∀ past m formula connective,
    held m .filter (past ++ [.append m .filter (.of formula connective)]) =
      held m .filter past ++ [⟨formula, connective.getD .and⟩] ∧
    held m .having (past ++ [.append m .having (.of formula connective)]) =
      held m .having past ++ [⟨formula, connective.getD .and⟩]

/-- At every moment of every run, every view shows exactly what has been appended to its list. -/
theorem views_show_appends : LiveViews where
  nested := run_madeAll
  moment s ts now hnow :=
    madeAll_of_flat (fun t ht => flat_of_mem_madeAll s ts t (hnow.subset ht)) s
  fresh := shows_fresh
  opened ts past later m c a := shows_of_opened
  origin ts a v := exists_opened_of_view
  lasting past later v i e h := by
    rw [run_append]
    exact getElem?_read_run (sound_run sound_start past) v later h
  reading past later h := by
    have hs := sound_run sound_start past
    obtain ⟨hget, hnamed⟩ := run_reads hs h
    rw [run_append]
    refine ⟨fun v => ?_, fun m => ?_⟩
    · rw [View.read, View.read, hget]
    · rw [query_eq_named (sound_run hs later), query_eq_named hs, hnamed]
  query past m := by
    have hentries := entries_query_run past m
    refine ⟨((run start past).1.query m).2, hentries, fun _ => rfl, fun _ => rfl, ?_⟩
    have hempty := answer_isEmpty_iff ((run start past).1.query m).2
    simp only [hentries] at hempty
    exact hempty
  connective past m formula connective := by
    constructor <;> simp [held, Step.begins, Step.brings, Predicate.of]

/-- A view is copied after a nested append, and the copy outlives the name of its query. -/
theorem views_show_appends_of_renewed_name :
    let past : List Step := [.append "m" .source ⟨"a", none⟩]
    let later : List Step := [.openView (.fresh "m" .source) "v", .within (.named "v") [],
      .append "m" .source ⟨"b", some "x"⟩, .openView (.named "v") "w", .renew "m",
      .append "m" .source ⟨"c", none⟩]
    let ts : List Step := past ++ [.openView (.fresh "m" .source) "v",
      .within (.named "v") [.append "m" .source ⟨"b", some "x"⟩], .openView (.named "v") "w",
      .renew "m", .append "m" .source ⟨"c", none⟩]
    let reads : List Step := [.askView (.named "w") .entries, .render "m" (.ok {})]
    let v : View := ⟨0, .source⟩
    start.madeAll ts = past ++ later ∧ start.madeAll past = past ∧
    Opened "m" .source past later "w" ∧
    (run start ts).1.Shows (.named "w") .source [⟨"a", none⟩, ⟨"b", some "x"⟩] ∧
    ((run start ts).1.view (.named "w")).2 = .ok v ∧
    (∃ past later m, start.madeAll ts = past ++ later ∧ Opened m .source past later "w") ∧
    (v.read (run start past).1.store)[0]? = some ⟨"a", none⟩ ∧
    (v.read (run start (past ++ later)).1.store)[0]? = some ⟨"a", none⟩ ∧
    (∀ t ∈ (run start ts).1.madeAll reads, t.Reads) ∧
    v.read (run start (ts ++ reads)).1.store = v.read (run start ts).1.store := by
  intro past later ts reads v
  have hmade : start.madeAll ts = past ++ later := rfl
  have hopened : Opened "m" .source past later "w" := by
    have hv : Opened "m" .source past [.openView (.fresh "m" .source) "v"] "v" := .fresh "v"
    have hnested := (hv.keep (t := .within (.named "v") []) nofun).keep
      (t := .append "m" .source ⟨"b", some "x"⟩) nofun
    exact ((hnested.clone "w").keep (t := .renew "m") nofun).keep
      (t := .append "m" .source ⟨"c", none⟩) nofun
  have hview : ((run start ts).1.view (.named "w")).2 = .ok v := rfl
  have hfirst : (v.read (run start past).1.store)[0]? = some ⟨"a", none⟩ := rfl
  have hreads : ∀ t ∈ (run start ts).1.madeAll reads, t.Reads := by
    have hflat : (run start ts).1.madeAll reads = reads := rfl
    rw [hflat]
    simp [reads, Step.Reads]
  exact ⟨hmade, views_show_appends.moment start ts past ⟨later, hmade.symm⟩, hopened,
    views_show_appends.opened ts past later "m" .source "w" hmade hopened, hview,
    views_show_appends.origin ts "w" v hview, hfirst,
    views_show_appends.lasting past later v 0 _ hfirst, hreads,
    (views_show_appends.reading ts reads hreads).1 v⟩

end SelectQuery
