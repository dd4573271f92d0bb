import Mathlib.Data.List.Forall2
import SelectQuery.Case.Reading

/-!
# Streams of documents

Every document of a stream is blank, holds a case or is at fault (`Blank`, `Holds`, `Faulty`), and
the reading of a stream has one of three ends (`ReadsTo`): the first fault, nothing at all, or the
cases that the documents hold. Documents are numbered from the start of the stream, blank ones
included, and a number is told only where YAML or the shape of a case is at fault, so that is all
that blank documents can change. Main statement: `stream_ends_at_first_fault`.
-/

namespace SelectQuery

namespace CaseError

/-- The error with another number for its document. -/
def renumber (f : Nat → Nat) : CaseError → CaseError
  | document index fault => document (f index) fault
  | e => e

end CaseError

namespace Case

/-- A document as a stream delivers it: its value, or why it has none. -/
abbrev Document := Except Yaml.SyntaxError Yaml.Node

/-- The document with nothing in it. -/
def blank : Document := .ok (.scalar .null)

def Blank (d : Document) : Prop := d = blank

instance : DecidablePred Blank := fun d =>
  match d with
  | .ok (.scalar a) => decidable_of_iff (a = .null) (by simp [Blank, blank])
  | .ok (.list _) => isFalse (by simp [Blank, blank])
  | .ok (.map _) => isFalse (by simp [Blank, blank])
  | .error _ => isFalse (by simp [Blank, blank])

/-- A document holds a case, which expects a text or an error and not both. -/
inductive Holds : Document → Case → Prop
  | intro {v : Yaml.Node} {c : Case} (hnull : v.isNull = false) (hcase : ofNode v = .ok c)
    (hone : c.expected.isSome ≠ c.error.isSome) : Holds (.ok v) c

/-- What is wrong with the document of a number. -/
inductive Faulty (index : Nat) : Document → CaseError → Prop
  | text (e : Yaml.SyntaxError) : Faulty index (.error e) (.document index (.text e))
  | shape {v : Yaml.Node} {e : DecodeError} (hnull : v.isNull = false)
    (hcase : ofNode v = .error e) : Faulty index (.ok v) (.document index (.shape e))
  | both {v : Yaml.Node} {c : Case} (hnull : v.isNull = false) (hcase : ofNode v = .ok c)
    (hexpected : c.expected.isSome) (herror : c.error.isSome) :
    Faulty index (.ok v) (.ambiguous c.description)
  | neither {v : Yaml.Node} {c : Case} (hnull : v.isNull = false) (hcase : ofNode v = .ok c)
    (hexpected : c.expected = none) (herror : c.error = none) :
    Faulty index (.ok v) (.ambiguous c.description)

/-- How the reading of a stream ends. -/
inductive ReadsTo (ds : List Document) : Except CaseError (List Case) → Prop
  /-- The first document at fault decides. -/
  | fault {before after : List Document} {d : Document} {e : CaseError}
    (hds : ds = before ++ d :: after) (hbefore : ∀ d ∈ before, Blank d ∨ ∃ c, Holds d c)
    (hfault : Faulty before.length d e) : ReadsTo ds (.error e)
  | empty (hblank : ∀ d ∈ ds, Blank d) : ReadsTo ds (.error .empty)
  /-- The documents that are not blank hold one case each, in this order. -/
  | cases {cs : List Case} (hne : cs ≠ [])
    (hcases : List.Forall₂ Holds (ds.filter (¬Blank ·)) cs) : ReadsTo ds (.ok cs)

/-- What two streams are read to when the second follows the first, which has `n` documents. -/
def joined (n : Nat) : Except CaseError (List Case) → Except CaseError (List Case) →
    Except CaseError (List Case)
  | .ok cs, .ok cs' => .ok (cs ++ cs')
  | .ok cs, .error .empty => .ok cs
  | .error .empty, .ok cs' => .ok cs'
  | .error .empty, .error e => .error (e.renumber (n + ·))
  | .ok _, .error e => .error (e.renumber (n + ·))
  | .error e, _ => .error e

/-! ### One document -/

variable {i : Nat} {d : Document} {c : Case} {e : CaseError} {ds before : List Document}
  {cs : List Case}

theorem isNull_eq_true_iff {v : Yaml.Node} : v.isNull = true ↔ Blank (.ok v) := by
  cases v with
  | scalar a => cases a <;> simp [Yaml.Node.isNull, Blank, blank]
  | _ => simp [Yaml.Node.isNull, Blank, blank]

theorem Holds.not_blank (h : Holds d c) : ¬Blank d := by
  cases h with
  | intro hnull => rw [← isNull_eq_true_iff, hnull]; exact Bool.false_ne_true

theorem blank_or_holds_or_faulty (i : Nat) (d : Document) :
    Blank d ∨ (∃ c, Holds d c) ∨ ∃ e, Faulty i d e := by
  cases d with
  | error e => exact .inr (.inr ⟨_, .text e⟩)
  | ok v =>
    cases hnull : v.isNull with
    | true => exact .inl (isNull_eq_true_iff.mp hnull)
    | false =>
      cases hcase : ofNode v with
      | error e => exact .inr (.inr ⟨_, .shape hnull hcase⟩)
      | ok c =>
        cases hexpected : c.expected <;> cases herror : c.error
        · exact .inr (.inr ⟨_, .neither hnull hcase hexpected herror⟩)
        · exact .inr (.inl ⟨c, .intro hnull hcase (by simp [hexpected, herror])⟩)
        · exact .inr (.inl ⟨c, .intro hnull hcase (by simp [hexpected, herror])⟩)
        · exact .inr (.inr ⟨_, .both hnull hcase (by simp [hexpected]) (by simp [herror])⟩)

theorem ofDocument_of_blank (h : Blank d) : ofDocument i d = .ok none := by
  rw [h]
  rfl

/-- A document that is not blank is read as a case, which may not be ambiguous. -/
theorem ofDocument_of_not_null {v : Yaml.Node} (h : v.isNull = false) :
    ofDocument i (.ok v) =
      match ofNode v with
      | .error e => .error (.document i (.shape e))
      | .ok c => if c.isAmbiguous then .error (.ambiguous c.description) else .ok (some c) := by
  rw [ofDocument, h]
  rfl

theorem ofDocument_of_holds (h : Holds d c) : ofDocument i d = .ok (some c) := by
  cases h with
  | intro hnull hcase hone =>
    rw [ofDocument_of_not_null hnull, hcase]
    exact if_neg (by simpa [isAmbiguous] using hone)

theorem ofDocument_of_faulty (h : Faulty i d e) : ofDocument i d = .error e := by
  cases h with
  | text e => rfl
  | shape hnull hcase => rw [ofDocument_of_not_null hnull, hcase]
  | both hnull hcase hexpected herror =>
    rw [ofDocument_of_not_null hnull, hcase]
    exact if_pos (by simp [isAmbiguous, hexpected, herror])
  | neither hnull hcase hexpected herror =>
    rw [ofDocument_of_not_null hnull, hcase]
    exact if_pos (by simp [isAmbiguous, hexpected, herror])

theorem Holds.expectation (h : Holds d c) : ∃ x, c.expectation = some x ∧
    ((∃ text, x = .sql text) ↔ c.expected.isSome = true) := by
  cases h with
  | intro _ _ hone =>
    rw [Case.expectation]
    cases hexpected : c.expected with
    | some text => exact ⟨_, rfl, fun _ => rfl, fun _ => ⟨_, rfl⟩⟩
    | none =>
      cases herror : c.error with
      | some name => exact ⟨_, rfl, nofun, nofun⟩
      | none => exact absurd (by rw [hexpected, herror]) hone

/-! ### The documents of a stream -/

theorem collect_cons (i : Nat) (d : Document) (ds : List Document) :
    collect i (d :: ds) = do
      let c ← ofDocument i d
      let cs ← collect (i + 1) ds
      return c.toList ++ cs :=
  rfl

theorem exists_holds_of_mem (h : List.Forall₂ Holds ds cs) (hc : c ∈ cs) : ∃ d, Holds d c := by
  induction h with
  | nil => cases hc
  | cons hholds _ ih =>
    rcases List.mem_cons.mp hc with rfl | hc
    · exact ⟨_, hholds⟩
    · exact ih hc

theorem collect_append (i : Nat) (ds es : List Document) :
    collect i (ds ++ es) = do
      let cs ← collect i ds
      let cs' ← collect (i + ds.length) es
      return cs ++ cs' := by
  induction ds generalizing i with
  | nil => exact (bind_pure (collect i es)).symm
  | cons d ds ih =>
    simp only [List.cons_append, collect_cons, ih, bind_assoc, pure_bind, List.append_assoc,
      List.length_cons, Nat.add_assoc, Nat.add_comm 1]

theorem collect_of_forall₂ (h : List.Forall₂ Holds (ds.filter (¬Blank ·)) cs) (i : Nat) :
    collect i ds = .ok cs := by
  induction ds generalizing i cs with
  | nil => cases h; rfl
  | cons d ds ih =>
    by_cases hd : Blank d
    · rw [List.filter_cons_of_neg (by simpa using hd)] at h
      rw [collect_cons, ofDocument_of_blank hd, ih h]
      rfl
    · rw [List.filter_cons_of_pos (by simpa using hd)] at h
      cases h with
      | cons hholds h =>
        rw [collect_cons, ofDocument_of_holds hholds, ih h]
        rfl

theorem exists_forall₂_of_forall (h : ∀ d ∈ ds, Blank d ∨ ∃ c, Holds d c) :
    ∃ cs, List.Forall₂ Holds (ds.filter (¬Blank ·)) cs := by
  induction ds with
  | nil => exact ⟨[], .nil⟩
  | cons d ds ih =>
    obtain ⟨hd, hds⟩ := List.forall_mem_cons.mp h
    obtain ⟨cs, hcs⟩ := ih hds
    rcases hd with hblank | ⟨c, hholds⟩
    · exact ⟨cs, by rwa [List.filter_cons_of_neg (by simpa using hblank)]⟩
    · refine ⟨c :: cs, ?_⟩
      rw [List.filter_cons_of_pos (by simpa using hholds.not_blank)]
      exact .cons hholds hcs

theorem collect_of_faulty {after : List Document} (hbefore : ∀ d ∈ before, Blank d ∨ ∃ c, Holds d c)
    (hfault : Faulty (i + before.length) d e) : collect i (before ++ d :: after) = .error e := by
  obtain ⟨cs, hcs⟩ := exists_forall₂_of_forall hbefore
  rw [collect_append, collect_of_forall₂ hcs, collect_cons, ofDocument_of_faulty hfault]
  rfl

/-- Documents that start at another number are read alike, the numbers in errors changed. -/
theorem collect_renumber {j : Nat} {f : Nat → Nat} (h : ∀ k < ds.length, f (i + k) = j + k) :
    (collect i ds).mapError (·.renumber f) = collect j ds := by
  induction ds generalizing i j with
  | nil => rfl
  | cons d ds ih =>
    have hi : f i = j := h 0 (Nat.zero_lt_succ _)
    have hds : (collect (i + 1) ds).mapError (·.renumber f) = collect (j + 1) ds := by
      refine ih fun k hk => ?_
      rw [Nat.add_right_comm, Nat.add_right_comm j]
      exact h (k + 1) (Nat.succ_lt_succ hk)
    rw [collect_cons, collect_cons, ← hds]
    rcases blank_or_holds_or_faulty i d with hblank | ⟨c, hholds⟩ | ⟨e, hfault⟩
    · rw [ofDocument_of_blank hblank, ofDocument_of_blank hblank]
      cases collect (i + 1) ds <;> rfl
    · rw [ofDocument_of_holds hholds, ofDocument_of_holds hholds]
      cases collect (i + 1) ds <;> rfl
    · have hrenumber : Faulty j d (e.renumber f) := by
        cases hfault with
        | text e => rw [CaseError.renumber, hi]; exact .text e
        | shape hnull hcase => rw [CaseError.renumber, hi]; exact .shape hnull hcase
        | both hnull hcase hexpected herror => exact .both hnull hcase hexpected herror
        | neither hnull hcase hexpected herror => exact .neither hnull hcase hexpected herror
      rw [ofDocument_of_faulty hfault, ofDocument_of_faulty hrenumber]
      rfl

theorem forall_or_exists_faulty (i : Nat) (ds : List Document) :
    (∀ d ∈ ds, Blank d ∨ ∃ c, Holds d c) ∨
    ∃ before d after e, ds = before ++ d :: after ∧ (∀ d ∈ before, Blank d ∨ ∃ c, Holds d c) ∧
      Faulty (i + before.length) d e := by
  induction ds generalizing i with
  | nil => exact .inl nofun
  | cons d ds ih =>
    rcases or_assoc.mpr (blank_or_holds_or_faulty i d) with hd | ⟨e, hfault⟩
    · rcases ih (i + 1) with hds | ⟨before, d', after, e, rfl, hbefore, hfault⟩
      · exact .inl (List.forall_mem_cons.mpr ⟨hd, hds⟩)
      · rw [Nat.add_assoc, Nat.add_comm 1] at hfault
        exact .inr ⟨d :: before, d', after, e, rfl, List.forall_mem_cons.mpr ⟨hd, hbefore⟩, hfault⟩
    · exact .inr ⟨[], d, ds, e, rfl, nofun, hfault⟩

theorem collect_ne_empty (i : Nat) (ds : List Document) : collect i ds ≠ .error .empty := by
  rcases forall_or_exists_faulty i ds with hds | ⟨before, d, after, e, rfl, hbefore, hfault⟩
  · obtain ⟨cs, hcs⟩ := exists_forall₂_of_forall hds
    rw [collect_of_forall₂ hcs]
    nofun
  · rw [collect_of_faulty hbefore hfault]
    rintro ⟨⟩
    cases hfault

theorem collect_replicate_blank (i n : Nat) : collect i (List.replicate n blank) = .ok [] := by
  refine collect_of_forall₂ ?_ i
  have hnone : (List.replicate n blank).filter (¬Blank ·) = [] :=
    List.filter_eq_nil_iff.mpr fun d hd => by simp [Blank, List.eq_of_mem_replicate hd]
  rw [hnone]
  exact .nil

theorem collect_blank_append (i n : Nat) (ds : List Document) :
    collect i (List.replicate n blank ++ ds) = collect (i + n) ds := by
  rw [collect_append, collect_replicate_blank, List.length_replicate]
  exact bind_pure (collect (i + n) ds)

/-! ### Whole streams -/

theorem ofDocuments_eq (ds : List Document) : ofDocuments ds =
    match collect 0 ds with
    | .ok [] => .error .empty
    | r => r := by
  rw [ofDocuments]
  cases collect 0 ds with
  | error e => rfl
  | ok cs => cases cs <;> rfl

theorem ofDocuments_of_readsTo {r : Except CaseError (List Case)} (h : ReadsTo ds r) :
    ofDocuments ds = r := by
  rw [ofDocuments_eq]
  cases h with
  | fault hds hbefore hfault => rw [hds, collect_of_faulty hbefore (by rwa [Nat.zero_add])]
  | empty hblank => rw [List.eq_replicate_of_mem hblank, collect_replicate_blank]
  | @cases cs hne hcases =>
    obtain ⟨c, cs, rfl⟩ := List.exists_cons_of_ne_nil hne
    rw [collect_of_forall₂ hcases]

theorem exists_readsTo (ds : List Document) : ∃ r, ReadsTo ds r := by
  rcases forall_or_exists_faulty 0 ds with hds | ⟨before, d, after, e, hds, hbefore, hfault⟩
  · obtain ⟨cs, hcs⟩ := exists_forall₂_of_forall hds
    cases cs with
    | nil =>
      have hfilter := List.filter_eq_nil_iff.mp (List.forall₂_nil_right_iff.mp hcs)
      exact ⟨_, .empty fun d hd => by simpa using hfilter d hd⟩
    | cons c cs => exact ⟨_, .cases (List.cons_ne_nil c cs) hcs⟩
  · exact ⟨_, .fault hds hbefore (by rwa [Nat.zero_add] at hfault)⟩

theorem ofDocuments_eq_iff (ds : List Document) (r : Except CaseError (List Case)) :
    ofDocuments ds = r ↔ ReadsTo ds r := by
  refine ⟨?_, ofDocuments_of_readsTo⟩
  rintro rfl
  obtain ⟨r, hr⟩ := exists_readsTo ds
  rwa [ofDocuments_of_readsTo hr]

theorem ofDocuments_append (ds es : List Document) :
    ofDocuments (ds ++ es) = joined ds.length (ofDocuments ds) (ofDocuments es) := by
  have hes : collect ds.length es = (collect 0 es).mapError (·.renumber (ds.length + ·)) :=
    (collect_renumber fun k _ => by rw [Nat.zero_add]).symm
  rw [ofDocuments_eq, ofDocuments_eq, ofDocuments_eq, collect_append, Nat.zero_add, hes]
  cases hds : collect 0 ds with
  | error e =>
    cases e with
    | empty => exact absurd hds (collect_ne_empty 0 ds)
    | _ => rfl
  | ok cs =>
    cases hes' : collect 0 es with
    | error e =>
      cases e with
      | empty => exact absurd hes' (collect_ne_empty 0 es)
      | _ => cases cs <;> rfl
    | ok cs' =>
      cases cs with
      | nil => cases cs' <;> rfl
      | cons c cs =>
        cases cs' with
        | nil => exact congrArg Except.ok (List.append_nil (c :: cs))
        | cons c' cs' => rfl

theorem ofDocuments_insert_blank (before after : List Document) (n : Nat) :
    ofDocuments (before ++ List.replicate n blank ++ after) =
      (ofDocuments (before ++ after)).mapError
        (·.renumber fun i => if i < before.length then i else i + n) := by
  have hbefore : (collect 0 before).mapError
      (·.renumber fun i => if i < before.length then i else i + n) = collect 0 before := by
    refine collect_renumber fun k hk => ?_
    rw [Nat.zero_add, if_pos hk]
  have hafter : (collect before.length after).mapError
      (·.renumber fun i => if i < before.length then i else i + n) =
      collect (before.length + n) after := by
    refine collect_renumber fun k _ => ?_
    rw [if_neg (by omega), Nat.add_right_comm]
  have hinserted : collect 0 (before ++ List.replicate n blank ++ after) =
      (collect 0 (before ++ after)).mapError
        (·.renumber fun i => if i < before.length then i else i + n) := by
    rw [List.append_assoc, collect_append 0 before after, collect_append 0 before, Nat.zero_add,
      collect_blank_append, ← hafter]
    cases hcs : collect 0 before with
    | error e =>
      rw [hcs] at hbefore
      exact hbefore.symm
    | ok cs => cases collect before.length after <;> rfl
  rw [ofDocuments_eq, ofDocuments_eq, hinserted]
  cases collect 0 (before ++ after) with
  | error e => rfl
  | ok cs => cases cs <;> rfl

theorem expectation_of_mem (h : ofDocuments ds = .ok cs) (hc : c ∈ cs) : ∃ x,
    c.expectation = some x ∧ ((∃ text, x = .sql text) ↔ c.expected.isSome = true) := by
  cases (ofDocuments_eq_iff ds _).mp h with
  | cases _ hcases =>
    obtain ⟨d, hholds⟩ := exists_holds_of_mem hcases hc
    exact hholds.expectation

end Case

open Case

/-- How streams of documents of any length are read. -/
structure StreamReading : Prop where
  /-- A text is read as the documents that YAML finds in it. -/
  text : ∀ content, ofText content = ofDocuments (Yaml.documents content)
  /-- The first document at fault decides; if none is, all cases are given, of which there has to be
  one. -/
  outcome : ∀ ds r, ofDocuments ds = r ↔ ReadsTo ds r
  /-- Every case that is given expects something, a text exactly when one is written. -/
  expectation : ∀ ds cs, ofDocuments ds = .ok cs → ∀ c ∈ cs, ∃ x, c.expectation = some x ∧
    ((∃ text, x = .sql text) ↔ c.expected.isSome = true)
  /-- Blank documents put in anywhere, or taken out, change no more than the number in an error. -/
  blanks : ∀ before after n, ofDocuments (before ++ List.replicate n blank ++ after) =
    (ofDocuments (before ++ after)).mapError
      (·.renumber fun i => if i < before.length then i else i + n)
  /-- Streams are read one after the other; a fault in the first hides what comes after it. -/
  append : ∀ ds es, ofDocuments (ds ++ es) = joined ds.length (ofDocuments ds) (ofDocuments es)

theorem stream_ends_at_first_fault : StreamReading where
  text _ := rfl
  outcome := ofDocuments_eq_iff
  expectation _ _ h _ hc := expectation_of_mem h hc
  blanks := ofDocuments_insert_blank
  append := ofDocuments_append

/-- A document that holds a case and one at fault, with a blank document before each. -/
theorem stream_ends_at_first_fault_of_list :
    let held : Document := .ok (.map [(.scalar (.text "description"), .scalar (.text "a")),
      (.scalar (.text "error"), .scalar (.text "b"))])
    let c : Case := ⟨"a", none, {}, none, some "b"⟩
    let before : List Document := [blank, held, blank]
    Holds held c ∧ ReadsTo before (.ok [c]) ∧ ofDocuments before = .ok [c] ∧
    (∃ x, c.expectation = some x ∧ ((∃ text, x = .sql text) ↔ c.expected.isSome = true)) ∧
    ofDocuments (before ++ [.ok (.list [])]) =
      .error (.document 3 (.shape (.wrongType .list (.record "RenderCase")))) := by
  intro held c before
  have hholds : Holds held c := .intro rfl rfl (by decide)
  have hreads : ReadsTo before (.ok [c]) := .cases (List.cons_ne_nil c []) (.cons hholds .nil)
  have hread := (stream_ends_at_first_fault.outcome before _).mpr hreads
  have hbefore : ∀ d ∈ before, Blank d ∨ ∃ c, Holds d c :=
    List.forall_mem_cons.mpr ⟨.inl rfl, List.forall_mem_cons.mpr ⟨.inr ⟨c, hholds⟩,
      List.forall_mem_singleton.mpr (.inl rfl)⟩⟩
  refine ⟨hholds, hreads, hread,
    stream_ends_at_first_fault.expectation before [c] hread c (List.mem_singleton_self c),
    (stream_ends_at_first_fault.outcome _ _).mpr ?_⟩
  exact .fault rfl hbefore (.shape rfl rfl)

end SelectQuery
