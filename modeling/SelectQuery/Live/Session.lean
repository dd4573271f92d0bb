import SelectQuery.Live.Store
import SelectQuery.Query.Sample
import SelectQuery.Render.Statement

/-!
# Sessions

Steps on named queries, views and iterators, and their answers. A query comes into being, empty,
when its name is first used; giving a name a new query, or none, leaves the old one to the views
that were opened on it.
-/

namespace SelectQuery

/-- Where a view comes from: a name that holds one, or a list of a named query. -/
inductive ViewSource where
  | named (view : String)
  | fresh (query : String) (clause : Clause)

/-- A question about a query. -/
inductive QueryQuestion where
  | distinct
  | isEmpty
  | lengths
  | json
  | jsonText
  | line
  | lines

/-- A question about what a view reads. -/
inductive ViewQuestion where
  | length
  | isEmpty
  | at (index : Nat)
  | first
  | last
  | entries
  | line
  | lines

inductive Step where
  | renew (query : String)
  | forget (query : String)
  | sample (query : String) (sample : Sample)
  | setDistinct (query : String) (distinct : Bool)
  | append (query : String) (clause : Clause) (entry : clause.Entry)
  | ask (query : String) (question : QueryQuestion)
  | render (query : String) (settings : Except RenderError Settings)
  | openView (source : ViewSource) (view : String)
  | askView (source : ViewSource) (question : ViewQuestion)
  | iterate (source : ViewSource) (iterator : String)
  /-- Takes an entry from an iterator. -/
  | next (iterator : String)
  /-- Takes a snapshot and makes steps while it is held. -/
  | within (source : ViewSource) (steps : List Step)

inductive Answer where
  | done
  | flag (b : Bool)
  | number (n : Nat)
  | numbers (ns : List Nat)
  | json (v : Json)
  | text (s : String)
  | entry (e : Option (Sigma Clause.Entry))
  | entries (s : Snapshot)
  | refused (e : RenderError)
  | rendered (r : Logged String)
  | taken (e : Option (Sigma Clause.Entry))
  | within (inner : List Answer) (seen : Snapshot)
  /-- No view or iterator has the name. -/
  | unknown (name : String)

structure Session where
  store : Store
  queries : List (String × Nat)
  views : List (String × View)
  iterators : List (String × Snapshot)

namespace Session

def start : Session := ⟨.empty, [], [], []⟩

/-- Gives a name to a value in place of the one it had. -/
def bind {α : Type} (name : String) (a : α) (names : List (String × α)) : List (String × α) :=
  (name, a) :: names.filter (·.1 ≠ name)

/-- Puts a query into the store under a name. -/
def put (s : Session) (name : String) (q : Query) : Session :=
  let (store, n) := s.store.add q
  { s with store, queries := bind name n s.queries }

/-- The number of a named query, which comes into being if the name has none. -/
def number (s : Session) (name : String) : Session × Nat :=
  match s.queries.lookup name with
  | some n => (s, n)
  | none => (s.put name .empty, s.store.queries.length)

def query (s : Session) (name : String) : Session × Query :=
  let (s, n) := s.number name
  (s, s.store.get n)

def modify (s : Session) (name : String) (f : Query → Query) : Session :=
  let (s, n) := s.number name
  { s with store := s.store.modify n f }

/-- The view that a source gives, or the name that holds none. -/
def view (s : Session) : ViewSource → Session × Except String View
  | .named name => (s, (s.views.lookup name).elim (.error name) .ok)
  | .fresh name clause =>
    let (s, n) := s.number name
    (s, .ok ⟨n, clause⟩)

def answer (q : Query) : QueryQuestion → Answer
  | .distinct => .flag q.distinct
  | .isEmpty => .flag q.isEmpty
  | .lengths => .numbers (Clause.all.map fun c => (q.entries c).length)
  | .json => .json q.toJson
  | .jsonText => .text q.toJson.text
  | .line => .text q.inspect.line
  | .lines => .text q.inspect.lines

def answerView (r : Snapshot) : ViewQuestion → Answer
  | .length => .number r.entries.length
  | .isEmpty => .flag r.entries.isEmpty
  | .at i => .entry (r.at? i)
  | .first => .entry r.first?
  | .last => .entry r.last?
  | .entries => .entries r
  | .line => .text r.inspect.line
  | .lines => .text r.inspect.lines

/-- Does something with a snapshot of the view that a source gives. -/
def withSnapshot (s : Session) (source : ViewSource)
    (f : Session → Snapshot → Session × Answer) : Session × Answer :=
  match s.view source with
  | (s, .ok v) => f s (v.snapshot s.store)
  | (s, .error name) => (s, .unknown name)

mutual

/-- One step. Only steps that put, change or name something change the session. -/
def step (s : Session) : Step → Session × Answer
  | .renew name => (s.put name .empty, .done)
  | .forget name => ({ s with queries := s.queries.filter (·.1 ≠ name) }, .done)
  | .sample name sample => (s.put name sample.query, .done)
  | .setDistinct name b => (s.modify name (·.setDistinct b), .done)
  | .append name clause entry => (s.modify name (·.append clause entry), .done)
  | .ask name question =>
    let (s, q) := s.query name
    (s, answer q question)
  | .render name settings =>
    let (s, q) := s.query name
    match settings with
    | .ok settings => (s, .rendered (settings.render q))
    | .error e => (s, .refused e)
  | .openView source name =>
    match s.view source with
    | (s, .ok v) => ({ s with views := bind name v s.views }, .done)
    | (s, .error missing) => (s, .unknown missing)
  | .askView source question => s.withSnapshot source fun s r => (s, answerView r question)
  | .iterate source name =>
    s.withSnapshot source fun s r => ({ s with iterators := bind name r s.iterators }, .done)
  | .next name =>
    match s.iterators.lookup name with
    | some r => ({ s with iterators := bind name r.rest s.iterators }, .taken r.first?)
    | none => (s, .unknown name)
  | .within source steps =>
    s.withSnapshot source fun s r =>
      let (s, inner) := run s steps
      (s, .within inner r)

/-- Steps one after the other, with their answers. -/
def run (s : Session) : List Step → Session × List Answer
  | [] => (s, [])
  | t :: ts =>
    let (s, a) := step s t
    let (s, as) := run s ts
    (s, a :: as)

end

/-- The answers to steps made from the start. -/
def answers (steps : List Step) : List Answer := (run start steps).2

end Session

end SelectQuery
