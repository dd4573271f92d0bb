import SelectQuery.Proofs.Decode.Forms
import SelectQuery.Proofs.Render.Load
import SelectQuery.Proofs.Text.Bytes

/-!
# The format of settings

Which JSON values are settings (`IsSettings`), and what is said of an object that is not: the text
of its least key at fault (`FirstFault`). The indent is judged only once all fields are read. Main
statement: `load_reads_format`.
-/

namespace SelectQuery

open Text Json

/-- What a value is called where it is refused. -/
def Json.called : Json → String
  | null => "null"
  | bool true => "boolean `true`"
  | bool false => "boolean `false`"
  | int n => "integer `" ++ toString n ++ "`"
  | real x => "floating point `" ++ String.ofList (Notation.scientific.write x) ++ "`"
  | str s => "string " ++ quoted s
  | arr _ => "sequence"
  | obj _ => "map"

namespace DecodeError

theorem append_ticked {start opening : String} (hopening : start ++ "`" = opening) (s : String) :
    start ++ ticked s = opening ++ s ++ "`" := by
  rw [← hopening, ticked, ← String.append_assoc, ← String.append_assoc]

theorem describeFound_layer (v : Json) : describeFound wording v.layer.found = v.called := by
  cases v with
  | bool b => cases b <;> decide
  | int n => exact append_ticked (by decide) _
  | real x => exact append_ticked (by decide) _
  | null | str s | arr items | obj fields => rfl

theorem message_wrongType (v : Json) (wanted : Wanted) {closing : String}
    (hclosing : ", expected " ++ describeWanted wording wanted = closing) :
    (wrongType v.layer.found wanted).message wording = "invalid type: " ++ v.called ++ closing := by
  rw [← hclosing, ← describeFound_layer, ← String.append_assoc]
  rfl

theorem ticked_between {start opening rest closing : String} (hopening : start ++ "`" = opening)
    (hclosing : "`" ++ rest = closing) (s : String) :
    start ++ ticked s ++ rest = opening ++ s ++ closing := by
  rw [append_ticked hopening, String.append_assoc, hclosing]

theorem message_unknownChoice (name : String) (known : List String) {closing : String}
    (hclosing : "`" ++ (", expected " ++ oneOf known) = closing) :
    (unknownChoice name known).message wording = "unknown variant `" ++ name ++ closing := by
  show "unknown variant " ++ ticked name ++ ", expected " ++ oneOf known = _
  rw [String.append_assoc, ticked_between (by decide : _ = "unknown variant `") hclosing]

theorem message_unknownField (key : String) (known : List String) {closing : String}
    (hclosing : "`" ++ (", expected " ++ oneOf known) = closing) :
    (unknownField key known).message wording = "unknown field `" ++ key ++ closing := by
  show "unknown field " ++ ticked key ++ ", expected " ++ oneOf known = _
  rw [String.append_assoc, ticked_between (by decide : _ = "unknown field `") hclosing]

end DecodeError

namespace AliasStyle

/-- What is said of a value that is no style. -/
inductive Fault : Json → String → Prop where
  | unknown {v : Json} {name : String}
      (h : v = .str name ∨ ∃ fields payload, v = .obj fields ∧ HasOnly fields name payload)
      (hname : name ≠ "bare" ∧ name ≠ "as") :
      Fault v ("unknown variant `" ++ name ++ "`, expected `bare` or `as`")
  | payload {fields : List (String × Json)} {name : String} {w : Json}
      (h : HasOnly fields name w) (hname : name = "bare" ∨ name = "as") (hne : w ≠ .null) :
      Fault (.obj fields) ("invalid type: " ++ w.called ++ ", expected unit")
  | keys {fields : List (String × Json)} (h : ∀ name w, ¬ HasOnly fields name w) :
      Fault (.obj fields) "invalid value: map, expected map with a single key"
  | other {v : Json} (hstr : ∀ name, v ≠ .str name) (hobj : ∀ fields, v ≠ .obj fields) :
      Fault v ("invalid type: " ++ v.called ++ ", expected string or map")

theorem name_injective : Function.Injective name
  | bare, bare, _ | as, as, _ => rfl
  | bare, as, h | as, bare, h => absurd h (by decide)

theorem mem_all (a : AliasStyle) : a ∈ all := by
  cases a <;> decide

theorem ofJson_eq_ok_iff {v : Json} {a : AliasStyle} : ofJson v = .ok a ↔ NamedBy name v a :=
  Decoder.choice_eq_ok_iff name_injective mem_all

theorem named_eq_error {word : String} (h : word ≠ "bare" ∧ word ≠ "as") :
    Decoder.named name all word = .error (.unknownChoice word ["bare", "as"]) := by
  refine Decoder.named_eq_error fun a _ => ?_
  cases a with
  | bare => exact h.1.symm
  | as => exact h.2.symm

theorem exists_named {word : String} (h : word = "bare" ∨ word = "as") :
    ∃ a, Decoder.named name all word = .ok a := by
  rcases h with rfl | rfl
  · exact ⟨bare, rfl⟩
  · exact ⟨as, rfl⟩

theorem exists_error_of_fault {v : Json} {text : String} (h : Fault v text) :
    ∃ e, ofJson v = .error e ∧ e.message wording = text := by
  cases h with
  | @unknown _ word hv hname =>
    refine ⟨.unknownChoice word ["bare", "as"], ?_,
      DecodeError.message_unknownChoice _ _ (by decide)⟩
    rcases hv with rfl | ⟨fields, payload, rfl, hsingle⟩
    · exact named_eq_error hname
    · by_cases hnull : payload = .null
      · rw [ofJson, Decoder.choice_of_hasOnly_null (hnull ▸ hsingle)]
        exact named_eq_error hname
      · rw [ofJson, Decoder.choice_of_hasOnly hsingle hnull, named_eq_error hname]
        rfl
  | @payload fields _ w hsingle hname hne =>
    refine ⟨.wrongType w.layer.found .unit, ?_, DecodeError.message_wrongType w .unit (by decide)⟩
    obtain ⟨a, ha⟩ := exists_named hname
    rw [ofJson, Decoder.choice_of_hasOnly hsingle hne, ha]
    rfl
  | keys hsingle => exact ⟨.notSingleKey, Decoder.choice_not_single hsingle, rfl⟩
  | other hstr hobj =>
    refine ⟨.wrongType v.layer.found .choice, ?_,
      DecodeError.message_wrongType v .choice (by decide)⟩
    cases v with
    | str word => exact absurd rfl (hstr word)
    | obj fields => exact absurd rfl (hobj fields)
    | _ => rfl

theorem exists_style_or_fault (v : Json) : (∃ a, ofJson v = .ok a) ∨ ∃ text, Fault v text := by
  cases v with
  | str word =>
    by_cases hname : word = "bare" ∨ word = "as"
    · exact .inl (exists_named hname)
    · exact .inr ⟨_, .unknown (.inl rfl) (not_or.mp hname)⟩
  | obj fields =>
    by_cases hsingle : ∃ word payload, HasOnly fields word payload
    · obtain ⟨word, payload, hsingle⟩ := hsingle
      by_cases hname : word = "bare" ∨ word = "as"
      · by_cases hnull : payload = .null
        · subst hnull
          obtain ⟨a, ha⟩ := exists_named hname
          exact .inl ⟨a, (Decoder.choice_of_hasOnly_null hsingle).trans ha⟩
        · exact .inr ⟨_, .payload hsingle hname hnull⟩
      · exact .inr ⟨_, .unknown (.inr ⟨fields, payload, rfl, hsingle⟩) (not_or.mp hname)⟩
    · exact .inr ⟨_, .keys fun word w h => hsingle ⟨word, w, h⟩⟩
  | _ => exact .inr ⟨_, .other nofun nofun⟩

end AliasStyle

/-- The keys in the order of the fields. -/
def Settings.fieldKeys : List String :=
  ["pretty", "indent", "tableAlias", "parenthesizePredicates", "rejectEmptyFormulas"]

/-- A record of settings, with what is left out at its default. -/
structure Json.IsSettings (v : Json) (s : Settings) : Prop where
  record : v.IsRecord Settings.fieldKeys true
  pretty : OrDefault IsBool true (v.given? Settings.fieldKeys "pretty") s.pretty
  indent : OrDefault IsText "  " (v.given? Settings.fieldKeys "indent") s.indent
  aliasStyle : OrDefault (NamedBy AliasStyle.name) .bare
    (v.given? Settings.fieldKeys "tableAlias") s.aliasStyle
  parenthesize : OrDefault IsBool true
    (v.given? Settings.fieldKeys "parenthesizePredicates") s.parenthesize
  rejectBlank : OrDefault IsBool true
    (v.given? Settings.fieldKeys "rejectEmptyFormulas") s.rejectBlank

namespace Settings

def slots : List (Slot Json Settings) := [
  ⟨Bool, "pretty", .defaulted, Decoder.bool, (·.pretty), fun b s => { s with pretty := b }⟩,
  ⟨String, "indent", .defaulted, Decoder.text, (·.indent), fun t s => { s with indent := t }⟩,
  ⟨AliasStyle, "tableAlias", .defaulted, AliasStyle.ofJson, (·.aliasStyle),
    fun a s => { s with aliasStyle := a }⟩,
  ⟨Bool, "parenthesizePredicates", .defaulted, Decoder.bool, (·.parenthesize),
    fun b s => { s with parenthesize := b }⟩,
  ⟨Bool, "rejectEmptyFormulas", .defaulted, Decoder.bool, (·.rejectBlank),
    fun b s => { s with rejectBlank := b }⟩]

theorem laid : shape.Laid slots where
  fields_eq := rfl
  nodup := by decide
  get_set := by simp [slots]
  get_set_other := by simp [slots]
  ext := by
    rintro ⟨⟩ ⟨⟩ h
    simpa [slots] using h

theorem ofJson_eq_ok_iff {v : Json} {s : Settings} : ofJson v = .ok s ↔ v.IsSettings s := by
  have hflag : ∀ w b, Decoder.bool w = .ok b ↔ IsBool w b := fun _ _ => Decoder.bool_eq_ok_iff
  rw [ofJson, Decoder.record_eq_ok_iff laid]
  simp only [slots, List.forall_mem_cons]
  rw [Slot.holds_iff_orDefault rfl hflag,
    Slot.holds_iff_orDefault rfl fun _ _ => Decoder.text_eq_ok_iff,
    Slot.holds_iff_orDefault rfl fun _ _ => AliasStyle.ofJson_eq_ok_iff,
    Slot.holds_iff_orDefault rfl hflag, Slot.holds_iff_orDefault rfl hflag]
  constructor
  · rintro ⟨hrecord, hpretty, hindent, haliasStyle, hparenthesize, hrejectBlank, -⟩
    exact ⟨hrecord, hpretty, hindent, haliasStyle, hparenthesize, hrejectBlank⟩
  · intro h
    exact ⟨h.record, h.pretty, h.indent, h.aliasStyle, h.parenthesize, h.rejectBlank, nofun⟩

/-! ### What is said of the rest -/

/-- The keys as they are listed where another one is refused. -/
def knownKeys : String :=
  "`pretty`, `indent`, `tableAlias`, `parenthesizePredicates`, `rejectEmptyFormulas`"

/-- What is said of a field that cannot be read. -/
inductive Fault : String → Json → String → Prop where
  | unknown {key : String} {v : Json} (h : key ∉ fieldKeys) :
      Fault key v ("unknown field `" ++ key ++ "`, expected one of " ++ knownKeys)
  | flag {key : String} {v : Json}
      (hkey : key = "pretty" ∨ key = "parenthesizePredicates" ∨ key = "rejectEmptyFormulas")
      (h : ∀ b, v ≠ .bool b) :
      Fault key v ("invalid type: " ++ v.called ++ ", expected a boolean")
  | indent {v : Json} (h : ∀ t, v ≠ .str t) :
      Fault "indent" v ("invalid type: " ++ v.called ++ ", expected a string")
  | aliasStyle {v : Json} {text : String} (h : AliasStyle.Fault v text) :
      Fault "tableAlias" v text

/-- What is said of the least key at fault, in the order of the bytes of the keys. -/
def FirstFault (fields : List (String × Json)) (text : String) : Prop :=
  ∃ key v, value? fields key = some v ∧ Fault key v text ∧
    ∀ k w, value? fields k = some w → bytes k < bytes key → ∀ other, ¬ Fault k w other

/-- What is said of an indent that may not be used; its characters come before its length. -/
inductive IndentFault (indent : String) : String → Prop where
  | notBlank (h : ∃ c ∈ indent.toList, isBlankChar c = false) :
      IndentFault indent ("indent must be whitespace only, got " ++ quoted indent)
  | tooLong (hblank : ∀ c ∈ indent.toList, isBlankChar c = true) (h : 16 < indent.length) :
      IndentFault indent "indent cannot exceed 16 characters"

theorem exists_error_of_fault {key : String} {v : Json} {text : String} (h : Fault key v text) :
    ∃ e, shape.entry (.text key, v) = .error e ∧ e.message wording = text := by
  cases h with
  | unknown hkey =>
    refine ⟨.unknownField key fieldKeys, RecordShape.entry_unknown hkey v, ?_⟩
    rw [String.append_assoc]
    exact DecodeError.message_unknownField _ _ (by decide)
  | flag hkey hv =>
    refine ⟨_, ?_, DecodeError.message_wrongType v .bool (by decide)⟩
    rcases hkey with rfl | rfl | rfl <;>
      exact RecordShape.entry_eq_error rfl (Decoder.bool_eq_error hv)
  | indent hv =>
    exact ⟨_, RecordShape.entry_eq_error rfl (Decoder.text_eq_error hv),
      DecodeError.message_wrongType v .text (by decide)⟩
  | aliasStyle hv =>
    obtain ⟨e, he, hmessage⟩ := AliasStyle.exists_error_of_fault hv
    exact ⟨e, RecordShape.entry_eq_error rfl he, hmessage⟩

theorem exists_change_or_fault (key : String) (v : Json) :
    (∃ change, shape.entry (.text key, v) = .ok change) ∨ ∃ text, Fault key v text := by
  have hflag : ∀ {key set}, shape.field? key = some (.of key .defaulted Decoder.bool set) →
      (key = "pretty" ∨ key = "parenthesizePredicates" ∨ key = "rejectEmptyFormulas") →
      (∃ change, shape.entry (.text key, v) = .ok change) ∨ ∃ text, Fault key v text := by
    intro key set hfield hkey
    by_cases hv : ∃ b, v = .bool b
    · obtain ⟨b, rfl⟩ := hv
      exact .inl ⟨_, RecordShape.entry_eq_ok hfield rfl rfl⟩
    · exact .inr ⟨_, .flag hkey fun b hb => hv ⟨b, hb⟩⟩
  by_cases hkey : key ∈ fieldKeys
  · simp only [fieldKeys, List.mem_cons, List.not_mem_nil, or_false] at hkey
    rcases hkey with rfl | rfl | rfl | rfl | rfl
    · exact hflag rfl (.inl rfl)
    · by_cases hv : ∃ t, v = .str t
      · obtain ⟨t, rfl⟩ := hv
        exact .inl ⟨_, rfl⟩
      · exact .inr ⟨_, .indent fun t ht => hv ⟨t, ht⟩⟩
    · rcases AliasStyle.exists_style_or_fault v with ⟨a, ha⟩ | ⟨text, hv⟩
      · exact .inl ⟨_, RecordShape.entry_eq_ok rfl ha rfl⟩
      · exact .inr ⟨text, .aliasStyle hv⟩
    · exact hflag rfl (.inr (.inl rfl))
    · exact hflag rfl (.inr (.inr rfl))
  · exact .inr ⟨_, .unknown hkey⟩

theorem fault_iff {key : String} {v : Json} {text : String} :
    Fault key v text ↔
      ∃ e, shape.entry (.text key, v) = .error e ∧ e.message wording = text := by
  refine ⟨exists_error_of_fault, ?_⟩
  rintro ⟨e, he, rfl⟩
  rcases exists_change_or_fault key v with ⟨change, hchange⟩ | ⟨text, hfault⟩
  · rw [he] at hchange
    cases hchange
  · obtain ⟨e', he', rfl⟩ := exists_error_of_fault hfault
    obtain rfl : e = e' := Except.error.inj (he.symm.trans he')
    exact hfault

/-- The least key at fault decides what is said of an object. -/
theorem firstFault_iff {fields : List (String × Json)} {text : String} :
    FirstFault fields text ↔ ∃ e, ofJson (.obj fields) = .error e ∧ e.message wording = text := by
  have hentry : ∀ k w, (∃ change, shape.entry (.text k, w) = .ok change) ↔
      ∀ other, ¬ Fault k w other := by
    intro k w
    constructor
    · rintro ⟨change, hchange⟩ other hfault
      obtain ⟨e, he, -⟩ := fault_iff.mp hfault
      rw [hchange] at he
      cases he
    · intro hno
      exact (exists_change_or_fault k w).resolve_right fun ⟨other, hfault⟩ => hno other hfault
  have hread : ∀ e, ofJson (.obj fields) = .error e ↔ ∃ key v, value? fields key = some v ∧
      shape.entry (.text key, v) = .error e ∧
      ∀ k w, value? fields k = some w → k < key →
        ∃ change, shape.entry (.text k, w) = .ok change := fun e =>
    Decoder.record_obj_eq_error_iff (by decide)
  simp only [hread, hentry]
  constructor
  · rintro ⟨key, v, hkey, hfault, hleast⟩
    obtain ⟨e, he, hmessage⟩ := fault_iff.mp hfault
    exact ⟨e, ⟨key, v, hkey, he, fun k w hk hlt => hleast k w hk (bytes_lt_bytes_iff.mpr hlt)⟩,
      hmessage⟩
  · rintro ⟨e, ⟨key, v, hkey, he, hleast⟩, hmessage⟩
    exact ⟨key, v, hkey, fault_iff.mpr ⟨e, he, hmessage⟩,
      fun k w hk hlt => hleast k w hk (bytes_lt_bytes_iff.mp hlt)⟩

/-! ### The check -/

theorem validate_of_blank {s : Settings} (h : ∀ c ∈ s.indent.toList, isBlankChar c = true) :
    s.validate = if 16 < s.indent.length then
      .error (.invalidSettings "indent cannot exceed 16 characters") else .ok () := by
  have hblank : isBlank s.indent = true := List.all_eq_true.mpr h
  rw [validate, hblank]
  rfl

theorem validate_of_not_blank {s : Settings} (h : ∃ c ∈ s.indent.toList, isBlankChar c = false) :
    s.validate =
      .error (.invalidSettings ("indent must be whitespace only, got " ++ quoted s.indent)) := by
  have hblank : isBlank s.indent = false := by
    obtain ⟨c, hc, hne⟩ := h
    exact List.all_eq_false.mpr ⟨c, hc, by simp [hne]⟩
  rw [validate, hblank]
  rfl

theorem blank_or_not_blank (t : String) : (∀ c ∈ t.toList, isBlankChar c = true) ∨
    ∃ c ∈ t.toList, isBlankChar c = false := by
  rw [or_iff_not_imp_left]
  intro h
  push Not at h
  simpa using h

theorem validate_eq_ok_iff (s : Settings) : s.validate = .ok () ↔
    (∀ c ∈ s.indent.toList, isBlankChar c = true) ∧ s.indent.length ≤ 16 := by
  rcases blank_or_not_blank s.indent with hblank | hbad
  · rw [validate_of_blank hblank, and_iff_right hblank, ← Nat.not_lt]
    split
    · rename_i hlong
      exact iff_of_false nofun fun h => h hlong
    · rename_i hshort
      exact iff_of_true rfl hshort
  · rw [validate_of_not_blank hbad]
    obtain ⟨c, hc, hne⟩ := hbad
    refine iff_of_false nofun fun h => ?_
    rw [h.1 c hc] at hne
    cases hne

theorem validate_eq_error_iff (s : Settings) (e : RenderError) :
    s.validate = .error e ↔ ∃ text, e = .invalidSettings text ∧ IndentFault s.indent text := by
  constructor
  · intro h
    rcases blank_or_not_blank s.indent with hblank | hbad
    · rw [validate_of_blank hblank] at h
      split at h
      · rename_i hlong
        exact ⟨_, (Except.error.inj h).symm, .tooLong hblank hlong⟩
      · cases h
    · rw [validate_of_not_blank hbad] at h
      exact ⟨_, (Except.error.inj h).symm, .notBlank hbad⟩
  · rintro ⟨text, rfl, hfault⟩
    cases hfault with
    | notBlank hbad => exact validate_of_not_blank hbad
    | tooLong hblank hlong => rw [validate_of_blank hblank, if_pos hlong]

theorem load_of_ofJson_eq_error {v : Json} {e : DecodeError} (h : ofJson v = .error e) :
    load v = .error (.invalidSettings (e.message wording)) := by
  rw [load, h]

theorem load_eq_error_iff_of_isSettings {v : Json} {s : Settings} (h : v.IsSettings s)
    (e : RenderError) :
    load v = .error e ↔ ∃ text, e = .invalidSettings text ∧ IndentFault s.indent text := by
  rw [← validate_eq_error_iff, load, ofJson_eq_ok_iff.mpr h]
  show (do s.validate; return s) = .error e ↔ _
  cases s.validate <;> simp [bind, Except.bind, pure, Except.pure]

/-- A value loads exactly when it is a record of settings whose indent is blank and not too long,
and then as these settings. Every other value is refused as settings: a record for its indent, an
object for its least key at fault if there is one. The order of the fields of an object does not
matter. -/
theorem load_reads_format (v : Json) :
    (∀ s : Settings, load v = .ok s ↔
      v.IsSettings s ∧ (∀ c ∈ s.indent.toList, isBlankChar c = true) ∧ s.indent.length ≤ 16) ∧
    (∀ e, load v = .error e → ∃ text, e = .invalidSettings text) ∧
    (∀ s : Settings, v.IsSettings s → ∀ text,
      load v = .error (.invalidSettings text) ↔ IndentFault s.indent text) ∧
    (∀ fields, v = .obj fields → ∀ text, load v = .error (.invalidSettings text) ↔
      FirstFault fields text ∨ ∃ s : Settings, v.IsSettings s ∧ IndentFault s.indent text) ∧
    ∀ fields fields', v = .obj fields → (fields.map (·.1)).Nodup → fields.Perm fields' →
      load (.obj fields') = load v := by
  have hindent : ∀ s : Settings, v.IsSettings s → ∀ text,
      load v = .error (.invalidSettings text) ↔ IndentFault s.indent text := by
    intro s hs text
    rw [load_eq_error_iff_of_isSettings hs]
    simp
  refine ⟨fun s => ?_, fun e h => ?_, hindent, ?_, ?_⟩
  · rw [load_eq_ok_iff, ofJson_eq_ok_iff, validate_eq_ok_iff]
  · cases hread : ofJson v with
    | error e' => exact ⟨_, Except.error.inj (h.symm.trans (load_of_ofJson_eq_error hread))⟩
    | ok s =>
      obtain ⟨text, htext, -⟩ :=
        (load_eq_error_iff_of_isSettings (ofJson_eq_ok_iff.mp hread) e).mp h
      exact ⟨text, htext⟩
  · rintro fields rfl text
    rw [firstFault_iff]
    cases hread : ofJson (.obj fields) with
    | error e =>
      have hnone : ¬ ∃ s : Settings,
          (Json.obj fields).IsSettings s ∧ IndentFault s.indent text := by
        rintro ⟨s, hs, -⟩
        rw [ofJson_eq_ok_iff.mpr hs] at hread
        cases hread
      rw [load_of_ofJson_eq_error hread, or_iff_left hnone]
      simp
    | ok s =>
      have hs : (Json.obj fields).IsSettings s := ofJson_eq_ok_iff.mp hread
      rw [hindent s hs]
      constructor
      · exact fun hfault => .inr ⟨s, hs, hfault⟩
      · rintro (⟨e, he, -⟩ | ⟨s', hs', hfault⟩)
        · cases he
        · have hsame : s' = s :=
            Except.ok.inj ((ofJson_eq_ok_iff.mpr hs').symm.trans hread)
          exact hsame ▸ hfault
  · rintro fields fields' rfl hnodup hperm
    have hsame : ofJson (.obj fields') = ofJson (.obj fields) :=
      Decoder.record_obj_congr (value?_congr_of_perm hperm hnodup).symm
    rw [load, load, hsame]

/-- A list gives the first fields; of two keys at fault the lesser is reported, though it comes
later. -/
theorem load_reads_format_of_two_faults :
    let v : Json := .arr [.bool false, .str "\u3000", .obj [("as", .null)]]
    let fields : List (String × Json) := [("zeta", .null), ("indent", .int 3)]
    let text := "invalid type: integer `3`, expected a string"
    load v = .ok { pretty := false, indent := "\u3000", aliasStyle := .as } ∧
    FirstFault fields text ∧ load (.obj fields) = .error (.invalidSettings text) := by
  intro v fields text
  have hstyle : HasOnly [("as", .null)] "as" .null :=
    sortFields_eq_singleton_iff.mp rfl
  have hv : v.IsSettings { pretty := false, indent := "\u3000", aliasStyle := .as } :=
    ⟨(by decide : 3 ≤ 5), rfl, rfl, NamedBy.key AliasStyle.as hstyle, rfl, rfl⟩
  have hfirst : FirstFault fields text := by
    refine ⟨"indent", .int 3, rfl, .indent nofun, fun k w hk hlt => ?_⟩
    rw [value?_eq_some_iff_mem (by decide), List.mem_pair] at hk
    have hkey : k = "zeta" ∨ k = "indent" := hk.imp (congrArg Prod.fst) (congrArg Prod.fst)
    rcases hkey with rfl | rfl <;> exact absurd hlt (by decide)
  have hblank : ∀ c ∈ "\u3000".toList, isBlankChar c = true := List.all_eq_true.mp rfl
  exact ⟨((load_reads_format v).1 _).mpr ⟨hv, hblank, by decide⟩, hfirst,
    ((load_reads_format (.obj fields)).2.2.2.1 fields rfl text).mpr (.inl hfirst)⟩

end Settings

end SelectQuery
