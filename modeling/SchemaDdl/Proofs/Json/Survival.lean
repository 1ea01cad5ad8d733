import Mathlib.Data.List.Nodup
import SchemaDdl.Column.Json
import SchemaDdl.Proofs.Json.Variant

/-!
# Values that survive their description

A value survives a description if every variant of the description is read back to it
(`Json.Survives`).  For the plain values and lists, and for the fields of a record, this
module says what that takes, so that a record of the model needs one fact for each of its
fields.
-/

namespace SchemaDdl.Json

variable {α : Type} {layout : Layout} {value? : Json → Option α}

/-- Every variant of a description is read back to the value. -/
def Survives (value? : Json → Option α) (layout : Layout) (json : Json) (value : α) : Prop :=
  ∀ variant, Variant layout json variant → value? variant = some value

/-! ## Plain values -/

theorem survives_text (value : String) : Survives text? layout (.text value) value := by
  intro variant h
  rw [h.eq_text]
  rfl

theorem survives_bool (value : Bool) : Survives bool? layout (.bool value) value := by
  intro variant h
  rw [h.eq_bool]
  rfl

theorem survives_int {low high value : Int} {ofInt : Int → α} (hlow : low ≤ value)
    (hhigh : value ≤ high) :
    Survives (fun json => (json.intBetween? low high).map ofInt) layout (.int value)
      (ofInt value) := by
  intro variant h
  obtain rfl := h.eq_number
  exact congrArg (Option.map ofInt) (if_pos ⟨hlow, hhigh⟩)

theorem survives_natural {value size : Nat} (hvalue : value < size) (ofNat : Nat → α) :
    Survives (fun json => (json.intBetween? 0 (size - 1)).map fun value => ofNat value.toNat)
      layout (.int value) (ofNat value) :=
  survives_int (by omega) (by omega)

theorem survives_uint8 (value : UInt8) : Survives uint8? layout (.int value.toNat) value := by
  have hread : Survives uint8? layout (.int value.toNat) (.ofNat value.toNat) :=
    survives_natural value.toNat_lt_size UInt8.ofNat
  rwa [UInt8.ofNat_toNat] at hread

theorem survives_uint32 (value : UInt32) : Survives uint32? layout (.int value.toNat) value := by
  have hread : Survives uint32? layout (.int value.toNat) (.ofNat value.toNat) :=
    survives_natural value.toNat_lt_size UInt32.ofNat
  rwa [UInt32.ofNat_toNat] at hread

theorem survives_int64 (value : Int64) : Survives int64? layout (.int value.toInt) value := by
  have hread : Survives int64? layout (.int value.toInt) (.ofInt value.toInt) :=
    survives_int value.minValue_le_toInt value.toInt_le
  rwa [Int64.ofInt_toInt] at hread

theorem Survives.map {β : Type} {json : Json} {value : α} (h : Survives value? layout json value)
    (f : α → β) : Survives (fun json => (value? json).map f) layout json (f value) :=
  fun variant hvariant => congrArg (Option.map f) (h variant hvariant)

/-! ## Lists and absent values -/

theorem mapM_of_variantItems {toJson : α → Json} {values : List α} {items : List Json}
    (h : ∀ value ∈ values, Survives value? layout (toJson value) value)
    (hitems : VariantItems layout (values.map toJson) items) :
    items.mapM value? = some values := by
  induction values generalizing items with
  | nil =>
      cases hitems
      rfl
  | cons value values ih =>
      obtain ⟨hvalue, hvalues⟩ := List.forall_mem_cons.mp h
      cases hitems with
      | cons hitem hitems =>
          rw [List.mapM_cons, hvalue _ hitem, ih hvalues hitems]
          rfl

theorem survives_list {toJson : α → Json} {values : List α}
    (h : ∀ value ∈ values, Survives value? layout.item (toJson value) value) :
    Survives (list? value?) layout (.array (values.map toJson)) values := by
  intro variant hvariant
  cases hvariant with
  | array hitems => exact mapM_of_variantItems h hitems

theorem survives_nullable {toJson : α → Json} {value : Option α} (hnull : value? .null = none)
    (h : ∀ content ∈ value, Survives value? layout (toJson content) content) :
    Survives (nullable? value?) layout (.ofOption toJson value) value := by
  intro variant hvariant
  cases value with
  | none =>
      rw [hvariant.eq_null]
      rfl
  | some content =>
      have hread := h content rfl variant hvariant
      have hsome : variant ≠ .null := by
        rintro rfl
        exact absurd hread (by simp [hnull])
      cases variant with
      | null => exact absurd rfl hsome
      | _ => exact congrArg (Option.map some) hread

/-! ## Records -/

theorem survives_record {fields : Fields} {value : α} (hdistinct : (fields.map Prod.fst).Nodup)
    (h : ∀ named, Offers layout fields named → value? (.record named) = some value) :
    Survives value? layout (.record fields) value := by
  intro variant hvariant
  obtain ⟨named, rfl, hoffers⟩ := hvariant.exists_offers hdistinct
  exact h named hoffers

/-- A case that carries something is described by an object of one field. -/
theorem survives_case {kind : String} {content : Json} {value : α}
    (h : Survives (fun variant => value? (.record [(kind, variant)])) .plain content value) :
    Survives value? .plain (.record [(kind, content)]) value := by
  refine survives_record (List.nodup_singleton kind) fun named hoffers => ?_
  obtain ⟨variant, rfl, hvariant⟩ := hoffers.exists_singleton rfl
  exact h variant hvariant

theorem mapM_map_of_forall {β : Type} {f : α → β} {g : β → Option α}
    (h : ∀ item, g (f item) = some item) (items : List α) : (items.map f).mapM g = some items := by
  have hread : g ∘ f = fun item => pure (id item) := funext h
  rw [List.mapM_map, hread, List.mapM_pure, List.map_id]
  rfl

theorem fields?_record {named : Fields} {names : List String}
    (hnodup : (named.map Prod.fst).Nodup) (hnames : ∀ name ∈ named.map Prod.fst, name ∈ names) :
    (record named).fields? names = some named := by
  have hread : (record named).fields? names =
      ((named.map fun field : String × Json => (some field.1, field.2)).mapM
        fun entry : Option String × Json => entry.1.map fun name => (name, entry.2)).bind
        fun read : Fields =>
          let known := read.filter fun field => names.contains field.1
          if (known.map Prod.fst).Nodup then some known else none := rfl
  have hknown : named.filter (fun field => names.contains field.1) = named := by
    refine List.filter_eq_self.mpr fun field hfield => ?_
    simpa using hnames field.1 (List.mem_map_of_mem hfield)
  rw [hread, mapM_map_of_forall, Option.bind_some, hknown, if_pos hnodup]
  exact fun field => rfl

theorem lookup_eq_none {named : Fields} {name : String} (h : name ∉ named.map Prod.fst) :
    named.lookup name = none := by
  rw [List.lookup_eq_none_iff]
  intro field hfield
  simpa using fun hsame : name = field.1 => h (hsame ▸ List.mem_map_of_mem hfield)

namespace Offers

variable {fields named : Fields} {json : Json} {value : α}

theorem fields? (h : Offers layout fields named) {names : List String}
    (hnames : fields.map Prod.fst ⊆ names) : (record named).fields? names = some named :=
  fields?_record h.nodup fun _ hname => hnames (h.names_subset hname)

/-- A field is found and varied, or not found where it has its default. -/
theorem lookup {name : String} (h : Offers layout fields named) (hfield : (name, json) ∈ fields) :
    (∃ variant, named.lookup name = some variant ∧
        Variant (layout.field (some name)) json variant) ∨
      named.lookup name = none ∧ layout.default? (some name) = some json := by
  by_cases hname : name ∈ named.map Prod.fst
  · obtain ⟨⟨_, variant⟩, hmem, rfl⟩ := List.mem_map.mp hname
    obtain ⟨value, hvalue, hvariant⟩ := h.variant _ hmem
    obtain rfl : value = json :=
      (Prod.mk.inj (List.inj_on_of_nodup_map h.distinct hvalue hfield rfl)).2
    refine Or.inl ⟨variant, ?_, hvariant⟩
    obtain ⟨before, after, rfl⟩ := List.append_of_mem hmem
    refine List.lookup_eq_some_iff.mpr ⟨before, after, rfl, fun field hbefore => ?_⟩
    have hnodup := h.nodup
    rw [List.map_append, List.nodup_append] at hnodup
    have hne := hnodup.2.2 field.1 (List.mem_map_of_mem hbefore) _ List.mem_cons_self
    simpa using hne.symm
  · exact Or.inr ⟨lookup_eq_none hname, h.default _ hfield hname⟩

theorem required (h : Offers layout fields named) (name : String)
    (hfield : (name, json) ∈ fields)
    (hdefault : layout.default? (some name) ≠ some json)
    (hvalue : Survives value? (layout.field (some name)) json value) :
    named.required name value? = some value := by
  rcases h.lookup hfield with ⟨variant, hlookup, hvariant⟩ | ⟨-, hjson⟩
  · rw [Fields.required, hlookup]
    exact hvalue variant hvariant
  · exact absurd hjson hdefault

theorem withDefault (h : Offers layout fields named) (name : String)
    (hfield : (name, json) ∈ fields) {fallback : α}
    (hdefault : layout.default? (some name) = some json → fallback = value)
    (hvalue : Survives value? (layout.field (some name)) json value) :
    named.withDefault name value? fallback = some value := by
  rcases h.lookup hfield with ⟨variant, hlookup, hvariant⟩ | ⟨hlookup, hjson⟩
  · rw [Fields.withDefault, hlookup]
    exact hvalue variant hvariant
  · rw [Fields.withDefault, hlookup, hdefault hjson]

theorem optional {toJson : α → Json} {value : Option α} (h : Offers layout fields named)
    (name : String) (hfield : (name, .ofOption toJson value) ∈ fields)
    (hdefault : layout.default? (some name) = some .null) (hnull : value? .null = none)
    (hvalue : ∀ content ∈ value,
      Survives value? (layout.field (some name)) (toJson content) content) :
    named.optional name value? = some value := by
  refine h.withDefault name hfield ?_ (survives_nullable hnull hvalue)
  intro hjson
  cases value with
  | none => rfl
  | some content =>
      -- The description of a content is not null, since null is not read as one.
      have hsame : toJson content = .null := by simpa [hdefault, ofOption, eq_comm] using hjson
      have hread := hvalue content rfl .null (hsame ▸ .refl _ _)
      exact absurd hread (by simp [hnull])

theorem optionalText {value : Option String} (h : Offers layout fields named) (name : String)
    (hfield : (name, .ofOption text value) ∈ fields)
    (hdefault : layout.default? (some name) = some .null) :
    named.optional name text? = some value :=
  h.optional name hfield hdefault rfl fun content _ => survives_text content

theorem flag {value : Bool} (h : Offers layout fields named) (name : String)
    (hfield : (name, .bool value) ∈ fields)
    (hdefault : layout.default? (some name) = some (.bool false)) :
    named.withDefault name bool? false = some value := by
  refine h.withDefault name hfield ?_ (survives_bool value)
  intro hjson
  simpa [hdefault] using hjson

theorem list {toJson : α → Json} {values : List α} (h : Offers layout fields named)
    (name : String) (hfield : (name, .array (values.map toJson)) ∈ fields)
    (hdefault : layout.default? (some name) = some (.array []))
    (hvalues : ∀ value ∈ values,
      Survives value? (layout.field (some name)).item (toJson value) value) :
    named.withDefault name (list? value?) [] = some values := by
  refine h.withDefault name hfield ?_ (survives_list hvalues)
  intro hjson
  simpa [hdefault, eq_comm] using hjson

theorem optional_of_absent (h : Offers layout fields named) {name : String}
    (habsent : name ∉ fields.map Prod.fst) : named.optional name value? = some none := by
  have hlookup : named.lookup name = none :=
    lookup_eq_none fun hname => habsent (h.names_subset hname)
  rw [Fields.optional, Fields.withDefault, hlookup]

end Offers

/-! ## Tagged records -/

/-- Every variant of a description is complete and nested at most `depth` deep. -/
def StaysComplete (depth : Nat) (layout : Layout) (json : Json) : Prop :=
  ∀ variant, Variant layout json variant → variant.isComplete depth = true

theorem fieldsComplete_record {depth : Nat} {named : Fields}
    (h : ∀ field ∈ named, field.2.isComplete depth = true) :
    fieldsComplete depth (named.map fun (name, value) => (some name, value)) = true := by
  induction named with
  | nil => rfl
  | cons field named ih =>
      obtain ⟨hfield, hnamed⟩ := List.forall_mem_cons.mp h
      simp [fieldsComplete, hfield, ih hnamed]

theorem partition_middle {β : Type} {p : β → Bool} {item : β} {before after : List β}
    (hitem : p item = true) (h : ∀ other ∈ before ++ after, p other = false) :
    (before ++ item :: after).partition p = ([item], before ++ after) := by
  obtain ⟨hbefore, hafter⟩ := List.forall_mem_append.mp h
  rw [List.partition_eq_filter_filter, List.filter_append, List.filter_append,
    List.filter_cons_of_pos hitem, List.filter_cons_of_neg (by simp [hitem]),
    List.filter_eq_nil_iff.mpr (by simpa using hbefore),
    List.filter_eq_nil_iff.mpr (by simpa using hafter),
    List.filter_eq_self.mpr (by simpa using hbefore),
    List.filter_eq_self.mpr (by simpa using hafter)]
  rfl

theorem tagged?_object {tag kind : String} {depth : Nat}
    {fields rest : List (Option String × Json)}
    (hpartition : fields.partition (·.1 = some tag) = ([(some tag, text kind)], rest))
    (hcomplete : fieldsComplete depth rest = true) :
    (object fields).tagged? tag depth = some (kind, object rest) := by
  simp only [tagged?, hpartition, text, hcomplete, if_true]

/-- Wherever the tag stands, the fields beside it are left to a reader. -/
theorem Offers.exists_tagged {tag kind : String} {fields named : Fields} {depth : Nat}
    (h : Offers layout ((tag, .text kind) :: fields) named)
    (hdefault : layout.default? (some tag) = none)
    (hcomplete : ∀ field ∈ fields, StaysComplete depth (layout.field (some field.1)) field.2) :
    ∃ rest, (record named).tagged? tag depth = some (kind, record rest) ∧
      Offers layout fields rest := by
  obtain ⟨before, value, after, rfl, hvalue, hrest⟩ := h.exists_append hdefault
  obtain rfl := hvalue.eq_text
  refine ⟨before ++ after, ?_, hrest⟩
  have hother : ∀ field ∈ before ++ after, field.1 ≠ tag := by
    have hnodup := (List.perm_middle.map Prod.fst).nodup_iff.mp h.nodup
    rw [List.map_cons, List.nodup_cons] at hnodup
    exact fun field hfield hsame => hnodup.1 (List.mem_map.mpr ⟨field, hfield, hsame⟩)
  -- The rest is read before the tag is known, so it has to be complete whatever it is.
  refine tagged?_object ?_ ?_
  · rw [List.map_append, List.map_cons, List.map_append]
    refine partition_middle (by simp) ?_
    rw [← List.map_append, List.forall_mem_map]
    simpa using hother
  · refine fieldsComplete_record fun field hfield => ?_
    obtain ⟨value, hmem, hvariant⟩ := hrest.variant field hfield
    exact hcomplete _ hmem _ hvariant

end SchemaDdl.Json
