import Mathlib.Data.List.Perm.Basic
import SchemaDdl.Json.Record

/-!
# Variants of a description

One value can be described in many ways: an object lists its fields in any order, and a
field may be left out where its value is the one that a reader assumes without it.  A
layout says at which places of a description that may happen, and `Json.Variant` relates
a description to all its variants.

A reader asks a record for fields by their names.  What it can find in a variant of a
record is summed up in `Json.Offers`: every field at most once and varied, or left out
with its default.
-/

namespace SchemaDdl

/-- Which fields may be left out of a description, and for which values. -/
inductive Layout
  /-- Nothing may be left out. -/
  | plain
  /-- An array of items of one layout. -/
  | items (item : Layout)
  /-- An object.  Each field has the value for which it may be left out, if there is
  one, and a layout of its own. -/
  | record (fields : List (String × Option Json × Layout))

namespace Layout

def item : Layout → Layout
  | items item => item
  | _ => plain

def field : Layout → Option String → Layout
  | record fields, some name => ((fields.lookup name).map Prod.snd).getD plain
  | _, _ => plain

/-- The value for which a field may be left out. -/
def default? : Layout → Option String → Option Json
  | record fields, some name => (fields.lookup name).bind Prod.fst
  | _, _ => none

end Layout

namespace Json

mutual

/-- The second value describes the same as the first: fields of objects are permuted, at
any depth, and some of those that hold their default are left out. -/
inductive Variant : Layout → Json → Json → Prop
  | null {layout : Layout} : Variant layout .null .null
  | bool {layout : Layout} (value : Bool) : Variant layout (.bool value) (.bool value)
  | number {layout : Layout} (value : JsonNumber) :
      Variant layout (.number value) (.number value)
  | string {layout : Layout} (value : Option String) :
      Variant layout (.string value) (.string value)
  | array {layout : Layout} {items items' : List Json}
      (hitems : VariantItems layout.item items items') :
      Variant layout (.array items) (.array items')
  | object {layout : Layout} {fields kept fields' : List (Option String × Json)}
      (hkept : VariantFields layout fields kept) (hperm : kept.Perm fields') :
      Variant layout (.object fields) (.object fields')

/-- The items vary one by one. -/
inductive VariantItems : Layout → List Json → List Json → Prop
  | nil {layout : Layout} : VariantItems layout [] []
  | cons {layout : Layout} {item item' : Json} {items items' : List Json}
      (hitem : Variant layout item item') (hitems : VariantItems layout items items') :
      VariantItems layout (item :: items) (item' :: items')

/-- Each field varies or is left out. -/
inductive VariantFields :
    Layout → List (Option String × Json) → List (Option String × Json) → Prop
  | nil {layout : Layout} : VariantFields layout [] []
  | keep {layout : Layout} {name : Option String} {value value' : Json}
      {fields kept : List (Option String × Json)}
      (hvalue : Variant (layout.field name) value value')
      (hkept : VariantFields layout fields kept) :
      VariantFields layout ((name, value) :: fields) ((name, value') :: kept)
  | leaveOut {layout : Layout} {name : Option String} {value : Json}
      {fields kept : List (Option String × Json)}
      (hdefault : layout.default? name = some value)
      (hkept : VariantFields layout fields kept) :
      VariantFields layout ((name, value) :: fields) kept

end

mutual

/-- Every description is a variant of itself. -/
theorem Variant.refl (layout : Layout) : ∀ json : Json, Variant layout json json
  | .null => .null
  | .bool value => .bool value
  | .number value => .number value
  | .string value => .string value
  | .array items => .array (VariantItems.refl layout.item items)
  | .object fields => .object (VariantFields.refl layout fields) (.refl fields)

theorem VariantItems.refl (layout : Layout) : ∀ items : List Json, VariantItems layout items items
  | [] => .nil
  | item :: items => .cons (Variant.refl layout item) (VariantItems.refl layout items)

theorem VariantFields.refl (layout : Layout) :
    ∀ fields : List (Option String × Json), VariantFields layout fields fields
  | [] => .nil
  | (name, value) :: fields =>
    .keep (Variant.refl (layout.field name) value) (VariantFields.refl layout fields)

end

variable {layout : Layout} {json : Json}

/-! ## Values without fields -/

theorem Variant.eq_text {value : String} (h : Variant layout (.text value) json) :
    json = .text value := by
  cases h
  rfl

theorem Variant.eq_number {value : JsonNumber} (h : Variant layout (.number value) json) :
    json = .number value := by
  cases h
  rfl

theorem Variant.eq_bool {value : Bool} (h : Variant layout (.bool value) json) :
    json = .bool value := by
  cases h
  rfl

theorem Variant.eq_null (h : Variant layout .null json) : json = .null := by
  cases h
  rfl

/-! ## Records -/

/-- What a variant of a record offers to a reader: some fields of the record, each once
and varied, and all fields without a default among them. -/
structure Offers (layout : Layout) (fields named : Fields) : Prop where
  distinct : (fields.map Prod.fst).Nodup
  nodup : (named.map Prod.fst).Nodup
  variant : ∀ field ∈ named, ∃ value, (field.1, value) ∈ fields ∧
    Variant (layout.field (some field.1)) value field.2
  default : ∀ field ∈ fields, field.1 ∉ named.map Prod.fst →
    layout.default? (some field.1) = some field.2

namespace Offers

variable {fields named named' : Fields} {name : String} {value value' : Json}

theorem names_subset (h : Offers layout fields named) (hname : name ∈ named.map Prod.fst) :
    name ∈ fields.map Prod.fst := by
  obtain ⟨field, hfield, rfl⟩ := List.mem_map.mp hname
  obtain ⟨value, hvalue, -⟩ := h.variant field hfield
  exact List.mem_map.mpr ⟨_, hvalue, rfl⟩

theorem perm (h : Offers layout fields named) (hperm : named'.Perm named) :
    Offers layout fields named' := by
  have hnames := hperm.map Prod.fst
  refine ⟨h.distinct, hnames.nodup_iff.mpr h.nodup, ?_, ?_⟩
  · intro field hfield
    exact h.variant field (hperm.mem_iff.mp hfield)
  · intro field hfield habsent
    exact h.default field hfield fun hname => habsent (hnames.mem_iff.mpr hname)

theorem nil : Offers layout [] [] := ⟨.nil, .nil, by simp, by simp⟩

theorem keep (hname : name ∉ fields.map Prod.fst)
    (hvalue : Variant (layout.field (some name)) value value') (h : Offers layout fields named) :
    Offers layout ((name, value) :: fields) ((name, value') :: named) := by
  refine ⟨List.nodup_cons.mpr ⟨hname, h.distinct⟩, ?_, ?_, ?_⟩
  · exact List.nodup_cons.mpr ⟨fun hmem => hname (h.names_subset hmem), h.nodup⟩
  · intro field hfield
    rcases List.mem_cons.mp hfield with rfl | hfield
    · exact ⟨value, List.mem_cons_self, hvalue⟩
    · obtain ⟨value, hmem, hvariant⟩ := h.variant field hfield
      exact ⟨value, List.mem_cons_of_mem _ hmem, hvariant⟩
  · intro field hfield habsent
    rw [List.map_cons, List.mem_cons, not_or] at habsent
    rcases List.mem_cons.mp hfield with rfl | hfield
    · exact absurd rfl habsent.1
    · exact h.default field hfield habsent.2

theorem leaveOut (hname : name ∉ fields.map Prod.fst)
    (hdefault : layout.default? (some name) = some value) (h : Offers layout fields named) :
    Offers layout ((name, value) :: fields) named := by
  refine ⟨List.nodup_cons.mpr ⟨hname, h.distinct⟩, h.nodup, ?_, ?_⟩
  · intro field hfield
    obtain ⟨value, hmem, hvariant⟩ := h.variant field hfield
    exact ⟨value, List.mem_cons_of_mem _ hmem, hvariant⟩
  · intro field hfield habsent
    rcases List.mem_cons.mp hfield with rfl | hfield
    · exact hdefault
    · exact h.default field hfield habsent

theorem eq_nil (h : Offers layout [] named) : named = [] := by
  refine List.eq_nil_iff_forall_not_mem.mpr fun field hfield => ?_
  obtain ⟨value, hvalue, -⟩ := h.variant field hfield
  exact absurd hvalue List.not_mem_nil

theorem tail (h : Offers layout ((name, value) :: fields) ((name, value') :: named)) :
    Variant (layout.field (some name)) value value' ∧ Offers layout fields named := by
  obtain ⟨hname, hdistinct⟩ := List.nodup_cons.mp h.distinct
  obtain ⟨hname', hnodup⟩ := List.nodup_cons.mp h.nodup
  refine ⟨?_, hdistinct, hnodup, ?_, ?_⟩
  · obtain ⟨value'', hvalue, hvariant⟩ := h.variant (name, value') List.mem_cons_self
    rcases List.mem_cons.mp hvalue with heq | hmem
    · rwa [(Prod.mk.inj heq).2] at hvariant
    · exact absurd (List.mem_map.mpr ⟨_, hmem, rfl⟩) hname
  · intro field hfield
    obtain ⟨value'', hvalue, hvariant⟩ := h.variant field (List.mem_cons_of_mem _ hfield)
    rcases List.mem_cons.mp hvalue with heq | hmem
    · have hsame : field.1 = name := (Prod.mk.inj heq).1
      exact absurd (List.mem_map.mpr ⟨field, hfield, hsame⟩) hname'
    · exact ⟨value'', hmem, hvariant⟩
  · intro field hfield habsent
    refine h.default field (List.mem_cons_of_mem _ hfield) ?_
    rw [List.map_cons, List.mem_cons, not_or]
    exact ⟨fun hsame => hname (List.mem_map.mpr ⟨field, hfield, hsame⟩), habsent⟩

/-- A field without a default is offered somewhere, and around it the other fields are. -/
theorem exists_append (h : Offers layout ((name, value) :: fields) named)
    (hdefault : layout.default? (some name) = none) :
    ∃ before value' after, named = before ++ (name, value') :: after ∧
      Variant (layout.field (some name)) value value' ∧
      Offers layout fields (before ++ after) := by
  have hname : name ∈ named.map Prod.fst := by
    by_contra habsent
    exact absurd (h.default (name, value) List.mem_cons_self habsent) (by simp [hdefault])
  obtain ⟨⟨_, value'⟩, hmem, rfl⟩ := List.mem_map.mp hname
  obtain ⟨before, after, rfl⟩ := List.append_of_mem hmem
  exact ⟨before, value', after, rfl, (h.perm List.perm_middle.symm).tail⟩

theorem exists_singleton (h : Offers layout [(name, value)] named)
    (hdefault : layout.default? (some name) = none) :
    ∃ value', named = [(name, value')] ∧ Variant (layout.field (some name)) value value' := by
  obtain ⟨before, value', after, rfl, hvalue, hrest⟩ := h.exists_append hdefault
  obtain ⟨rfl, rfl⟩ := List.append_eq_nil_iff.mp hrest.eq_nil
  exact ⟨value', rfl, hvalue⟩

end Offers

theorem VariantFields.exists_offers {fields : Fields} {kept : List (Option String × Json)}
    (h : VariantFields layout (fields.map fun (name, value) => (some name, value)) kept)
    (hnodup : (fields.map Prod.fst).Nodup) :
    ∃ named : Fields, kept = named.map (fun (name, value) => (some name, value)) ∧
      Offers layout fields named := by
  induction fields generalizing kept with
  | nil =>
      cases h
      exact ⟨[], rfl, .nil⟩
  | cons field fields ih =>
      obtain ⟨hname, hnodup⟩ := List.nodup_cons.mp hnodup
      cases h with
      | keep hvalue hkept =>
          obtain ⟨named, rfl, hoffers⟩ := ih hkept hnodup
          exact ⟨(field.1, _) :: named, rfl, hoffers.keep hname hvalue⟩
      | leaveOut hdefault hkept =>
          obtain ⟨named, rfl, hoffers⟩ := ih hkept hnodup
          exact ⟨named, rfl, hoffers.leaveOut hname hdefault⟩

/-- A variant of a record is a record again. -/
theorem Variant.exists_offers {fields : Fields} (h : Variant layout (.record fields) json)
    (hnodup : (fields.map Prod.fst).Nodup) :
    ∃ named : Fields, json = .record named ∧ Offers layout fields named := by
  cases h with
  | @object _ _ _ fields' hkept hperm =>
      obtain ⟨kept, rfl, hoffers⟩ := hkept.exists_offers hnodup
      have hpermuted := congrFun₂ (List.eq_map_comp_perm fun ((name, value) : String × Json) =>
        (some name, value)) fields' kept
      obtain ⟨named, rfl, hnamed⟩ := hpermuted.mpr hperm.symm
      exact ⟨named, rfl, hoffers.perm hnamed⟩

end Json

end SchemaDdl
