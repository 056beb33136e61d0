import TypedGraphQL.Name

/-!
# Shapes: what an operation selects

A shape describes a type by what a selection needs to know of it: whether it is a scalar or a
record, and the fields of a record in declared order.  Lists and optional values add no text of
their own and are kept only as wrappers.

Records refer to each other, possibly in circles, so a shape mentions a record by its name in some
type `R` of names, and a `Catalog R` says what each name stands for.  Shapes themselves are finite
trees, and nothing here has to be lazy.

## What is here

* `TypeShape R`, `FieldShape R`, `RecordShape R`, `Catalog R` — the descriptions.
* `TypeShape.element` — the type below all wrappers; `TypeShape.record?` — its record, if it is one.
* `FieldShape.resolvedName?` — the name under which a field is selected, `none` if it is left out.
* `FieldShape.isInlined` — whether a field's own fields are selected in its place.
-/

set_option autoImplicit false

namespace TypedGraphQL

/-- A type, described for selection. -/
inductive TypeShape (R : Type)
  /-- A leaf: it contributes only the name of its field. -/
  | scalar
  /-- An aggregate of fields, selected as a set. -/
  | record (r : R)
  /-- A list of values of the element type. -/
  | list (element : TypeShape R)
  /-- A value of the element type or none. -/
  | optional (element : TypeShape R)
  deriving DecidableEq, Repr

namespace TypeShape

variable {R : Type}

/-- The type below all lists and optional wrappers. -/
def element : TypeShape R → TypeShape R
  | list t => t.element
  | optional t => t.element
  | t => t

/-- The record below all wrappers, if there is one. -/
def record? : TypeShape R → Option R
  | scalar => none
  | record r => some r
  | list t => t.record?
  | optional t => t.record?

/-- The type below all wrappers is a scalar. -/
def isScalar (t : TypeShape R) : Bool :=
  t.record?.isNone

theorem record?_eq_some_iff {t : TypeShape R} {r : R} :
    t.record? = some r ↔ t.element = record r := by
  induction t with
  | scalar => simp [record?, element]
  | record s => simp [record?, element]
  | list t ih => simpa [record?, element] using ih
  | optional t ih => simpa [record?, element] using ih

theorem element_eq_scalar_iff {t : TypeShape R} : t.element = scalar ↔ t.record? = none := by
  induction t with
  | scalar => simp [record?, element]
  | record s => simp [record?, element]
  | list t ih => simpa [record?, element] using ih
  | optional t ih => simpa [record?, element] using ih

end TypeShape

/-- One field of a record. -/
structure FieldShape (R : Type) where
  /-- The declared identifier. -/
  ident : String
  /-- Text that replaces the name derived from the identifier; it may carry arguments or a
  fragment marker. -/
  tag : Option String := none
  /-- Text written after the name, such as `(first:10)`. -/
  arguments : Option String := none
  /-- The name of the field of the child that points back to this one. -/
  inverse : Option String := none
  /-- The field stands for the fields of its type. -/
  embedded : Bool := false
  type : TypeShape R
  deriving DecidableEq, Repr

namespace FieldShape

variable {R : Type}

/-- The tag of a field that is not selected. -/
def omitTag : String := "-"

/-- The name under which the field is selected: its tag, unless that is empty, or else the
lowerCamelCase form of its identifier; `none` for a field that is left out. -/
def resolvedName? (f : FieldShape R) : Option String :=
  match f.tag with
  | none => some (lowerCamel f.ident)
  | some tag =>
    if tag = omitTag then none
    else if tag = "" then some (lowerCamel f.ident)
    else some tag

/-- An embedded field without a tag gives its place to the fields of its type. -/
def isInlined (f : FieldShape R) : Bool :=
  f.embedded && f.tag.isNone

/-- The same field, left out of every selection. -/
def omitted (f : FieldShape R) : FieldShape R :=
  { f with tag := some omitTag }

theorem resolvedName?_eq_none_iff {f : FieldShape R} :
    f.resolvedName? = none ↔ f.tag = some omitTag := by
  unfold resolvedName?
  cases h : f.tag with
  | none => simp
  | some tag =>
    by_cases homit : tag = omitTag
    · simp [homit]
    · by_cases hempty : tag = "" <;> simp_all

theorem isInlined_iff {f : FieldShape R} :
    f.isInlined = true ↔ f.embedded = true ∧ f.tag = none := by
  simp [isInlined]

theorem isInlined_eq_false_iff {f : FieldShape R} :
    f.isInlined = false ↔ ¬ (f.embedded = true ∧ f.tag = none) := by
  rw [← isInlined_iff, Bool.not_eq_true]

@[simp] theorem resolvedName?_omitted (f : FieldShape R) : f.omitted.resolvedName? = none := by
  simp [resolvedName?_eq_none_iff, omitted]

/-- An inlined field is never left out by its tag. -/
theorem resolvedName?_of_isInlined {f : FieldShape R} (h : f.isInlined = true) :
    f.resolvedName? = some (lowerCamel f.ident) := by
  simp [resolvedName?, (isInlined_iff.1 h).2]

end FieldShape

/-- A named record with its fields in declared order. -/
structure RecordShape (R : Type) where
  typeName : String
  fields : List (FieldShape R)
  deriving DecidableEq, Repr

/-- What each record name stands for. -/
abbrev Catalog (R : Type) := R → RecordShape R

/-- The record shape of a geographic point, over any record names. -/
def RecordShape.point {R : Type} : RecordShape R where
  typeName := "Point"
  fields := [{ ident := "latitude", type := .scalar }, { ident := "longitude", type := .scalar }]

end TypedGraphQL
