import InfluxKeeper.Record.Basic

/-!
# References between records

A bucket names its organization, and a mapping its bucket and organization, by the record's name or by
labels. A resolver knows what is named; a directory, which holds the records that can be named, is one.
Before a record is reconciled, a selector of an open field becomes a reference to the first record that
carries its labels, and a reference gives the field the identity of the record named, as soon as that has
one.
-/

namespace InfluxKeeper

/-- The records that can be named. Of records of one kind and name the last one counts, in the place of
the first. -/
abbrev Directory := List Record

namespace Directory

/-- A directory with a record entered. -/
def enter (r : Record) : Directory → Directory
  | [] => [r]
  | s :: rest => if s.kind = r.kind ∧ s.name = r.name then r :: rest else s :: enter r rest

/-- The directory of a list of records. -/
def ofRecords (records : List Record) : Directory := records.foldl (fun d r => d.enter r) []

/-- The record of a kind and name. -/
def find? (d : Directory) (kind name : String) : Option Record :=
  List.find? (fun r => r.kind.name = kind ∧ r.name = name) d

/-- Whether a record carries all labels of a list. A label that is not there counts as null. -/
def carries (labels : List (String × Value)) (r : Record) : Bool :=
  labels.all fun l => ((r.metadata.labels.lookup l.1).getD .null).same l.2

/-- The name of the first record of a kind that carries all labels of a list. -/
def select? (d : Directory) (kind : String) (labels : List (String × Value)) : Option String :=
  (List.find? (fun r => r.kind.name = kind && carries labels r) d).map (·.name)

end Directory

/-- What a reference takes from the record that it names. -/
inductive Identity
  | id
  | externalName
  deriving DecidableEq, Repr

/-- The identity of a record if it is of a kind, the empty text otherwise. Mappings have no id. -/
def Identity.of (i : Identity) (kind : String) (r : Record) : Value :=
  match i with
  | id => if r.kind.name = kind then r.observedId else .text ""
  | externalName => if r.kind.name = kind then r.externalName else .text ""

/-- The identity that a reference resolves to: none if the record is unknown or has none yet. -/
def Directory.resolve? (d : Directory) (kind name : String) (i : Identity) : Option Value :=
  match d.find? kind name with
  | some r =>
    let v := i.of kind r
    if v.truthy then some v else none
  | none => none

/-- What references are resolved by: the identity of the record of a kind and name, if it has one, and the
name of the first record of a kind that carries all labels of a list. -/
structure Resolver where
  resolve? : (kind name : String) → Identity → Option Value
  select? : (kind : String) → (labels : List (String × Value)) → Option String

/-- A directory as a resolver. -/
def Directory.resolver (d : Directory) : Resolver := ⟨d.resolve?, d.select?⟩

/-- The reference of a field: the one that is there, or the one that a selector picks for an open
field. -/
def Resolver.pick (n : Resolver) (kind : String) (reference : Option Reference)
    (selector : Option Selector) (isOpen : Bool) : Option Reference :=
  match reference, selector with
  | some r, _ => some r
  | none, some s =>
    if isOpen then (n.select? kind (s.matchLabels.map fun l => (l.1, .text l.2))).map Reference.mk
    else none
  | none, none => none

/-- A field after resolution: the identity of the record that a reference names, or what it was. -/
def Resolver.fieldOr (n : Resolver) (kind : String) (i : Identity) (reference : Option Reference)
    (current : Value) : Value :=
  (reference.bind fun r => n.resolve? kind r.name i).getD current

/-- A bucket's parameters with references resolved. -/
def Bucket.Parameters.resolve (n : Resolver) (p : Bucket.Parameters) : Bucket.Parameters :=
  let org := n.pick Kind.organization.name p.orgIDRef p.orgIDSelector !p.orgID.truthy
  { p with
    orgIDRef := org
    orgID := n.fieldOr Kind.organization.name .id org p.orgID }

/-- A mapping's parameters with references resolved. -/
def Mapping.Parameters.resolve (n : Resolver) (p : Mapping.Parameters) : Mapping.Parameters :=
  let bucket := n.pick Kind.bucket.name p.bucketIDRef p.bucketIDSelector !p.bucketID.truthy
  let org := n.pick Kind.organization.name p.orgRef p.orgSelector !p.org.truthy
  { p with
    bucketIDRef := bucket
    bucketID := n.fieldOr Kind.bucket.name .id bucket p.bucketID
    orgRef := org
    org := n.fieldOr Kind.organization.name .externalName org p.org }

/-- A record with its references resolved. -/
def Record.resolve (n : Resolver) (r : Record) : Record :=
  match r.resource with
  | .organization .. => r
  | .bucket p o => { r with resource := .bucket (p.resolve n) o }
  | .mapping p o => { r with resource := .mapping (p.resolve n) o }

/-- Resolving keeps what names the record. -/
@[simp] theorem Record.metadata_resolve (n : Resolver) (r : Record) :
    (r.resolve n).metadata = r.metadata := by
  unfold resolve
  split <;> rfl

end InfluxKeeper
