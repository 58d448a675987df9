import InfluxKeeper.Record.Document

/-!
# Documents of a manifest

A manifest holds documents, and every document is one record. Empty documents are skipped, and no two
records may have the same kind and name. The first document at fault is reported.
-/

namespace InfluxKeeper.Manifest

/-- Why a document is no record of a manifest. -/
inductive DocumentFault
  | notMap (typeName : String)
  | invalid (kind : String) (rejection : Schema.Rejection)
  /-- An invalid document whose kind has no text. -/
  | textlessKind
  | duplicate (kind name : String)
  deriving DecidableEq, Repr

/-- The wording of a fault; what is wrong with an invalid record is left to its rejection. -/
def DocumentFault.message : DocumentFault → String
  | notMap typeName => "Expected a mapping, got " ++ typeName
  | invalid kind _ => "Invalid " ++ kind ++ " record: "
  | textlessKind => noText
  | duplicate kind name => "Duplicate " ++ kind ++ " record: " ++ name

/-- Whether a fault is reported as one of the manifest. An invalid document is reported by its kind, so one
whose kind has no text is not. -/
def DocumentFault.reported : DocumentFault → Bool
  | textlessKind => false
  | _ => true

/-- The kind that a document says it is of. -/
def kindOf (entries : Entries) : Value := (entries.get? "kind").getD (.text "<missing kind>")

/-- The record that a document is. -/
def record (now : Timestamp) (document : Value) : Except DocumentFault Record :=
  match document with
  | .map entries =>
    match Record.check now entries with
    | .valid r => .ok r
    | .invalid issues =>
      if (kindOf entries).hasText then
        .error (.invalid (kindOf entries).shown ⟨Record.title, issues⟩)
      else .error .textlessKind
  | v => .error (.notMap v.typeName)

/-- The kind and name of a record. -/
def identity (r : Record) : Kind × String := (r.kind, r.name)

/-- The records of documents, given the kinds and names of those before. -/
def recordsAfter (now : Timestamp) (seen : List (Kind × String)) :
    List Value → Except DocumentFault (List Record)
  | [] => .ok []
  | document :: rest =>
    if document.isNull then recordsAfter now seen rest
    else
      match record now document with
      | .error fault => .error fault
      | .ok r =>
        if identity r ∈ seen then .error (.duplicate r.kind.name r.name)
        else (recordsAfter now (identity r :: seen) rest).map (r :: ·)

/-- The records of documents. -/
def records (now : Timestamp) (documents : List Value) : Except DocumentFault (List Record) :=
  recordsAfter now [] documents

end InfluxKeeper.Manifest
