import InfluxKeeper.Manifest.File
import InfluxKeeper.Proofs.Api.Plain
import InfluxKeeper.Proofs.Manifest.Documents
import InfluxKeeper.Proofs.Record.RoundTrip
import InfluxKeeper.Proofs.Yaml.Loading

/-!
# Manifests are written losslessly

A manifest is read as records, and the records are written as documents. The documents are read as the same records
in the same order, since each is read as its record and no two records have the same kind and name.

> `dump_reread`: what a document or a list of documents is read as, is written as documents that are read as the
> same, and so is a file of the text dumped, if that text loads as the documents that it was dumped from.

All that is asked of a document is that its dates and points in time are real. Those of every file are
(`documents_timely`), so whatever a file is read as is written losslessly (`ofFile_reread`).
-/

namespace InfluxKeeper

open Schema

/-- What a JSON text can hold is timely. -/
theorem Value.Plain.timely {v : Value} (h : v.Plain) : v.Timely := by
  induction h with
  | @scalar s plain =>
    cases s with
    | date d => exact plain.elim
    | time t => exact plain.elim
    | _ => exact .scalar trivial
  | list _ ih => exact .list ih
  | map _ _ ih => exact .map ih

namespace Manifest

variable {now now' : Timestamp} {document : Value} {docs : List Value} {r : Record}
  {rs : List Record}

/-! ## Documents -/

theorem record_ok_iff :
    record now document = .ok r ↔ model Record.title (Record.check now) document = .valid r := by
  cases document with
  | map entries =>
    unfold record
    dsimp only [model]
    cases Record.check now entries with
    | valid r' => exact ⟨fun h => by cases h; rfl, fun h => by cases h; rfl⟩
    | invalid issues =>
      refine ⟨fun h => ?_, nofun⟩
      dsimp only at h
      split at h
      · cases h
      · cases h
  | _ => exact ⟨nofun, nofun⟩

/-- A record that was read is written as a document that is read as the same record. -/
theorem record_reread (hn : now.Real) (now' : Timestamp) (hd : document.Timely)
    (h : record now document = .ok r) : r.toValue.Written ∧ record now' r.toValue = .ok r := by
  have htold := Record.lossless hn now' document r hd (record_ok_iff.mp h)
  exact ⟨htold.written, record_ok_iff.mpr htold.reads⟩

/-- Records that were read are written as documents that are read as the same records. -/
theorem records_reread (hn : now.Real) (now' : Timestamp) (hd : ∀ d ∈ docs, d.Timely)
    (h : records now docs = .ok rs) : records now' (rs.map Record.toValue) = .ok rs := by
  have hholds := records_ok_iff.mp h
  have htimely : ∀ d ∈ docs.filter (fun d => !d.isNull), d.Timely :=
    fun d hmem => hd d (List.mem_of_mem_filter hmem)
  have hread : ∀ r ∈ rs, record now' r.toValue = .ok r := by
    have hsources := ((List.forall₂_and_left _ _).mpr ⟨htimely, hholds.read⟩).flip
    refine ((List.forall₂_and_left _ _).mp (hsources.imp fun r d hsource => ⟨?_, trivial⟩)).1
    exact (record_reread hn now' hsource.1 hsource.2).2
  have hfull : (rs.map Record.toValue).filter (fun d => !d.isNull) = rs.map Record.toValue :=
    List.filter_eq_self.mpr (by simp [Record.toValue, Value.isNull])
  refine records_ok_iff.mpr ⟨?_, hholds.distinct⟩
  rw [hfull, List.forall₂_map_left_iff]
  exact List.forall₂_same.mpr hread

/-! ## Files -/

/-- The documents of a file are timely. -/
theorem documents_timely {path : String} {octets : List UInt8}
    (h : documents path octets = .ok docs) : ∀ d ∈ docs, d.Timely := by
  unfold documents at h
  split at h
  · obtain ⟨s, -, h⟩ := bind_ok_iff.mp h
    obtain ⟨v, hread, hv⟩ := map_ok_iff.mp (mapError_ok_iff.mp h)
    have hplain := (Json.read_plain hread).timely
    subst hv
    split
    · exact Value.timely_list_iff.mp hplain
    · simpa using hplain
  · exact Yaml.load_timely (mapError_ok_iff.mp h)

theorem ofFile_ok_iff {path : String} {state : FileState} :
    ofFile now path state = .ok rs ↔
      ∃ octets docs, state = .octets octets ∧ documents path octets = .ok docs ∧
        records now docs = .ok rs := by
  cases state with
  | octets content =>
    constructor
    · intro h
      obtain ⟨docs, hdocs, h⟩ := bind_ok_iff.mp h
      exact ⟨content, docs, rfl, hdocs, mapError_ok_iff.mp h⟩
    · rintro ⟨_, docs, ⟨⟩, hdocs, h⟩
      exact bind_ok_iff.mpr ⟨docs, hdocs, mapError_ok_iff.mpr h⟩
  | unreadable fault => exact ⟨nofun, nofun⟩
  | noPath => exact ⟨nofun, nofun⟩

/-- Whatever the file, the records that it is read as are written as documents that are read as the same. -/
theorem ofFile_reread {path : String} {state : FileState} (hn : now.Real) (now' : Timestamp)
    (h : ofFile now path state = .ok rs) : records now' (rs.map Record.toValue) = .ok rs := by
  obtain ⟨octets, docs, -, hdocs, h⟩ := ofFile_ok_iff.mp h
  exact records_reread hn now' (documents_timely hdocs) h

/-- **What is dumped and loaded is the same again.** A document that is read as a record is written as texts,
whole numbers, truth values, lists and maps by texts, and these are read as the same record at any time. Documents
are written as documents that are read as the same records in the same order; so is the text that they are dumped
as, where the text loads as the documents that it was dumped from. -/
theorem dump_reread {now : Timestamp} (hn : now.Real) (now' : Timestamp) :
    (∀ document r, document.Timely → record now document = .ok r →
      r.toValue.Written ∧ record now' r.toValue = .ok r) ∧
    ∀ docs rs, (∀ d ∈ docs, d.Timely) → records now docs = .ok rs →
      records now' (rs.map Record.toValue) = .ok rs ∧
      ∀ path, holdsJson path = false →
        Yaml.load (.ofOctets (dump rs).toUTF8.toList) = .ok (rs.map Record.toValue) →
        ofFile now' path (.octets (dump rs).toUTF8.toList) = .ok rs := by
  refine ⟨fun document r hd h => record_reread hn now' hd h, fun docs rs hd h => ?_⟩
  have hreread := records_reread hn now' hd h
  refine ⟨hreread, fun path hpath hload => ofFile_ok_iff.mpr ⟨_, _, rfl, ?_, hreread⟩⟩
  unfold documents
  rw [hpath, hload]
  rfl

/-- A bucket with a number as a text, a point in time with a distance from universal time, fields by either name,
a field that no record has, and a condition without a time. -/
def laxBucket : Value := .object [
  ("kind", .text "Bucket"),
  ("note", .bool true),
  ("metadata", .object [("name", .text "metrics"),
    ("deletion_timestamp", .scalar (.time ⟨⟨2024, 2, 29⟩, 10, 0, 0, 500000, some 330⟩))]),
  ("spec", .object [("for_provider", .object [("orgIDRef", .object [("name", .text "acme")]),
    ("retentionRules", .list [.object [("every_seconds", .text "3600")]])])]),
  ("status", .object [("conditions", .list [.object [("type", .text "Ready"), ("status", .text "True"),
    ("reason", .text "Available")]])])]

/-- A mapping with a date for a point in time, a word for a truth value, and fields by either name. -/
def laxMapping : Value := .object [
  ("kind", .text "DatabaseRetentionPolicyMapping"),
  ("metadata", .object [("name", .text "m"), ("deletion_timestamp", .scalar (.date ⟨2024, 1, 2⟩))]),
  ("spec", .object [("for_provider", .object [("database", .text "db"), ("retention_policy", .text "rp"),
    ("default", .text "yes")])])]

/-- The record that the mapping is read as. -/
def readMapping : Record :=
  ⟨Record.defaultApiVersion, ⟨"m", [], [], some (.midnight ⟨2024, 1, 2⟩)⟩, [],
    .mapping ⟨.text "", none, none, "db", .bool true, .text "", none, none, "rp"⟩ .empty⟩

theorem laxBucket_timely : laxBucket.Timely := by
  have htime : Timestamp.Real ⟨⟨2024, 2, 29⟩, 10, 0, 0, 500000, some 330⟩ :=
    ⟨⟨by decide, by decide, by decide⟩, by decide, by decide, by decide, by decide,
      fun _ hm => by cases hm; decide⟩
  simpa [laxBucket, Value.object, Value.text, Value.bool, Value.timely_map_iff, Value.timely_list_iff,
    Value.timely_scalar_iff, Scalar.Timely] using htime

theorem laxMapping_timely : laxMapping.Timely := by
  have hdate : Date.Real ⟨2024, 1, 2⟩ := ⟨by decide, by decide, by decide⟩
  simpa [laxMapping, Value.object, Value.text, Value.timely_map_iff, Value.timely_scalar_iff,
    Scalar.Timely] using hdate

theorem dump_reread_lax :
    (∃ r, record (.midnight ⟨2024, 5, 6⟩) laxBucket = .ok r ∧
      r.conditions = [⟨"Ready", "True", "Available", "", .midnight ⟨2024, 5, 6⟩⟩] ∧
      record (.midnight ⟨2025, 1, 1⟩) r.toValue = .ok r) ∧
    records (.midnight ⟨2024, 5, 6⟩) [.null, laxMapping] = .ok [readMapping] ∧
      records (.midnight ⟨2025, 1, 1⟩) [readMapping.toValue] = .ok [readMapping] ∧
      ofFile (.midnight ⟨2025, 1, 1⟩) "out.yaml" (.octets (dump [readMapping]).toUTF8.toList) =
        .ok [readMapping] := by
  have hn : (Timestamp.midnight ⟨2024, 5, 6⟩).Real :=
    Timestamp.real_midnight ⟨by decide, by decide, by decide⟩
  obtain ⟨hrecord, hrecords⟩ := dump_reread hn (.midnight ⟨2025, 1, 1⟩)
  have hbucket : (record (.midnight ⟨2024, 5, 6⟩) laxBucket).toOption.map (·.conditions) =
      some [⟨"Ready", "True", "Available", "", .midnight ⟨2024, 5, 6⟩⟩] := by
    decide +kernel
  have hmapping : (records (.midnight ⟨2024, 5, 6⟩) [.null, laxMapping]).toOption =
      some [readMapping] := by
    decide +kernel
  have hload : (Yaml.load (.ofOctets (dump [readMapping]).toUTF8.toList)).toOption =
      some [readMapping.toValue] := by
    decide +kernel
  have htimely : ∀ d ∈ [Value.null, laxMapping], d.Timely := by
    simp [laxMapping_timely, Value.null, Value.timely_scalar_iff, Scalar.Timely]
  obtain ⟨r, hr, hconditions⟩ := Option.map_eq_some_iff.mp hbucket
  obtain ⟨hreread, hfile⟩ := hrecords _ _ htimely (ok_of_toOption hmapping)
  exact ⟨⟨r, ok_of_toOption hr, hconditions, (hrecord _ r laxBucket_timely (ok_of_toOption hr)).2⟩,
    ok_of_toOption hmapping, hreread, hfile "out.yaml" (by decide) (ok_of_toOption hload)⟩

end Manifest

end InfluxKeeper
