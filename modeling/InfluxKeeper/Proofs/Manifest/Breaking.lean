import InfluxKeeper.Proofs.Command.Perform
import InfluxKeeper.Proofs.Json.Numbers
import InfluxKeeper.Proofs.Manifest.Documents
import InfluxKeeper.Proofs.Yaml.Loading

/-!
# Manifests that break reading off

What cannot be read as a manifest is answered with what is wrong with it, and there are few things that break
reading off instead. All of them are listed (`BreaksOff`), with what there is in the file that does it.

> `perform_answers_iff`: a command has the records of a file, or says what is wrong with it, unless the file is one
> that breaks reading off; then so is the command.

In JSON the kind of a record always has a text, since numbers that have none are not read at all.
-/

namespace InfluxKeeper

open Text

namespace Manifest

variable {now : Timestamp} {path : String} {file : FileState} {content : List UInt8}

/-- What breaks reading a manifest off. -/
inductive BreaksOff (now : Timestamp) (path : String) : FileState → Prop
  /-- A path that leads nowhere. -/
  | noPath : BreaksOff now path .noPath
  /-- JSON in octets that are no text. -/
  | jsonNoText {content : List UInt8} (json : holdsJson path = true) (noText : ¬∃ s, Utf8.decode content = .ok s) :
      BreaksOff now path (.octets content)
  /-- JSON that is read up to a whole number of too many digits. -/
  | jsonLongNumber {content : List UInt8} {s : List Char} {n : Nat} (json : holdsJson path = true)
      (text : Utf8.decode content = .ok s)
      (read : Json.read (String.ofList (unifyLineEnds s)) = .error (.tooLong n))
      (run : ∃ run, Json.LongRun run ∧ run.length = n ∧ run <:+: unifyLineEnds s) :
      BreaksOff now path (.octets content)
  /-- YAML that is read up to octets that are no text. -/
  | yamlNoText {content : List UInt8} {e : Utf8.Error} (yaml : holdsJson path = false)
      (read : Yaml.load (.ofOctets content) = .error (.notText e)) (noText : ¬∃ s, Utf8.decode content = .ok s) :
      BreaksOff now path (.octets content)
  /-- YAML that spells a scalar that no value has. -/
  | yamlScalar {content : List UInt8} {f : Yaml.ScalarFault} (yaml : holdsJson path = false)
      (read : Yaml.load (.ofOctets content) = .error (.scalar f)) (arises : f.Arises) :
      BreaksOff now path (.octets content)
  /-- YAML whose first document at fault is no record and of a kind that has no text. -/
  | yamlKind {content : List UInt8} {before after : List Value} {rs : List Record} {entries : Entries}
      {issues : List Schema.Issue} (yaml : holdsJson path = false)
      (read : Yaml.load (.ofOctets content) = .ok (before ++ .map entries :: after)) (holds : Holds now before rs)
      (check : Record.check now entries = .invalid issues) (noText : (kindOf entries).hasText = false) :
      BreaksOff now path (.octets content)

/-! ## Kinds that have no text -/

theorem hasText_of_mem_items {items : List Value} {v : Value} (h : Value.itemsHaveText items = true)
    (hv : v ∈ items) : v.hasText = true := by
  induction items with
  | nil => cases hv
  | cons item rest ih =>
    simp only [Value.itemsHaveText, Bool.and_eq_true] at h
    rcases List.mem_cons.mp hv with rfl | hv
    · exact h.1
    · exact ih h.2 hv

theorem hasText_of_mem_entries {entries : Entries} {e : Scalar × Value}
    (h : Value.entriesHaveText entries = true) (he : e ∈ entries) : e.2.hasText = true := by
  induction entries with
  | nil => cases he
  | cons first rest ih =>
    simp only [Value.entriesHaveText, Bool.and_eq_true] at h
    rcases List.mem_cons.mp he with rfl | he
    · exact h.1.2
    · exact ih h.2 he

theorem hasText_kindOf {entries : Entries} (h : Value.entriesHaveText entries = true) :
    (kindOf entries).hasText = true := by
  unfold kindOf
  cases hkind : entries.get? "kind" with
  | none => rfl
  | some v =>
    obtain ⟨e, he, rfl⟩ := Option.map_eq_some_iff.mp hkind
    exact hasText_of_mem_entries h (List.mem_of_find?_eq_some he)

/-- The documents of a JSON text have texts. -/
theorem hasText_of_mem_jsonDocuments {s : String} {docs : List Value} (h : jsonDocuments s = .ok docs)
    {document : Value} (hmem : document ∈ docs) : document.hasText = true := by
  obtain ⟨v, hread, rfl⟩ := map_ok_iff.mp h
  have hv := Json.read_hasText hread
  split at hmem
  · exact hasText_of_mem_items hv hmem
  · rwa [List.mem_singleton.mp hmem]

/-- A document that is refused for its kind is a mapping that is no record. -/
theorem record_textlessKind_iff {document : Value} :
    record now document = .error .textlessKind ↔
      ∃ entries issues, document = .map entries ∧ Record.check now entries = .invalid issues ∧
        (kindOf entries).hasText = false := by
  constructor
  · intro h
    unfold record at h
    split at h
    · split at h
      · cases h
      · next hcheck =>
        split at h
        · cases h
        · next hkind => exact ⟨_, _, rfl, hcheck, by simpa using hkind⟩
    · cases h
  · rintro ⟨entries, issues, rfl, hcheck, hkind⟩
    unfold record
    dsimp only
    rw [hcheck]
    dsimp only
    rw [if_neg (by simp [hkind])]

/-! ## Reading a file -/

theorem BreaksOff.of_documents {fault : FileFault} (h : documents path content = .error fault)
    (silent : fault.reported = false) : BreaksOff now path (.octets content) := by
  unfold documents at h
  cases json : holdsJson path with
  | true =>
    rw [if_pos json] at h
    rcases bind_error_iff.mp h with h | ⟨s, htext, h⟩
    · obtain ⟨e, hdecode, -⟩ := mapError_error_iff.mp h
      exact .jsonNoText json fun ⟨s, hs⟩ => by rw [hs] at hdecode; cases hdecode
    · have htext := mapError_ok_iff.mp htext
      obtain ⟨e, hread, rfl⟩ := mapError_error_iff.mp h
      have hread := map_error_iff.mp hread
      cases e with
      | tooLong n =>
        have hrun := Json.read_tooLong hread
        rw [String.toList_ofList] at hrun
        exact .jsonLongNumber json htext hread hrun
      | _ => cases silent
  | false =>
    rw [if_neg (by simp [json])] at h
    obtain ⟨f, hload, rfl⟩ := mapError_error_iff.mp h
    cases f with
    | malformed => cases silent
    | ended => cases silent
    | notText e => exact .yamlNoText json hload (Yaml.load_notText hload)
    | scalar f => exact .yamlScalar json hload (Yaml.load_scalar hload)

theorem documents_of_json (json : holdsJson path = true) {docs : List Value}
    (h : documents path content = .ok docs) : ∀ document ∈ docs, document.hasText = true := by
  unfold documents at h
  rw [if_pos json] at h
  obtain ⟨s, -, h⟩ := bind_ok_iff.mp h
  intro document hmem
  exact hasText_of_mem_jsonDocuments (mapError_ok_iff.mp h) hmem

theorem documents_of_yaml (yaml : holdsJson path = false) :
    documents path content = (Yaml.load (.ofOctets content)).mapError (.ofYaml path) := by
  unfold documents
  rw [if_neg (by simp [yaml])]

theorem BreaksOff.of_records {docs : List Value} {fault : DocumentFault} (hdocs : documents path content = .ok docs)
    (h : records now docs = .error fault) (silent : fault.reported = false) :
    BreaksOff now path (.octets content) := by
  obtain ⟨before, document, after, rs, rfl, hholds, hrefused⟩ := records_error_iff.mp h
  cases hrefused with
  | repeated => cases silent
  | invalid _ hrecord =>
    cases fault with
    | textlessKind =>
      obtain ⟨entries, issues, rfl, hcheck, hkind⟩ := record_textlessKind_iff.mp hrecord
      cases json : holdsJson path with
      | true =>
        have htext : Value.entriesHaveText entries = true :=
          documents_of_json json hdocs (.map entries) (by simp)
        rw [hasText_kindOf htext] at hkind
        cases hkind
      | false =>
        rw [documents_of_yaml json] at hdocs
        exact .yamlKind json (mapError_ok_iff.mp hdocs) hholds hcheck hkind
    | _ => cases silent

theorem ofFile_of_documents {fault : FileFault} (h : documents path content = .error fault) :
    ofFile now path (.octets content) = .error fault := by
  unfold ofFile
  exact bind_error_iff.mpr (Or.inl h)

theorem exists_silent_iff :
    (∃ fault, ofFile now path file = .error fault ∧ fault.reported = false) ↔ BreaksOff now path file := by
  constructor
  · rintro ⟨fault, hfile, silent⟩
    cases file with
    | noPath => exact .noPath
    | unreadable => cases hfile; cases silent
    | octets content =>
      rcases bind_error_iff.mp hfile with hdocs | ⟨docs, hdocs, hrecords⟩
      · exact .of_documents hdocs silent
      · obtain ⟨refusal, hrefused, rfl⟩ := mapError_error_iff.mp hrecords
        exact .of_records hdocs hrefused silent
  · intro h
    cases h with
    | noPath => exact ⟨.noPath, rfl, rfl⟩
    | @jsonNoText content json noText =>
      cases hdecode : Utf8.decode content with
      | ok s => exact absurd ⟨s, hdecode⟩ noText
      | error e =>
        refine ⟨.notText e, ofFile_of_documents ?_, rfl⟩
        unfold documents
        rw [if_pos json, hdecode]
        rfl
    | @jsonLongNumber content s n json text read run =>
      refine ⟨.badScalar (.longInteger n), ofFile_of_documents ?_, rfl⟩
      unfold documents jsonDocuments
      rw [if_pos json, text]
      refine bind_error_iff.mpr (Or.inr ⟨s, rfl, ?_⟩)
      rw [read]
      rfl
    | @yamlNoText content e yaml read noText =>
      refine ⟨.notText e, ofFile_of_documents ?_, rfl⟩
      rw [documents_of_yaml yaml, read]
      rfl
    | @yamlScalar content f yaml read arises =>
      refine ⟨.badScalar f, ofFile_of_documents ?_, rfl⟩
      rw [documents_of_yaml yaml, read]
      rfl
    | @yamlKind content before after rs entries issues yaml read holds check noText =>
      have hrecords : records now (before ++ .map entries :: after) = .error .textlessKind :=
        records_error_iff.mpr ⟨before, .map entries, after, rs, rfl, holds, .invalid rfl
          (record_textlessKind_iff.mpr ⟨entries, issues, rfl, check, noText⟩)⟩
      have hdocs : documents path content = .ok (before ++ .map entries :: after) := by
        rw [documents_of_yaml yaml, read]
        rfl
      refine ⟨.badDocument .textlessKind, ?_, rfl⟩
      unfold ofFile
      exact bind_error_iff.mpr (Or.inr ⟨_, hdocs, mapError_error_iff.mpr ⟨_, hrecords, rfl⟩⟩)

end Manifest

/-! ## Commands -/

namespace Command

open Manifest

variable {v : Verb} {settings : Settings} {o : Choices} {path : String} {file : FileState} {wire : Api.Wire}

theorem breakdown_settleRecords {s : Setup} {records : List Record} {fault : FileFault} :
    (settleRecords v o s records wire).breakdown ≠ some (.file fault) := by
  intro h
  unfold settleRecords at h
  dsimp only at h
  split at h
  · cases h
  · split at h
    · cases h
    · cases h

theorem breakdown_showRecords {s : Setup} {records : List Record} {fault : FileFault} :
    (showRecords s records wire).breakdown ≠ some (.file fault) := by
  intro h
  unfold showRecords at h
  dsimp only at h
  split at h
  · cases h
  · cases h

/-- What a command does to records is not broken off by a file. -/
theorem breakdown_performOn {s : Setup} {records : List Record} {fault : FileFault} :
    (performOn v o s records wire).breakdown ≠ some (.file fault) := by
  cases v with
  | get => exact breakdown_showRecords
  | apply => exact breakdown_settleRecords
  | delete => exact breakdown_settleRecords

theorem perform_of_reported {fault : FileFault} (h : ofFile wire.now path file = .error fault)
    (reported : fault.reported = true) :
    perform v settings o path file wire = answered (warn ("Error: " ++ fault.message ++ "\n")) 1 wire := by
  unfold perform
  rw [h]
  exact if_pos reported

theorem breakdown_perform_iff {fault : FileFault} :
    (perform v settings o path file wire).breakdown = some (.file fault) ↔
      ofFile wire.now path file = .error fault ∧ fault.reported = false := by
  cases hfile : ofFile wire.now path file with
  | ok records =>
    refine iff_of_false ?_ nofun
    rw [perform_of_records hfile]
    split
    · nofun
    · exact breakdown_performOn
  | error other =>
    cases hreported : other.reported with
    | true =>
      rw [perform_of_reported hfile hreported]
      refine iff_of_false nofun ?_
      rintro ⟨he, hsilent⟩
      cases he
      rw [hreported] at hsilent
      cases hsilent
    | false =>
      unfold perform
      rw [hfile]
      dsimp only
      rw [hreported]
      constructor
      · intro h
        cases h
        exact ⟨rfl, hreported⟩
      · rintro ⟨he, -⟩
        cases he
        rfl

/-- **A bad manifest is answered unless it breaks reading off.** A file is read as records, or it is refused with
a fault of the manifest and the command says what that is and has the exit code 1; or it is one of the files that
break reading off. These and no others break the command off. The recursion limit of an interpreter is outside the
model: files are read here however deeply their values are nested. -/
theorem perform_answers_iff (v : Verb) (settings : Settings) (o : Choices) (path : String) (file : FileState)
    (wire : Api.Wire) :
    (((∃ rs, ofFile wire.now path file = .ok rs) ∨
        ∃ fault, ofFile wire.now path file = .error fault ∧ fault.reported = true ∧
          perform v settings o path file wire = answered (warn ("Error: " ++ fault.message ++ "\n")) 1 wire) ↔
      ¬BreaksOff wire.now path file) ∧
    ((∃ fault, (perform v settings o path file wire).breakdown = some (.file fault)) ↔
      BreaksOff wire.now path file) := by
  simp only [breakdown_perform_iff, exists_silent_iff, and_true]
  rw [← exists_silent_iff]
  cases hfile : ofFile wire.now path file with
  | ok rs => exact iff_of_true (Or.inl ⟨rs, rfl⟩) nofun
  | error fault =>
    cases hreported : fault.reported with
    | true =>
      refine iff_of_true (Or.inr ⟨fault, rfl, hreported, perform_of_reported hfile hreported⟩) ?_
      rintro ⟨other, he, hsilent⟩
      cases he
      rw [hreported] at hsilent
      cases hsilent
    | false =>
      refine iff_of_false ?_ fun h => h ⟨fault, rfl, hreported⟩
      rintro (⟨rs, h⟩ | ⟨other, he, hother, -⟩)
      · cases h
      · cases he
        rw [hreported] at hother
        cases hother

/-- A file of one octet that is no text breaks reading off, and the command with it. -/
theorem perform_breaksOff :
    let file := FileState.octets [0xFF]
    let wire := Api.Wire.ofAnswers []
    (¬∃ rs, ofFile wire.now "m.yaml" file = .ok rs) ∧
      (¬∃ fault, ofFile wire.now "m.yaml" file = .error fault ∧ fault.reported = true) ∧
      (perform .get plainSettings plainChoices "m.yaml" file wire).breakdown
        = some (.file (.notText ⟨0, [0xFF], .badStart⟩)) := by
  intro file wire
  have hbroken : (perform .get plainSettings plainChoices "m.yaml" file wire).breakdown
      = some (.file (.notText ⟨0, [0xFF], .badStart⟩)) := by decide +kernel
  obtain ⟨hfile, -⟩ := breakdown_perform_iff.mp hbroken
  rw [hfile]
  refine ⟨nofun, ?_, hbroken⟩
  rintro ⟨fault, he, reported⟩
  cases he
  cases reported

end Command

end InfluxKeeper
