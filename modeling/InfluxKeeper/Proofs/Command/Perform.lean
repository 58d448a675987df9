import InfluxKeeper.Command.Run
import InfluxKeeper.Proofs.Fleet.Survey

/-!
# Commands on the records of a file

A command reads the records of a file, and works on them with the client that the settings and the switches give.
From there on all is told by what happens to the records: `get` makes a survey of them, and says how it went by its
exit code.

> `get_survey`: getting records sends the lookups of a survey and nothing else, tells every failure at its record,
> and has the exit code 1 exactly if there is one.
-/

namespace InfluxKeeper.Command

open Api

/-! ## From a file to its records -/

/-- What a command does to records. -/
def performOn (v : Verb) (o : Choices) (s : Setup) (records : List Record) (wire : Wire) : Report :=
  match v with
  | .get => showRecords s records wire
  | _ => settleRecords v o s records wire

/-- The setup of a command. -/
def Choices.setup (o : Choices) (settings : Settings) : Setup :=
  ⟨.connect o.endpoint settings.server.token settings.server.timeout, Kind.all, settings.work.maxPasses,
    settings.work.maxConcurrent⟩

theorem perform_of_records {v : Verb} {settings : Settings} {o : Choices} {path : String}
    {file : Manifest.FileState} {wire : Wire} {records : List Record}
    (read : Manifest.ofFile wire.now path file = .ok records) :
    perform v settings o path file wire =
      match (o.setup settings).checked with
      | .error fault => .broken [] wire (.work (.fault fault))
      | .ok setup => performOn v o setup records wire := by
  unfold perform
  rw [read]
  rfl

/-! ## Getting -/

section Get

variable {s : Setup} {f : Fleet}

/-- Getting leaves the wire as the survey leaves it. -/
theorem wire_showRecords (quiet : f.events = []) :
    (showRecords s f.records f.wire).wire = (f.observeAll s (List.range f.records.length)).2.wire := by
  unfold showRecords
  rw [show (⟨f.records, f.wire, []⟩ : Fleet) = f by rw [← quiet]]
  rcases f.observeAll s (List.range f.records.length) with ⟨outcome, after⟩
  cases outcome <;> rfl

/-- Getting ends with a table if all records were seen, and the table is good if no message is in it. -/
theorem code_showRecords (quiet : f.events = [])
    (table : (showRecords s f.records f.wire).breakdown = none) :
    ∃ sights, (f.observeAll s (List.range f.records.length)).1 = .ok sights ∧
      ((showRecords s f.records f.wire).code = 1 ↔ ∃ sight ∈ sights, sight.message ≠ "") := by
  unfold showRecords at table ⊢
  rw [show (⟨f.records, f.wire, []⟩ : Fleet) = f by rw [← quiet]] at table ⊢
  rcases hlook : f.observeAll s (List.range f.records.length) with ⟨outcome, after⟩
  rw [hlook] at table
  cases outcome with
  | error fault => cases table
  | ok sights =>
    refine ⟨sights, rfl, ?_⟩
    dsimp only [Report.ofTable]
    split
    · next hgood =>
      refine iff_of_false (by decide) ?_
      rintro ⟨sight, hmem, hmessage⟩
      exact hmessage (by simpa using List.all_eq_true.mp hgood sight hmem)
    · next hbad =>
      refine iff_of_true rfl ?_
      simpa using hbad

/-- **Getting only looks, and failures stay with their records.** A survey sends the lookups of the records and
nothing else, kind by kind and at most one for a record. A lookup that failed is told by its message, and all
others by what was seen; which lookups there are, and in which order, does not depend on the answers. The command
sends what the survey sends, and if it ends with a table, its exit code is 1 exactly if a lookup failed. -/
theorem get_survey {places : Places} (within : ∀ place ∈ places, place < f.records.length) :
    ∃ gs, Fleet.Survey s f places gs ∧
      ∀ (settings : Settings) (o : Choices) (path : String) (file : Manifest.FileState),
        f.events = [] → places = List.range f.records.length →
          Manifest.ofFile f.wire.now path file = .ok f.records → (o.setup settings).checked = .ok s →
            let report := perform .get settings o path file f.wire
            report.wire = (f.observeAll s places).2.wire ∧
              (report.breakdown = none → (report.code = 1 ↔ ∃ g ∈ gs, g.Failed)) := by
  obtain ⟨gs, hgs⟩ := Fleet.exists_survey (s := s) within
  refine ⟨gs, hgs, fun settings o path file quiet hall read checked => ?_⟩
  subst hall
  rw [perform_of_records read, checked]
  refine ⟨wire_showRecords quiet, fun table => ?_⟩
  obtain ⟨sights, hok, hcode⟩ := code_showRecords quiet table
  exact hcode.trans (hgs.exists_failed_iff hok).symm

end Get

/-- A bucket, a mapping without an external name, and an organization. -/
def mixed : List Record :=
  [.ofName "events" (.bucket .empty .empty),
    .ofName "all" (.mapping ⟨.text "b1", none, none, "db", .null, .text "o1", none, none, "rp"⟩ .empty),
    .ofName "acme" (.organization ⟨none⟩ .empty)]

/-- The file of these records. -/
def mixedFile : Manifest.FileState :=
  .octets ("kind: Bucket\nmetadata:\n  name: events\n" ++
    "---\nkind: DatabaseRetentionPolicyMapping\nmetadata:\n  name: all\n" ++
    "spec:\n  forProvider:\n    bucketID: b1\n    org: o1\n    database: db\n    retentionPolicy: rp\n" ++
    "---\nkind: Organization\nmetadata:\n  name: acme\n").toUTF8.toList

/-- The organization is found, and the lookup of the bucket fails. -/
def mixedFleet : Fleet :=
  ⟨mixed, .ofAnswers [.ofValue (.object [("orgs", .list [.object [("id", .text "o1")]])]),
    .response 500 "down"], []⟩

/-- The settings of the server that the records are looked up at. -/
def plainSettings : Settings := ⟨⟨"http://db", "t", 30⟩, ⟨5, 5⟩, "INFO"⟩

/-- The choices without any switch. -/
def plainChoices : Choices := ⟨"http://db", none, false, false, false⟩

/-- The organization is looked up first and told last, and the failure is told of the bucket. -/
theorem get_survey_mixed :
    let s := plainChoices.setup plainSettings
    let report := perform .get plainSettings plainChoices "records.yaml" mixedFile mixedFleet.wire
    (mixedFleet.observeAll s [0, 1, 2]).1.toOption.map (·.map (·.message))
        = some ["cannot find bucket: HTTP 500: down", "", ""] ∧
      report.wire.sent.map (fun q => (q.method, q.url))
        = [("GET", "http://db/api/v2/orgs"), ("GET", "http://db/api/v2/buckets")] ∧
      report.code = 1 ∧
      ∃ gs, Fleet.Survey s mixedFleet [0, 1, 2] gs ∧ ∃ g ∈ gs, g.Failed := by
  have read : Manifest.ofFile mixedFleet.wire.now "records.yaml" mixedFile = .ok mixed :=
    ok_of_toOption (by decide +kernel)
  have checked : (plainChoices.setup plainSettings).checked = .ok (plainChoices.setup plainSettings) :=
    if_neg (by decide)
  have hreport : perform .get plainSettings plainChoices "records.yaml" mixedFile mixedFleet.wire
      = showRecords (plainChoices.setup plainSettings) mixed mixedFleet.wire := by
    rw [perform_of_records read, checked]
    rfl
  have within : ∀ place ∈ [0, 1, 2], place < mixedFleet.records.length := by decide
  obtain ⟨gs, hgs, hget⟩ := get_survey (s := plainChoices.setup plainSettings) within
  obtain ⟨hwire, hcode⟩ := hget plainSettings plainChoices "records.yaml" mixedFile rfl rfl read checked
  dsimp only at hwire hcode ⊢
  rw [hreport] at hcode hwire ⊢
  have table : (showRecords (plainChoices.setup plainSettings) mixed mixedFleet.wire).breakdown = none := by
    decide +kernel
  have code : (showRecords (plainChoices.setup plainSettings) mixed mixedFleet.wire).code = 1 := by
    decide +kernel
  rw [hwire]
  exact ⟨by decide +kernel, by decide +kernel, code, gs, hgs, (hcode table).mp code⟩

end InfluxKeeper.Command
