import InfluxKeeper.Proofs.Command.Perform
import InfluxKeeper.Proofs.Fleet.Rewriting

/-!
# The token

The token goes from the environment into the settings, from there into the client, and into a header field of
every request. Nothing else is made of it.

> `token_only_signs`: with another token in the environment, a session gives the same replies, the same records
> and the same events, and a run of the program says the same; only the requests are signed by the other token.

Requests are `signed` by their header field of authorization. A client with another token sends what it would
send, signed by that (`Client.rewrites_signed`), and how requests look makes no difference to a session.
-/

namespace InfluxKeeper

open Api

/-! ## Requests -/

/-- A request that is signed by a token in place of another. -/
def Api.Request.signed (token : String) (q : Request) : Request :=
  { q with headers := q.headers.map fun e =>
      if e.1 = "Authorization" then (e.1, "Token " ++ token) else e }

namespace Api.Client

/-- A client with another token. -/
def withToken (token : String) (c : Client) : Client := { c with token }

theorem headers_of_token {c : Client} (h : c.token ≠ "") :
    c.headers = [("Accept", "application/json"), ("Authorization", "Token " ++ c.token)] := by
  unfold headers
  rw [if_neg h]

/-- A client with another token sends what it would send, signed by that. -/
theorem rewrites_signed {c : Client} {token : String} (h : c.token ≠ "") (h' : token ≠ "") :
    Client.Rewrites (Request.signed token) c (c.withToken token) := by
  refine rewrites_of_request fun method path query body => ?_
  unfold Client.request Request.signed
  dsimp only
  rw [headers_of_token h, headers_of_token (show (c.withToken token).token ≠ "" from h')]
  rfl

end Api.Client

/-! ## Settings -/

/-- The variable that holds the token. -/
def tokenVariable : String := "INFLUXDB_TOKEN"

/-- Environments that differ in the token at most. -/
structure Environment.Tokens (env env' : Environment) (token token' : String) : Prop where
  token : env.lookup tokenVariable = some token
  token' : env'.lookup tokenVariable = some token'
  others : ∀ name, name ≠ tokenVariable → env'.lookup name = env.lookup name

/-- The client of the settings of a server. -/
def ServerSettings.client (s : ServerSettings) : Client := .connect s.endpoint s.token s.timeout

/-- Settings with another token. -/
def Settings.withToken (token : String) (s : Settings) : Settings :=
  { s with server := { s.server with token } }

/-- The settings in force, with another token. -/
def SettingsKeeper.withToken (token : String) (k : SettingsKeeper) : SettingsKeeper :=
  { k with current := k.current.map fun made => { made with settings := made.settings.withToken token } }

section Environment

variable {env env' : Environment} {token token' : String}

theorem Environment.Tokens.getOr (h : env.Tokens env' token token') {name : String}
    (ne : name ≠ tokenVariable) (other : String) : env'.getOr name other = env.getOr name other := by
  unfold Environment.getOr
  rw [h.others name ne]

theorem Environment.Tokens.getInteger (h : env.Tokens env' token token') {name : String}
    (ne : name ≠ tokenVariable) (other : String) : env'.getInteger name other = env.getInteger name other := by
  unfold Environment.getInteger
  rw [h.getOr ne]

/-- With a token, the settings of a server are made of two other variables. -/
theorem ServerSettings.ofEnvironment_of_token (h : env.lookup tokenVariable = some token) (ne : token ≠ "") :
    ofEnvironment env = (env.getInteger "INFLUXDB_TIMEOUT" "30").map fun timeout =>
      ⟨env.getOr "INFLUXDB_ENDPOINT" defaultEndpoint, token, timeout⟩ := by
  have htoken : env.getOr "INFLUXDB_TOKEN" "" = token := by
    unfold Environment.getOr
    rw [show env.lookup "INFLUXDB_TOKEN" = some token from h]
    rfl
  unfold ofEnvironment
  dsimp only
  rw [htoken, if_neg ne]
  cases env.getInteger "INFLUXDB_TIMEOUT" "30" <;> rfl

/-- Settings of environments that differ in the token differ in the token. -/
theorem Settings.ofEnvironment_withToken (h : env.Tokens env' token token') (ne : token ≠ "")
    (ne' : token' ≠ "") : ofEnvironment env' = (ofEnvironment env).map (withToken token') := by
  have hwork : WorkSettings.ofEnvironment env' = WorkSettings.ofEnvironment env := by
    unfold WorkSettings.ofEnvironment
    rw [h.getInteger (by decide), h.getInteger (by decide)]
  unfold ofEnvironment
  rw [ServerSettings.ofEnvironment_of_token h.token ne, ServerSettings.ofEnvironment_of_token h.token' ne',
    hwork, h.getInteger (by decide), h.getOr (by decide), h.getOr (by decide)]
  cases env.getInteger "INFLUXDB_TIMEOUT" "30" with
  | error fault => rfl
  | ok timeout =>
    cases WorkSettings.ofEnvironment env with
    | error fault => rfl
    | ok work => rfl

/-- The token of settings is that of their environment. -/
theorem Settings.token_of_environment (h : env.lookup tokenVariable = some token) (ne : token ≠ "")
    {settings : Settings} (made : ofEnvironment env = .ok settings) : settings.server.token = token := by
  unfold ofEnvironment at made
  rw [ServerSettings.ofEnvironment_of_token h ne] at made
  cases htimeout : env.getInteger "INFLUXDB_TIMEOUT" "30" with
  | error fault => rw [htimeout] at made; cases made
  | ok timeout =>
    rw [htimeout] at made
    cases hwork : WorkSettings.ofEnvironment env with
    | error fault => rw [hwork] at made; cases made
    | ok work => rw [hwork] at made; cases made; rfl

/-- Loading settings differs in the token. -/
theorem SettingsKeeper.load_withToken (h : env.Tokens env' token token') (ne : token ≠ "") (ne' : token' ≠ "")
    (k : SettingsKeeper) :
    (k.withToken token').load env' = (k.load env).map fun loaded =>
      ({ loaded.1 with settings := loaded.1.settings.withToken token' }, loaded.2.withToken token') := by
  unfold load
  cases hk : k.current with
  | some made =>
    rw [show (k.withToken token').current = some { made with settings := made.settings.withToken token' } by
      unfold withToken; rw [hk]; rfl]
    rfl
  | none =>
    rw [show (k.withToken token').current = none by unfold withToken; rw [hk]; rfl,
      Settings.ofEnvironment_withToken h ne ne']
    cases Settings.ofEnvironment env with
    | error fault => rfl
    | ok settings => rfl

end Environment

/-! ## The program -/

namespace Command

/-- A report with its requests rewritten. -/
def Report.rewritten (h : Request → Request) (r : Report) : Report := { r with wire := r.wire.rewritten h }

section Rewrites

variable {h : Request → Request} {s : Setup} {c' : Client} (rewrites : Client.Rewrites h s.client c')

include rewrites

theorem showRecords_rewritten (records : List Record) (wire : Wire) :
    showRecords (s.withClient c') records (wire.rewritten h) = (showRecords s records wire).rewritten h := by
  have hlook := Fleet.observeAll_rewritten rewrites (List.range records.length) ⟨records, wire, []⟩
  unfold showRecords
  rw [show (⟨records, wire.rewritten h, []⟩ : Fleet) = Fleet.rewritten h ⟨records, wire, []⟩ from rfl, hlook]
  rcases Fleet.observeAll s (List.range records.length) ⟨records, wire, []⟩ with ⟨outcome, g⟩
  cases outcome <;> rfl

theorem settleRecords_rewritten (v : Verb) (o : Choices) (records : List Record) (wire : Wire) :
    settleRecords v o (s.withClient c') records (wire.rewritten h)
      = (settleRecords v o s records wire).rewritten h := by
  have hrun (marked : List Record) (order : List String) :
      Fleet.converge (s.withClient c') none (List.range records.length) o.maxPasses order
          ⟨marked, wire.rewritten h, []⟩
        = Fleet.rewrittenEnd h (Fleet.converge s none (List.range records.length) o.maxPasses order
          ⟨marked, wire, []⟩) :=
    Fleet.converge_rewritten rewrites (List.range records.length) o.maxPasses order ⟨marked, wire, []⟩
  unfold settleRecords
  dsimp only
  rw [show (wire.rewritten h).now = wire.now from rfl, hrun]
  generalize Fleet.converge s none (List.range records.length) o.maxPasses _ _ = done
  obtain ⟨outcome, g⟩ := done
  cases outcome with
  | error fault => rfl
  | ok results =>
    unfold Fleet.rewrittenEnd
    dsimp only
    split <;> rfl

end Rewrites

theorem performOn_rewritten {h : Request → Request} {s : Setup} {c' : Client}
    (rewrites : Client.Rewrites h s.client c') (v : Verb) (o : Choices) (records : List Record) (wire : Wire) :
    performOn v o (s.withClient c') records (wire.rewritten h)
      = (performOn v o s records wire).rewritten h := by
  cases v with
  | get => exact showRecords_rewritten rewrites records wire
  | apply => exact settleRecords_rewritten rewrites .apply o records wire
  | delete => exact settleRecords_rewritten rewrites .delete o records wire

section Token

variable {token : String} {settings : Settings} (ne : settings.server.token ≠ "") (ne' : token ≠ "")

include ne ne'

theorem perform_withToken (v : Verb) (o : Choices) (path : String) (file : Manifest.FileState) (wire : Wire) :
    perform v (settings.withToken token) o path file (wire.rewritten (Request.signed token))
      = (perform v settings o path file wire).rewritten (Request.signed token) := by
  cases hread : Manifest.ofFile wire.now path file with
  | error fault =>
    unfold perform
    rw [show (wire.rewritten (Request.signed token)).now = wire.now from rfl, hread]
    dsimp only
    split <;> rfl
  | ok records =>
    have rewrites : Client.Rewrites (Request.signed token) (o.setup settings).client
        ((o.setup settings).client.withToken token) := Client.rewrites_signed ne ne'
    have hread' : Manifest.ofFile (wire.rewritten (Request.signed token)).now path file = .ok records := hread
    rw [perform_of_records hread, perform_of_records hread',
      show o.setup (settings.withToken token)
        = (o.setup settings).withClient ((o.setup settings).client.withToken token) from rfl]
    unfold Setup.checked
    rw [Setup.maxConcurrent_withClient]
    by_cases hlimit : (o.setup settings).maxConcurrent < 0
    · rw [if_pos hlimit, if_pos hlimit]
      rfl
    · rw [if_neg hlimit, if_neg hlimit]
      exact performOn_rewritten rewrites v o records wire

theorem runVerb_withToken (v : Verb) (words : List String) (surroundings : Surroundings) :
    runVerb v (settings.withToken token) words
        { surroundings with wire := surroundings.wire.rewritten (Request.signed token) }
      = (runVerb v settings words surroundings).rewritten (Request.signed token) := by
  unfold runVerb
  dsimp only
  cases parse v.switches false words with
  | error fault => rfl
  | ok parsed =>
    obtain ⟨given, arguments⟩ := parsed
    dsimp only
    split
    · rfl
    · cases given.flaw? v.switches with
      | some flaw => rfl
      | none =>
        cases arguments with
        | nil => rfl
        | cons path extra =>
          dsimp only
          cases hfile : surroundings.file path with
          | noPath => rfl
          | unreadable fault => rfl
          | octets content =>
            dsimp only
            rw [show Choices.ofGiven (settings.withToken token).server given
              = Choices.ofGiven settings.server given from rfl, perform_withToken ne ne']
            generalize (if v = .delete && !(Choices.ofGiven settings.server given).yes then
              ask deleteQuestion surroundings.lines else ⟨[], true, 0⟩) = asked
            cases asked.yes with
            | false => rfl
            | true => cases extra <;> rfl

end Token

/-- A run of the program, with another token in the environment, gives the same report. -/
theorem run_withToken {env' : Environment} {token token' : String} {surroundings : Surroundings}
    (h : surroundings.environment.Tokens env' token token') (ne : token ≠ "") (ne' : token' ≠ "")
    (words : List String) :
    run words { surroundings with
        environment := env', wire := surroundings.wire.rewritten (Request.signed token') }
      = (run words surroundings).rewritten (Request.signed token') := by
  unfold run
  dsimp only
  rw [Settings.ofEnvironment_withToken h ne ne']
  split
  · rfl
  · cases parse [.askHelp] true words with
    | error fault => rfl
    | ok parsed =>
      obtain ⟨given, rest⟩ := parsed
      dsimp only
      split
      · rfl
      · cases rest with
        | nil => rfl
        | cons name words =>
          dsimp only
          cases Verb.ofName? name with
          | none =>
            dsimp only
            cases parse [.askHelp] true (name :: words) with
            | error fault => rfl
            | ok parsed => dsimp only; split <;> rfl
          | some v =>
            dsimp only
            cases hsettings : Settings.ofEnvironment surroundings.environment with
            | error fault => rfl
            | ok settings =>
              have htoken : settings.server.token ≠ "" :=
                (Settings.token_of_environment h.token ne hsettings) ▸ ne
              dsimp only [Except.map]
              rw [show (settings.withToken token').logLevel = settings.logLevel from rfl]
              split
              · exact runVerb_withToken htoken ne' v words { surroundings with environment := env' }
              · rfl

end Command

/-! ## Sessions and runs -/

open Session

/-- Every request of a session is signed by the token of the settings. -/
theorem headers_of_settings {settings : Settings} {token : String} (h : settings.server.token = token)
    (ne : token ≠ "") (s : Setup) (steps : List Step) {f : Fleet} (unsent : f.wire.sent = []) :
    ∀ q ∈ (run (s.withClient settings.server.client) steps f).2.wire.sent,
      q.headers = [("Accept", "application/json"), ("Authorization", "Token " ++ token)] := by
  intro q hq
  have htoken : settings.server.client.token = token := h
  rw [headers_run steps unsent q hq, ← htoken]
  exact Client.headers_of_token (show settings.server.client.token ≠ "" from htoken ▸ ne)

/-- **The token signs requests, and nothing else.** In environments that differ in the token, settings differ in
the token, and they are described alike. A session with the one or the other, whatever its steps, gives the same
replies, also the same faults, and leaves the same records, events and time; every request of it is signed by its
own token, and that is all the difference. A run of the program gives the same report but for that. -/
theorem token_only_signs {env env' : Environment} {token token' : String}
    (tokens : env.Tokens env' token token') (ne : token ≠ "") (ne' : token' ≠ "") :
    (∀ k : SettingsKeeper, (k.withToken token').load env' = (k.load env).map fun loaded =>
        ({ loaded.1 with settings := loaded.1.settings.withToken token' }, loaded.2.withToken token')) ∧
      Settings.ofEnvironment env' = (Settings.ofEnvironment env).map (Settings.withToken token') ∧
      (∀ settings, Settings.ofEnvironment env = .ok settings →
        settings.server.token = token ∧
        (settings.withToken token').server.describe = settings.server.describe ∧
        ∀ (s : Setup) (steps : List Step) (f : Fleet), f.wire.sent = [] →
          run (s.withClient (settings.withToken token').server.client) steps f
            = Fleet.rewrittenEnd (Request.signed token')
              (run (s.withClient settings.server.client) steps f) ∧
          (∀ q ∈ (run (s.withClient settings.server.client) steps f).2.wire.sent,
            q.headers = [("Accept", "application/json"), ("Authorization", "Token " ++ token)]) ∧
          ∀ q ∈ (run (s.withClient (settings.withToken token').server.client) steps f).2.wire.sent,
            q.headers = [("Accept", "application/json"), ("Authorization", "Token " ++ token')]) ∧
      ∀ (words : List String) (surroundings : Command.Surroundings), surroundings.environment = env →
        surroundings.wire.sent = [] →
          Command.run words { surroundings with environment := env' }
            = (Command.run words surroundings).rewritten (Request.signed token') := by
  refine ⟨SettingsKeeper.load_withToken tokens ne ne', Settings.ofEnvironment_withToken tokens ne ne',
    fun settings made => ?_, fun words surroundings henv unsent => ?_⟩
  · have htoken : settings.server.token = token := Settings.token_of_environment tokens.token ne made
    refine ⟨htoken, settings.server.describe_congr token', fun s steps f unsent => ⟨?_, ?_, ?_⟩⟩
    · have rewrites : Client.Rewrites (Request.signed token') settings.server.client
          (settings.withToken token').server.client :=
        Client.rewrites_signed (show settings.server.token ≠ "" from htoken ▸ ne) ne'
      have hrun := run_rewritten (s := s.withClient settings.server.client) rewrites steps f
      rw [Fleet.rewritten_of_unsent unsent] at hrun
      exact hrun
    · exact headers_of_settings htoken ne s steps unsent
    · exact headers_of_settings rfl ne' s steps unsent
  · subst henv
    have hrun := Command.run_withToken tokens ne ne' words
    have hwire : surroundings.wire.rewritten (Request.signed token') = surroundings.wire := by
      unfold Wire.rewritten
      rw [unsent, List.map_nil, ← unsent]
    rw [hwire] at hrun
    exact hrun

/-- An environment with one token, and the same with another. -/
def tokenEnvironment (token : String) : Environment :=
  [("INFLUXDB_ENDPOINT", "http://db/"), ("INFLUXDB_TOKEN", token)]

theorem tokens_tokenEnvironment (token token' : String) :
    (tokenEnvironment token).Tokens (tokenEnvironment token') token token' := by
  refine ⟨rfl, rfl, fun name ne => ?_⟩
  have hne : (name == "INFLUXDB_TOKEN") = false := beq_false_of_ne ne
  unfold tokenEnvironment
  rw [List.lookup_cons, List.lookup_cons, List.lookup_cons, List.lookup_cons, hne]

/-- The settings of such an environment. -/
def tokenSettings : Settings := ⟨⟨"http://db/", "one", 30⟩, ⟨5, 5⟩, "INFO"⟩

/-- A setup that goes on with the client of settings. -/
def tokenSetup : Setup := Setup.ofClient ⟨"", "", 0⟩

/-- A bucket whose first lookup is refused. It is absent, and is created. -/
def refusedFleet : Fleet :=
  ⟨[.ofName "events" (.bucket .empty .empty)],
    .ofAnswers [.response 401 "unauthorized", .ofValue (.object [("buckets", .list [])]), .response 201 ""], []⟩

/-- The bucket is looked up by hand, and then reconciled. -/
def refusedSteps : List Step := [.call (.findBucket (.text "events")), .operate (.reconcile (some [0]) 0)]

/-- All three requests are signed by the one token, or by the other, and that is all the difference. -/
theorem token_only_signs_refused :
    (run (tokenSetup.withClient tokenSettings.server.client) refusedSteps refusedFleet).2.wire.sent.map
          (fun q => (q.method, q.headers.getLast?))
        = ["GET", "GET", "POST"].map (·, some ("Authorization", "Token one")) ∧
      run (tokenSetup.withClient (tokenSettings.withToken "two").server.client) refusedSteps refusedFleet
        = Fleet.rewrittenEnd (Request.signed "two")
          (run (tokenSetup.withClient tokenSettings.server.client) refusedSteps refusedFleet) := by
  have made : Settings.ofEnvironment (tokenEnvironment "one") = .ok tokenSettings := by
    decide +kernel
  obtain ⟨-, -, hsession, -⟩ :=
    token_only_signs (tokens_tokenEnvironment "one" "two") (by decide) (by decide)
  obtain ⟨-, -, hrun⟩ := hsession tokenSettings made
  obtain ⟨hsame, -, -⟩ := hrun tokenSetup refusedSteps refusedFleet rfl
  exact ⟨by decide +kernel, hsame⟩

end InfluxKeeper
