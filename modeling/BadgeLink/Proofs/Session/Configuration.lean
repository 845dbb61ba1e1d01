import BadgeLink.Proofs.Handshake.Resets
import BadgeLink.Session.Scripted

/-!
# The configuration of a session

A session is configured by its settings, by the file that they name, and by what holds where both are
silent, in this order.  A session with a handshake and one without are configured in the same way.
-/

namespace BadgeLink

open CommandLine (Settings)

/-! ## What a file says -/

/-- A file that was written as a text is read as this text. -/
theorem Files.decode_utf8 (text : String) : decode (Text.utf8 text) = .ok text := by
  have hbytes : (⟨(Text.utf8 text).toArray⟩ : ByteArray) = text.toByteArray := by
    rw [← String.utf8Encode_toList]
    exact ByteArray.ext List.data_toByteArray.symm
  rw [decode, hbytes, String.fromUTF8?, dif_pos text.isValidUTF8]
  rfl

namespace Config

/-- The fields that a document gives values to. -/
def Entries.ofNode : Yaml.Node → Except Fault Entries
  | .mapping place entries => entries.foldlM (decodeEntry place) {}
  | .scalar _ true "" => .ok {}
  | node => .error (.root (.ofNode node) node.mark)

def Entries.ofYaml (text : String) : Except Fault Entries :=
  match Yaml.Node.ofString? text with
  | none => .error .malformed
  | some node => ofNode node

/-- What a file says if it has this content. -/
def Entries.ofContent (path : String) (content : Except FileFault (List UInt8)) :
    Except Failure Entries := do
  let data ← content.mapError (.reading path)
  let text ← (Files.decode data).mapError (.reading path)
  (ofYaml text).mapError (.parsing path)

theorem ofNode_eq (node : Yaml.Node) :
    Config.ofNode node = Entries.ofNode node >>= fun entries => validate entries.toConfig := by
  fun_cases Entries.ofNode node with
  | case1 place entries => rfl
  | case2 place => rfl
  | case3 node hmapping hempty =>
      rw [Config.ofNode]
      · rfl
      · exact hmapping
      · exact hempty

theorem ofYaml_eq (text : String) :
    Config.ofYaml text = Entries.ofYaml text >>= fun entries => validate entries.toConfig := by
  unfold Config.ofYaml Entries.ofYaml
  cases Yaml.Node.ofString? text with
  | none => rfl
  | some node => exact ofNode_eq node

end Config

/-! ## The order of the sources -/

namespace Session

section Sources

variable {m : Type → Type} [Monad m]

/-- The configuration that a session has apart from its settings. -/
def base (place : Workplace m) (settings : Settings) : ExceptT Failure m Config :=
  match settings.configPath with
  | some path => Config.load place path
  | none => pure Config.default

/-- Puts the settings in front of a configuration. -/
def override (settings : Settings) (base : Config) : Except Failure Config :=
  let named := { base with port := settings.port.or base.port }
  match settings.timeout with
  | none => .ok named
  | some 0 => .error .zeroTimeout
  | some timeout => .ok { named with timeout }

theorem configure_eq (place : Workplace m) (settings : Settings) :
    configure place settings =
      base place settings >>= fun found => ExceptT.mk (pure (override settings found)) := by
  unfold configure base override
  cases settings.configPath with
  | none => rcases settings.timeout with _ | _ | timeout <;> rfl
  | some path => rcases settings.timeout with _ | _ | timeout <;> rfl

end Sources

/-! ## The configuration of a session that has one -/

variable {σ : Type} {place : Workplace (StateM σ)}

/-- What the file says that the settings name; if they name none, nothing is said. -/
def stated (place : Workplace (StateM σ)) (settings : Settings) (s : σ) :
    Except Failure Config.Entries :=
  match settings.configPath with
  | none => .ok {}
  | some path => Config.Entries.ofContent path (place.readFile path s).1

/-- The settings come first, then what the file says, then what holds where both are silent. -/
def resolved (settings : Settings) (entries : Config.Entries) : Config where
  port := settings.port.or (entries.port.getD none)
  timeout := settings.timeout.getD (entries.timeout.getD 500)
  resetInterval := entries.resetInterval.getD 100

/-- The ports that are found when a session has its configuration. -/
def enumerated (place : Workplace (StateM σ)) (settings : Settings) (s : σ) : List String :=
  (place.ports ((configure place settings).run s).2).1.toOption.getD []

variable {settings : Settings} {s s' : σ}

/-- A configuration that is loaded is what its file says, completed by what holds otherwise. -/
theorem load_eq_ok
    {path : String} {found : Config}
    (hload : (Config.load place path).run s = (.ok found, s')) :
    ∃ entries, Config.Entries.ofContent path (place.readFile path s).1 = .ok entries ∧
      Config.validate entries.toConfig = .ok found := by
  obtain ⟨data, _, hread, hload⟩ := ExceptT.run_bind_eq_ok_iff.mp hload
  obtain ⟨text, _, hdecode, hload⟩ := ExceptT.run_bind_eq_ok_iff.mp hload
  obtain ⟨config, _, hparse, hload⟩ := ExceptT.run_bind_eq_ok_iff.mp hload
  obtain ⟨_, _, -, hdone⟩ := ExceptT.run_bind_eq_ok_iff.mp hload
  cases hdone
  have hcontent := Except.mapError_eq_ok_iff.mp (congrArg Prod.fst hread)
  have htext := Except.mapError_eq_ok_iff.mp (congrArg Prod.fst hdecode)
  have hconfig := Except.mapError_eq_ok_iff.mp (congrArg Prod.fst hparse)
  rw [Config.ofYaml_eq] at hconfig
  obtain ⟨entries, hentries, hvalid⟩ := Except.bind_eq_ok_iff.mp hconfig
  refine ⟨entries, ?_, hvalid⟩
  rw [Config.Entries.ofContent, hcontent]
  show (Files.decode data).mapError _ >>= _ = _
  rw [htext]
  show (Config.Entries.ofYaml text).mapError _ = _
  rw [hentries]
  rfl

/-- A text that is read and is a configuration is loaded. -/
theorem load_of_ofYaml
    {path text : String} {data : List UInt8} {found : Config}
    (hread : place.readFile path s = (.ok data, s')) (hdecode : Files.decode data = .ok text)
    (hparse : Config.ofYaml text = .ok found) :
    (Config.load place path).run s = (.ok found, (place.note (.loaded path found) s').2) := by
  have hdata : (ExceptT.mk do return (← place.readFile path).mapError (.reading path) :
      ExceptT Failure (StateM σ) _).run s = (.ok data, s') := by
    show ((place.readFile path s).1.mapError _, (place.readFile path s).2) = _
    rw [hread]
    rfl
  have htext : (ExceptT.mk (pure ((Files.decode data).mapError (.reading path))) :
      ExceptT Failure (StateM σ) _).run s' = (.ok text, s') := by
    rw [hdecode]
    rfl
  rw [Config.load, ExceptT.run_bind_of_ok hdata, ExceptT.run_bind_of_ok htext, hparse]
  rfl

theorem base_eq_ok {found : Config} (hbase : (base place settings).run s = (.ok found, s')) :
    ∃ entries, stated place settings s = .ok entries ∧
      Config.validate entries.toConfig = .ok found := by
  unfold base at hbase
  unfold stated
  cases hpath : settings.configPath with
  | none =>
      rw [hpath] at hbase
      cases hbase
      exact ⟨{}, rfl, rfl⟩
  | some path =>
      rw [hpath] at hbase
      exact load_eq_ok hbase

theorem override_eq_ok
    {entries : Config.Entries} {found config : Config}
    (hfound : Config.validate entries.toConfig = .ok found)
    (hconfig : override settings found = .ok config) :
    config = resolved settings entries ∧ config.timeout ≠ 0 := by
  obtain ⟨htimeout, hfound⟩ := Except.ite_error_eq_ok_iff.mp hfound
  cases hfound
  unfold override at hconfig
  unfold resolved
  cases hgiven : settings.timeout with
  | none =>
      rw [hgiven] at hconfig
      cases hconfig
      exact ⟨rfl, htimeout⟩
  | some timeout =>
      rw [hgiven] at hconfig
      cases timeout with
      | zero => cases hconfig
      | succ timeout =>
          cases hconfig
          exact ⟨rfl, Nat.succ_ne_zero timeout⟩

theorem configure_eq_ok
    {config : Config} (hconfigure : (configure place settings).run s = (.ok config, s')) :
    ∃ entries, stated place settings s = .ok entries ∧ config = resolved settings entries ∧
      config.timeout ≠ 0 := by
  rw [configure_eq] at hconfigure
  obtain ⟨found, _, hbase, hoverride⟩ := ExceptT.run_bind_eq_ok_iff.mp hconfigure
  obtain ⟨entries, hentries, hfound⟩ := base_eq_ok hbase
  exact ⟨entries, hentries, override_eq_ok hfound (congrArg Prod.fst hoverride)⟩

/-! ## Connecting -/

theorem openPreferred_eq_ok
    {station : Serial.Station (StateM σ)} {preferred : Option String} {timeout : Nat} {name : String}
    (hopen : (station.openPreferred preferred timeout).run s = (.ok name, s')) :
    preferred.or ((station.ports s).1.toOption.getD []).head? = some name := by
  unfold Serial.Station.openPreferred at hopen
  cases preferred with
  | some preferred =>
      obtain ⟨_, _, -, hdone⟩ := ExceptT.run_bind_eq_ok_iff.mp hopen
      cases hdone
      rfl
  | none =>
      obtain ⟨names, _, hscan, hopen⟩ := ExceptT.run_bind_eq_ok_iff.mp hopen
      have hnames : (station.ports s).1 = .ok names :=
        Except.mapError_eq_ok_iff.mp (congrArg Prod.fst hscan)
      rw [hnames]
      cases names with
      | nil => cases hopen
      | cons first others =>
          obtain ⟨_, _, -, hdone⟩ := ExceptT.run_bind_eq_ok_iff.mp hopen
          cases hdone
          rfl

theorem openBadge_eq_ok
    {station : Serial.Station (StateM σ)} {config : Config} {name : String} {badge : Badge}
    (hopen : (station.openBadge config).run s = (.ok (name, badge), s')) :
    config.port.or ((station.ports s).1.toOption.getD []).head? = some name ∧
      badge = { timeout := config.timeout, resetInterval := config.resetInterval } := by
  obtain ⟨found, opened, hfound, hinit⟩ := ExceptT.run_bind_eq_ok_iff.mp hopen
  have hinit := StateT.bind_apply hinit
  generalize station.carryOut (Badge.init _) opened = ran at hinit
  obtain ⟨outcome, after⟩ := ran
  cases outcome with
  | error e => cases hinit
  | ok ready =>
      have hdone : (found, _) = (name, badge) := Except.ok.inj (congrArg Prod.fst hinit)
      obtain ⟨rfl, rfl⟩ := Prod.mk.inj hdone
      exact ⟨openPreferred_eq_ok hfound, rfl⟩

/-- A session goes by its configuration, except that one without a handshake does not take over the pause
between resets. -/
theorem connect_eq_ok
    {connection : Connection} (hconnect : (connect place settings).run s = (.ok connection, s')) :
    ∃ entries, stated place settings s = .ok entries ∧
      (resolved settings entries).timeout ≠ 0 ∧
      (resolved settings entries).port.or (enumerated place settings s).head? =
        some connection.port ∧
      connection.badge =
        { timeout := (resolved settings entries).timeout
          resetInterval :=
            if settings.noReset then 100 else (resolved settings entries).resetInterval } := by
  obtain ⟨config, configured, hconfigure, hopen⟩ := ExceptT.run_bind_eq_ok_iff.mp hconnect
  obtain ⟨entries, hentries, rfl, htimeout⟩ := configure_eq_ok hconfigure
  refine ⟨entries, hentries, htimeout, ?_⟩
  unfold enumerated
  rw [hconfigure]
  cases hreset : settings.noReset with
  | true =>
      rw [if_pos hreset] at hopen
      obtain ⟨port, _, hport, hdone⟩ := ExceptT.run_bind_eq_ok_iff.mp hopen
      cases hdone
      exact ⟨openPreferred_eq_ok (ExceptT.run_adapt_eq_ok_iff.mp hport), rfl⟩
  | false =>
      rw [if_neg (ne_true_of_eq_false hreset)] at hopen
      obtain ⟨⟨port, badge⟩, _, hbadge, hdone⟩ := ExceptT.run_bind_eq_ok_iff.mp hopen
      cases hdone
      exact openBadge_eq_ok (ExceptT.run_adapt_eq_ok_iff.mp hbadge)

/-! ## A file with a long pause -/

/-- A workplace where any path leads to a file that asks for a pause of an hour between resets. -/
def hourly : Workplace (StateM Serial.Bench) where
  toStation := Serial.Bench.station
  readFile _ := pure (.ok (Text.utf8 "reset_interval_ms: 3600000\n"))

/-- A bench with a badge that acknowledges the first reset. -/
def acknowledging : Serial.Bench :=
  { ports := ["q"], reads := [.data [0x01, 0x81, 0x81]] }

theorem ofYaml_hourly :
    Config.ofYaml "reset_interval_ms: 3600000\n" = .ok { resetInterval := 3600000 } := by
  have htokens : (Yaml.Source.ofString? "reset_interval_ms: 3600000\n" >>= Yaml.Layout.tokens?) =
      some [⟨.openBlockMapping, {}⟩, ⟨.key, {}⟩, ⟨.scalar true "reset_interval_ms", {}⟩,
        ⟨.value, ⟨17, 0, 17⟩⟩, ⟨.scalar true "3600000", ⟨19, 0, 19⟩⟩,
        ⟨.closeBlock, ⟨27, 1, 0⟩⟩] := by
    decide +kernel
  have hnode : Yaml.Node.ofString? "reset_interval_ms: 3600000\n" =
      some (.mapping {} [(.scalar {} true "reset_interval_ms",
        .scalar ⟨19, 0, 19⟩ true "3600000")]) := by
    rw [Yaml.Node.ofString?, ← bind_assoc, htokens]
    simp [Yaml.Node.ofTokens?, Yaml.Node.readRoot, Yaml.Node.read, Yaml.Node.readFields,
      Yaml.Node.readUnless, Yaml.Node.readValue, Yaml.Node.closeBlock, Yaml.Node.leavesOutField]
  rw [Config.ofYaml, hnode]
  rfl

theorem connect_hourly (noReset : Bool) :
    ((connect hourly { configPath := some "c.yml", noReset }).run acknowledging).1 =
      .ok ⟨"q", { resetInterval := if noReset then 100 else 3600000 }⟩ := by
  have hload : (Config.load hourly "c.yml").run acknowledging =
      (.ok { resetInterval := 3600000 },
        { acknowledging with log := [.loaded "c.yml" { resetInterval := 3600000 }] }) :=
    load_of_ofYaml rfl (Files.decode_utf8 _) ofYaml_hourly
  have hconfigure : (configure hourly { configPath := some "c.yml", noReset }).run acknowledging =
      (.ok { resetInterval := 3600000 },
        { acknowledging with log := [.loaded "c.yml" { resetInterval := 3600000 }] }) := by
    rw [configure_eq, base, ExceptT.run_bind_of_ok hload]
    rfl
  apply Except.toOption_eq_some_iff.mp
  rw [connect, ExceptT.run_bind_of_ok hconfigure]
  cases noReset <;> decide +kernel

/-! ## Two ways to connect -/

/-- A session without a handshake at its start and one with it, where the same file and the same ports are
found, have the same port and the same timeout, which come from the settings, the file or the defaults in
this order.  In a later handshake the badge that has been reset pauses between resets as the file says, and
the other one always takes the default. -/
theorem connect_agrees_but_for_interval
    {s s' : σ} {direct reset : Connection}
    (hfile : stated place settings s' = stated place settings s)
    (hports : enumerated place settings s' = enumerated place settings s)
    (hdirect : ((connect place { settings with noReset := true }).run s).1 = .ok direct)
    (hreset : ((connect place { settings with noReset := false }).run s').1 = .ok reset) :
    ∃ entries, stated place settings s = .ok entries ∧
      let port := (settings.port.or (entries.port.getD none)).or (enumerated place settings s).head?
      let timeout := settings.timeout.getD (entries.timeout.getD 500)
      let interval := entries.resetInterval.getD 100
      direct.port = reset.port ∧ some reset.port = port ∧
        direct.badge.timeout = reset.badge.timeout ∧ reset.badge.timeout = timeout ∧
        timeout ≠ 0 ∧ reset.badge.resetInterval = interval ∧ direct.badge.resetInterval = 100 ∧
        ∀ (link : Link (StateM σ)) (u : σ),
          reset.badge.init.run.pauses link u =
              List.replicate (reset.badge.resets link u - 1) interval ∧
            direct.badge.init.run.pauses link u =
              List.replicate (direct.badge.resets link u - 1) 100 := by
  obtain ⟨entries, hentries, htimeout, hport, hbadge⟩ := connect_eq_ok (Prod.ext hdirect rfl)
  obtain ⟨entries', hentries', -, hport', hbadge'⟩ := connect_eq_ok (Prod.ext hreset rfl)
  have hsame : entries' = entries :=
    Except.ok.inj ((hentries'.symm.trans hfile).trans hentries)
  subst hsame
  have hfirst : enumerated place { settings with noReset := false } s' =
      enumerated place { settings with noReset := true } s := hports
  rw [hfirst] at hport'
  have hsamePort : direct.port = reset.port := Option.some.inj (hport.symm.trans hport')
  have hdirectInterval : direct.badge.resetInterval = 100 := congrArg Badge.resetInterval hbadge
  have hresetInterval : reset.badge.resetInterval = entries'.resetInterval.getD 100 :=
    congrArg Badge.resetInterval hbadge'
  have htimeouts : direct.badge.timeout = reset.badge.timeout :=
    (congrArg Badge.timeout hbadge).trans (congrArg Badge.timeout hbadge').symm
  refine ⟨entries', hentries, hsamePort, hport'.symm, htimeouts,
    congrArg Badge.timeout hbadge', htimeout, hresetInterval, hdirectInterval, ?_⟩
  intro link u
  rw [← hresetInterval, ← hdirectInterval]
  exact ⟨reset.badge.pauses_init u, direct.badge.pauses_init u⟩

/-- Where a file asks for a pause of an hour, a session that resets the badge has it from there. -/
theorem connect_agrees_but_for_interval_hourly :
    ∃ entries, stated hourly { configPath := some "c.yml" } acknowledging = .ok entries ∧
      entries.resetInterval.getD 100 = 3600000 := by
  let settings : Settings := { configPath := some "c.yml" }
  have hfile : stated hourly settings acknowledging = stated hourly settings acknowledging := rfl
  obtain ⟨entries, hentries, -, -, -, -, -, hinterval, -, -⟩ :=
    connect_agrees_but_for_interval hfile rfl (connect_hourly true) (connect_hourly false)
  exact ⟨entries, hentries, hinterval.symm⟩

/-- A session that does not reset the badge forgets it. -/
theorem connect_without_reset_forgets_interval :
    ∃ direct reset : Connection,
      ((connect hourly { configPath := some "c.yml", noReset := true }).run acknowledging).1 =
          .ok direct ∧
        ((connect hourly { configPath := some "c.yml", noReset := false }).run acknowledging).1 =
          .ok reset ∧
        direct.badge.resetInterval = 100 ∧ reset.badge.resetInterval = 3600000 :=
  ⟨_, _, connect_hourly true, connect_hourly false, rfl, rfl⟩

end Session
end BadgeLink
