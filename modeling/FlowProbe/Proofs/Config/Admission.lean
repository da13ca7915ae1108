import FlowProbe.Capture
import FlowProbe.Program
import FlowProbe.Proofs.Config.Timeouts

set_option autoImplicit false

namespace FlowProbe

-- The checks, one section after the other.

theorem CaptureSection.check_eq_ok {page : Nat} {capture : CaptureSection} :
    capture.check page = .ok () ↔ allBlank capture.device = false ∧ capture.workers ≠ 0 ∧
      capture.ring.check page = .ok () := by
  rw [check]
  split
  next blank => simp [blank]
  next named =>
    split
    next none => simp [none]
    next some =>
      cases capture.ring.check page <;> simp [named, some]

theorem CollectorSection.check_eq_ok {collector : CollectorSection} :
    collector.check = .ok () ↔
      Collector.supports collector.endpoint = true ∧ collector.highWater ≠ 0 := by
  rw [check]
  split
  next foreign => simp_all
  next known =>
    split
    next none => simp [none]
    next some => simp_all

namespace EnrichmentSection

variable {files : FileTree}

theorem present_eq_ok {database : Option String} {fault : String → ConfigFault} :
    present files database fault = .ok () ↔ ∀ path ∈ database.toList, files.isFile path = true := by
  cases database with
  | none => simp [present]
  | some path => simp [present]

theorem check_eq_ok {enrichment : EnrichmentSection} :
    enrichment.check files = .ok () ↔
      ∀ path ∈ enrichment.countryDb.toList ++ enrichment.networkDb.toList,
        files.isFile path = true := by
  rw [check, check_bind_eq_ok, present_eq_ok, present_eq_ok, List.forall_mem_append]

end EnrichmentSection

theorem FlowSection.check_eq_ok {flows : FlowSection} :
    flows.check = .ok () ↔ flows.idle ≠ 0 ∧ flows.active ≠ 0 := by
  rw [check, ← not_or]
  split <;> simp_all

namespace Config

structure Checked (page : Nat) (files : FileTree) (config : Config) : Prop where
  device : allBlank config.capture.device = false
  workers : config.capture.workers ≠ 0
  ring : config.capture.ring.check page = .ok ()
  scheme : Collector.supports config.collector.endpoint = true
  highWater : config.collector.highWater ≠ 0
  databases : ∀ path ∈ config.meter.databases, files.isFile path = true
  idle : config.flows.idle ≠ 0
  active : config.flows.active ≠ 0

variable {page : Nat} {files : FileTree} {config : Config} {path : String}

theorem check_eq_ok : config.check page files = .ok () ↔ Checked page files config := by
  rw [check, check_bind_eq_ok, check_bind_eq_ok, check_bind_eq_ok, CaptureSection.check_eq_ok,
    CollectorSection.check_eq_ok, EnrichmentSection.check_eq_ok, FlowSection.check_eq_ok]
  constructor
  next =>
    rintro ⟨⟨device, workers, ring⟩, ⟨scheme, highWater⟩, databases, idle, active⟩
    exact ⟨device, workers, ring, scheme, highWater, databases, idle, active⟩
  next =>
    rintro ⟨device, workers, ring, scheme, highWater, databases, idle, active⟩
    exact ⟨⟨device, workers, ring⟩, ⟨scheme, highWater⟩, databases, idle, active⟩

theorem parse_eq_ok {text : String} : parse path text = .ok config ↔
    ∃ document, Toml.read? text = some document ∧ layout.ofEntries document = .ok config := by
  rw [parse]
  split
  next malformed => simp [malformed]
  next read => simp [read, mapError_eq_ok]

theorem validated_eq_ok {valid : Config} :
    validated page files config = .ok valid ↔ Checked page files config ∧ config = valid := by
  rw [validated, ← check_eq_ok]
  split
  next refused => simp [refused]
  next accepted => simp [accepted]

theorem load_eq_ok : load page files path = .ok config ↔
    ∃ text document, files.readText path = .ok text ∧ Toml.read? text = some document ∧
      layout.ofEntries document = .ok config ∧ Checked page files config := by
  rw [load, bind_eq_ok]
  constructor
  next =>
    rintro ⟨text, found, rest⟩
    obtain ⟨draft, parsed, accepted⟩ := bind_eq_ok.mp rest
    obtain ⟨document, read, taken⟩ := parse_eq_ok.mp parsed
    obtain ⟨checked, rfl⟩ := validated_eq_ok.mp accepted
    exact ⟨text, document, mapError_eq_ok.mp found, read, taken, checked⟩
  next =>
    rintro ⟨text, document, found, read, taken, checked⟩
    exact ⟨text, mapError_eq_ok.mpr found, bind_eq_ok.mpr
      ⟨config, parse_eq_ok.mpr ⟨document, read, taken⟩, validated_eq_ok.mpr ⟨checked, rfl⟩⟩⟩

end Config

namespace Collector

variable {network : Network} {files : FileTree} {endpoint : String} {highWater : Nat}

theorem split?_eq_none : split? endpoint = none ↔ supports endpoint = false := by
  rw [split?, supports, Option.map_eq_none_iff, List.find?_eq_none, List.any_eq_false]

theorem connect_unsupported_iff {named : String} :
    connect network files endpoint highWater = .refused (.unsupported named) ↔
      supports endpoint = false ∧ named = endpoint := by
  rw [← split?_eq_none, connect]
  split
  next none => simp [none, eq_comm]
  next some =>
    rw [some]
    split <;> simp [unreachable]
  next some =>
    rw [some]
    split_ifs
    next => simp
    next => simp [unreachable]
    next => split <;> simp [unreachable]

theorem limit_of_connect {link : Link} (positive : 0 < highWater)
    (opened : connect network files endpoint highWater = .opened link) : 0 < link.limit := by
  have bounded : 0 < pushLimit highWater := Nat.lt_min.mpr ⟨positive, by decide⟩
  rw [connect] at opened
  split at opened
  next => cases opened
  next =>
    split at opened
    next => cases opened
    next => cases opened
    next =>
      cases opened
      exact Nat.lt_of_lt_of_le Nat.one_pos (Nat.le_max_right _ _)
  next =>
    split_ifs at opened
    next => cases opened
    next =>
      split at opened
      next => cases opened
      next =>
        cases opened
        exact bounded

end Collector

theorem Interface.ring_not_refused {page : Nat} {ring : Ring} (accepted : ring.check page = .ok ())
    (present : List String) (device reason : String) :
    refusal page present ring device ≠ .invalidRing reason := by
  rw [refusal, accepted]
  simp only
  split <;> simp

theorem MeterConfig.meterFor_ok {config : MeterConfig} {files : FileTree}
    (present : ∀ path ∈ config.databases, files.isFile path = true) (worker : WorkerId) :
    config.meterFor files worker = .ok (.empty config (Uuid.supply worker.index)) := by
  have none : config.firstMissing? files = none :=
    List.find?_eq_none.mpr fun path member => by simp [present path member]
  rw [meterFor, none]

namespace WorkerPool

variable {κ σ : Type} {plan : Plan κ σ} {bench left : Bench κ} {count : Nat}

theorem openWorker_noWorkers {id : WorkerId}
    (refused : openWorker plan id bench = (.error .noWorkers, left)) :
    plan.classifierFor id = .error .noWorkers := by
  rw [openWorker] at refused
  split at refused
  next => cases refused
  next =>
    split at refused
    next failed =>
      cases refused
      exact failed
    next => cases refused

theorem extend_noWorkers {missing : Nat} {workers : List (Worker σ)}
    (refused : extend plan count missing workers bench = (.error .noWorkers, left)) :
    ∃ id, plan.classifierFor id = .error .noWorkers := by
  induction missing generalizing workers bench with
  | zero => cases refused
  | succ missing ih =>
    rw [extend] at refused
    split at refused
    next => exact ih refused
    next failed =>
      cases refused
      exact ⟨_, openWorker_noWorkers failed⟩

theorem make_noWorkers {grants : Nat → Bool} (some : count ≠ 0)
    (refused : (make grants plan count bench).1 = .ok (.error .noWorkers)) :
    ∃ id, plan.classifierFor id = .error .noWorkers := by
  rw [make] at refused
  split at refused
  next => cases refused
  next =>
    simp only [fill, if_neg some, Except.ok.injEq] at refused
    exact extend_noWorkers (Prod.ext refused rfl)

end WorkerPool

namespace Config

variable {page : Nat} {files : FileTree} {config : Config} {path : String}

/-- Each stage takes what it is given of a configuration. -/
structure Served (page : Nat) (files : FileTree) (config : Config) : Prop where
  scheme : ∀ (network : Network) (tree : FileTree) (named : String),
    Collector.connect network tree config.collector.endpoint config.collector.highWater.toNat ≠
      .refused (.unsupported named)
  ring : config.capture.ring.check page = .ok ()
  channels : ∀ (present : List String) (device reason : String),
    Interface.refusal page present config.capture.ring device ≠ .invalidRing reason
  meters : ∀ worker : WorkerId, ∃ meter, config.meter.meterFor files worker = .ok meter
  workers : ∀ {κ σ : Type} (grants : Nat → Bool) (plan : WorkerPool.Plan κ σ)
    (bench : WorkerPool.Bench κ),
    (WorkerPool.make grants plan config.capture.workers.toNat bench).1 = .ok (.error .noWorkers) →
      ∃ worker, plan.classifierFor worker = .error .noWorkers
  pool : ∀ {κ : Type} (setting : Program.Setting κ) (bench : WorkerPool.Bench κ),
    setting.files = files →
      (WorkerPool.make setting.grants (Program.plan setting config)
        config.capture.workers.toNat bench).1 ≠ .ok (.error .noWorkers)
  highWater : 1 ≤ config.collector.highWater.toNat
  limit : ∀ (network : Network) (tree : FileTree) (link : Link),
    Collector.connect network tree config.collector.endpoint config.collector.highWater.toNat =
      .opened link → 1 ≤ link.limit

/-- The timeouts of the meter are positive, and those of the document. -/
structure Timed (document : Toml.Entries) (config : Config) : Prop where
  idle : ∃ seconds : Nat, FlowSection.seconds? document "idle_timeout_secs" 30 = some ↑seconds ∧
    0 < seconds ∧ config.meter.idleTimeout = seconds * Nanos.perSecond
  active : ∃ seconds : Nat, FlowSection.seconds? document "active_timeout_secs" 120 = some ↑seconds ∧
    0 < seconds ∧ config.meter.activeTimeout = seconds * Nanos.perSecond

theorem toNat_pos {word : UInt64} (some : word ≠ 0) : 0 < word.toNat := by
  apply Nat.pos_of_ne_zero
  intro zero
  exact some (UInt64.toNat_inj.mp zero)

theorem Checked.crew {κ σ : Type} {grants : Nat → Bool} {plan : WorkerPool.Plan κ σ}
    {bench : WorkerPool.Bench κ} (checked : Checked page files config)
    (refused : (WorkerPool.make grants plan config.capture.workers.toNat bench).1 =
      .ok (.error .noWorkers)) :
    ∃ worker, plan.classifierFor worker = .error .noWorkers :=
  WorkerPool.make_noWorkers (Nat.ne_of_gt (toNat_pos checked.workers)) refused

theorem Checked.served (checked : Checked page files config) : Served page files config where
  scheme := by
    intro network tree named refused
    have unknown := (Collector.connect_unsupported_iff.mp refused).1
    simp [checked.scheme] at unknown
  ring := checked.ring
  channels := Interface.ring_not_refused checked.ring
  meters := fun worker => ⟨_, MeterConfig.meterFor_ok checked.databases worker⟩
  workers := fun _ _ _ => checked.crew
  pool := by
    rintro κ setting bench rfl refused
    obtain ⟨worker, none⟩ := checked.crew refused
    exact nomatch (MeterConfig.meterFor_ok checked.databases worker).symm.trans none
  highWater := toNat_pos checked.highWater
  limit := fun _ _ _ => Collector.limit_of_connect (toNat_pos checked.highWater)

theorem Checked.timed {document : Toml.Entries} (checked : Checked page files config)
    (keyed : Toml.Entries.Keyed document) (taken : layout.ofEntries document = .ok config) :
    Timed document config where
  idle :=
    have stated := FlowSection.seconds?_part keyed taken (by decide) FlowSection.governs_idle
    ⟨config.flows.idle.toNat, stated, toNat_pos checked.idle, rfl⟩
  active :=
    have stated := FlowSection.seconds?_part keyed taken (by decide) FlowSection.governs_active
    ⟨config.flows.active.toNat, stated, toNat_pos checked.active, rfl⟩

/-- A configuration that is loaded serves every stage, and times its flows as the document says. -/
theorem loaded_config_serves_each_stage (loaded : load page files path = .ok config) :
    Served page files config ∧
      (∀ (network : Network) (tree : FileTree) (endpoint named : String) (highWater : Nat),
        Collector.connect network tree endpoint highWater = .refused (.unsupported named) ↔
          Collector.supports endpoint = false ∧ named = endpoint) ∧
      ∃ text document, files.readText path = .ok text ∧ Toml.read? text = some document ∧
        Timed document config := by
  obtain ⟨text, document, found, read, taken, checked⟩ := load_eq_ok.mp loaded
  refine ⟨checked.served, fun _ _ _ _ _ => Collector.connect_unsupported_iff, ?_⟩
  exact ⟨text, document, found, read, checked.timed (Toml.keyed_of_read read) taken⟩

def sampleText : String :=
  "[capture]\ndevice = \"eth0\"\nworkers = 2\n" ++
    "[collector]\nendpoint = \"tcp://*:5556\"\n" ++
    "[enrichment]\nasn_db = \"/asn.mmdb\"\n" ++
    "[flows]\nidle_timeout_secs = 15\n"

def sampleFiles : FileTree where
  nodes := [(["probe.toml"], .file sampleText.toUTF8.toList), (["asn.mmdb"], .file [])]
  here := []

def sample : Config where
  capture := { device := "eth0", workers := 2 }
  collector := { endpoint := "tcp://*:5556" }
  enrichment := { networkDb := some "/asn.mmdb" }
  flows := { idle := 15 }

theorem sample_serves_each_stage :
    load Ring.pageSize sampleFiles "probe.toml" = .ok sample ∧
      Served Ring.pageSize sampleFiles sample ∧
      sample.meter.idleTimeout = 15 * Nanos.perSecond ∧
      sample.meter.activeTimeout = 120 * Nanos.perSecond := by
  have loaded : load Ring.pageSize sampleFiles "probe.toml" = .ok sample := by decide +kernel
  exact ⟨loaded, (loaded_config_serves_each_stage loaded).1, rfl, rfl⟩

end Config

end FlowProbe
