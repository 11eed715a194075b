import TwinCatalogue.CommandLine.Directory
import TwinCatalogue.Proofs.Counting.Waiting
import TwinCatalogue.Proofs.Json.Printed
import TwinCatalogue.Script

/-! What an invocation tells of the outcome of its command. Waiting for repairs does not touch it,
but it is printed only if the clock can show when the wait has to end, and if there is no file to
write the counters to or it could be written. -/

namespace TwinCatalogue.CommandLine

variable {σ α : Type}

/-- What a command comes to, whatever is waited for and written after it. -/
def Command.outcome (files : Files) (p : RetryPolicy) (token : Token) (w : World σ) (s : σ)
    (command : Command) : Except OnboardError Document :=
  match command.verb files token with
  | .error e => .error e
  | .ok none => .ok .empty
  | .ok (some verb) => ((verb.perform p).run w s).result

/-- What happens until a command returns, its repairs not included. -/
def Command.events (files : Files) (p : RetryPolicy) (token : Token) (w : World σ) (s : σ)
    (command : Command) : List Event :=
  match command.verb files token with
  | .ok (some verb) => ((verb.perform p).run w s).events
  | _ => []

/-- A command leaves repairs under way, and the end of the grace for them is beyond what the clock
can show. -/
def Command.OutlastsClock (files : Files) (p : RetryPolicy) (clock : Nat) (grace : UInt64)
    (token : Token) (w : World σ) (s : σ) (command : Command) : Prop :=
  let events := command.events files p token w s
  (Event.counters .zero events).inFlight ≠ 0 ∧
    2 ^ 63 * 1000 ≤ clock + Event.duration events + grace.toNat * 1000

theorem drain_eq_none_iff {clock : Nat} {grace : UInt64} {settled : Settled σ α} :
    drain clock grace settled = none ↔
      (Event.counters .zero settled.call.events).inFlight ≠ 0 ∧
        Timeline.clockLimit ≤ clock + Event.duration settled.call.events + grace.toNat * 1000 := by
  unfold drain
  dsimp only
  split
  · rename_i hidle
    simp [hidle]
  · rename_i hbusy
    rw [Option.map_eq_none_iff, Timeline.waitIdle_eq_none_iff]
    exact (and_iff_right hbusy).symm

section Perform

variable {files : Files} {p : RetryPolicy} {clock : Nat} {grace : UInt64} {token : Token}
  {command : Command} {w : World σ} {s : σ}

theorem perform_fst : (perform files p clock grace token command w s).1 =
    command.outcome files p token w s := by
  unfold perform Command.outcome
  cases command.verb files token with
  | error e => rfl
  | ok verb => cases verb <;> rfl

theorem perform_counters_eq_none_iff :
    (perform files p clock grace token command w s).2.1 = none ↔
      command.OutlastsClock files p clock grace token w s := by
  have hzero : (Event.counters .zero []).inFlight = 0 := rfl
  unfold perform Command.OutlastsClock Command.events
  cases command.verb files token with
  | error e => simp [hzero]
  | ok found =>
    cases found with
    | none => simp [hzero]
    | some verb =>
      dsimp only
      rw [drain_eq_none_iff, Timeline.clockLimit_eq]
      rfl

end Perform

/-- The JSON value that tells an outcome. -/
def told : Except OnboardError Document → Json
  | .ok doc => doc.toJson
  | .error e => e.envelope.document.toJson

/-- A report that prints the value of an outcome and a line end, so that it can be read as just
that value, and whose exit code is that of the outcome. -/
structure Report.Tells (r : Report) (outcome : Except OnboardError Document) : Prop where
  output : r.output = (told outcome).pretty ++ "\n"
  single : Json.Written.ofChars r.output.toList = .ok (told outcome).written
  code : r.code = 0 ↔ outcome.isOk = true

theorem Report.tells_ofOutcome (outcome : Except OnboardError Document) :
    (Report.ofOutcome outcome).Tells outcome := by
  cases outcome with
  | ok doc => exact ⟨rfl, Json.ofChars_pretty _, iff_of_true rfl rfl⟩
  | error e => exact ⟨rfl, Json.ofChars_pretty _, iff_of_false Nat.one_ne_zero Bool.false_ne_true⟩

/-- The report of a conclusion, with the counters written to their file or not. -/
def Conclusion.carriedOut (write : String → String → Except String Unit) (c : Conclusion) :
    Report :=
  c.report (c.metrics.elim (.ok ()) fun file => write file.1 file.2)

/-- Whether a file can be written in a directory. -/
def Directory.written (d : Directory) (path text : String) : Except String Unit :=
  (d.write path text).map fun _ => ()

theorem Directory.conclude_fst (d : Directory) (c : Conclusion) :
    (d.conclude c).1 = c.carriedOut d.written := by
  obtain ⟨metrics, report⟩ := c
  unfold conclude Conclusion.carriedOut
  cases metrics with
  | none => rfl
  | some file =>
    simp only [Option.elim_some, written]
    cases d.write file.1 file.2 <;> rfl

theorem carriedOut_conclude_none (write : String → String → Except String Unit)
    (metricsFile : Option String) (outcome : Except OnboardError Document) :
    (conclude metricsFile none outcome).carriedOut write = .aborted := by
  cases metricsFile <;> rfl

theorem carriedOut_conclude_some (write : String → String → Except String Unit)
    (metricsFile : Option String) (counters : Counters) (outcome : Except OnboardError Document) :
    let r := (conclude metricsFile (some counters) outcome).carriedOut write
    (r.code = 0 → outcome.isOk = true) ∧
      match metricsFile with
      | none => r.Tells outcome
      | some path =>
        match write path counters.prometheus with
        | .ok () => r.Tells outcome
        | .error reason => r.output = "" ∧ r = .failedBecause ("writing " ++ path) reason := by
  have htells := Report.tells_ofOutcome outcome
  cases metricsFile with
  | none => exact ⟨htells.code.mp, htells⟩
  | some path =>
    simp only [conclude, Conclusion.carriedOut, Option.elim_some]
    cases write path counters.prometheus with
    | ok written => exact ⟨htells.code.mp, htells⟩
    | error reason => exact ⟨fun h => absurd h Nat.one_ne_zero, rfl, rfl⟩

theorem Invocation.run_fst {files : Files} {i : Invocation} {config : Config} {token : String}
    (hload : Config.load i.config (files i.config).toOption = .ok config)
    (hcommand : i.command ≠ .checkConfig) (htoken : i.token = some token) (clock : Nat)
    (world : Config → World σ) (s : σ) :
    (i.run files clock world s).1 = conclude i.metricsFile
      (perform files config.retry.policy clock i.grace ⟨token⟩ i.command (world config) s).2.1
      (i.command.outcome files config.retry.policy ⟨token⟩ (world config) s) := by
  simp only [Invocation.run, hload, hcommand, htoken, if_false, perform_fst]

theorem Invocation.carriedOut_run_of_outlasts {files : Files} {i : Invocation} {config : Config}
    {token : String} (hload : Config.load i.config (files i.config).toOption = .ok config)
    (hcommand : i.command ≠ .checkConfig) (htoken : i.token = some token) {clock : Nat}
    {world : Config → World σ} {s : σ}
    (houtlasts : i.command.OutlastsClock files config.retry.policy clock i.grace ⟨token⟩
      (world config) s) (write : String → String → Except String Unit) :
    (i.run files clock world s).1.carriedOut write = .aborted := by
  rw [Invocation.run_fst hload hcommand htoken, perform_counters_eq_none_iff.mpr houtlasts,
    carriedOut_conclude_none]

/-- An invocation prints the outcome of its command and ends with its code, unless it is to wait
beyond what the clock can show, or the counters are to be written to a file and cannot be. Then it
fails, and prints nothing. -/
theorem Invocation.run_tells {files : Files} {i : Invocation} {config : Config} {token : String}
    (hload : Config.load i.config (files i.config).toOption = .ok config)
    (hcommand : i.command ≠ .checkConfig) (htoken : i.token = some token)
    (write : String → String → Except String Unit) (clock : Nat) (world : Config → World σ)
    (s : σ) :
    let p := config.retry.policy
    let outcome := i.command.outcome files p ⟨token⟩ (world config) s
    let outlasts := i.command.OutlastsClock files p clock i.grace ⟨token⟩ (world config) s
    let r := (i.run files clock world s).1.carriedOut write
    (r.code = 0 → outcome.isOk = true) ∧
      (outlasts → r.output = "" ∧ r = .aborted) ∧
      (¬ outlasts → ∃ counters,
        (perform files p clock i.grace ⟨token⟩ i.command (world config) s).2.1 = some counters ∧
        match i.metricsFile with
        | none => r.Tells outcome
        | some path =>
          match write path counters.prometheus with
          | .ok () => r.Tells outcome
          | .error reason => r.output = "" ∧ r = .failedBecause ("writing " ++ path) reason) := by
  intro p outcome outlasts r
  by_cases houtlasts : outlasts
  · have hr : r = .aborted :=
      Invocation.carriedOut_run_of_outlasts hload hcommand htoken houtlasts write
    rw [hr]
    exact ⟨fun h => absurd h (by decide), fun _ => ⟨rfl, rfl⟩, fun h => absurd houtlasts h⟩
  · obtain ⟨counters, hcounters⟩ :=
      Option.ne_none_iff_exists'.mp (perform_counters_eq_none_iff.not.mpr houtlasts)
    have hr : r = (conclude i.metricsFile (some counters) outcome).carriedOut write := by
      simp only [r, Invocation.run_fst hload hcommand htoken, p, outcome, hcounters]
    have htells := carriedOut_conclude_some write i.metricsFile counters outcome
    rw [← hr] at htells
    exact ⟨htells.1, fun h => absurd h houtlasts, fun _ => ⟨counters, hcounters, htells.2⟩⟩

/-- A directory with the standard configuration and an item. -/
def workplace : Directory :=
  ⟨[("c.json", "\x7b\x7d"), ("item.json", "\x7b\"label\": \"Air quality\"\x7d")]⟩

def registering (metricsFile : String) : Invocation :=
  { config := "c.json"
    token := some "token"
    logJson := false
    grace := 30
    metricsFile := some metricsFile
    command := .entity .item .create ⟨"central", some "item.json", none, none⟩ }

theorem load_workplace : Config.load "c.json" (workplace.read "c.json").toOption = .ok .standard := by
  have hload : (Config.load "c.json" (workplace.read "c.json").toOption).toOption = some .standard := by
    decide +kernel
  cases h : Config.load "c.json" (workplace.read "c.json").toOption with
  | error e => rw [h] at hload; exact nomatch hload
  | ok config => rw [h] at hload; exact congrArg _ (Option.some.inj hload)

theorem outcome_registering (metricsFile : String) :
    ((registering metricsFile).command.outcome workplace.read Config.standard.retry.policy
      ⟨"token"⟩ Script.world Script.empty).isOk = true := by
  have h : ((registering "").command.outcome workplace.read Config.standard.retry.policy
      ⟨"token"⟩ Script.world Script.empty).isOk = true := by decide +kernel
  exact h

theorem not_outlasts_registering (metricsFile : String) :
    ¬ (registering metricsFile).command.OutlastsClock workplace.read Config.standard.retry.policy 0
      (registering metricsFile).grace ⟨"token"⟩ Script.world Script.empty := by
  have hidle : (Event.counters .zero ((registering "").command.events workplace.read
      Config.standard.retry.policy ⟨"token"⟩ Script.world Script.empty)).inFlight = 0 := by
    decide +kernel
  exact fun houtlasts => houtlasts.1 hidle

/-- An item is created, the counters are written, and the answer of the catalogue is printed. -/
theorem Invocation.run_tells_written :
    let i := registering "onboard.prom"
    let e := i.run workplace.read 0 (fun _ => Script.world) Script.empty
    let outcome := i.command.outcome workplace.read Config.standard.retry.policy ⟨"token"⟩
      Script.world Script.empty
    Config.load i.config (workplace.read i.config).toOption = .ok .standard ∧
      i.command ≠ .checkConfig ∧ i.token = some "token" ∧ outcome.isOk = true ∧
      (workplace.conclude e.1).1.Tells outcome ∧ (workplace.conclude e.1).1.code = 0 := by
  intro i e outcome
  have hload : Config.load i.config (workplace.read i.config).toOption = .ok .standard :=
    load_workplace
  have hcommand : i.command ≠ .checkConfig := by decide
  have houtcome : outcome.isOk = true := outcome_registering _
  have hwrite : ∀ text, workplace.written "onboard.prom" text = .ok () := by
    intro text
    have hplace : Directory.place "onboard.prom" = .file "onboard.prom" := by decide
    simp only [Directory.written, Directory.write, hplace]
    rfl
  obtain ⟨-, -, htells⟩ := Invocation.run_tells hload hcommand rfl workplace.written 0
    (fun _ => Script.world) Script.empty
  obtain ⟨counters, -, htells⟩ := htells (not_outlasts_registering _)
  simp only [i, registering, hwrite] at htells
  rw [Directory.conclude_fst]
  exact ⟨hload, hcommand, rfl, houtcome, htells, htells.code.mpr houtcome⟩

/-- The counters cannot be written, and nobody learns what the catalogue has answered. -/
theorem Invocation.answer_lost :
    let i := registering "metrics/onboard.prom"
    let e := i.run workplace.read 0 (fun _ => Script.world) Script.empty
    let outcome := i.command.outcome workplace.read Config.standard.retry.policy ⟨"token"⟩
      Script.world Script.empty
    Config.load i.config (workplace.read i.config).toOption = .ok .standard ∧
      i.command ≠ .checkConfig ∧ i.token = some "token" ∧ outcome.isOk = true ∧
      (workplace.conclude e.1).1.output = "" ∧ ¬ (workplace.conclude e.1).1.Tells outcome := by
  intro i e outcome
  have hcommand : i.command ≠ .checkConfig := by decide
  have houtcome : outcome.isOk = true := outcome_registering _
  have hwrite : ∀ text, workplace.written "metrics/onboard.prom" text =
      .error Directory.missing := by
    intro text
    have hplace : Directory.place "metrics/onboard.prom" = .below "metrics" := by decide
    simp only [Directory.written, Directory.write, hplace]
    rfl
  obtain ⟨counters, hcounters⟩ := Option.ne_none_iff_exists'.mp
    (perform_counters_eq_none_iff.not.mpr (not_outlasts_registering "metrics/onboard.prom"))
  have hrun := Invocation.run_fst (i := i) load_workplace hcommand rfl 0 (fun _ => Script.world)
    Script.empty
  obtain ⟨-, hlost⟩ :=
    carriedOut_conclude_some workplace.written (some "metrics/onboard.prom") counters outcome
  simp only [hwrite] at hlost
  have hreport : (workplace.conclude e.1).1 =
      .failedBecause "writing metrics/onboard.prom" Directory.missing := by
    rw [Directory.conclude_fst, hrun, hcounters]
    exact hlost.2
  rw [hreport]
  refine ⟨load_workplace, hcommand, rfl, houtcome, rfl, fun htells => ?_⟩
  exact absurd (htells.code.mpr houtcome) Nat.one_ne_zero

/-- A grace of 2^63 seconds or more is never over, so that with it no command that leaves a repair
under way is told of. -/
theorem Invocation.run_aborted {files : Files} {i : Invocation} {config : Config} {token : String}
    (hload : Config.load i.config (files i.config).toOption = .ok config)
    (hcommand : i.command ≠ .checkConfig) (htoken : i.token = some token)
    (hgrace : 2 ^ 63 ≤ i.grace.toNat) (clock : Nat) (world : Config → World σ) (s : σ)
    (hbusy : (Event.counters .zero (i.command.events files config.retry.policy ⟨token⟩
      (world config) s)).inFlight ≠ 0) (write : String → String → Except String Unit) :
    (i.run files clock world s).1.carriedOut write = .aborted :=
  Invocation.carriedOut_run_of_outlasts hload hcommand htoken ⟨hbusy, by omega⟩ write

/-- The catalogue cannot be found, but with the longest grace nobody learns that. -/
theorem Invocation.failure_lost :
    let i := { registering "onboard.prom" with grace := 18446744073709551615 }
    let error := StoreError.hostResolution "http://central/item" "no such host"
    let script := Script.empty.addCalls (.create .centralSide) [.error error] none
    (workplace.conclude (i.run workplace.read 0 (fun _ => Script.world) script).1).1 =
      .aborted := by
  intro i error script
  have hbusy : (Event.counters .zero (i.command.events workplace.read Config.standard.retry.policy
      ⟨"token"⟩ Script.world script)).inFlight ≠ 0 := by decide +kernel
  have hgrace : 2 ^ 63 ≤ i.grace.toNat := by
    change 2 ^ 63 ≤ 18446744073709551615
    omega
  rw [Directory.conclude_fst]
  exact Invocation.run_aborted (i := i) load_workplace (by decide) rfl hgrace 0
    (fun _ => Script.world) script hbusy _

end TwinCatalogue.CommandLine
