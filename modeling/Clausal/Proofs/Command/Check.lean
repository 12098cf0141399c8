import Clausal.Proofs.Json.Text
import Clausal.Proofs.Value.Data

/-!
# What a check reports

A check gets as far as validation if its configuration can be loaded and its argument can be read
(`Reaches`); then the code that the program exits with tells how it comes out, and so does the
report, which is one JSON object and nothing else.  If it does not get as far, the code is that of a
value which breaks the rule, but there is no report (`runCheck_reports`).

## Main definitions

- `Surroundings.Loads`: the validator of a source
- `Supplies`: the value that an argument supplies
- `Reaches`: how far a check gets
- `IsReport`: a text is a report and nothing else
- `Outcome.Tells`: what is told of an outcome
-/

namespace Clausal

variable {s : Surroundings} {source : ConfigSource} {w : Validator} {v : Value}

/-- The validator of a source is the standard one, or the one that the text of its file
describes. -/
inductive Surroundings.Loads (s : Surroundings) : ConfigSource → Validator → Prop
  | standard : Loads s .standard .standard
  | file {source : ConfigSource} {location : Location} {text : String} {w : Validator}
      (hlocation : source.location? = some location)
      (hread : s.files.read s.workingDirectory location = .ok text)
      (hdescribes : Validator.ofToml text = .ok w) : Loads s source w

/-- The value that an argument supplies; without an argument nothing is supplied. -/
inductive Supplies : Option String → Value → Prop
  | absent : Supplies none .void
  | json {text : String} {data : Json.Value} (h : Json.ofText? text = some data) :
      Supplies (some text) (.ofJson data)

/-- A check of an argument gets as far as validating a value with a validator. -/
def Reaches (s : Surroundings) (source : ConfigSource) (argument : Option String) (w : Validator)
    (v : Value) : Prop :=
  s.Loads source w ∧ Supplies argument v

/-- A text is one report and nothing else. -/
def IsReport (text status name rule : String) (message : Option String) : Prop :=
  Json.ofText? text = some (.object
    ([("status", .string status), ("name", .string name), ("rule", .string rule)] ++
      (message.map fun m => ("message", .string m)).toList))

/-- What is told of an outcome: the code to exit with, the word for it, and the message of a
failure. -/
inductive Outcome.Tells : Outcome → Nat → String → Option String → Prop
  | passed : Tells (.ok ()) 0 "ok" none
  | broken (name : String) (rules : List String) :
      Tells (.error (.validation name rules)) 1 "validation"
        (some (Failure.validation name rules).message)
  | malformed (name : String) (reason : FormatReason) :
      Tells (.error (.format name reason)) 2 "format" (some (Failure.format name reason).message)

theorem Surroundings.loadValidator_eq_ok_iff :
    s.loadValidator source = .ok w ↔ s.Loads source w := by
  rw [loadValidator]
  cases hlocation : source.location? with
  | none =>
    obtain rfl : source = .standard := by
      cases source with
      | standard => rfl
      | _ => cases hlocation
    constructor
    · rintro ⟨⟩
      exact .standard
    · rintro (_ | ⟨hlocation, -, -⟩)
      · rfl
      · cases hlocation
  | some location =>
    simp only [mapError_eq_ok_iff, Validator.ofFile]
    constructor
    · intro hw
      cases hread : s.files.read s.workingDirectory location with
      | error cause => simp [hread] at hw
      | ok text => exact .file hlocation hread (by simpa [hread] using hw)
    · rintro (_ | ⟨hlocation', hread, hdescribes⟩)
      · cases hlocation
      · cases hlocation.symm.trans hlocation'
        simp [hread, hdescribes]

theorem argumentValue_eq_ok_iff {argument : Option String} :
    argumentValue argument = .ok v ↔ Supplies argument v := by
  cases argument with
  | none =>
    constructor
    · rintro ⟨⟩
      exact .absent
    · rintro ⟨⟩
      rfl
  | some text =>
    rw [argumentValue]
    cases hdata : Json.ofText? text with
    | none =>
      constructor
      · intro hv
        cases hv
      · rintro (_ | hdata')
        cases hdata.symm.trans hdata'
    | some data =>
      constructor
      · rintro ⟨⟩
        exact .json hdata
      · rintro (_ | hdata')
        cases hdata.symm.trans hdata'
        rfl

namespace Outcome

variable (o : Outcome) (name rule : String) (format : OutputFormat)

theorem exists_tells : ∃ status message,
    o.Tells (o.report name rule .json).exitCode status message ∧
      IsReport (o.report name rule .json).output status name rule message := by
  match o with
  | .ok () => exact ⟨_, _, .passed, Json.ofText?_objectLines _ (by decide)⟩
  | .error (.validation n rules) =>
    exact ⟨_, _, .broken n rules, Json.ofText?_objectLines _ (by decide)⟩
  | .error (.format n reason) =>
    exact ⟨_, _, .malformed n reason, Json.ofText?_objectLines _ (by decide)⟩

theorem exitCode_report_eq_two_iff : (o.report name rule format).exitCode = 2 ↔
    ∃ n reason, o = .error (.format n reason) := by
  rcases o with (_ | _) | _ <;> simp [report, exitCode]

theorem exitCode_report_eq_one_iff : (o.report name rule format).exitCode = 1 ↔
    ∃ n rules, o = .error (.validation n rules) := by
  rcases o with (_ | _) | _ <;> simp [report, exitCode]

theorem passedLine_ne_empty : passedLine name rule ≠ "" := by
  obtain ⟨front, hfront⟩ : ∃ front, passedLine name rule = front ++ "\n" := ⟨_, rfl⟩
  rw [hfront]
  intro hempty
  have hlength : front.length + 1 = 0 := by simpa using congrArg String.length hempty
  exact Nat.succ_ne_zero _ hlength

/-- People are shown a line on the output only if the value passes. -/
theorem output_report_text_ne_iff : (o.report name rule .text).output ≠ "" ↔ o = .ok () := by
  match o with
  | .ok () => exact iff_of_true (passedLine_ne_empty name rule) rfl
  | .error _ => exact iff_of_false (fun hne => hne rfl) nofun

end Outcome

section Check

variable {rule name : String} {argument : Option String} {format : OutputFormat}

/-- A check that gets as far as validation shows how that comes out. -/
theorem Reaches.runCheck_eq (h : Reaches s source argument w v) :
    runCheck s source rule name argument format =
      (w.validate ⟨name, v⟩ rule).report name rule format := by
  have hw := Surroundings.loadValidator_eq_ok_iff.mpr h.1
  have hv := argumentValue_eq_ok_iff.mpr h.2
  simp only [runCheck, hw, hv]

/-- Only the validator of a source matters to a check. -/
theorem runCheck_congr {s' : Surroundings} {source' : ConfigSource} (h : s.Loads source w)
    (h' : s'.Loads source' w) : runCheck s source rule name argument format =
      runCheck s' source' rule name argument format := by
  simp only [runCheck, Surroundings.loadValidator_eq_ok_iff.mpr h,
    Surroundings.loadValidator_eq_ok_iff.mpr h']

theorem Reaches.unique {w' : Validator} {v' : Value} (h : Reaches s source argument w v)
    (h' : Reaches s source argument w' v') : w = w' ∧ v = v' := by
  have hw := Surroundings.loadValidator_eq_ok_iff.mpr h.1
  have hv := argumentValue_eq_ok_iff.mpr h.2
  rw [Surroundings.loadValidator_eq_ok_iff.mpr h'.1] at hw
  rw [argumentValue_eq_ok_iff.mpr h'.2] at hv
  exact ⟨(Except.ok.inj hw).symm, (Except.ok.inj hv).symm⟩

/-- A check that does not get as far says why, and nothing else. -/
theorem exists_runCheck_eq_failure (h : ¬ ∃ w v, Reaches s source argument w v)
    (rule name : String) (format : OutputFormat) :
    ∃ message, runCheck s source rule name argument format = .failure message := by
  rw [runCheck]
  cases hw : s.loadValidator source with
  | error message => exact ⟨message, rfl⟩
  | ok w =>
    cases hv : argumentValue argument with
    | error message => exact ⟨message, rfl⟩
    | ok v =>
      exact absurd ⟨w, v, Surroundings.loadValidator_eq_ok_iff.mp hw,
        argumentValue_eq_ok_iff.mp hv⟩ h

/-- What holds of a run exactly if validation comes out in a certain way, and of no run that does
not get as far. -/
theorem runCheck_iff {P : RunResult → Prop} {Q : Outcome → Prop}
    (hfailure : ∀ message, ¬ P (.failure message))
    (hreport : ∀ o : Outcome, P (o.report name rule format) ↔ Q o) :
    P (runCheck s source rule name argument format) ↔
      ∃ w v, Reaches s source argument w v ∧ Q (w.validate ⟨name, v⟩ rule) := by
  by_cases h : ∃ w v, Reaches s source argument w v
  · obtain ⟨w, v, hreaches⟩ := h
    rw [hreaches.runCheck_eq, hreport]
    -- No other validator and no other value is reached.
    constructor
    · exact fun hq => ⟨w, v, hreaches, hq⟩
    · rintro ⟨w', v', hreaches', hq⟩
      obtain ⟨rfl, rfl⟩ := hreaches.unique hreaches'
      exact hq
  · obtain ⟨message, hrun⟩ := exists_runCheck_eq_failure h rule name format
    rw [hrun]
    constructor
    · exact fun hp => absurd hp (hfailure message)
    · rintro ⟨w, v, hreaches, -⟩
      exact absurd ⟨w, v, hreaches⟩ h

theorem exitCode_runCheck_zero_iff : (runCheck s source rule name argument format).exitCode = 0 ↔
    ∃ w v, Reaches s source argument w v ∧ w.validate ⟨name, v⟩ rule = .ok () :=
  runCheck_iff (P := fun r => r.exitCode = 0) (Q := (· = .ok ())) (fun _ => nofun)
    fun o => o.exitCode_report_eq_zero_iff name rule format

theorem exitCode_runCheck_two_iff : (runCheck s source rule name argument format).exitCode = 2 ↔
    ∃ w v, Reaches s source argument w v ∧
      ∃ n reason, w.validate ⟨name, v⟩ rule = .error (.format n reason) :=
  runCheck_iff (P := fun r => r.exitCode = 2)
    (Q := fun o => ∃ n reason, o = .error (.format n reason)) (fun _ => nofun)
    fun o => o.exitCode_report_eq_two_iff name rule format

/-- The code one does not tell whether validation was reached. -/
theorem exitCode_runCheck_one_iff : (runCheck s source rule name argument format).exitCode = 1 ↔
    (∃ w v, Reaches s source argument w v ∧
      ∃ n rules, w.validate ⟨name, v⟩ rule = .error (.validation n rules)) ∨
    ¬ ∃ w v, Reaches s source argument w v := by
  by_cases h : ∃ w v, Reaches s source argument w v
  · obtain ⟨w, v, hreaches⟩ := h
    rw [hreaches.runCheck_eq, Outcome.exitCode_report_eq_one_iff]
    constructor
    · exact fun hbroken => .inl ⟨w, v, hreaches, hbroken⟩
    · rintro (⟨w', v', hreaches', hbroken⟩ | hnot)
      · obtain ⟨rfl, rfl⟩ := hreaches.unique hreaches'
        exact hbroken
      · exact absurd ⟨w, v, hreaches⟩ hnot
  · obtain ⟨message, hrun⟩ := exists_runCheck_eq_failure h rule name format
    rw [hrun]
    exact iff_of_true rfl (.inr h)

theorem output_runCheck_of_not_reaches (h : ¬ ∃ w v, Reaches s source argument w v) :
    (runCheck s source rule name argument format).output = "" := by
  obtain ⟨message, hrun⟩ := exists_runCheck_eq_failure h rule name format
  rw [hrun]
  rfl

theorem exists_report_of_reaches (h : Reaches s source argument w v) : ∃ status message,
    (w.validate ⟨name, v⟩ rule).Tells (runCheck s source rule name argument .json).exitCode
      status message ∧
    IsReport (runCheck s source rule name argument .json).output status name rule message := by
  rw [h.runCheck_eq]
  exact Outcome.exists_tells _ name rule

theorem not_isReport_empty {status : String} {message : Option String} :
    ¬ IsReport "" status name rule message := by
  have hnone : Json.ofText? "" = none := by rfl
  rw [IsReport, hnone]
  nofun

theorem output_runCheck_text_ne_iff : (runCheck s source rule name argument .text).output ≠ "" ↔
    (runCheck s source rule name argument .text).exitCode = 0 := by
  rw [exitCode_runCheck_zero_iff]
  exact runCheck_iff (P := fun r => r.output ≠ "") (Q := (· = .ok ()))
    (fun _ houtput => houtput rfl) fun o => o.output_report_text_ne_iff name rule

/-- The code that a check exits with is zero if validation is reached and the value passes, two if
it is reached and the rule cannot be understood, and one in all other cases.  With JSON there is one
report exactly if validation is reached, with the word for the code, the name and the rule as they
were given, and the message of a failure; otherwise there is nothing.  With text there is something
exactly if the code is zero. -/
theorem runCheck_reports (s : Surroundings) (source : ConfigSource) (rule name : String)
    (argument : Option String) :
    (∀ format, (runCheck s source rule name argument format).exitCode = 0 ↔
      ∃ w v, Reaches s source argument w v ∧ w.validate ⟨name, v⟩ rule = .ok ()) ∧
    (∀ format, (runCheck s source rule name argument format).exitCode = 2 ↔
      ∃ w v, Reaches s source argument w v ∧
        ∃ n reason, w.validate ⟨name, v⟩ rule = .error (.format n reason)) ∧
    (∀ format, (runCheck s source rule name argument format).exitCode = 1 ↔
      (∃ w v, Reaches s source argument w v ∧
        ∃ n rules, w.validate ⟨name, v⟩ rule = .error (.validation n rules)) ∨
      ¬ ∃ w v, Reaches s source argument w v) ∧
    (∀ w v, Reaches s source argument w v → ∃ status message,
      (w.validate ⟨name, v⟩ rule).Tells (runCheck s source rule name argument .json).exitCode
        status message ∧
      IsReport (runCheck s source rule name argument .json).output status name rule message) ∧
    ((∃ status message,
      IsReport (runCheck s source rule name argument .json).output status name rule message) ↔
      ∃ w v, Reaches s source argument w v) ∧
    ((¬ ∃ w v, Reaches s source argument w v) →
      (runCheck s source rule name argument .json).output = "") ∧
    ((runCheck s source rule name argument .text).output ≠ "" ↔
      (runCheck s source rule name argument .text).exitCode = 0) := by
  refine ⟨fun _ => exitCode_runCheck_zero_iff, fun _ => exitCode_runCheck_two_iff,
    fun _ => exitCode_runCheck_one_iff, fun w v => exists_report_of_reaches, ?report,
    output_runCheck_of_not_reaches, output_runCheck_text_ne_iff⟩
  case report =>
    constructor
    · rintro ⟨status, message, hreport⟩
      -- Nothing is on the output otherwise, and that is no JSON.
      by_contra hnot
      rw [output_runCheck_of_not_reaches hnot] at hreport
      exact not_isReport_empty hreport
    · rintro ⟨w, v, hreaches⟩
      obtain ⟨status, message, -, hreport⟩ := exists_report_of_reaches hreaches
      exact ⟨status, message, hreport⟩

end Check

/-- Surroundings without files. -/
def Surroundings.bare : Surroundings := ⟨⟨fun _ => none⟩, [], none⟩

open Surroundings (bare)

/-- A value that passes is reported, and so is one that breaks the rule, but a text that is no JSON
is not. -/
theorem runCheck_reports_less_than :
    (runCheck bare .standard "a number, less than 10" "count" (some "3") .json).exitCode = 0 ∧
    IsReport (runCheck bare .standard "a number, less than 10" "count" (some "3") .json).output
      "ok" "count" "a number, less than 10" none ∧
    (runCheck bare .standard "a number, less than 10" "count" (some "30") .json).exitCode = 1 ∧
    IsReport (runCheck bare .standard "a number, less than 10" "count" (some "30") .json).output
      "validation" "count" "a number, less than 10"
      (some "'count' must be a number, less than 10") ∧
    (runCheck bare .standard "a number, less than 10" "count" (some "okay") .json).output = "" := by
  have hless : Json.ofText? "3" = some (.number (.integer 3)) := by rfl
  have hpasses : Validator.standard.validate ⟨"count", .ofJson (.number (.integer 3))⟩
      "a number, less than 10" = .ok () := by
    decide +kernel
  have hgreater : Json.ofText? "30" = some (.number (.integer 30)) := by rfl
  have hbroken : Validator.standard.validate ⟨"count", .ofJson (.number (.integer 30))⟩
      "a number, less than 10" = .error (.validation "count" ["a number", "less than 10"]) := by
    decide +kernel
  have hmessage : (Failure.validation "count" ["a number", "less than 10"]).message =
      "'count' must be a number, less than 10" := by decide
  have hnone : Json.ofText? "okay" = none := by rfl
  have hnot : ¬ ∃ w v, Reaches bare .standard (some "okay") w v := by
    rintro ⟨w, v, -, _ | hdata'⟩
    cases hnone.symm.trans hdata'
  obtain ⟨-, -, -, hreport, -, -, -⟩ :=
    runCheck_reports bare .standard "a number, less than 10" "count" (some "3")
  obtain ⟨status, message, htells, hok⟩ := hreport _ _ ⟨.standard, .json hless⟩
  obtain ⟨-, -, -, hreport', -, -, -⟩ :=
    runCheck_reports bare .standard "a number, less than 10" "count" (some "30")
  obtain ⟨status', message', htells', hfailed⟩ := hreport' _ _ ⟨.standard, .json hgreater⟩
  obtain ⟨-, -, -, -, -, hempty, -⟩ :=
    runCheck_reports bare .standard "a number, less than 10" "count" (some "okay")
  rw [hpasses] at htells
  rw [hbroken] at htells'
  generalize (runCheck bare .standard "a number, less than 10" "count" (some "3")
    .json).exitCode = exit at htells ⊢
  generalize (runCheck bare .standard "a number, less than 10" "count" (some "30")
    .json).exitCode = exit' at htells' ⊢
  cases htells
  cases htells'
  rw [hmessage] at hfailed
  exact ⟨rfl, hok, rfl, hfailed, hempty hnot⟩

end Clausal
