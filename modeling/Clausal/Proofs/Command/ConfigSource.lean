import Clausal.Command.Run
import Clausal.Proofs.File
import Mathlib.Data.List.Infix
import Mathlib.Data.List.Induction

/-!
# The nearest configuration

The directories above a path are its beginnings, the longest one first
(`Path.ancestors_append_singleton`).  So looking for a project configuration meets the working
directory before all directories above it, and in each of them the preferred name before the other;
what it finds is the configuration nearest to the start (`ConfigSource.findProject?_eq_some_iff`).
The other sources count only if there is none (`ConfigSource.resolve_eq_iff`).

## Main definitions

- `ConfigSource.HasProject`: a directory has a project configuration
- `ConfigSource.Prefers`: the name of the configuration that counts in a directory
- `ConfigSource.IsNearest`: the project configuration that counts for a directory to start from
- `ConfigSource.Applies`: where a configuration has to come from
-/

namespace Clausal

namespace Path

@[simp]
theorem ancestors_nil : ancestors [] = [[]] := rfl

/-- The directories above a path come one by one. -/
theorem ancestors_append_singleton (p : Path) (name : String) :
    ancestors (p ++ [name]) = (p ++ [name]) :: ancestors p := by
  have hlength : (p ++ [name]).length = p.length + 1 := List.length_append
  have hrest : ∀ above, (p ++ [name]).take (p.length + 1 - (above + 1)) =
      p.take (p.length - above) := by
    intro above
    have hle : p.length - above ≤ p.length := Nat.sub_le _ _
    rw [Nat.add_sub_add_right, List.take_append_of_le_length hle]
  rw [ancestors, ancestors, hlength, List.range_succ_eq_map, List.map_cons, List.map_map]
  congr 1
  · exact List.take_of_length_le hlength.le
  · exact List.map_congr_left fun above _ => hrest above

theorem mem_ancestors_iff {p d : Path} : d ∈ p.ancestors ↔ d <+: p := by
  induction p using List.reverseRecOn with
  | nil => rw [ancestors_nil, List.mem_singleton, List.prefix_nil]
  | append_singleton p name ih =>
    rw [ancestors_append_singleton, List.mem_cons, ih, List.prefix_concat_iff]

end Path

namespace ConfigSource

variable {isFile : Location → Bool} {start directory : Path} {name : String}

/-- A directory has a file with a name of project configurations. -/
def HasProject (isFile : Location → Bool) (directory : Path) : Prop :=
  ∃ name ∈ projectNames, isFile (.absolute (directory ++ [name])) = true

/-- A name is that of the project configuration of a directory: the hidden one counts only if the
other one is missing. -/
def Prefers (isFile : Location → Bool) (directory : Path) (name : String) : Prop :=
  isFile (.absolute (directory ++ [name])) = true ∧
    (name = "enforce.toml" ∨ name = ".enforce.toml" ∧
      isFile (.absolute (directory ++ ["enforce.toml"])) = false)

instance : Decidable (HasProject isFile directory) :=
  inferInstanceAs (Decidable (∃ name ∈ projectNames, _))

instance : Decidable (Prefers isFile directory name) :=
  inferInstanceAs (Decidable (_ ∧ _))

/-- A directory and a name are those of the project configuration that is nearest to a directory. -/
structure IsNearest (isFile : Location → Bool) (start directory : Path) (name : String) : Prop where
  /-- The directory is the one to start from, or above it. -/
  above : directory <+: start
  prefers : Prefers isFile directory name
  /-- No directory that is nearer has a configuration. -/
  nearest : ∀ d, d <+: start → directory.length < d.length → ¬ HasProject isFile d

/-- Where a configuration comes from. -/
inductive Applies (isFile : Location → Bool) (start : Path) :
    Option String → Option String → ConfigSource → Prop
  /-- The one that the user names counts, whether it exists or not. -/
  | explicit (path : String) (globalDirectory : Option String) :
      Applies isFile start (some path) globalDirectory (.explicit (.written path))
  | project {directory : Path} {name : String} (globalDirectory : Option String)
      (h : IsNearest isFile start directory name) :
      Applies isFile start none globalDirectory (.project (.absolute (directory ++ [name])))
  | global {globalDirectory path : String} (noProject : ∀ d, d <+: start → ¬ HasProject isFile d)
      (hpath : IsPathIn "config.toml" globalDirectory path)
      (h : isFile (.written path) = true) :
      Applies isFile start none (some globalDirectory) (.global (.written path))
  | standard {globalDirectory : Option String}
      (noProject : ∀ d, d <+: start → ¬ HasProject isFile d)
      (noGlobal : ∀ g path, globalDirectory = some g → IsPathIn "config.toml" g path →
        isFile (.written path) = false) :
      Applies isFile start none globalDirectory .standard

theorem Prefers.hasProject (h : Prefers isFile directory name) : HasProject isFile directory := by
  obtain ⟨hfile, rfl | ⟨rfl, -⟩⟩ := h
  · exact ⟨"enforce.toml", by decide, hfile⟩
  · exact ⟨".enforce.toml", by decide, hfile⟩

theorem Prefers.isNearest_self (h : Prefers isFile start name) :
    IsNearest isFile start start name := by
  refine ⟨List.prefix_refl _, h, fun d hd hlt => ?_⟩
  exact absurd hd.length_le (Nat.not_le.mpr hlt)

theorem find?_projectCandidates_eq_some_iff {location : Location} :
    (projectCandidates directory).find? isFile = some location ↔
      ∃ name, Prefers isFile directory name ∧ location = .absolute (directory ++ [name]) := by
  simp only [projectCandidates, projectNames, List.map_cons, List.map_nil, Prefers]
  cases hplain : isFile (.absolute (directory ++ ["enforce.toml"])) with
  | true =>
    -- The preferred name is there, so the hidden one does not count.
    rw [List.find?_cons_of_pos hplain]
    constructor
    · rintro ⟨⟩
      exact ⟨"enforce.toml", ⟨hplain, .inl rfl⟩, rfl⟩
    · rintro ⟨name, ⟨-, rfl | ⟨-, hmissing⟩⟩, rfl⟩
      · rfl
      · cases hmissing
  | false =>
    rw [List.find?_cons_of_neg (by simp [hplain])]
    cases hhidden : isFile (.absolute (directory ++ [".enforce.toml"])) with
    | true =>
      rw [List.find?_cons_of_pos hhidden]
      constructor
      · rintro ⟨⟩
        exact ⟨".enforce.toml", ⟨hhidden, .inr ⟨rfl, rfl⟩⟩, rfl⟩
      · rintro ⟨name, ⟨hfile, rfl | ⟨rfl, -⟩⟩, rfl⟩
        · cases hplain.symm.trans hfile
        · rfl
    | false =>
      rw [List.find?_cons_of_neg (by simp [hhidden]), List.find?_nil]
      constructor
      · nofun
      · rintro ⟨name, ⟨hfile, rfl | ⟨rfl, -⟩⟩, -⟩
        · cases hplain.symm.trans hfile
        · cases hhidden.symm.trans hfile

theorem find?_projectCandidates_eq_none_iff :
    (projectCandidates directory).find? isFile = none ↔ ¬ HasProject isFile directory := by
  simp [projectCandidates, HasProject]

/-- One step up: what a directory has itself counts before what is above it. -/
theorem isNearest_append_singleton_iff {last : String} :
    IsNearest isFile (start ++ [last]) directory name ↔
      directory = start ++ [last] ∧ Prefers isFile directory name ∨
        ¬ HasProject isFile (start ++ [last]) ∧ IsNearest isFile start directory name := by
  constructor
  · intro h
    rcases List.prefix_concat_iff.mp h.above with rfl | habove
    · exact .inl ⟨rfl, h.prefers⟩
    · have hlength : directory.length < (start ++ [last]).length := by
        have := habove.length_le
        simp only [List.length_append, List.length_singleton]
        omega
      refine .inr ⟨h.nearest _ (List.prefix_refl _) hlength, habove, h.prefers, fun d hd => ?_⟩
      exact h.nearest d (hd.trans (List.prefix_append _ _))
  · rintro (⟨rfl, hprefers⟩ | ⟨hnone, h⟩)
    · exact hprefers.isNearest_self
    · refine ⟨h.above.trans (List.prefix_append _ _), h.prefers, fun d hd hlt => ?_⟩
      rcases List.prefix_concat_iff.mp hd with rfl | hd
      · exact hnone
      · exact h.nearest d hd hlt

theorem isNearest_nil_iff :
    IsNearest isFile [] directory name ↔ directory = [] ∧ Prefers isFile directory name := by
  constructor
  · exact fun h => ⟨List.prefix_nil.mp h.above, h.prefers⟩
  · rintro ⟨rfl, hprefers⟩
    exact hprefers.isNearest_self

theorem findProject?_nil : findProject? isFile [] = (projectCandidates []).find? isFile := by
  rw [findProject?, Path.ancestors_nil, List.findSome?_cons]
  cases (projectCandidates []).find? isFile <;> rfl

theorem findProject?_append_singleton (last : String) :
    findProject? isFile (start ++ [last]) =
      ((projectCandidates (start ++ [last])).find? isFile).or (findProject? isFile start) := by
  rw [findProject?, Path.ancestors_append_singleton, List.findSome?_cons]
  cases (projectCandidates (start ++ [last])).find? isFile <;> rfl

/-- Looking upwards finds the nearest project configuration, and no other one. -/
theorem findProject?_eq_some_iff {location : Location} :
    findProject? isFile start = some location ↔
      ∃ directory name, IsNearest isFile start directory name ∧
        location = .absolute (directory ++ [name]) := by
  -- From the root downwards: each further name of the path adds a directory that comes first.
  induction start using List.reverseRecOn with
  | nil =>
    simp only [findProject?_nil, find?_projectCandidates_eq_some_iff, isNearest_nil_iff]
    constructor
    · rintro ⟨name, hprefers, rfl⟩
      exact ⟨[], name, ⟨rfl, hprefers⟩, rfl⟩
    · rintro ⟨_, name, ⟨rfl, hprefers⟩, rfl⟩
      exact ⟨name, hprefers, rfl⟩
  | append_singleton start last ih =>
    rw [findProject?_append_singleton]
    simp only [isNearest_append_singleton_iff]
    cases hfind : (projectCandidates (start ++ [last])).find? isFile with
    | some found =>
      -- The directory itself has a configuration, so nothing above it counts.
      obtain ⟨found, hfound, rfl⟩ := find?_projectCandidates_eq_some_iff.mp hfind
      constructor
      · rintro ⟨⟩
        exact ⟨_, found, .inl ⟨rfl, hfound⟩, rfl⟩
      · rintro ⟨_, name, ⟨rfl, hprefers⟩ | ⟨hnone, -⟩, rfl⟩
        · rw [Option.some_or, ← hfind]
          exact find?_projectCandidates_eq_some_iff.mpr ⟨name, hprefers, rfl⟩
        · exact absurd hfound.hasProject hnone
    | none =>
      have hnone := find?_projectCandidates_eq_none_iff.mp hfind
      rw [Option.none_or, ih]
      constructor
      · rintro ⟨directory, name, h, rfl⟩
        exact ⟨directory, name, .inr ⟨hnone, h⟩, rfl⟩
      · rintro ⟨directory, name, ⟨rfl, hprefers⟩ | ⟨-, h⟩, rfl⟩
        · exact absurd hprefers.hasProject hnone
        · exact ⟨directory, name, h, rfl⟩

theorem findProject?_eq_none_iff :
    findProject? isFile start = none ↔ ∀ d, d <+: start → ¬ HasProject isFile d := by
  simp only [findProject?, List.findSome?_eq_none_iff, Path.mem_ancestors_iff,
    find?_projectCandidates_eq_none_iff]

theorem globalCandidate_eq_iff {g path : String} :
    globalCandidate g = .written path ↔ IsPathIn "config.toml" g path := by
  have hslash : g.endsWith "/" = true ↔ ∃ front, g = front ++ "/" := by
    rw [← String.endsWith_toSlice, String.Slice.endsWith_string_iff, String.copy_toSlice]
    constructor
    · rintro ⟨front, hfront⟩
      refine ⟨String.ofList front, String.toList_injective ?_⟩
      rw [← hfront]
      simp
    · rintro ⟨front, rfl⟩
      rw [String.toList_append]
      exact List.suffix_append _ _
  simp only [globalCandidate, globalName, Location.written.injEq]
  constructor
  · rintro rfl
    by_cases hempty : g = ""
    · rw [hempty]
      exact .here
    · by_cases hends : g.endsWith "/" = true
      · obtain ⟨front, rfl⟩ := hslash.mp hends
        rw [if_pos (by simp [hends]), String.append_empty]
        exact .slash front
      · rw [if_neg (by simp [hempty, hends])]
        exact .plain hempty fun front hfront => hends (hslash.mpr ⟨front, hfront⟩)
  · rintro (_ | front | ⟨hempty, hnot⟩)
    · rfl
    · rw [if_pos (by simp [hslash.mpr ⟨front, rfl⟩]), String.append_empty]
    · have hends : ¬ g.endsWith "/" = true := fun h =>
        let ⟨front, hfront⟩ := hslash.mp h
        hnot front hfront
      rw [if_neg (by simp [hempty, hends])]

theorem resolve_eq_iff {explicitPath globalDirectory : Option String} {source : ConfigSource} :
    resolve isFile start explicitPath globalDirectory = source ↔
      Applies isFile start explicitPath globalDirectory source := by
  cases explicitPath with
  | some path =>
    constructor
    · rintro rfl
      exact .explicit path globalDirectory
    · rintro ⟨⟩
      rfl
  | none =>
    rw [resolve]
    cases hproject : findProject? isFile start with
    | some location =>
      have hsome := findProject?_eq_some_iff.mp hproject
      have hhas : ¬ ∀ d, d <+: start → ¬ HasProject isFile d := by
        rw [← findProject?_eq_none_iff, hproject]
        nofun
      constructor
      · rintro rfl
        obtain ⟨directory, name, h, rfl⟩ := hsome
        exact .project globalDirectory h
      · rintro (_ | ⟨_, h⟩ | ⟨noProject, _⟩ | ⟨noProject, _⟩)
        · have hfind := findProject?_eq_some_iff.mpr ⟨_, _, h, rfl⟩
          rw [hproject] at hfind
          rw [Option.some.inj hfind]
        · exact absurd noProject hhas
        · exact absurd noProject hhas
    | none =>
      have hnone := findProject?_eq_none_iff.mp hproject
      constructor
      · rintro rfl
        cases globalDirectory with
        | none => exact .standard hnone nofun
        | some g =>
          simp only [Option.map_some]
          obtain ⟨path, hcandidate⟩ : ∃ path, globalCandidate g = .written path := ⟨_, rfl⟩
          have hpath := globalCandidate_eq_iff.mp hcandidate
          rw [hcandidate]
          cases hglobal : isFile (.written path) with
          | true => exact .global hnone hpath hglobal
          | false =>
            refine .standard hnone ?_
            rintro _ path' ⟨⟩ hpath'
            -- The name has one path in the directory.
            cases hcandidate.symm.trans (globalCandidate_eq_iff.mpr hpath')
            exact hglobal
      · rintro (_ | ⟨_, h⟩ | ⟨_, hpath, hglobal⟩ | ⟨_, noGlobal⟩)
        · exact absurd h.prefers.hasProject (hnone _ h.above)
        · simp [globalCandidate_eq_iff.mpr hpath, hglobal]
        · cases globalDirectory with
          | none => rfl
          | some g =>
            obtain ⟨path, hcandidate⟩ : ∃ path, globalCandidate g = .written path := ⟨_, rfl⟩
            have hmissing := noGlobal g path rfl (globalCandidate_eq_iff.mp hcandidate)
            simp [hcandidate, hmissing]

theorem exists_isNearest_iff :
    (∃ directory name, IsNearest isFile start directory name) ↔
      ∃ d, d <+: start ∧ HasProject isFile d := by
  constructor
  · rintro ⟨directory, name, h⟩
    exact ⟨directory, h.above, h.prefers.hasProject⟩
  · rintro ⟨d, hd, hhas⟩
    cases hproject : findProject? isFile start with
    | none => exact absurd hhas (findProject?_eq_none_iff.mp hproject d hd)
    | some location =>
      obtain ⟨directory, name, h, -⟩ := findProject?_eq_some_iff.mp hproject
      exact ⟨directory, name, h⟩

theorem isFile_of_found {s : Surroundings} {explicitPath : Option String} {location : Location}
    (h : s.configSource explicitPath = .project location ∨
      s.configSource explicitPath = .global location) : s.isFile location = true := by
  rw [Surroundings.configSource, resolve_eq_iff, resolve_eq_iff] at h
  generalize s.globalDirectory = globalDirectory at h
  rcases h with h | h
  · cases h with
    | project _ hnearest => exact hnearest.prefers.1
  · cases h with
    | global _ _ hfile => exact hfile

/-- The configuration that the user names counts unseen.  Else it is the nearest one in the
directory to start from and those above it, where the hidden name counts only if the other one is
missing; else the one with its name in the global directory; else there is none.  What was found is
a regular file, never a directory, and the global one lies in the global directory. -/
theorem resolve_nearest :
    (∀ isFile start explicitPath globalDirectory source,
      resolve isFile start explicitPath globalDirectory = source ↔
        Applies isFile start explicitPath globalDirectory source) ∧
    (∀ isFile start globalDirectory,
      (∃ d, d <+: start ∧ HasProject isFile d) ↔
        ∃ directory name, IsNearest isFile start directory name ∧
          resolve isFile start none globalDirectory =
            .project (.absolute (directory ++ [name]))) ∧
    (∀ (s : Surroundings) explicitPath location,
      s.configSource explicitPath = .project location ∨
        s.configSource explicitPath = .global location →
      ∃ path contents refusal, s.files.locate s.workingDirectory location = .ok path ∧
        s.files.entry? path = some (.regular contents refusal)) ∧
    ∀ (s : Surroundings) explicitPath location g d refusal,
      s.configSource explicitPath = .global location → s.globalDirectory = some g →
      s.files.locate s.workingDirectory (.written g) = .ok d →
      s.files.entry? d = some (.folder refusal) →
      s.files.locate s.workingDirectory location = .ok (d ++ ["config.toml"]) := by
  refine ⟨fun _ _ _ _ _ => resolve_eq_iff, ?nearest, ?file, ?inside⟩
  case nearest =>
    intro isFile start globalDirectory
    rw [← exists_isNearest_iff]
    constructor
    · rintro ⟨directory, name, h⟩
      exact ⟨directory, name, h, resolve_eq_iff.mpr (.project globalDirectory h)⟩
    · rintro ⟨directory, name, h, -⟩
      exact ⟨directory, name, h⟩
  case file =>
    intro s explicitPath location h
    exact FileSystem.isFile_eq_true_iff.mp (isFile_of_found h)
  case inside =>
    intro s explicitPath location g d refusal hsource hglobal hlocate hfolder
    rw [Surroundings.configSource, resolve_eq_iff, hglobal] at hsource
    cases hsource with
    | global _ hpath _ =>
      exact FileSystem.locate_of_isPathIn hpath (by decide) (by decide) hlocate hfolder

end ConfigSource

/-- Surroundings with a hidden configuration one directory up, another configuration further up, a
directory that has the name of one, and a global configuration. -/
def Surroundings.nested : Surroundings where
  files := ⟨fun path =>
    if [["p", "q", ".enforce.toml"], ["p", "enforce.toml"], ["g", "config.toml"]].contains path then
      some (.file (.ok ""))
    else if [[], ["g"], ["p", "q", "r", "enforce.toml"]].contains path then some .directory
    else none⟩
  workingDirectory := ["p", "q", "r"]
  globalDirectory := some "/g/"

/-- The same surroundings, seen from another directory. -/
def Surroundings.beside : Surroundings := { Surroundings.nested with workingDirectory := ["w"] }

namespace ConfigSource

open Surroundings (nested beside)

/-- The hidden configuration that is nearer beats the other one, and the directory counts for
nothing.  From elsewhere it is the global one that counts. -/
theorem resolve_nearest_hidden :
    nested.configSource none = .project (.absolute ["p", "q", ".enforce.toml"]) ∧
      (∃ path contents refusal, nested.files.locate nested.workingDirectory
          (.absolute ["p", "q", ".enforce.toml"]) = .ok path ∧
        nested.files.entry? path = some (.regular contents refusal)) ∧
      beside.configSource none = .global (.written "/g/config.toml") ∧
      beside.files.locate beside.workingDirectory (.written "/g/config.toml") =
        .ok ["g", "config.toml"] := by
  obtain ⟨happlies, -, hfile, hinside⟩ := resolve_nearest
  have hnearest : IsNearest nested.isFile nested.workingDirectory ["p", "q"] ".enforce.toml" := by
    refine ⟨by decide, by decide, fun d hd hlt => ?_⟩
    have hd : d ∈ [["p", "q", "r"], ["p", "q"], ["p"], []] := Path.mem_ancestors_iff.mpr hd
    simp only [List.mem_cons, List.not_mem_nil, or_false] at hd
    rcases hd with rfl | rfl | rfl | rfl
    · decide
    all_goals simp at hlt
  have hproject : nested.configSource none = .project (.absolute ["p", "q", ".enforce.toml"]) :=
    (happlies _ _ _ _ _).mpr (.project _ hnearest)
  have hnone : ∀ d, d <+: beside.workingDirectory → ¬ HasProject beside.isFile d := by
    intro d hd
    have hd : d ∈ [["w"], []] := Path.mem_ancestors_iff.mpr hd
    simp only [List.mem_cons, List.not_mem_nil, or_false] at hd
    rcases hd with rfl | rfl <;> decide
  have hglobal : beside.configSource none = .global (.written "/g/config.toml") :=
    (happlies _ _ _ _ _).mpr (.global hnone (.slash "/g") (by decide +kernel))
  exact ⟨hproject, hfile nested none _ (.inl hproject), hglobal,
    hinside beside none _ "/g/" ["g"] none hglobal rfl (by decide +kernel) rfl⟩

end ConfigSource

end Clausal
