import Clausal.File.System
import Mathlib.Data.List.Basic

/-!
# Where files lie, and what is written to them

The path of a file in a directory is the path of the directory with the name of the file after it
(`IsPathIn`), and it leads one name further than the directory does
(`FileSystem.locate_of_isPathIn`).
What is written to a file that can be read is what is read from it afterwards
(`Entry.IsReadable.rewritten`); anything else is as it was before (`Entry.rewritten_of_not`).

## Main definitions

- `IsPathIn`: a path leads to a name in a directory
- `Entry.IsReadable`: an entry is a regular file that may be read
-/

namespace Clausal

/-- A path leads to a name in a directory: a slash stands between the two, unless the directory ends
with one, or is the working directory and left out. -/
inductive IsPathIn (name : String) : String → String → Prop
  | here : IsPathIn name "" name
  | slash (front : String) : IsPathIn name (front ++ "/") (front ++ "/" ++ name)
  | plain {directory : String} (nonempty : directory ≠ "")
      (noSlash : ∀ front, directory ≠ front ++ "/") :
      IsPathIn name directory (directory ++ "/" ++ name)

/-- An entry is a regular file that may be read, even if what it holds is no text. -/
inductive Entry.IsReadable : Entry → Prop
  | text (contents : String) (refusal : Option FileError) :
      IsReadable (.regular (.ok contents) refusal)
  | notText (refusal : Option FileError) : IsReadable (.regular (.error .notText) refusal)

namespace Entry

variable {e : Entry} {text : String}

theorem IsReadable.rewritten (h : e.IsReadable) :
    ∃ refusal, e.rewritten text = .regular (.ok text) refusal := by
  cases h with
  | text contents refusal => exact ⟨refusal, rfl⟩
  | notText refusal => exact ⟨refusal, rfl⟩

/-- A text is lost on anything but a file that may be read. -/
theorem rewritten_of_not (h : ¬ e.IsReadable) : e.rewritten text = e := by
  rcases e with _ | ⟨_ | _, refusal⟩ | _
  · rfl
  · rename_i cause
    cases cause with
    | notText => exact absurd (.notText refusal) h
    | _ => rfl
  · exact absurd (.text _ refusal) h
  · rfl

theorem isReadable_of_rewritten_eq {refusal : Option FileError}
    (h : e.rewritten text = .regular (.ok text) refusal) : e.IsReadable := by
  by_contra hnot
  rw [rewritten_of_not hnot] at h
  rw [h] at hnot
  exact hnot (.text text refusal)

end Entry

namespace FileSystem

variable {fs : FileSystem} {here path p d : Path} {name front directory text : String}
  {refusal : Option FileError}

/-- A location is that of a file only if a file is where it leads; a directory is none. -/
theorem isFile_eq_true_iff {location : Location} : fs.isFile here location = true ↔
    ∃ path contents refusal, fs.locate here location = .ok path ∧
      fs.entry? path = some (.regular contents refusal) := by
  rw [isFile]
  cases fs.locate here location with
  | error e => simp
  | ok path =>
    rcases hentry : fs.entry? path with _ | _ | _ | _ <;> simp [hentry]

section Write

/-- Where nothing is, a file can be made if everything may be made in the directory above. -/
theorem refusal?_eq_none_iff_of_none (h : fs.entry? path = none) :
    fs.refusal? path = none ↔ fs.entry? path.dropLast = some .directory := by
  rw [refusal?, h]
  rcases fs.entry? path.dropLast with _ | refusal | _ | _
  · exact iff_of_false nofun nofun
  · simp [Entry.directory]
  · exact iff_of_false nofun nofun
  · exact iff_of_false nofun nofun

/-- A directory is never written to. -/
theorem refusal?_eq_none_iff_of_some {e : Entry} (h : fs.entry? path = some e) :
    fs.refusal? path = none ↔
      ∃ contents, e = .file contents ∨ e = .special contents none := by
  rw [refusal?, h]
  cases e <;> simp [Entry.refusal?, Entry.file]

theorem entry?_write_of_none (h : fs.entry? path = none) :
    FileSystem.entry? (fs.write path text) path = some (.file (.ok text)) := by
  simp [write, h]

theorem entry?_write_of_some {e : Entry} (h : fs.entry? path = some e) :
    FileSystem.entry? (fs.write path text) path = some (e.rewritten text) := by
  simp [write, h]

theorem entry?_write_of_ne (h : p ≠ path) :
    FileSystem.entry? (fs.write path text) p = fs.entry? p :=
  if_neg h

/-- Where a text is lost, all files are as they were. -/
theorem write_eq_self {e : Entry} (h : fs.entry? path = some e) (hnot : ¬ e.IsReadable) :
    fs.write path text = fs := by
  have hentries : ∀ p, FileSystem.entry? (fs.write path text) p = fs.entry? p := by
    intro p
    by_cases hp : p = path
    · rw [hp, entry?_write_of_some h, Entry.rewritten_of_not hnot, h]
    · exact entry?_write_of_ne hp
  cases fs
  exact congrArg FileSystem.mk (funext hentries)

theorem read_absolute (h : fs.entry? path = some (.regular (.ok text) refusal)) :
    fs.read here (.absolute path) = .ok text := by
  simp [read, locate, h, Entry.contents]

theorem isFile_absolute (h : fs.entry? path = some (.regular (.ok text) refusal)) :
    fs.isFile here (.absolute path) = true :=
  isFile_eq_true_iff.mpr ⟨path, .ok text, refusal, rfl, h⟩

end Write

section Locate

/-- The names in a text, without the empty ones. -/
def properNames (text : String) : List String :=
  ((text.toList.splitOn '/').map String.ofList).filter (· != "")

theorem splitOn_append_slash_append (front name : String) :
    (front ++ "/" ++ name).toList.splitOn '/' =
      front.toList.splitOn '/' ++ name.toList.splitOn '/' := by
  have htext : (front ++ "/" ++ name).toList = front.toList ++ '/' :: name.toList := by simp
  rw [htext, List.splitOn_append_cons_self]

theorem names_of_splitOn {parts : List (List Char)} {last : List Char}
    (h : text.toList.splitOn '/' = parts ++ [last]) :
    names text = (parts.map String.ofList).filter (· != "") ++
      [if last = [] then "." else String.ofList last] := by
  have hempty : String.ofList last = "" ↔ last = [] := by
    rw [← String.toList_inj, String.toList_ofList, String.toList_empty]
  simp [names, h, hempty]

theorem names_append_slash : names (front ++ "/") = properNames front ++ ["."] := by
  have hsplit : (front ++ "/").toList.splitOn '/' = front.toList.splitOn '/' ++ [[]] := by
    have h := splitOn_append_slash_append front ""
    rwa [String.append_empty] at h
  exact names_of_splitOn hsplit

theorem names_append_slash_append (hslash : '/' ∉ name.toList) (hne : name ≠ "") :
    names (front ++ "/" ++ name) = properNames front ++ [name] := by
  have hsplit := splitOn_append_slash_append front name
  rw [List.splitOn_eq_singleton hslash] at hsplit
  have hne : name.toList ≠ [] := fun h => hne (String.toList_eq_nil_iff.mp h)
  rw [names_of_splitOn hsplit, if_neg hne, String.ofList_toList, properNames]

/-- A text that does not end with a slash ends with a name. -/
theorem names_of_noSlash (hne : directory ≠ "") (hnot : ∀ front, directory ≠ front ++ "/") :
    names directory = properNames directory := by
  have hchars : directory.toList ≠ [] := fun h => hne (String.toList_eq_nil_iff.mp h)
  obtain ⟨parts, last, hsplit, hlast⟩ : ∃ parts last,
      directory.toList.splitOn '/' = parts ++ [last] ∧ last ≠ [] := by
    by_cases hmem : '/' ∈ directory.toList
    · -- The last name stands after the last slash.
      obtain ⟨back, front, hreverse, hslash⟩ :=
        List.eq_append_cons_of_mem (List.mem_reverse.mpr hmem)
      have htext : directory.toList = front.reverse ++ '/' :: back.reverse := by
        simpa using congrArg List.reverse hreverse
      refine ⟨front.reverse.splitOn '/', back.reverse, ?_, ?_⟩
      · rw [htext, List.splitOn_append_cons_self,
          List.splitOn_eq_singleton (mt List.mem_reverse.mp hslash)]
      · intro hback
        apply hnot (String.ofList front.reverse)
        apply String.toList_injective
        rw [htext, hback]
        simp
    · exact ⟨[], directory.toList, List.splitOn_eq_singleton hmem, hchars⟩
  rw [names_of_splitOn hsplit, if_neg hlast, properNames, hsplit, List.map_append,
    List.filter_append]
  simp [← String.toList_inj, hlast]

/-- Going along names is going along the first of them and then along the others. -/
theorem walk_append (names names' : List String) :
    fs.walk here (names ++ names') = (fs.walk here names).bind fun p => fs.walk p names' := by
  induction names generalizing here with
  | nil => rfl
  | cons name names ih =>
    simp only [List.cons_append, walk]
    split
    · rfl
    · split
      · exact ih
      · split
        · exact ih
        · exact ih
    · rfl

theorem startOf_append (h : directory ≠ "") :
    startOf here (directory ++ text) = startOf here directory := by
  obtain ⟨c, cs, hchars⟩ := List.exists_cons_of_ne_nil (mt String.toList_eq_nil_iff.mp h)
  have hstart : (directory ++ text).startsWith "/" = directory.startsWith "/" := by
    rw [Bool.eq_iff_iff, ← String.startsWith_toSlice, ← String.startsWith_toSlice,
      String.Slice.startsWith_string_iff, String.Slice.startsWith_string_iff]
    simp [hchars]
  rw [startOf, startOf, hstart]

/-- The file with a name in a directory lies one name further than the directory. -/
theorem locate_of_isPathIn (hpath : IsPathIn name directory text) (hslash : '/' ∉ name.toList)
    (hname : name ∉ ["", ".", ".."]) (hlocate : fs.locate here (.written directory) = .ok d)
    (hfolder : fs.entry? d = some (.folder refusal)) :
    fs.locate here (.written text) = .ok (d ++ [name]) := by
  obtain ⟨hempty, hdot, hdots⟩ : name ≠ "" ∧ name ≠ "." ∧ name ≠ ".." := by simpa using hname
  have hne : directory ≠ "" := by
    rintro rfl
    simp [locate] at hlocate
  rw [locate, if_neg hne] at hlocate
  have hstep : fs.walk d [name] = .ok (d ++ [name]) := by simp [walk, hfolder, hdot, hdots]
  -- Without its last name the way ends at the directory.
  have hextend {front : String} (htext : text = front ++ "/" ++ name)
      (hstart : startOf here text = startOf here directory)
      (hwalk : fs.walk (startOf here directory) (properNames front) = .ok d) :
      fs.locate here (.written text) = .ok (d ++ [name]) := by
    have htext_ne : text ≠ "" := by
      rw [htext]
      exact fun h => hempty (String.append_eq_empty_iff.mp h).2
    rw [locate, if_neg htext_ne, hstart, htext, names_append_slash_append hslash hempty,
      walk_append, hwalk]
    exact hstep
  cases hpath with
  | here => exact absurd rfl hne
  | slash front =>
    refine hextend rfl (startOf_append hne) ?_
    rw [names_append_slash, walk_append] at hlocate
    cases hwalk : fs.walk (startOf here (front ++ "/")) (properNames front) with
    | error cause => simp [hwalk, Except.bind] at hlocate
    | ok d' =>
      have hdot : fs.walk d' ["."] = .ok d := by simpa [hwalk, Except.bind] using hlocate
      rcases hentry : fs.entry? d' with _ | _ | _ | _ <;> simp_all [walk]
  | plain _ hnot =>
    rw [names_of_noSlash hne hnot] at hlocate
    refine hextend rfl ?_ hlocate
    rw [String.append_assoc]
    exact startOf_append hne

end Locate

end FileSystem

end Clausal
