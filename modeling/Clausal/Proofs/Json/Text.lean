import Clausal.Json.Reader
import Clausal.Json.Text
import Mathlib.Data.List.DropRight

/-!
# Reading what was written

A text between double quotes is read as the text that was written (`Json.Reader.run_string_encode`):
each character is read back from its own written form, whatever comes after.  So is an object whose
fields are texts, one on each line (`Json.ofText?_objectLines`); nothing of it is lost, and there is
nothing else in it.
-/

namespace Clausal

namespace TextReader

variable {c d : Char} {rest : List Char}

@[simp]
theorem run_expect_singleton : (expect [c]).run (c :: rest) = some ((), rest) := by
  simp [expect]

@[simp]
theorem run_accept_singleton : (accept [c]).run (c :: rest) = some (true, rest) := by
  simp [accept]

theorem run_accept_singleton_of_ne (h : c ≠ d) :
    (accept [c]).run (d :: rest) = some (false, d :: rest) := by
  simp [accept, h]

theorem run_hexDigits_cons {count value digit : Nat} (h : Digit.hexValue? c = some digit) :
    (hexDigits (count + 1) value).run (c :: rest) =
      (hexDigits count (16 * value + digit)).run rest := by
  simp [hexDigits, h]

@[simp]
theorem run_hexDigits_zero {value : Nat} : (hexDigits 0 value).run rest = some (value, rest) := rfl

end TextReader

namespace Json

theorem hexValue?_hexDigit : ∀ n < 16, Digit.hexValue? (hexDigit n) = some n := by
  decide

/-- A character is written with a letter after a backslash that stands for it, or with its number,
or as it is. -/
theorem encodeChar_cases (c : Char) :
    (∃ e, encodeChar c = ['\\', e] ∧
      ∀ rest, Reader.escape.run (e :: rest) = some (c, rest)) ∨
    (c.toNat < 0x20 ∧ encodeChar c =
      ['\\', 'u', '0', '0', hexDigit (c.toNat / 16), hexDigit (c.toNat % 16)]) ∨
    (c ≠ '"' ∧ c ≠ '\\' ∧ 0x20 ≤ c.toNat ∧ encodeChar c = [c]) := by
  by_cases hletter : c ∈ ['"', '\\', '\x08', '\x0c', '\n', '\r', '\t']
  · simp only [List.mem_cons, List.not_mem_nil, or_false] at hletter
    left
    rcases hletter with rfl | rfl | rfl | rfl | rfl | rfl | rfl
    all_goals exact ⟨_, rfl, fun _ => rfl⟩
  · simp only [List.mem_cons, List.not_mem_nil, or_false, not_or] at hletter
    obtain ⟨hquote, hslash, hback, hfeed, hline, hreturn, htab⟩ := hletter
    rw [encodeChar, if_neg hquote, if_neg hslash, if_neg hback, if_neg hfeed, if_neg hline,
      if_neg hreturn, if_neg htab]
    by_cases hcontrol : c.toNat < 0x20
    · exact .inr (.inl ⟨hcontrol, if_pos hcontrol⟩)
    · exact .inr (.inr ⟨hquote, hslash, Nat.not_lt.mp hcontrol, if_neg hcontrol⟩)

theorem length_le_length_flatMap_encodeChar (cs : List Char) :
    cs.length ≤ (cs.flatMap encodeChar).length := by
  induction cs with
  | nil => exact Nat.le_refl _
  | cons c cs ih =>
    have hpos : 0 < (encodeChar c).length := by
      rcases encodeChar_cases c with ⟨e, hc, -⟩ | ⟨-, hc⟩ | ⟨-, -, -, hc⟩ <;> rw [hc]
      all_goals exact Nat.succ_pos _
    rw [List.flatMap_cons, List.length_append, List.length_cons]
    omega

theorem toList_encode_append (s : String) (rest : List Char) :
    (encode s).toList ++ rest = '"' :: (s.toList.flatMap encodeChar ++ '"' :: rest) := by
  simp [encode]

/-- The line of a field. -/
def fieldLine (f : String × String) : String := "  " ++ encode f.1 ++ ": " ++ encode f.2

/-- A field whose value is a text. -/
def textField (f : String × String) : String × Value := (f.1, .string f.2)

theorem toList_fieldLine_append (f : String × String) (rest : List Char) :
    (fieldLine f).toList ++ rest = ' ' :: ' ' :: '"' :: (f.1.toList.flatMap encodeChar ++
      '"' :: ':' :: ' ' :: '"' :: (f.2.toList.flatMap encodeChar ++ '"' :: rest)) := by
  simp [fieldLine, toList_encode_append]

theorem objectLines_eq (fields : List (String × String)) :
    objectLines fields = "\x7b\n" ++ ",\n".intercalate (fields.map fieldLine) ++ "\n\x7d" := rfl

namespace Reader

open TextReader

variable {bound room : Nat} {done cs rest : List Char} {c : Char}

@[simp]
theorem run_spaces : spaces.run cs = some ((), cs.dropWhile isSpace) := rfl

theorem run_stringRest_quote :
    (stringRest (bound + 1) done).run ('"' :: rest) = some (String.ofList done.reverse, rest) := rfl

theorem run_stringRest_plain (hquote : c ≠ '"') (hslash : c ≠ '\\')
    (hcontrol : 0x20 ≤ c.toNat) :
    (stringRest (bound + 1) done).run (c :: rest) = (stringRest bound (c :: done)).run rest := by
  simp [stringRest, hquote, hslash, Nat.not_lt.mpr hcontrol]

theorem run_stringRest_escape (h : escape.run cs = some (c, rest)) :
    (stringRest (bound + 1) done).run ('\\' :: cs) = (stringRest bound (c :: done)).run rest := by
  simp [stringRest, h]

theorem run_escape_number (h : c.toNat < 0x20) :
    escape.run ('u' :: '0' :: '0' :: hexDigit (c.toNat / 16) :: hexDigit (c.toNat % 16) :: rest) =
      some (c, rest) := by
  have hzero : Digit.hexValue? '0' = some 0 := by decide
  have hhigh := hexValue?_hexDigit (c.toNat / 16) (by omega)
  have hlow := hexValue?_hexDigit (c.toNat % 16) (by omega)
  have hdigits : (hexDigits 4 0).run
      ('0' :: '0' :: hexDigit (c.toNat / 16) :: hexDigit (c.toNat % 16) :: rest) =
        some (c.toNat, rest) := by
    rw [run_hexDigits_cons hzero, run_hexDigits_cons hzero, run_hexDigits_cons hhigh,
      run_hexDigits_cons hlow, run_hexDigits_zero]
    congr 2
    omega
  have hsmall : c.toNat < 0xD800 := by omega
  simp [escape, numberedCharacter, hdigits, hsmall]

theorem run_stringRest_encodeChar :
    (stringRest (bound + 1) done).run (encodeChar c ++ rest) =
      (stringRest bound (c :: done)).run rest := by
  rcases encodeChar_cases c with ⟨e, hc, hescape⟩ | ⟨hcontrol, hc⟩ | ⟨hquote, hslash, hcode, hc⟩
  · rw [hc]
    exact run_stringRest_escape (hescape rest)
  · rw [hc]
    exact run_stringRest_escape (run_escape_number hcontrol)
  · rw [hc]
    exact run_stringRest_plain hquote hslash hcode

/-- A text is read up to the quote after it. -/
theorem run_stringRest_encode (h : cs.length < bound) :
    (stringRest bound done).run (cs.flatMap encodeChar ++ '"' :: rest) =
      some (String.ofList (done.reverse ++ cs), rest) := by
  induction cs generalizing bound done with
  | nil =>
    obtain ⟨bound, rfl⟩ := Nat.exists_eq_add_of_lt h
    simpa using run_stringRest_quote
  | cons c cs ih =>
    obtain ⟨bound, rfl⟩ : ∃ b, bound = b + 1 := ⟨bound - 1, by simp at h; omega⟩
    rw [List.flatMap_cons, List.append_assoc, run_stringRest_encodeChar,
      ih (Nat.lt_of_succ_lt_succ h), List.reverse_cons, List.append_assoc, List.singleton_append]

theorem run_string_encode (s : String) :
    string.run (s.toList.flatMap encodeChar ++ '"' :: rest) = some (s, rest) := by
  have hlength : s.toList.length <
      (s.toList.flatMap encodeChar ++ '"' :: rest).length + 1 := by
    have := length_le_length_flatMap_encodeChar s.toList
    rw [List.length_append]
    omega
  have hread : (stringRest ((s.toList.flatMap encodeChar ++ '"' :: rest).length + 1) []).run
      (s.toList.flatMap encodeChar ++ '"' :: rest) = some (s, rest) := by
    rw [run_stringRest_encode hlength, List.reverse_nil, List.nil_append, String.ofList_toList]
  exact hread

theorem run_value_quote : (value (bound + 1) room).run (' ' :: '"' :: cs) =
    (string.run cs).bind fun (s, rest) => some (.string s, rest) := rfl

theorem run_value_brace : (value (bound + 1) (room + 2)).run ('\x7b' :: cs) =
    ((accept ['\x7d']).run (cs.dropWhile isSpace)).bind fun (closed, rest) =>
      (if closed = true then pure (.object []) else fields bound (room + 1) []).run rest := rfl

theorem run_value_encode (s : String) :
    (value (bound + 1) room).run (' ' :: '"' :: (s.toList.flatMap encodeChar ++ '"' :: rest)) =
      some (.string s, rest) := by
  rw [run_value_quote, run_string_encode]
  rfl

theorem run_fields_spaces {done : List (String × Value)} :
    (fields (bound + 1) room done).run (cs.dropWhile isSpace) =
      (fields (bound + 1) room done).run cs := by
  simp [fields, List.dropWhile_idempotent]

theorem run_fields_cons_of_isSpace {done : List (String × Value)} (h : isSpace c = true) :
    (fields (bound + 1) room done).run (c :: cs) = (fields (bound + 1) room done).run cs := by
  rw [← run_fields_spaces, List.dropWhile_cons_of_pos h, run_fields_spaces]

section Line

variable {done : List (String × Value)} {k : String} {v : Value} {after : List Char}

/-- A field is read as its key and its value; after a comma there is another field. -/
theorem run_fields_of_comma (hkey : string.run cs = some (k, ':' :: after))
    (hvalue : (value bound room).run after = some (v, ',' :: rest)) :
    (fields (bound + 1) room done).run ('"' :: cs) =
      (fields bound room ((k, v) :: done)).run rest := by
  have hquote : ('"' :: cs).dropWhile isSpace = '"' :: cs := List.dropWhile_cons_of_neg (by decide)
  have hcolon : (':' :: after).dropWhile isSpace = ':' :: after :=
    List.dropWhile_cons_of_neg (by decide)
  have hcomma : (',' :: rest).dropWhile isSpace = ',' :: rest :=
    List.dropWhile_cons_of_neg (by decide)
  simp [fields, hquote, hkey, hcolon, hvalue, hcomma]

/-- The last field is read as its key and its value, with the brace on the next line. -/
theorem run_fields_of_brace (hkey : string.run cs = some (k, ':' :: after))
    (hvalue : (value bound room).run after = some (v, '\n' :: '\x7d' :: rest)) :
    (fields (bound + 1) room done).run ('"' :: cs) =
      some (.object ((k, v) :: done).reverse, rest) := by
  have hquote : ('"' :: cs).dropWhile isSpace = '"' :: cs := List.dropWhile_cons_of_neg (by decide)
  have hcolon : (':' :: after).dropWhile isSpace = ':' :: after :=
    List.dropWhile_cons_of_neg (by decide)
  have hbrace : ('\n' :: '\x7d' :: rest).dropWhile isSpace = '\x7d' :: rest := by
    rw [List.dropWhile_cons_of_pos (by decide), List.dropWhile_cons_of_neg (by decide)]
  have hnext : (accept [',']).run ('\x7d' :: rest) = some (false, '\x7d' :: rest) :=
    run_accept_singleton_of_ne (by decide)
  simp [fields, hquote, hkey, hcolon, hvalue, hbrace, hnext]

/-- A line is read as its field if another one comes next. -/
theorem run_fields_line_comma (f : String × String) :
    (fields (bound + 2) room done).run ((fieldLine f).toList ++ ',' :: rest) =
      (fields (bound + 1) room (textField f :: done)).run rest := by
  rw [toList_fieldLine_append, run_fields_cons_of_isSpace (by decide),
    run_fields_cons_of_isSpace (by decide)]
  exact run_fields_of_comma (run_string_encode f.1) (run_value_encode f.2)

/-- The last line is read as the last field. -/
theorem run_fields_line_brace (f : String × String) :
    (fields (bound + 2) room done).run ((fieldLine f).toList ++ '\n' :: '\x7d' :: rest) =
      some (.object (textField f :: done).reverse, rest) := by
  rw [toList_fieldLine_append, run_fields_cons_of_isSpace (by decide),
    run_fields_cons_of_isSpace (by decide)]
  exact run_fields_of_brace (run_string_encode f.1) (run_value_encode f.2)

end Line

/-- Lines with commas between them are read as their fields, up to the closing brace. -/
theorem run_fields_lines {done : List (String × Value)} {f : String × String}
    {others : List (String × String)} (h : others.length + 2 ≤ bound) :
    (fields bound room done).run ((",\n".intercalate ((f :: others).map fieldLine)).toList ++
        '\n' :: '\x7d' :: rest) =
      some (.object (done.reverse ++ (f :: others).map textField), rest) := by
  induction others generalizing bound done f with
  | nil =>
    obtain ⟨bound, rfl⟩ : ∃ b, bound = b + 2 := Nat.exists_eq_add_of_le' h
    rw [List.map_singleton, String.intercalate_singleton, run_fields_line_brace]
    simp
  | cons second others ih =>
    obtain ⟨bound, rfl⟩ : ∃ b, bound = b + 2 := ⟨bound - 2, by omega⟩
    have hlines : (",\n".intercalate ((f :: second :: others).map fieldLine)).toList ++
        '\n' :: '\x7d' :: rest = (fieldLine f).toList ++ ',' :: '\n' ::
          ((",\n".intercalate ((second :: others).map fieldLine)).toList ++
            '\n' :: '\x7d' :: rest) := by
      simp [String.intercalate_cons_cons]
    have hbound : others.length + 2 ≤ bound + 1 := by
      rw [List.length_cons] at h
      omega
    -- The end of the line before is a blank in front of the next field.
    rw [hlines, run_fields_line_comma, run_fields_cons_of_isSpace (by decide), ih hbound]
    simp

theorem exists_dropWhile_lines (f : String × String) (others : List (String × String))
    (rest : List Char) : ∃ after,
      ((",\n".intercalate ((f :: others).map fieldLine)).toList ++ rest).dropWhile isSpace =
        '"' :: after := by
  obtain ⟨after, hafter⟩ : ∃ after,
      (",\n".intercalate ((f :: others).map fieldLine)).toList ++ rest =
        (fieldLine f).toList ++ after := by
    cases others with
    | nil => exact ⟨rest, by simp⟩
    | cons second others => simp [String.intercalate_cons_cons]
  rw [hafter, toList_fieldLine_append]
  simp [isSpace]

theorem run_value_objectLines {fields : List (String × String)} (h : fields.length + 1 ≤ bound) :
    (value (bound + 1) (room + 2)).run ((objectLines fields).toList ++ rest) =
      some (.object (fields.map textField), rest) := by
  cases fields with
  | nil =>
    have htext : (objectLines []).toList = ['\x7b', '\n', '\n', '\x7d'] := by decide
    rw [htext]
    rfl
  | cons f others =>
    have htext : (objectLines (f :: others)).toList ++ rest = '\x7b' :: '\n' ::
        ((",\n".intercalate ((f :: others).map fieldLine)).toList ++ '\n' :: '\x7d' :: rest) := by
      simp [objectLines_eq]
    obtain ⟨bound, rfl⟩ : ∃ b, bound = b + 1 := ⟨bound - 1, by omega⟩
    obtain ⟨after, hafter⟩ := exists_dropWhile_lines f others ('\n' :: '\x7d' :: rest)
    have hline : ('\n' :: ((",\n".intercalate ((f :: others).map fieldLine)).toList ++
        '\n' :: '\x7d' :: rest)).dropWhile isSpace = '"' :: after := by
      rw [List.dropWhile_cons_of_pos (by decide), hafter]
    have hnext : (accept ['\x7d']).run ('"' :: after) = some (false, '"' :: after) :=
      run_accept_singleton_of_ne (by decide)
    rw [htext, run_value_brace, hline, hnext]
    change (Reader.fields (bound + 1) (room + 1) []).run ('"' :: after) = _
    rw [← hafter, run_fields_spaces, run_fields_lines h, List.reverse_nil, List.nil_append]

end Reader

theorem length_le_length_intercalate_lines (fields : List (String × String)) :
    fields.length ≤ (",\n".intercalate (fields.map fieldLine)).length := by
  have hpos : ∀ f, 2 ≤ (fieldLine f).length := by
    intro f
    have hspaces : "  ".length = 2 := by decide
    simp only [fieldLine, String.length_append, hspaces]
    omega
  induction fields with
  | nil => exact Nat.zero_le _
  | cons f others ih =>
    have hfirst := hpos f
    cases others with
    | nil =>
      rw [List.map_singleton, String.intercalate_singleton, List.length_singleton]
      omega
    | cons second others =>
      rw [List.map_cons, List.map_cons, String.intercalate_cons_cons, ← List.map_cons,
        String.length_append, String.length_append, List.length_cons]
      omega

/-- An object of texts is read as it was written, with blanks after it or without. -/
theorem ofText?_objectLines (fields : List (String × String)) {blanks : String}
    (h : blanks.toList.all Reader.isSpace = true) :
    ofText? (objectLines fields ++ blanks) = some (.object (fields.map textField)) := by
  have hbound : fields.length + 1 ≤ (objectLines fields ++ blanks).length + 1 := by
    have hlines := length_le_length_intercalate_lines fields
    rw [objectLines_eq]
    simp only [String.length_append]
    omega
  have hlimit : Reader.nestingLimit = 126 + 2 := rfl
  rw [ofText?, String.toList_append, hlimit, Reader.run_value_objectLines hbound]
  simp [h]

end Json

end Clausal
