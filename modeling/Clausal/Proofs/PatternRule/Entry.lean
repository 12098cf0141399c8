import Clausal.Proofs.Clause.Reading
import Clausal.Proofs.Setup

/-!
# What an entry of a document becomes

An entry makes a rule exactly if it is valid, and the rule is the one that it describes
(`PatternEntry.toRule_eq_ok_iff`).  Otherwise the error is the first fault of the entry
(`PatternEntry.toRule_eq_error_iff`).

## Main definitions

- `PatternEntry.Valid`: an entry that is a rule by itself
- `PatternEntry.FirstFault`: what is wrong with the first part of an entry that is at fault
- `PatternEntry.Describes`: an entry and a rule that say the same
-/

namespace Clausal

/-- Texts that name a rule: some characters, all of them small letters, digits and hyphens. -/
def IsRuleName (text : String) : Prop :=
  text ≠ "" ∧
    ∀ c ∈ text.toList, ('a' ≤ c ∧ c ≤ 'z') ∨ ('0' ≤ c ∧ c ≤ '9') ∨ c = '-'

/-- What is wrong with a text that names no rule. -/
inductive NameFault (text : String) : PatternRuleError → Prop
  | empty (h : text = "") : NameFault text .emptyRuleName
  | character (h : text ≠ "") (hname : ¬ IsRuleName text) : NameFault text (.invalidRuleName text)

/-- Texts that are patterns: some characters, which make a regular expression. -/
def IsPattern (source : String) (ignoreCase : Bool) : Prop :=
  source ≠ "" ∧ ∃ p, Pattern.compile source ignoreCase = .ok p

/-- What is wrong with a text that is no pattern. -/
inductive PatternFault (source : String) (ignoreCase : Bool) : PatternRuleError → Prop
  | empty (h : source = "") : PatternFault source ignoreCase .emptyPattern
  | expression {cause : RegexError} (h : source ≠ "")
      (hcompile : Pattern.compile source ignoreCase = .error cause) :
      PatternFault source ignoreCase (.invalidPattern source cause)

theorem NameFault.not_isRuleName {text : String} {cause : PatternRuleError}
    (h : NameFault text cause) : ¬ IsRuleName text := by
  cases h with
  | empty h => exact fun hname => hname.1 h
  | character _ hname => exact hname

theorem PatternFault.not_isPattern {source : String} {ignoreCase : Bool} {cause : PatternRuleError}
    (h : PatternFault source ignoreCase cause) : ¬ IsPattern source ignoreCase := by
  rintro ⟨hne, p, hp⟩
  cases h with
  | empty h => exact hne h
  | expression _ hcompile =>
    rw [hp] at hcompile
    cases hcompile

theorem isRuleNameCharacter_iff (c : Char) : isRuleNameCharacter c = true ↔
    ('a' ≤ c ∧ c ≤ 'z') ∨ ('0' ≤ c ∧ c ≤ '9') ∨ c = '-' := by
  have hlower : c.isLower = (decide ('a' ≤ c) && decide (c ≤ 'z')) := rfl
  have hdigit : c.isDigit = (decide ('0' ≤ c) && decide (c ≤ '9')) := rfl
  simp only [isRuleNameCharacter, hlower, hdigit, Bool.or_eq_true, Bool.and_eq_true,
    decide_eq_true_eq, or_assoc]

theorem isRuleName_iff {text : String} :
    IsRuleName text ↔ text ≠ "" ∧ text.toList.all isRuleNameCharacter = true := by
  simp only [IsRuleName, List.all_eq_true, isRuleNameCharacter_iff]

namespace RuleName

variable {text : String} {n : RuleName} {e : PatternRuleError}

theorem exists_of_isRuleName (h : IsRuleName text) : ∃ n : RuleName, n.text = text :=
  ⟨⟨text, h.1, (isRuleName_iff.mp h).2⟩, rfl⟩

theorem isRuleName (n : RuleName) : IsRuleName n.text :=
  isRuleName_iff.mpr ⟨n.ne_empty, n.all_characters⟩

theorem text_injective : Function.Injective RuleName.text := by
  rintro ⟨a, _, _⟩ ⟨b, _, _⟩ h
  cases show a = b from h
  rfl

theorem ofText_eq_ok_iff : ofText text = .ok n ↔ n.text = text := by
  constructor
  · intro h
    rw [ofText] at h
    split at h
    · cases h
    · split at h
      · cases h
        rfl
      · cases h
  · rintro rfl
    rw [ofText, dif_neg n.ne_empty, dif_pos n.all_characters]

theorem ofText_eq_error_iff : ofText text = .error e ↔ NameFault text e := by
  rw [ofText]
  by_cases hempty : text = ""
  · rw [dif_pos hempty]
    constructor
    · rintro ⟨⟩
      exact .empty hempty
    · rintro (_ | ⟨hne, -⟩)
      · rfl
      · exact absurd hempty hne
  · rw [dif_neg hempty]
    by_cases hall : text.toList.all isRuleNameCharacter = true
    · rw [dif_pos hall]
      have hname : IsRuleName text := isRuleName_iff.mpr ⟨hempty, hall⟩
      constructor
      · rintro ⟨⟩
      · rintro (h | ⟨-, h⟩)
        · exact absurd h hempty
        · exact absurd hname h
    · rw [dif_neg hall]
      have hname : ¬ IsRuleName text := fun h => hall (isRuleName_iff.mp h).2
      constructor
      · rintro ⟨⟩
        exact .character hempty hname
      · rintro (h | -)
        · exact absurd h hempty
        · rfl

end RuleName

namespace Pattern

variable {source : String} {ignoreCase : Bool} {p : Pattern} {e : PatternRuleError}

/-- A pattern has no more to it than its text and its regard to case. -/
theorem compile_eq_ok_iff :
    compile source ignoreCase = .ok p ↔ p.source = source ∧ p.ignoreCase = ignoreCase := by
  refine ⟨of_compile_eq_ok, ?_⟩
  obtain ⟨source, ignoreCase, regex, compiles⟩ := p
  rintro ⟨rfl, rfl⟩
  rw [compile]
  split
  · rename_i r h
    rw [h] at compiles
    cases compiles
    rfl
  · rename_i h
    rw [h] at compiles
    cases compiles

theorem ofSource_eq_ok_iff :
    ofSource source ignoreCase = .ok p ↔ source ≠ "" ∧ compile source ignoreCase = .ok p := by
  rw [ofSource]
  by_cases hempty : source = ""
  · simp [hempty]
  · rw [if_neg hempty]
    cases compile source ignoreCase <;> simp [hempty]

theorem ofSource_eq_error_iff :
    ofSource source ignoreCase = .error e ↔ PatternFault source ignoreCase e := by
  rw [ofSource]
  by_cases hempty : source = ""
  · rw [if_pos hempty]
    constructor
    · rintro ⟨⟩
      exact .empty hempty
    · rintro (_ | ⟨hne, -⟩)
      · rfl
      · exact absurd hempty hne
  · rw [if_neg hempty]
    cases hcompile : compile source ignoreCase with
    | ok p =>
      constructor
      · rintro ⟨⟩
      · rintro (h | ⟨-, h⟩)
        · exact absurd h hempty
        · rw [hcompile] at h
          cases h
    | error cause =>
      constructor
      · rintro ⟨⟩
        exact .expression hempty hcompile
      · rintro (h | ⟨-, h⟩)
        · exact absurd h hempty
        · rw [hcompile] at h
          cases h
          rfl

end Pattern

theorem Value.ofTomlItems_eq_map (items : List Toml.Value) :
    ofTomlItems items = items.map ofToml := by
  induction items with
  | nil => rfl
  | cons x items ih => rw [ofTomlItems, ih, List.map_cons]

namespace PatternEntry

/-- Exactly one of the three checks is there. -/
def HasOneCheck (e : PatternEntry) : Prop :=
  [e.equals.isSome, e.oneOf.isSome, e.matching.isSome].count true = 1

instance (e : PatternEntry) : Decidable e.HasOneCheck :=
  inferInstanceAs (Decidable (_ = 1))

structure Valid (e : PatternEntry) : Prop where
  name : IsRuleName e.name
  pattern : IsPattern e.pattern e.ignoreCase
  check : e.HasOneCheck
  matching : ∀ source, e.matching = some source → IsPattern source false

/-- The errors about an entry at a certain place.  Its parts count in the order name, pattern,
number of checks, pattern of a check, and each only if all before it are right. -/
inductive FirstFault (e : PatternEntry) (place : String) : PatternsError → Prop
  | name {cause : PatternRuleError} (h : NameFault e.name cause) :
      FirstFault e place (.invalid (place ++ ".name") cause)
  | pattern {cause : PatternRuleError} (hname : IsRuleName e.name)
      (h : PatternFault e.pattern e.ignoreCase cause) :
      FirstFault e place (.invalid (place ++ ".pattern") cause)
  | check (hname : IsRuleName e.name) (hpattern : IsPattern e.pattern e.ignoreCase)
      (h : ¬ e.HasOneCheck) : FirstFault e place (.ambiguousCheck place)
  | matching {source : String} {cause : PatternRuleError} (hname : IsRuleName e.name)
      (hpattern : IsPattern e.pattern e.ignoreCase) (hcheck : e.HasOneCheck)
      (hmatching : e.matching = some source) (h : PatternFault source false cause) :
      FirstFault e place (.invalid (place ++ ".matches") cause)

/-- The check that an entry has. -/
inductive DescribesCheck (e : PatternEntry) : Check → Prop
  | equals {v : Toml.Value} (h : e.equals = some v) : DescribesCheck e (.equals (Value.ofToml v))
  | oneOf {vs : List Toml.Value} (h : e.oneOf = some vs) :
      DescribesCheck e (.oneOf (vs.map Value.ofToml))
  | matching {p : Pattern} (h : e.matching = some p.source) (hcase : p.ignoreCase = false) :
      DescribesCheck e (.matching p)

/-- An entry and a rule have the same parts. -/
structure Describes (e : PatternEntry) (r : PatternRule) : Prop where
  name : r.name.text = e.name
  pattern : r.pattern.source = e.pattern
  ignoreCase : r.pattern.ignoreCase = e.ignoreCase
  description : r.description = e.description
  check : e.DescribesCheck r.check

/-- Where the entry at a certain position is. -/
def place (position : Nat) : String := "patterns[" ++ Nat.repr position ++ "]"

variable {e : PatternEntry} {position : Nat} {context : String} {c : Check} {r : PatternRule}
  {err : PatternsError}

section Check

/-- The check that is there, and the absence of the others. -/
theorem hasOneCheck_iff : e.HasOneCheck ↔
    (∃ v, e.equals = some v ∧ e.oneOf = none ∧ e.matching = none) ∨
      (∃ vs, e.equals = none ∧ e.oneOf = some vs ∧ e.matching = none) ∨
        ∃ source, e.equals = none ∧ e.oneOf = none ∧ e.matching = some source := by
  rw [HasOneCheck]
  cases e.equals <;> cases e.oneOf <;> cases e.matching <;> simp

variable {v : Toml.Value} {vs : List Toml.Value} {source : String}

namespace HasOneCheck

variable (hone : e.HasOneCheck)

include hone

theorem others_of_equals (h : e.equals = some v) : e.oneOf = none ∧ e.matching = none := by
  rw [hasOneCheck_iff] at hone
  simpa [h] using hone

theorem others_of_oneOf (h : e.oneOf = some vs) : e.equals = none ∧ e.matching = none := by
  rw [hasOneCheck_iff] at hone
  simpa [h] using hone

theorem others_of_matching (h : e.matching = some source) :
    e.equals = none ∧ e.oneOf = none := by
  rw [hasOneCheck_iff] at hone
  simpa [h] using hone

end HasOneCheck

theorem check_of_equals (h : e.equals = some v) (hvs : e.oneOf = none)
    (hsource : e.matching = none) :
    e.check context = .ok (.equals (Value.ofToml v)) := by
  rw [check, h, hvs, hsource]

theorem check_of_oneOf (hv : e.equals = none) (h : e.oneOf = some vs)
    (hsource : e.matching = none) :
    e.check context = .ok (.oneOf (vs.map Value.ofToml)) := by
  rw [check, hv, h, hsource]
  exact congrArg (fun items => Except.ok (Check.oneOf items)) (Value.ofTomlItems_eq_map vs)

theorem check_of_matching (hv : e.equals = none) (hvs : e.oneOf = none)
    (h : e.matching = some source) :
    e.check context = ((Pattern.ofSource source false).map .matching).mapError
      (.invalid (context ++ ".matches")) := by
  rw [check, hv, hvs, h]
  dsimp only
  cases Pattern.ofSource source false <;> rfl

theorem check_of_not_hasOneCheck (h : ¬ e.HasOneCheck) :
    e.check context = .error (.ambiguousCheck context) := by
  rw [hasOneCheck_iff] at h
  rw [check]
  split
  · rename_i v hv hvs hsource
    exact absurd (.inl ⟨v, hv, hvs, hsource⟩) h
  · rename_i vs hv hvs hsource
    exact absurd (.inr (.inl ⟨vs, hv, hvs, hsource⟩)) h
  · rename_i source hv hvs hsource
    exact absurd (.inr (.inr ⟨source, hv, hvs, hsource⟩)) h
  · rfl

end Check

theorem check_eq_ok_iff : e.check context = .ok c ↔
    e.HasOneCheck ∧ (∀ source, e.matching = some source → IsPattern source false) ∧
      e.DescribesCheck c := by
  constructor
  · intro h
    by_cases hone : e.HasOneCheck
    · rcases hasOneCheck_iff.mp hone with
        ⟨v, hv, hvs, hsource⟩ | ⟨vs, hv, hvs, hsource⟩ | ⟨source, hv, hvs, hsource⟩
      · rw [check_of_equals hv hvs hsource] at h
        cases h
        exact ⟨hone, by simp [hsource], .equals hv⟩
      · rw [check_of_oneOf hv hvs hsource] at h
        cases h
        exact ⟨hone, by simp [hsource], .oneOf hvs⟩
      · rw [check_of_matching hv hvs hsource] at h
        cases hp : Pattern.ofSource source false with
        | error cause =>
          rw [hp] at h
          cases h
        | ok p =>
          rw [hp] at h
          cases h
          obtain ⟨hne, hcompile⟩ := Pattern.ofSource_eq_ok_iff.mp hp
          obtain ⟨rfl, hcase⟩ := Pattern.compile_eq_ok_iff.mp hcompile
          have hpattern : IsPattern p.source false := ⟨hne, p, hcompile⟩
          exact ⟨hone, by simpa [hsource] using hpattern, .matching hsource hcase⟩
    · rw [check_of_not_hasOneCheck hone] at h
      cases h
  · rintro ⟨hone, hpattern, hc⟩
    cases hc with
    | equals hv =>
      obtain ⟨hvs, hsource⟩ := hone.others_of_equals hv
      exact check_of_equals hv hvs hsource
    | oneOf hvs =>
      obtain ⟨hv, hsource⟩ := hone.others_of_oneOf hvs
      exact check_of_oneOf hv hvs hsource
    | matching hsource hcase =>
      obtain ⟨hv, hvs⟩ := hone.others_of_matching hsource
      have hcompile := Pattern.compile_eq_ok_iff.mpr ⟨rfl, hcase⟩
      have hp := Pattern.ofSource_eq_ok_iff.mpr ⟨(hpattern _ hsource).1, hcompile⟩
      rw [check_of_matching hv hvs hsource, hp]
      rfl

/-- With a name and a pattern, only the check of an entry can be at fault. -/
theorem check_eq_error_iff (hname : IsRuleName e.name)
    (hpattern : IsPattern e.pattern e.ignoreCase) :
    e.check context = .error err ↔ e.FirstFault context err := by
  constructor
  · intro h
    by_cases hone : e.HasOneCheck
    · rcases hasOneCheck_iff.mp hone with
        ⟨v, hv, hvs, hsource⟩ | ⟨vs, hv, hvs, hsource⟩ | ⟨source, hv, hvs, hsource⟩
      · rw [check_of_equals hv hvs hsource] at h
        cases h
      · rw [check_of_oneOf hv hvs hsource] at h
        cases h
      · rw [check_of_matching hv hvs hsource] at h
        cases hp : Pattern.ofSource source false with
        | error cause =>
          rw [hp] at h
          cases h
          exact .matching hname hpattern hone hsource (Pattern.ofSource_eq_error_iff.mp hp)
        | ok p =>
          rw [hp] at h
          cases h
    · rw [check_of_not_hasOneCheck hone] at h
      cases h
      exact .check hname hpattern hone
  · rintro (h | ⟨-, h⟩ | ⟨-, -, hone⟩ | ⟨-, -, hone, hsource, h⟩)
    · exact absurd hname h.not_isRuleName
    · exact absurd hpattern h.not_isPattern
    · exact check_of_not_hasOneCheck hone
    · obtain ⟨hv, hvs⟩ := hone.others_of_matching hsource
      rw [check_of_matching hv hvs hsource, Pattern.ofSource_eq_error_iff.mpr h]
      rfl

theorem toRule_eq_ok_iff : e.toRule position = .ok r ↔ e.Valid ∧ e.Describes r := by
  simp only [toRule, bind_eq_ok_iff, mapError_eq_ok_iff, RuleName.ofText_eq_ok_iff,
    Pattern.ofSource_eq_ok_iff, check_eq_ok_iff]
  constructor
  · rintro ⟨name, htext, pattern, ⟨hne, hcompile⟩, c, ⟨hone, hmatching, hc⟩, hr⟩
    cases hr
    obtain ⟨hsource, hcase⟩ := Pattern.compile_eq_ok_iff.mp hcompile
    have hname : IsRuleName e.name := htext ▸ name.isRuleName
    exact ⟨⟨hname, ⟨hne, pattern, hcompile⟩, hone, hmatching⟩, htext, hsource, hcase, rfl, hc⟩
  · rintro ⟨hvalid, hr⟩
    have hcompile := Pattern.compile_eq_ok_iff.mpr ⟨hr.pattern, hr.ignoreCase⟩
    refine ⟨r.name, hr.name, r.pattern, ⟨hvalid.pattern.1, hcompile⟩, r.check,
      ⟨hvalid.check, hvalid.matching, hr.check⟩, ?_⟩
    rw [← hr.description]
    rfl

theorem toRule_eq_error_iff :
    e.toRule position = .error err ↔ e.FirstFault (place position) err := by
  simp only [toRule, bind_eq_error_iff, mapError_eq_error_iff, mapError_eq_ok_iff,
    RuleName.ofText_eq_error_iff, RuleName.ofText_eq_ok_iff, Pattern.ofSource_eq_error_iff]
  constructor
  · rintro (⟨cause, h, rfl⟩ | ⟨name, htext, ⟨cause, h, rfl⟩ | ⟨pattern, hpattern, h | ⟨c, -, h⟩⟩⟩)
    · exact .name h
    · exact .pattern (htext ▸ name.isRuleName) h
    · obtain ⟨hne, hcompile⟩ := Pattern.ofSource_eq_ok_iff.mp hpattern
      exact (check_eq_error_iff (htext ▸ name.isRuleName) ⟨hne, pattern, hcompile⟩).mp h
    · cases h
  · intro hfault
    by_cases hname : IsRuleName e.name
    · obtain ⟨name, htext⟩ := RuleName.exists_of_isRuleName hname
      refine .inr ⟨name, htext, ?_⟩
      by_cases hpattern : IsPattern e.pattern e.ignoreCase
      · have hcheck := (check_eq_error_iff hname hpattern).mpr hfault
        obtain ⟨hne, pattern, hcompile⟩ := hpattern
        exact .inr ⟨pattern, Pattern.ofSource_eq_ok_iff.mpr ⟨hne, hcompile⟩, .inl hcheck⟩
      · rcases hfault with h | ⟨-, h⟩ | ⟨-, h, -⟩ | ⟨-, h, -, -, -⟩
        · exact absurd hname h.not_isRuleName
        · exact .inl ⟨_, h, rfl⟩
        · exact absurd h hpattern
        · exact absurd h hpattern
    · rcases hfault with h | ⟨h, -⟩ | ⟨h, -, -⟩ | ⟨h, -, -, -, -⟩
      · exact .inl ⟨_, h, rfl⟩
      all_goals exact absurd h hname

theorem FirstFault.not_valid (h : e.FirstFault context err) : ¬ e.Valid := by
  intro hvalid
  rcases h with h | ⟨-, h⟩ | ⟨-, -, h⟩ | ⟨-, -, -, hsource, h⟩
  · exact h.not_isRuleName hvalid.name
  · exact h.not_isPattern hvalid.pattern
  · exact h hvalid.check
  · exact h.not_isPattern (hvalid.matching _ hsource)

theorem exists_firstFault (h : ¬ e.Valid) (position : Nat) :
    ∃ err, e.FirstFault (place position) err := by
  cases hr : e.toRule position with
  | ok r => exact absurd (toRule_eq_ok_iff.mp hr).1 h
  | error err => exact ⟨err, toRule_eq_error_iff.mp hr⟩

theorem FirstFault.unique {err' : PatternsError} (h : e.FirstFault (place position) err)
    (h' : e.FirstFault (place position) err') : err = err' := by
  rw [← toRule_eq_error_iff] at h h'
  exact Except.error.inj (h.symm.trans h')

theorem Valid.exists_describes (h : e.Valid) : ∃ r, e.Describes r := by
  cases hr : e.toRule 0 with
  | ok r => exact ⟨r, (toRule_eq_ok_iff.mp hr).2⟩
  | error err => exact absurd h (toRule_eq_error_iff.mp hr).not_valid

end PatternEntry

end Clausal
