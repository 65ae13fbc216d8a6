/-
# Keywords in any case

A word is looked up after all its capitals have been written small, those of every script.  Two
capitals beyond the basic Latin letters have a basic letter in their small form: the capital `I`
with a dot brings the dot along, and the sign for kelvins becomes a `k`, which no keyword has.  So
a text is a keyword exactly if it differs from one in the case of basic Latin letters alone.

How a capital sigma is written small depends on what stands around it.  Nothing is assumed about
that here: either of its two small forms will do at each place.
-/

import HeapFixtures.Fault.Policy
import HeapFixtures.Log.Format
import HeapFixtures.Text.Blank
import Mathlib.Data.Nat.Basic
import Mathlib.Tactic.ByContra

namespace HeapFixtures
namespace Text

/-- The number of the sign for kelvins, a capital that is written small as a basic letter. -/
def kelvinSign : Nat := 0x212A

/-- The small letters of a run are characters beyond the basic ones. -/
def CapitalRun.IsForeign (run : CapitalRun) : Prop :=
  128 ≤ run.first + run.shift ∧
    (run.last + run.shift < 0xD800 ∨
      0xDFFF < run.first + run.shift ∧ run.last + run.shift < 0x110000)

instance (run : CapitalRun) : Decidable run.IsForeign :=
  inferInstanceAs (Decidable (_ ∧ (_ ∨ _ ∧ _)))

/-- All capitals but the sign for kelvins have small letters beyond the basic ones. -/
theorem isForeign_of_mem_capitalRuns :
    ∀ run ∈ capitalRuns, run.IsForeign ∨
      run.first = kelvinSign ∧ run.last = kelvinSign ∧ run.shift = -8383 := by
  decide +kernel

/-- A small letter of a run is the character with its number. -/
theorem CapitalRun.IsForeign.le_toNat {run : CapitalRun} (foreign : run.IsForeign) {n : Nat}
    (holds : run.holds n = true) : 128 ≤ (Char.ofNat (n + run.shift).toNat).toNat := by
  obtain ⟨low, high⟩ := foreign
  simp only [CapitalRun.holds, Bool.and_eq_true, decide_eq_true_eq] at holds
  have valid : (n + run.shift).toNat.isValidChar := by
    unfold Nat.isValidChar
    omega
  rw [Char.ofNat, dif_pos valid]
  show 128 ≤ (n + run.shift).toNat
  omega

section Char

variable {c d : Char}

theorem isUpper_iff : c.isUpper = true ↔ c.val ≥ 'A'.val ∧ c.val ≤ 'Z'.val :=
  decide_eq_true_iff

/-- The numbers of the basic capitals. -/
theorem bounds_of_isUpper (upper : c.isUpper = true) : 65 ≤ c.toNat ∧ c.toNat ≤ 90 :=
  isUpper_iff.1 upper

/-- No other character is changed. -/
theorem toLower_eq_self (lower : ¬ c.isUpper = true) : c.toLower = c :=
  dif_neg fun capital => lower (isUpper_iff.2 capital)

theorem toNat_toLower (upper : c.isUpper = true) : c.toLower.toNat = c.toNat + 32 := by
  have high : c.val.toNat ≤ 90 := (bounds_of_isUpper upper).2
  have lowered : c.toLower.val = c.val + 32 := congrArg Char.val (dif_pos (isUpper_iff.1 upper))
  show c.toLower.val.toNat = c.val.toNat + 32
  rw [lowered]
  rw [UInt32.toNat_add]
  exact Nat.mod_eq_of_lt (by simp only [UInt32.toNat_ofNat]; omega)

/-- The basic capitals have basic small letters. -/
theorem toNat_toLower_lt_iff : c.toLower.toNat < 128 ↔ c.toNat < 128 := by
  by_cases upper : c.isUpper = true
  · have bounds := bounds_of_isUpper upper
    rw [toNat_toLower upper]
    omega
  · rw [toLower_eq_self upper]

theorem isAlpha_of_toLower (lower : c.toLower.isLower = true) : c.isAlpha = true := by
  by_cases upper : c.isUpper = true
  · exact Bool.or_eq_true_iff.2 (.inl upper)
  · rw [toLower_eq_self upper] at lower
    exact Bool.or_eq_true_iff.2 (.inr lower)

theorem toList_toLower (text : String) : text.toLower.toList = text.toList.map Char.toLower :=
  String.toList_map

theorem toLower_mem_toLower {text : String} (h : c ∈ text.toList) :
    c.toLower ∈ text.toLower.toList := by
  rw [toList_toLower]
  exact List.mem_map_of_mem h

/-- A basic character is written small by itself. -/
theorem lowerChar_of_basic (basic : c.toNat < 128) : lowerChar c = [c.toLower] := by
  rw [lowerChar, if_pos basic]

theorem lowerChar_of_dotted (dotted : c.toNat = dottedCapital) :
    lowerChar c = ['i', '\u0307'] := by
  have foreign : ¬ c.toNat < 128 := by
    rw [dotted]
    decide
  rw [lowerChar, if_neg foreign, if_pos dotted]

theorem lowerChar_of_kelvin (kelvin : c.toNat = kelvinSign) : lowerChar c = ['k'] := by
  obtain rfl : c = '\u212a' := by
    rw [← Char.ofNat_toNat c, kelvin]
    rfl
  decide +kernel

/-- Every other character is written small without a basic one. -/
theorem le_toNat_of_mem_lowerChar (foreign : 128 ≤ c.toNat) (dotless : c.toNat ≠ dottedCapital)
    (warm : c.toNat ≠ kelvinSign) (mem : d ∈ lowerChar c) : 128 ≤ d.toNat := by
  rw [lowerChar, if_neg (Nat.not_lt.2 foreign), if_neg dotless] at mem
  cases found : capitalRuns.find? (fun run => run.holds c.toNat) with
  | none =>
      rw [found] at mem
      rwa [List.mem_singleton.1 mem]
  | some run =>
      rw [found] at mem
      have holds : run.holds c.toNat = true := by
        simpa using List.find?_some found
      rw [List.mem_singleton.1 mem]
      obtain foreign | ⟨first, last, -⟩ :=
        isForeign_of_mem_capitalRuns run (List.mem_of_find?_eq_some found)
      · exact foreign.le_toNat holds
      · simp only [CapitalRun.holds, first, last, Bool.and_eq_true, decide_eq_true_eq] at holds
        omega

/-- The characters that are written small with a basic one. -/
theorem exists_mem_lowerChar_iff :
    (∃ d ∈ lowerChar c, d.toNat < 128) ↔
      c.toNat < 128 ∨ c.toNat = dottedCapital ∨ c.toNat = kelvinSign := by
  constructor
  · rintro ⟨d, mem, basic⟩
    by_contra! foreign
    obtain ⟨foreign, dotless, warm⟩ := foreign
    exact absurd basic (Nat.not_lt.2 (le_toNat_of_mem_lowerChar foreign dotless warm mem))
  · rintro (basic | dotted | kelvin)
    · rw [lowerChar_of_basic basic]
      exact ⟨c.toLower, List.mem_singleton_self _, toNat_toLower_lt_iff.2 basic⟩
    · rw [lowerChar_of_dotted dotted]
      exact ⟨'i', List.mem_cons_self, by decide⟩
    · rw [lowerChar_of_kelvin kelvin]
      exact ⟨'k', List.mem_singleton_self _, by decide⟩

/-- A character that keywords are made of: a basic one that is no `k`, and no blank. -/
def IsPlain (c : Char) : Prop := c.toNat < 128 ∧ c ≠ 'k' ∧ isBlank c = false

/-- Only a basic character is written small with plain characters alone. -/
theorem basic_of_lowerChar_plain (plain : ∀ d ∈ lowerChar c, IsPlain d) : c.toNat < 128 := by
  by_contra foreign
  by_cases dotted : c.toNat = dottedCapital
  · rw [lowerChar_of_dotted dotted] at plain
    exact absurd (plain '\u0307' (by simp)).1 (by decide)
  by_cases kelvin : c.toNat = kelvinSign
  · rw [lowerChar_of_kelvin kelvin] at plain
    exact (plain 'k' (by simp)).2.1 rfl
  have nonempty : lowerChar c ≠ [] := by
    rw [lowerChar, if_neg foreign, if_neg dotted]
    split <;> simp
  obtain ⟨d, mem⟩ := List.exists_mem_of_ne_nil _ nonempty
  have far := le_toNat_of_mem_lowerChar (Nat.not_lt.1 foreign) dotted kelvin mem
  exact absurd (plain d mem).1 (Nat.not_lt.2 far)

end Char

/-- The capital sigma. -/
def sigma : Char := '\u03a3'

/-- The small forms that a character takes, according to what stands around it. -/
def smallForms (c : Char) : List (List Char) :=
  if c = sigma then [['\u03c3'], ['\u03c2']] else [lowerChar c]

/-- A text is written in small letters. -/
inductive WrittenSmall : List Char → List Char → Prop
  | nil : WrittenSmall [] []
  | cons {c : Char} {form text small : List Char} (mem : form ∈ smallForms c)
      (rest : WrittenSmall text small) : WrittenSmall (c :: text) (form ++ small)

section Small

variable {c : Char} {form text small : List Char}

/-- The ordinary small form of a character is one of its small forms. -/
theorem lowerChar_mem_smallForms (c : Char) : lowerChar c ∈ smallForms c := by
  rw [smallForms]
  split
  next h =>
    subst h
    decide +kernel
  next => exact List.mem_singleton_self _

/-- All small forms of a basic character are the ordinary one. -/
theorem smallForms_of_basic (basic : c.toNat < 128) : smallForms c = [[c.toLower]] := by
  have ordinary : c ≠ sigma := by
    rintro rfl
    exact absurd basic (by decide)
  rw [smallForms, if_neg ordinary, lowerChar_of_basic basic]

/-- A character with a plain small form is basic. -/
theorem basic_of_form_plain (mem : form ∈ smallForms c) (plain : ∀ d ∈ form, IsPlain d) :
    c.toNat < 128 := by
  rw [smallForms] at mem
  split at mem
  next =>
    -- neither of the small sigmas is plain
    exfalso
    simp only [List.mem_cons, List.not_mem_nil, or_false] at mem
    obtain rfl | rfl := mem
    · exact absurd (plain _ (List.mem_singleton_self _)).1 (by decide)
    · exact absurd (plain _ (List.mem_singleton_self _)).1 (by decide)
  next =>
    rw [List.mem_singleton.1 mem] at plain
    exact basic_of_lowerChar_plain plain

/-- Every text can be written in small letters. -/
theorem writtenSmall_lower (text : String) : WrittenSmall text.toList (lower text).toList := by
  rw [lower, String.toList_ofList]
  induction text.toList with
  | nil => exact .nil
  | cons c rest ih => exact .cons (lowerChar_mem_smallForms c) ih

/-- What is plain in small letters has basic characters only. -/
theorem WrittenSmall.basic (h : WrittenSmall text small) (plain : ∀ d ∈ small, IsPlain d) :
    ∀ c ∈ text, c.toNat < 128 := by
  induction h with
  | nil => exact List.forall_mem_nil _
  | cons mem rest ih =>
      obtain ⟨hform, hsmall⟩ := List.forall_mem_append.1 plain
      exact List.forall_mem_cons.2 ⟨basic_of_form_plain mem hform, ih hsmall⟩

/-- Basic characters are written small one by one. -/
theorem WrittenSmall.eq_map (h : WrittenSmall text small) (basic : ∀ c ∈ text, c.toNat < 128) :
    small = text.map Char.toLower := by
  induction h with
  | nil => rfl
  | cons mem rest ih =>
      obtain ⟨hfirst, hrest⟩ := List.forall_mem_cons.1 basic
      rw [smallForms_of_basic hfirst] at mem
      rw [List.mem_singleton.1 mem, ih hrest]
      rfl

/-- A text is a plain word in small letters exactly if it is that word once its basic capitals
are written small. -/
theorem WrittenSmall.eq_iff {text small word : String}
    (h : WrittenSmall text.toList small.toList) (plain : ∀ d ∈ word.toList, IsPlain d) :
    small = word ↔ text.toLower = word := by
  have heq (basic : ∀ c ∈ text.toList, c.toNat < 128) : small = text.toLower := by
    rw [← String.toList_inj, h.eq_map basic]
    exact String.toList_map.symm
  constructor
  · rintro rfl
    exact (heq (h.basic plain)).symm
  · rintro rfl
    apply heq
    intro c hc
    exact toNat_toLower_lt_iff.1 (plain _ (toLower_mem_toLower hc)).1

end Small

section Tables

variable {α : Type} {table : List (String × α)} {text small : String} {value : α}

/-- The words of a table are plain, and each stands in it once. -/
structure IsLexicon (table : List (String × α)) : Prop where
  plain : ∀ entry ∈ table, ∀ c ∈ entry.1.toList, IsPlain c
  once : (table.map Prod.fst).Nodup

/-- What is found in a table is one of its entries. -/
theorem lookup_eq_some_iff_mem (once : (table.map Prod.fst).Nodup) :
    table.lookup text = some value ↔ (text, value) ∈ table := by
  induction table with
  | nil => simp
  | cons entry rest ih =>
      obtain ⟨word, other⟩ := entry
      obtain ⟨hword, hrest⟩ := List.nodup_cons.1 once
      rw [List.lookup_cons, List.mem_cons]
      by_cases h : text = word
      · subst h
        have absent : (text, value) ∉ rest := fun mem =>
          hword (List.mem_map.2 ⟨_, mem, rfl⟩)
        simp [absent, eq_comm]
      · rw [beq_false_of_ne h]
        simp [h, ih hrest]

/-- Whichever small forms are taken, a table has the same for them. -/
theorem WrittenSmall.lookup_eq (h : WrittenSmall text.toList small.toList)
    (plain : ∀ entry ∈ table, ∀ c ∈ entry.1.toList, IsPlain c) :
    table.lookup small = table.lookup text.toLower := by
  induction table with
  | nil => rfl
  | cons entry rest ih =>
      obtain ⟨hword, hrest⟩ := List.forall_mem_cons.1 plain
      have hsame : (small == entry.1) = (text.toLower == entry.1) := by
        rw [Bool.eq_iff_iff, beq_iff_eq, beq_iff_eq]
        exact h.eq_iff hword
      rw [List.lookup_cons, List.lookup_cons, hsame, ih hrest]

/-- A text names the value of the word that it is but for the case of basic letters. -/
theorem keyword?_eq_some_iff (lexicon : IsLexicon table) :
    keyword? table text = some value ↔ (text.toLower, value) ∈ table := by
  rw [keyword?, (writtenSmall_lower text).lookup_eq lexicon.plain,
    lookup_eq_some_iff_mem lexicon.once]

end Tables

/-- A parser that reads the words of a table, each in any mixture of basic capitals and small
letters, and that says of any other text that it is none of them. -/
structure Recognizes {α : Type} (parse : String → Except String α) (table : List (String × α))
    (before after : String) : Prop where
  ok_iff : ∀ text value, parse text = .ok value ↔ (text.toLower, value) ∈ table
  /-- It makes no difference which small forms are taken. -/
  small_iff : ∀ text small value, WrittenSmall text.toList small.toList →
    ((small, value) ∈ table ↔ parse text = .ok value)
  /-- Neither a character beyond the basic ones nor a blank is accepted, in whatever place. -/
  basic : ∀ text value, parse text = .ok value →
    ∀ c ∈ text.toList, c.toNat < 128 ∧ isBlank c = false
  error_eq : ∀ text, (∀ value, (text.toLower, value) ∉ table) →
    parse text = .error (before ++ text ++ after)

/-- The visible basic characters are no blanks. -/
theorem isBlank_of_visible {c : Char} (low : 0x21 ≤ c.toNat) (high : c.toNat ≤ 0x7E) :
    isBlank c = false := by
  simp only [isBlank, List.contains_eq_mem, List.mem_cons, List.not_mem_nil, or_false,
    Bool.or_eq_false_iff, Bool.and_eq_false_iff, decide_eq_false_iff_not]
  omega

/-- A capital is no blank. -/
theorem isBlank_of_toLower {c : Char} (solid : isBlank c.toLower = false) : isBlank c = false := by
  by_cases upper : c.isUpper = true
  · have bounds := bounds_of_isUpper upper
    exact isBlank_of_visible (by omega) (by omega)
  · rwa [toLower_eq_self upper] at solid

/-- A parser that looks a text up in a table of plain words recognises these words. -/
theorem IsLexicon.recognizes {α : Type} {parse : String → Except String α}
    {table : List (String × α)} (lexicon : IsLexicon table) {before after : String}
    (parse_eq : ∀ text, parse text =
      match keyword? table text with
      | some value => .ok value
      | none => .error (before ++ text ++ after)) :
    Recognizes parse table before after := by
  have ok_iff (text : String) (value : α) :
      parse text = .ok value ↔ (text.toLower, value) ∈ table := by
    rw [← keyword?_eq_some_iff lexicon, parse_eq]
    cases keyword? table text <;> simp
  refine ⟨ok_iff, ?_, ?_, ?_⟩
  · intro text small value h
    rw [ok_iff, ← lookup_eq_some_iff_mem lexicon.once, h.lookup_eq lexicon.plain,
      lookup_eq_some_iff_mem lexicon.once]
  · intro text value hok c hc
    obtain ⟨basic, -, solid⟩ :=
      lexicon.plain _ ((ok_iff text value).1 hok) _ (toLower_mem_toLower hc)
    exact ⟨toNat_toLower_lt_iff.1 basic, isBlank_of_toLower solid⟩
  · intro text absent
    have hnone : keyword? table text = none := by
      rw [Option.eq_none_iff_forall_ne_some]
      intro value hsome
      exact absent value ((keyword?_eq_some_iff lexicon).1 hsome)
    rw [parse_eq, hnone]

end Text

open Text

theorem Policy.isLexicon_keywords : IsLexicon Policy.keywords where
  plain := by simp [Policy.keywords, IsPlain, isBlank]
  once := by decide

theorem Log.Format.isLexicon_keywords : IsLexicon Log.Format.keywords where
  plain := by simp [Log.Format.keywords, IsPlain, isBlank]
  once := by decide

theorem Log.Level.isLexicon_keywords : IsLexicon Log.Level.keywords where
  plain := by simp [Log.Level.keywords, IsPlain, isBlank]
  once := by decide

theorem Policy.recognizes_parse : Recognizes Policy.parse Policy.keywords
    "Unknown fault policy: " ". Use 'fail-fast' or 'crash'" := by
  apply Policy.isLexicon_keywords.recognizes
  intro text
  rw [Policy.parse]
  cases keyword? Policy.keywords text <;> rfl

theorem Log.Format.recognizes_parse : Recognizes Log.Format.parse Log.Format.keywords
    "Unknown log format: " ". Use 'pretty' or 'json'" := by
  apply Log.Format.isLexicon_keywords.recognizes
  intro text
  rw [Log.Format.parse]
  cases keyword? Log.Format.keywords text <;> rfl

theorem Log.Level.recognizes_parse : Recognizes Log.Level.parse Log.Level.keywords
    "Unknown log level: " ". Use 'error', 'warn', 'info', 'debug', or 'trace'" := by
  apply Log.Level.isLexicon_keywords.recognizes
  intro text
  rw [Log.Level.parse]
  cases keyword? Log.Level.keywords text <;> rfl

/-- A policy, a format and a level are each read from the words of a table, in any mixture of basic
capitals and small letters, and from no other text.  A text that is none of the words is repeated in
the message that says so.

Of the characters beyond the basic ones there are two that are written small with a basic letter,
and these do not help a text to be accepted either. -/
theorem keywords_in_any_case :
    Recognizes Policy.parse Policy.keywords
        "Unknown fault policy: " ". Use 'fail-fast' or 'crash'" ∧
      Recognizes Log.Format.parse Log.Format.keywords
        "Unknown log format: " ". Use 'pretty' or 'json'" ∧
      Recognizes Log.Level.parse Log.Level.keywords
        "Unknown log level: " ". Use 'error', 'warn', 'info', 'debug', or 'trace'" ∧
      ∀ c, (∃ d ∈ lowerChar c, d.toNat < 128) ↔
        c.toNat < 128 ∨ c.toNat = dottedCapital ∨ c.toNat = kelvinSign :=
  ⟨Policy.recognizes_parse, Log.Format.recognizes_parse, Log.Level.recognizes_parse,
    fun _ => exists_mem_lowerChar_iff⟩

end HeapFixtures
