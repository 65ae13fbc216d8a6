/-
# Two readings of a level

The variable that holds the filter is read twice.  The program itself takes its text for a level
if it is one, and the filter takes the same text for a list of directives, of which a single word
is one.  The two know different words.  A word that both know lets the events at its level and
above pass, as it should.  A word that only the program knows is a short form of a level; the
filter takes it for a target, there is no such part of the program, and nothing is written any
more, errors included.

What the program itself has read is kept for a text that the filter cannot read.  No word is such
a text, so this reading never makes a difference.
-/

import HeapFixtures.Log.Filter.Reading
import HeapFixtures.Proofs.Filtering
import HeapFixtures.Proofs.PolicyExit
import HeapFixtures.Proofs.Keywords
import HeapFixtures.Proofs.Pieces

namespace HeapFixtures

namespace Text

section Slice

variable {start : Nat} {chars : List Char} {place : Nat × Char}

/-- A character that is placed lies between the start and the end of the text. -/
theorem bounds_of_mem_placed (mem : place ∈ placed start chars) :
    start ≤ place.1 ∧ place.1 + place.2.utf8Size ≤ start + String.utf8Len chars := by
  induction chars generalizing start with
  | nil => cases mem
  | cons c rest ih =>
      rw [String.utf8Len_cons]
      rcases List.mem_cons.1 mem with rfl | hrest
      · exact ⟨Nat.le_refl _, Nat.add_le_add_left (Nat.le_add_left _ _) _⟩
      · have bounds := ih hrest
        omega

/-- No character lies astride the start or the end of a text. -/
theorem slice_full (text : String) : slice text 0 text.utf8ByteSize = .ok text := by
  have bounds (place : Nat × Char) (mem : place ∈ placed 0 text.toList) :
      place.1 + place.2.utf8Size ≤ text.utf8ByteSize := by
    simpa [String.utf8Len_toList] using (bounds_of_mem_placed mem).2
  have hstart : astride? (placed 0 text.toList) 0 = none := by
    simp [astride?]
  have hstop : astride? (placed 0 text.toList) text.utf8ByteSize = none := by
    rw [astride?, List.find?_eq_none]
    intro place mem
    have := bounds place mem
    simp only [Bool.and_eq_true, decide_eq_true_eq]
    omega
  have hall : (placed 0 text.toList).filter
      (fun place => 0 ≤ place.1 && place.1 < text.utf8ByteSize) = placed 0 text.toList := by
    rw [List.filter_eq_self]
    intro place mem
    have := bounds place mem
    have positive := place.2.utf8Size_pos
    simp only [Bool.and_eq_true, decide_eq_true_eq]
    omega
  rw [slice]
  simp only [hstart, hstop]
  rw [hall, map_snd_placed, String.ofList_toList]

end Slice

section Letter

variable {c : Char}

/-- The numbers of the basic letters. -/
theorem bounds_of_isAlpha (letter : c.isAlpha = true) :
    65 ≤ c.toNat ∧ c.toNat ≤ 90 ∨ 97 ≤ c.toNat ∧ c.toNat ≤ 122 := by
  rcases Bool.or_eq_true_iff.1 letter with upper | lower
  · exact .inl (bounds_of_isUpper upper)
  · obtain ⟨low, high⟩ := Bool.and_eq_true_iff.1 lower
    exact .inr ⟨of_decide_eq_true low, of_decide_eq_true high⟩

theorem isBlank_of_isAlpha (letter : c.isAlpha = true) : isBlank c = false := by
  have bounds := bounds_of_isAlpha letter
  exact isBlank_of_visible (by omega) (by omega)

theorem isAlphanumeric_of_isAlpha (letter : c.isAlpha = true) : isAlphanumeric c = true := by
  have bounds := bounds_of_isAlpha letter
  rw [isAlphanumeric, if_pos (by omega), Char.isAlphanum, letter]
  rfl

/-- A basic letter is none of the other basic characters. -/
theorem ne_of_isAlpha {d : Char} (letter : c.isAlpha = true) (other : d.isAlpha = false) :
    c ≠ d := by
  rintro rfl
  cases letter.symm.trans other

end Letter

/-- A text of basic letters, of which there is one at least. -/
structure IsBare (text : String) : Prop where
  nonempty : text.toList ≠ []
  letters : ∀ c ∈ text.toList, c.isAlpha = true

end Text

/-- No number begins with a letter. -/
theorem Word.read_of_isBare {text : String} (bare : Text.IsBare text) :
    read text = .error .invalidDigit := by
  obtain ⟨first, rest, htext⟩ := List.exists_cons_of_ne_nil bare.nonempty
  have letter : first.isAlpha = true := bare.letters first (by simp [htext])
  have hdigit : digit? first = none := by
    have bounds := Text.bounds_of_isAlpha letter
    rw [digit?, if_neg]
    simp only [Char.le_def, UInt32.le_iff_toNat_le]
    show ¬ (48 ≤ first.toNat ∧ first.toNat ≤ 57)
    omega
  have unsigned : first ≠ '+' := Text.ne_of_isAlpha letter rfl
  rw [read, htext]
  -- only the last case is left to a text without a sign
  split
  next h => cases h
  next h => exact absurd (List.cons.inj h).1 unsigned
  next h => exact absurd (List.cons.inj h).1 unsigned
  next => rw [readDigits, hdigit]

namespace Log

open Text

namespace Directive

/-- The directive that a single word stands for: a level for all origins, or else a target that
is granted everything. -/
def ofWord (word : String) : Directive :=
  match Threshold.words.lookup word.toLower with
  | some threshold => { threshold := threshold }
  | none => { target := some word, threshold := some .trace }

section Word

variable {text : String} {chars : List Char}

/-- Without blanks there is nothing to be left out. -/
theorem trimmed_eq_self (solid : ∀ c ∈ chars, isBlank c = false) : trimmed chars = chars := by
  have keeps (letters : List Char) (h : ∀ c ∈ letters, isBlank c = false) :
      letters.dropWhile isBlank = letters := by
    rw [List.dropWhile_eq_self_iff]
    intro inside
    rw [h _ (List.getElem_mem inside)]
    exact Bool.false_ne_true
  have hreverse : ∀ c ∈ chars.reverse, isBlank c = false := fun c hc =>
    solid c (List.mem_reverse.1 hc)
  rw [trimmed, keeps chars solid, keeps _ hreverse, List.reverse_reverse]

/-- A letter goes on with the word that a reader is in. -/
theorem foldlM_next_word (letters : ∀ c ∈ chars, c.isAlpha = true) (start : Nat) :
    (placed start chars).foldlM (Draft.next text) { stand := .word } = .ok { stand := .word } := by
  induction chars generalizing start with
  | nil => rfl
  | cons c rest ih =>
      obtain ⟨letter, hrest⟩ := List.forall_mem_cons.1 letters
      have hequals : c ≠ '=' := ne_of_isAlpha letter rfl
      have hbracket : c ≠ '[' := ne_of_isAlpha letter rfl
      have hnext : Draft.next text { stand := .word } (start, c) = .ok { stand := .word } := by
        simp [Draft.next, hequals, hbracket]
      rw [placed, List.foldlM_cons, hnext]
      exact ih hrest _

/-- A reader is in a word from its first letter on. -/
theorem foldlM_next_of_isBare (bare : IsBare text) :
    (placed 0 text.toList).foldlM (Draft.next text) {} = .ok { stand := .word } := by
  obtain ⟨first, rest, htext⟩ := List.exists_cons_of_ne_nil bare.nonempty
  have letters := bare.letters
  rw [htext] at letters ⊢
  obtain ⟨letter, hrest⟩ := List.forall_mem_cons.1 letters
  have hopening : first ≠ '[' := ne_of_isAlpha letter rfl
  have hbegins : mayBegin first = true := by
    simp [mayBegin, isAlphanumeric_of_isAlpha letter]
  have hfirst : Draft.next text {} (0, first) = .ok { stand := .word } := by
    simp [Draft.next, hopening, hbegins]
  rw [placed, List.foldlM_cons, hfirst]
  exact foldlM_next_word hrest _

/-- A word that a reader is in to the end is a directive of its own. -/
theorem finish_of_isBare (bare : IsBare text) :
    Draft.finish text { stand := .word } = .ok (some (ofWord text)) := by
  have hword : piece text 0 text.utf8ByteSize = .ok text := by
    rw [piece, slice_full]
    rfl
  have hlevel : Threshold.parse? text = Threshold.words.lookup text.toLower := by
    rw [Threshold.parse?, Word.read_of_isBare bare]
    rfl
  rw [Draft.finish, ofWord]
  simp only [hword, bind, Except.bind, hlevel]
  cases Threshold.words.lookup text.toLower <;> rfl

/-- A word is read as the directive that it stands for. -/
theorem read_of_isBare (bare : IsBare text) : read text = .ok (some (ofWord text)) := by
  have htrimmed : trimmed text.toList = text.toList :=
    trimmed_eq_self fun c hc => isBlank_of_isAlpha (bare.letters c hc)
  rw [read, htrimmed, foldlM_next_of_isBare bare]
  exact finish_of_isBare bare

end Word

end Directive

namespace Filter

/-- A filter that is a word has one directive. -/
theorem read_of_isBare {text : String} (bare : IsBare text) :
    read text = .ok ⟨[.ofWord text]⟩ := by
  have hcomma : ',' ∉ text.toList := fun mem =>
    ne_of_isAlpha (bare.letters ',' mem) rfl rfl
  have hsplit : text.splitOn "," = [text] :=
    (splitOn_eq_pieces text ',').trans (pieces_of_not_mem hcomma)
  have hnonempty : text ≠ "" := by
    rintro rfl
    exact bare.nonempty rfl
  rw [Filter.read, hsplit]
  simp [hnonempty, Directive.read_of_isBare bare]

/-- What is known of a reader of filters: a single word that names a level grants it to all
origins, and any other word grants everything to the origins that it begins, and nothing to the
others. -/
structure ReadsWords (readFilter : String → Reading) : Prop where
  level : ∀ {text threshold}, IsBare text → Threshold.words.lookup text.toLower = some threshold →
    ∃ filter, readFilter text = .filter filter ∧
      ∀ origin level names, filter.enables origin level names = threshold.admits level
  target : ∀ {text}, IsBare text → Threshold.words.lookup text.toLower = none →
    ∃ filter, readFilter text = .filter filter ∧
      ∀ origin level names, filter.enables origin level names =
        text.toList.isPrefixOf origin.path.toList

/-- The reader of lists of directives is one. -/
theorem readsWords_reading : ReadsWords reading where
  level {text threshold} bare word := by
    refine ⟨⟨[.ofWord text]⟩, by rw [reading, read_of_isBare bare], fun origin level names => ?_⟩
    rw [Directive.ofWord, word]
    rfl
  target {text} bare unknown := by
    refine ⟨⟨[.ofWord text]⟩, by rw [reading, read_of_isBare bare], fun origin level names => ?_⟩
    rw [Directive.ofWord, unknown]
    have everything : level.verbosity ≤ Level.trace.verbosity := by cases level <;> decide
    by_cases begins : text.toList.isPrefixOf origin.path.toList = true
    · simp [enables, deciding, Directive.covers, begins, Threshold.admits, everything]
    · simp [enables, deciding, Directive.covers, begins]

end Filter

namespace Level

/-- The words for a level that directives do not know. -/
def shortForms : List String := ["err", "warning", "dbg"]

/-- The other words for a level mean the same to a directive. -/
theorem lookup_words_of_mem_keywords :
    ∀ entry ∈ keywords, Threshold.words.lookup entry.1 =
      if entry.1 ∈ shortForms then none else some (some entry.2) := by
  decide

theorem ne_empty_of_mem_keywords : ∀ entry ∈ keywords, entry.1 ≠ "" := by
  decide

theorem isLower_of_mem_keywords :
    ∀ entry ∈ keywords, ∀ c ∈ entry.1.toList, c.isLower = true := by
  simp [keywords]

section Accepted

variable {text : String} {level : Level}

/-- A text that asks for a level is a word of basic letters. -/
theorem isBare_of_parse (accepted : parse text = .ok level) : IsBare text := by
  have mem : (text.toLower, level) ∈ keywords := (recognizes_parse.ok_iff text level).1 accepted
  constructor
  · intro hempty
    apply ne_empty_of_mem_keywords _ mem
    rw [← String.toList_eq_nil_iff, Text.toList_toLower, hempty]
    rfl
  · intro c hc
    exact Text.isAlpha_of_toLower (isLower_of_mem_keywords _ mem _ (toLower_mem_toLower hc))

/-- What a directive makes of a text that asks for a level. -/
theorem lookup_words_of_parse (accepted : parse text = .ok level) :
    Threshold.words.lookup text.toLower =
      if text.toLower ∈ shortForms then none else some (some level) :=
  lookup_words_of_mem_keywords _ ((recognizes_parse.ok_iff text level).1 accepted)

/-- No path of the program begins with a short form, in whatever case. -/
theorem not_prefix_of_mem_shortForms {path : List Char} (short : text.toLower ∈ shortForms)
    (own : "tracee".toList <+: path) : ¬ text.toList <+: path := by
  have hhead : ∀ word ∈ shortForms, ∃ c rest, word.toList = c :: rest ∧ c ≠ 't' := by
    simp [shortForms]
  obtain ⟨c, others, hword, hc⟩ := hhead _ short
  rw [Text.toList_toLower] at hword
  obtain ⟨first, rest, htext, rfl, -⟩ := List.map_eq_cons_iff.1 hword
  obtain ⟨more, rfl⟩ := own
  -- the first letters differ already
  rintro ⟨tail, hpath⟩
  rw [htext] at hpath
  have hfirst : first = 't' := by
    simpa using congrArg List.head? hpath
  subst hfirst
  exact hc rfl

end Accepted
end Level

/-- Whether an entry is an event at a level or above, or a text that is printed. -/
def Entry.reaches (level : Level) : Entry → Bool
  | .event e => e.level.verbosity ≤ level.verbosity
  | .printed _ => true

/-- Whether an entry is a text that is printed. -/
def Entry.isPrinted (entry : Entry) : Bool := entry.event?.isNone

/-- The paths of the program's own parts begin alike. -/
def Origin.IsOwn (origin : Origin) : Prop := "tracee".toList <+: origin.path.toList

/-- An entry that is an event is one of the program's own. -/
def Entry.IsOwn (entry : Entry) : Prop := ∀ e, entry.event? = some e → e.origin.IsOwn

theorem Origin.isOwn {origin : Origin} (named : ∀ path, origin ≠ .other path) : origin.IsOwn := by
  cases origin with
  | other path => exact absurd rfl (named path)
  | _ => exact List.isPrefixOf_iff_prefix.1 (by decide)

namespace Filter

theorem passes_upTo (level : Level) : (upTo level).passes = Entry.reaches level := by
  funext entry
  cases entry <;> rfl

section Words

variable {readFilter : String → Reading} {text : String} {level : Level}

/-- The full word for a level is read as a filter that lets through what reaches the level. -/
theorem ReadsWords.passes_full (reads : ReadsWords readFilter)
    (accepted : Level.parse text = .ok level) (full : text.toLower ∉ Level.shortForms) :
    ∃ filter, readFilter text = .filter filter ∧ filter.passes = Entry.reaches level := by
  have hlookup : Threshold.words.lookup text.toLower = some (some level) := by
    rw [Level.lookup_words_of_parse accepted, if_neg full]
  obtain ⟨filter, hread, henables⟩ := reads.level (Level.isBare_of_parse accepted) hlookup
  refine ⟨filter, hread, ?_⟩
  funext entry
  cases entry with
  | printed text => rfl
  | event e => exact henables ..

/-- A short form is read as a filter that holds all events of the program back. -/
theorem ReadsWords.passes_short (reads : ReadsWords readFilter)
    (accepted : Level.parse text = .ok level) (short : text.toLower ∈ Level.shortForms) :
    ∃ filter, readFilter text = .filter filter ∧
      ∀ entry : Entry, entry.IsOwn → filter.passes entry = entry.isPrinted := by
  have hlookup : Threshold.words.lookup text.toLower = none := by
    rw [Level.lookup_words_of_parse accepted, if_pos short]
  obtain ⟨filter, hread, henables⟩ := reads.target (Level.isBare_of_parse accepted) hlookup
  refine ⟨filter, hread, fun entry own => ?_⟩
  cases entry with
  | printed text => rfl
  | event e =>
      have haway : text.toList.isPrefixOf e.origin.path.toList = false := by
        rw [Bool.eq_false_iff, Ne, List.isPrefixOf_iff_prefix]
        exact Level.not_prefix_of_mem_shortForms short (own e rfl)
      exact (henables ..).trans haway

end Words

end Filter

namespace Journal

/-- Something that is said is written or not, and nothing else changes. -/
theorem toList_entries_say (journal : Journal) (entry : Entry) :
    (journal.say entry).entries.toList =
      journal.entries.toList ++ [entry].filter journal.filter.passes := by
  rw [say]
  split <;> simp_all

theorem filter_say (journal : Journal) (entry : Entry) :
    (journal.say entry).filter = journal.filter := by
  rw [say]
  split <;> rfl

/-- Of all that is said, what the filter lets through is written in its order. -/
theorem toList_entries_sayAll (journal : Journal) (said : List Entry) :
    (journal.sayAll said).entries.toList =
      journal.entries.toList ++ said.filter journal.filter.passes := by
  induction said generalizing journal with
  | nil => exact (List.append_nil _).symm
  | cons entry rest ih =>
      show ((journal.say entry).sayAll rest).entries.toList = _
      rw [ih, filter_say, toList_entries_say, List.append_assoc, ← List.filter_append]
      rfl

end Journal

end Log

namespace Policy

/-- The event of a fault that takes the process down. -/
def failure (policy : Policy) (thread : Thread) (fault : Fault) : Log.Event :=
  if policy.abortsOn fault then
    ⟨thread, .error, .fault, "fixture aborting", [("error", .shown fault.message)]⟩
  else
    ⟨thread, .error, .fault, "fixture failed",
      [("error", .shown fault.message), ("code", .word fault.exitCode.toUInt64)]⟩

/-- What a process says of a fault that takes it down. -/
def report (policy : Policy) (thread : Thread) (fault : Fault) : List Log.Entry :=
  .event (policy.failure thread fault) :: (policy.lastWords fault).map .printed

/-- The report of a fault is all that the journal hears of it. -/
theorem handle_eq_sayAll (policy : Policy) (thread : Thread) (fault : Fault)
    (journal : Log.Journal) :
    (policy.handle thread fault journal).2 = journal.sayAll (policy.report thread fault) := by
  rw [handle, report, failure, lastWords]
  split <;> rfl

theorem level_failure (policy : Policy) (thread : Thread) (fault : Fault) :
    (policy.failure thread fault).level = .error := by
  rw [failure]
  split <;> rfl

theorem origin_failure (policy : Policy) (thread : Thread) (fault : Fault) :
    (policy.failure thread fault).origin = .fault := by
  rw [failure]
  split <;> rfl

section Report

variable {policy : Policy} {thread : Thread} {fault : Fault} {entry : Log.Entry}

/-- Every level lets a report through. -/
theorem reaches_of_mem_report (mem : entry ∈ policy.report thread fault) (level : Log.Level) :
    entry.reaches level = true := by
  rcases List.mem_cons.1 mem with rfl | hwords
  · rw [Log.Entry.reaches, level_failure]
    cases level <;> rfl
  · obtain ⟨text, -, rfl⟩ := List.mem_map.1 hwords
    rfl

/-- A report is the program's own. -/
theorem isOwn_of_mem_report (mem : entry ∈ policy.report thread fault) : entry.IsOwn := by
  rcases List.mem_cons.1 mem with rfl | hwords
  · rintro e ⟨⟩
    apply Log.Origin.isOwn
    simp [origin_failure]
  · obtain ⟨text, -, rfl⟩ := List.mem_map.1 hwords
    rintro e ⟨⟩

end Report

end Policy

namespace Log
namespace Installation

variable {Tree : Type}

/-- The journal of a process that says some things. -/
def journal (installation : Installation Tree) (said : List Entry) : Journal :=
  (Journal.start installation.filter).sayAll said

/-- Of all that is said by a process, some entries are written: on its error stream, and to its
log file, which has the events alone. -/
structure Writes (installation : Installation Tree) (output : Output) (said written : List Entry) :
    Prop where
  entries : (installation.journal said).entries.toList = written
  console : installation.console (installation.journal said) =
    written.flatMap (Entry.lines output.format)
  file : (installation.journal said).file output.format =
    (written.filterMap Entry.event?).flatMap (Event.lines output.format true)

variable {environment : Environment} {backend : Backend Tree} {before after : Installation Tree}
  {output : Output}

/-- A process writes what its filter lets through. -/
theorem writes (made : after.output = some output) (said : List Entry) :
    after.Writes output said (said.filter output.filter.passes) := by
  have hfilter : after.filter = output.filter := by rw [filter, made]
  have hentries : (after.journal said).entries.toList = said.filter output.filter.passes := by
    rw [journal, Journal.toList_entries_sayAll, hfilter]
    rfl
  refine ⟨hentries, ?_, ?_⟩
  · rw [console, made, Journal.console, hentries]
    rfl
  · rw [Journal.file, Journal.events, hentries]

/-- The level that is read for the format of the environment is its default. -/
theorem level_of_resolve {format : Format} {level : Level}
    (resolved : Request.fromEnvironment.resolve environment = .ok (format, level)) :
    level = environment.defaultLevel := by
  rw [Request.resolve] at resolved
  cases hformat : environment.format with
  | none =>
      rw [hformat] at resolved
      cases resolved
      rfl
  | some text =>
      rw [hformat] at resolved
      cases hparse : Format.parse text with
      | ok other =>
          simp only [hparse] at resolved
          cases resolved
          rfl
      | error reason =>
          simp only [hparse] at resolved
          cases resolved

/-- A log file is opened if the environment asks for one. -/
theorem isSome_of_openFile {tree changed : Tree} {file : Option Names}
    (opened : environment.openFile backend tree = (.ok file, changed)) :
    file.isSome = environment.file.isSome := by
  rw [Environment.openFile] at opened
  cases hfile : environment.file with
  | none =>
      rw [hfile] at opened
      cases opened
      rfl
  | some text =>
      rw [hfile] at opened
      dsimp only at opened
      split at opened
      · cases opened
      · split at opened
        · cases opened
          rfl
        · cases opened

/-- What a set-up that succeeds leaves behind. -/
theorem output_of_setUp
    (done : before.setUp backend .fromEnvironment environment = (.ok (), after)) :
    ∃ output, after.output = some output ∧ output.file.isSome = environment.file.isSome ∧
      environment.filterOr backend.readFilter environment.defaultLevel = .ok output.filter := by
  rw [setUp] at done
  cases hresolve : Request.fromEnvironment.resolve environment with
  | error error =>
      simp only [hresolve] at done
      cases done
  | ok resolved =>
      obtain ⟨format, level⟩ := resolved
      obtain rfl := level_of_resolve hresolve
      simp only [hresolve] at done
      rcases hopen : environment.openFile backend before.tree with ⟨error | file, tree⟩
      · simp only [hopen] at done
        cases done
      · simp only [hopen] at done
        split at done
        · cases done
        · cases done
        · cases done
        next filter hwriter hfilter hfree =>
          cases done
          exact ⟨_, rfl, isSome_of_openFile hopen, hfilter⟩

/-- A text that is read as a filter is the filter, whatever level stands by. -/
theorem filterOr_of_read {readFilter : String → Filter.Reading} {text : String} {filter : Filter}
    (set : environment.filter = some text) (hread : readFilter text = .filter filter)
    (fallback : Level) : environment.filterOr readFilter fallback = .ok filter := by
  rw [Environment.filterOr, set, Option.map_some, hread]

/-- A set-up with nothing but a text that is read as a filter succeeds. -/
theorem setUp_of_read (backend : Backend Tree) (bindings : Bindings)
    (refusal : Option Thread.Refusal) {text : String} {filter : Filter}
    (set : bindings.text? Environment.filterVariable = some text)
    (hread : backend.readFilter text = .filter filter)
    (noFormat : bindings.text? Environment.formatVariable = none)
    (noFile : bindings.text? Environment.fileVariable = none) (tree : Tree) :
    setUp ⟨none, tree⟩ backend .fromEnvironment (.ofBindings bindings refusal) =
      (.ok (), ⟨some ⟨.pretty, filter, none⟩, tree⟩) := by
  have hresolve : Request.fromEnvironment.resolve (.ofBindings bindings refusal) =
      .ok (.pretty, (Environment.ofBindings bindings refusal).defaultLevel) := by
    simp only [Request.resolve, Environment.ofBindings, noFormat]
  have hopen : (Environment.ofBindings bindings refusal).openFile backend tree =
      (.ok none, tree) := by
    simp only [Environment.openFile, Environment.ofBindings, noFile]
  have hwriter : (Environment.ofBindings bindings refusal).startWriter = .ok () := by
    simp only [Environment.startWriter, Environment.ofBindings, noFile]
  have hfilter : (Environment.ofBindings bindings refusal).filterOr backend.readFilter
      (Environment.ofBindings bindings refusal).defaultLevel = .ok filter :=
    filterOr_of_read set hread _
  rw [setUp, hresolve]
  simp only [hopen, hwriter, hfilter]

/-- A process that sets up its log without a filter writes what it says at the level of warnings and
above.  With a full word for a level in any case, it writes what it says at that level and above,
and with a short form it writes none of the events of the program, not even errors.

In both cases the filter does not depend on what the program has made of the word. -/
theorem level_words_choose_what_is_written (reads : Filter.ReadsWords backend.readFilter)
    (done : before.setUp backend .fromEnvironment environment = (.ok (), after)) :
    ∃ output, after.output = some output ∧ output.file.isSome = environment.file.isSome ∧
      (environment.filter = none →
        ∀ said, after.Writes output said (said.filter (Entry.reaches .warn))) ∧
      ∀ text level, environment.filter = some text → Level.parse text = .ok level →
        (∀ fallback, environment.filterOr backend.readFilter fallback = .ok output.filter) ∧
        (text.toLower ∉ Level.shortForms →
          ∀ said, after.Writes output said (said.filter (Entry.reaches level))) ∧
        (text.toLower ∈ Level.shortForms →
          ∀ said, (∀ entry ∈ said, entry.IsOwn) →
            after.Writes output said (said.filter Entry.isPrinted)) := by
  obtain ⟨output, made, hfile, hchosen⟩ := output_of_setUp done
  have hkept {text : String} {filter : Filter} (set : environment.filter = some text)
      (hread : backend.readFilter text = .filter filter) : output.filter = filter :=
    Except.ok.inj (hchosen.symm.trans (filterOr_of_read set hread _))
  refine ⟨output, made, hfile, ?_, ?_⟩
  · intro unset said
    have hfilter : output.filter = .upTo .warn := by
      rw [Environment.filterOr, Environment.defaultLevel, unset] at hchosen
      exact (Except.ok.inj hchosen).symm
    rw [← Filter.passes_upTo, ← hfilter]
    exact writes made said
  · intro text level set accepted
    by_cases short : text.toLower ∈ Level.shortForms
    · obtain ⟨filter, hread, hpasses⟩ := reads.passes_short accepted short
      obtain rfl := hkept set hread
      refine ⟨filterOr_of_read set hread, fun full => absurd short full, fun _ said own => ?_⟩
      have hprinted : said.filter Entry.isPrinted = said.filter output.filter.passes :=
        List.filter_congr fun entry mem => (hpasses entry (own entry mem)).symm
      rw [hprinted]
      exact writes made said
    · obtain ⟨filter, hread, hpasses⟩ := reads.passes_full accepted short
      obtain rfl := hkept set hread
      refine ⟨filterOr_of_read set hread, fun _ said => ?_, fun other => absurd other short⟩
      rw [← hpasses]
      exact writes made said

/-- A system without files, whose filters are lists of directives. -/
def fileless : Backend Unit where
  readFilter := Filter.reading
  openFile _ _ _ := (.error "", ())
  listing _ := []

/-- A process that is started with the word `WaRn` writes warnings and errors. -/
theorem mixed_case_word_admits_warnings :
    ∃ output after, setUp ⟨none, ()⟩ fileless .fromEnvironment
        (.ofBindings [(Environment.filterVariable, some "WaRn")] none) = (.ok (), after) ∧
      ∀ said, after.Writes output said (said.filter (Entry.reaches .warn)) := by
  have accepted : Level.parse "WaRn" = .ok .warn := by decide +kernel
  have full : ("WaRn").toLower ∉ Level.shortForms := by decide +kernel
  obtain ⟨filter, hread, -⟩ := Filter.readsWords_reading.passes_full accepted full
  have done := setUp_of_read fileless [(Environment.filterVariable, some "WaRn")] none rfl hread
    rfl rfl ()
  obtain ⟨output, -, -, -, hset⟩ :=
    level_words_choose_what_is_written Filter.readsWords_reading done
  exact ⟨output, _, done, (hset _ _ rfl accepted).2.1 full⟩

/-- A process that is started with a short form for errors writes none: the event of the fault
that takes it down is missing from its log, whichever fault this is. -/
theorem short_form_holds_errors_back :
    ∃ output after, Level.parse "err" = .ok .error ∧
      setUp ⟨none, ()⟩ fileless .fromEnvironment
        (.ofBindings [(Environment.filterVariable, some "err")] none) = (.ok (), after) ∧
      after.output = some output ∧ ∀ fault,
        (∀ entry ∈ Policy.failFast.report .main fault, entry.IsOwn) ∧
        (Policy.failFast.handle .main fault (after.journal [])).2 =
          after.journal (Policy.failFast.report .main fault) ∧
        ¬ after.Writes output (Policy.failFast.report .main fault)
          ((Policy.failFast.report .main fault).filter (Entry.reaches .error)) := by
  have accepted : Level.parse "err" = .ok .error := by decide +kernel
  have short : ("err").toLower ∈ Level.shortForms := by decide +kernel
  obtain ⟨filter, hread, hpasses⟩ := Filter.readsWords_reading.passes_short accepted short
  have done := setUp_of_read fileless [(Environment.filterVariable, some "err")] none rfl hread
    rfl rfl ()
  refine ⟨_, _, accepted, done, rfl, fun fault => ⟨fun _ => Policy.isOwn_of_mem_report,
    Policy.handle_eq_sayAll .., ?_⟩⟩
  intro h
  have hsame := (writes rfl (Policy.failFast.report .main fault)).entries.symm.trans h.entries
  rw [List.filter_eq_self.2 fun _ mem => Policy.reaches_of_mem_report mem .error,
    List.filter_eq_self] at hsame
  have mem : .event (Policy.failFast.failure .main fault) ∈ Policy.failFast.report .main fault :=
    List.mem_cons_self
  have hheard := hsame _ mem
  rw [hpasses _ (Policy.isOwn_of_mem_report mem)] at hheard
  cases hheard

end Installation

end Log
end HeapFixtures
