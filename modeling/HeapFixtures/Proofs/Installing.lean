/-
# One log for a process

However often a process sets up its log, and whatever it finds in its environment each time, the
first call that passes all checks makes the log, and the calls behind it that pass them find the
log made.  A call that fails is told by the first check that it fails: the format, the path of the
log file, the file, and then the thread of the file or the reading of the filter, where a call may
panic.  No such call changes what the later ones find.
-/

import HeapFixtures.Log.Filter.Reading
import HeapFixtures.Proofs.Locating

namespace HeapFixtures
namespace Log

/-- A call that sets up the log, with all that it finds: the environment, whether a thread would
be refused, and what the libraries and the files answer.  A later call may find other answers. -/
structure Attempt (Tree : Type) where
  request : Request
  bindings : Bindings
  refusal : Option Thread.Refusal
  backend : Backend Tree
  tree : Tree

namespace Attempt

variable {Tree : Type}

/-- What a call finds in the environment. -/
def environment (attempt : Attempt Tree) : Environment :=
  .ofBindings attempt.bindings attempt.refusal

/-- The log of a process after a call, and what the call is answered. -/
def outcome (attempt : Attempt Tree) (output : Option Output) :
    Except SetupStop Unit × Installation Tree :=
  Installation.setUp ⟨output, attempt.tree⟩ attempt.backend attempt.request attempt.environment

/-- The answer of a call to a process that may have a log. -/
def answer (attempt : Attempt Tree) (output : Option Output) : Except SetupStop Unit :=
  (attempt.outcome output).1

/-- The log that a process has after a call. -/
def leaves (attempt : Attempt Tree) (output : Option Output) : Option Output :=
  (attempt.outcome output).2.output

/-- The log that a process has after some calls. -/
def outputAfter (attempts : List (Attempt Tree)) : Option Output :=
  attempts.foldl (fun output attempt => attempt.leaves output) none

/-- The answer of a call that a process makes after others. -/
def answerAfter (earlier : List (Attempt Tree)) (attempt : Attempt Tree) : Except SetupStop Unit :=
  attempt.answer (outputAfter earlier)

/-- One of some calls made by a process succeeded. -/
def Succeeded (attempts : List (Attempt Tree)) : Prop :=
  ∃ before attempt, before ++ [attempt] <+: attempts ∧ answerAfter before attempt = .ok ()

/-- The call leaves the choice of a format to the environment, which holds none that there is. -/
def BadFormat (attempt : Attempt Tree) : Prop :=
  attempt.request = .fromEnvironment ∧ ∃ text reason,
    attempt.environment.format = some text ∧ Format.parse text = .error reason

/-- The environment holds a path that names no file. -/
def BadPath (attempt : Attempt Tree) : Prop :=
  ∃ text, attempt.environment.file = some text ∧ Location.ofText? text = none

/-- The environment holds the path of a file that cannot be opened. -/
def BadFile (attempt : Attempt Tree) : Prop :=
  ∃ text location reason, attempt.environment.file = some text ∧
    Location.ofText? text = some location ∧
    (attempt.backend.openFile attempt.tree location (Location.extents text)).1 = .error reason

/-- The call gets as far as the thread of the log file and the filter. -/
def Opens (attempt : Attempt Tree) : Prop :=
  ¬ attempt.BadFormat ∧ ¬ attempt.BadPath ∧ ¬ attempt.BadFile

/-- A thread for the log file is refused, or the reader of filters panics. -/
def Breaks (attempt : Attempt Tree) : Prop :=
  (∃ text refusal, attempt.environment.file = some text ∧
    attempt.environment.refusal = some refusal) ∨
  ∃ text panic, attempt.environment.filter = some text ∧
    attempt.backend.readFilter text = .panics panic

/-- The call passes all checks. -/
def Passes (attempt : Attempt Tree) : Prop :=
  attempt.Opens ∧ ¬ attempt.Breaks

/-- How a call ends by the first check that it fails, and which log there is then. -/
inductive Settles (attempt : Attempt Tree) (output : Option Output) :
    Except SetupStop Unit → Option Output → Prop
  | format (reason : String) (bad : attempt.BadFormat) :
      Settles attempt output (.error (.error (.invalidFormat reason))) output
  | path (text : String) (good : ¬ attempt.BadFormat) (bad : attempt.BadPath) :
      Settles attempt output (.error (.error (.invalidPath text))) output
  | file (reason : String) (good : ¬ attempt.BadFormat ∧ ¬ attempt.BadPath)
      (bad : attempt.BadFile) :
      Settles attempt output (.error (.error (.fileError reason))) output
  | broken (panic : Panic) (opens : attempt.Opens) (breaks : attempt.Breaks) :
      Settles attempt output (.error (.panic panic)) output
  | second (passes : attempt.Passes) (taken : output ≠ none) :
      Settles attempt output (.error (.error .alreadySet)) output
  | first (passes : attempt.Passes) (free : output = none) (made : Output) :
      Settles attempt output (.ok ()) (some made)

section Checks

variable {attempt : Attempt Tree} {output : Option Output}

/-- The format is found, or the environment holds none that there is. -/
theorem resolve_cases (attempt : Attempt Tree) :
    (¬ attempt.BadFormat ∧ ∃ format level,
      attempt.request.resolve attempt.environment = .ok (format, level)) ∨
    attempt.BadFormat ∧ ∃ reason,
      attempt.request.resolve attempt.environment = .error (.invalidFormat reason) := by
  cases hrequest : attempt.request with
  | explicit level format =>
      refine .inl ⟨?_, format, level, rfl⟩
      rintro ⟨hfrom, -⟩
      cases hrequest.symm.trans hfrom
  | fromEnvironment =>
      cases htext : attempt.environment.format with
      | none =>
          refine .inl ⟨?_, _, _, by rw [Request.resolve, htext]⟩
          rintro ⟨-, text, reason, hsome, -⟩
          cases htext.symm.trans hsome
      | some text =>
          cases hparse : Format.parse text with
          | ok format =>
              refine .inl ⟨?_, format, attempt.environment.defaultLevel, ?_⟩
              · rintro ⟨-, other, reason, hsome, hbad⟩
                obtain rfl := Option.some.inj (htext.symm.trans hsome)
                cases hparse.symm.trans hbad
              · rw [Request.resolve, htext]
                simp only [hparse]
          | error reason =>
              refine .inr ⟨⟨hrequest, text, reason, htext, hparse⟩, reason, ?_⟩
              rw [Request.resolve, htext]
              simp only [hparse]

/-- The log file is opened if there is to be one, or its path or the file itself is bad. -/
theorem openFile_cases (attempt : Attempt Tree) :
    (¬ attempt.BadPath ∧ ¬ attempt.BadFile ∧ ∃ file tree,
      attempt.environment.openFile attempt.backend attempt.tree = (.ok file, tree)) ∨
    (attempt.BadPath ∧ ∃ text tree,
      attempt.environment.openFile attempt.backend attempt.tree =
        (.error (.invalidPath text), tree)) ∨
    ¬ attempt.BadPath ∧ attempt.BadFile ∧ ∃ reason tree,
      attempt.environment.openFile attempt.backend attempt.tree =
        (.error (.fileError reason), tree) := by
  cases htext : attempt.environment.file with
  | none =>
      have hpath : ¬ attempt.BadPath := by
        rintro ⟨text, hsome, -⟩
        cases htext.symm.trans hsome
      have hfile : ¬ attempt.BadFile := by
        rintro ⟨text, location, reason, hsome, -⟩
        cases htext.symm.trans hsome
      exact .inl ⟨hpath, hfile, none, attempt.tree, by rw [Environment.openFile, htext]⟩
  | some text =>
      cases hlocation : Location.ofText? text with
      | none =>
          refine .inr (.inl ⟨⟨text, htext, hlocation⟩, text, attempt.tree, ?_⟩)
          rw [Environment.openFile, htext]
          simp only [hlocation]
      | some location =>
          have hpath : ¬ attempt.BadPath := by
            rintro ⟨other, hsome, hnone⟩
            obtain rfl := Option.some.inj (htext.symm.trans hsome)
            cases hlocation.symm.trans hnone
          cases hopen : attempt.backend.openFile attempt.tree location (Location.extents text) with
          | mk opened tree =>
              cases opened with
              | ok file =>
                  refine .inl ⟨hpath, ?_, some file, tree, ?_⟩
                  · rintro ⟨other, place, reason, hsome, hplace, hbad⟩
                    obtain rfl := Option.some.inj (htext.symm.trans hsome)
                    obtain rfl := Option.some.inj (hlocation.symm.trans hplace)
                    rw [hopen] at hbad
                    cases hbad
                  · rw [Environment.openFile, htext]
                    simp only [hlocation, hopen]
              | error reason =>
                  refine .inr (.inr ⟨hpath, ⟨text, location, reason, htext, hlocation, ?_⟩,
                    reason, tree, ?_⟩)
                  · rw [hopen]
                  · rw [Environment.openFile, htext]
                    simp only [hlocation, hopen]

/-- The thread of the log file is refused exactly if there is to be one and no room for it. -/
theorem startWriter_error_iff {environment : Environment} :
    (∃ panic, environment.startWriter = .error panic) ↔
      ∃ text refusal, environment.file = some text ∧ environment.refusal = some refusal := by
  rw [Environment.startWriter]
  cases environment.file <;> cases environment.refusal <;> simp

/-- No filter is found exactly if the reader panics over that of the environment. -/
theorem filterOr_error_iff {environment : Environment} {readFilter : String → Filter.Reading}
    {level : Level} :
    (∃ panic, environment.filterOr readFilter level = .error panic) ↔
      ∃ text panic, environment.filter = some text ∧ readFilter text = .panics panic := by
  rw [Environment.filterOr]
  cases environment.filter with
  | none => simp
  | some text => rcases hread : readFilter text with filter | _ | panic <;> simp [hread]

/-- A call is settled by the first check that it fails. -/
theorem settles (attempt : Attempt Tree) (output : Option Output) :
    attempt.Settles output (attempt.answer output) (attempt.leaves output) := by
  rw [answer, leaves, outcome, Installation.setUp]
  rcases attempt.resolve_cases with ⟨hformat, format, level, hresolve⟩ | ⟨hformat, reason, hresolve⟩
  · rcases attempt.openFile_cases with
      ⟨hpath, hfile, file, tree, hopen⟩ | ⟨hpath, text, tree, hopen⟩ |
      ⟨hpath, hfile, reason, tree, hopen⟩
    · have hopens : attempt.Opens := ⟨hformat, hpath, hfile⟩
      simp only [hresolve, hopen]
      cases hwriter : attempt.environment.startWriter with
      | error panic =>
          exact .broken panic hopens (.inl (startWriter_error_iff.1 ⟨panic, hwriter⟩))
      | ok started =>
          cases hfilter : attempt.environment.filterOr attempt.backend.readFilter level with
          | error panic =>
              exact .broken panic hopens (.inr (filterOr_error_iff.1 ⟨panic, hfilter⟩))
          | ok filter =>
              have hpasses : attempt.Passes := by
                refine ⟨hopens, ?_⟩
                rintro (hrefused | hcut)
                · obtain ⟨panic, hpanic⟩ := startWriter_error_iff.2 hrefused
                  cases hwriter.symm.trans hpanic
                · obtain ⟨panic, hpanic⟩ : ∃ panic,
                      attempt.environment.filterOr attempt.backend.readFilter level =
                        .error panic :=
                    filterOr_error_iff.2 hcut
                  cases hfilter.symm.trans hpanic
              cases output with
              | none => exact .first hpasses rfl _
              | some set => exact .second hpasses (Option.some_ne_none set)
    · simp only [hresolve, hopen]
      exact .path text hformat hpath
    · simp only [hresolve, hopen]
      exact .file reason ⟨hformat, hpath⟩ hfile
  · simp only [hresolve]
    exact .format reason hformat

end Checks

section Settles

variable {attempt : Attempt Tree} {output after : Option Output} {answer : Except SetupStop Unit}

theorem Settles.format_iff (h : attempt.Settles output answer after) :
    (∃ reason, answer = .error (.error (.invalidFormat reason))) ↔ attempt.BadFormat := by
  cases h <;> simp_all [Passes, Opens, SetupError.alreadySet]

theorem Settles.path_iff (h : attempt.Settles output answer after) :
    (∃ text, answer = .error (.error (.invalidPath text))) ↔
      ¬ attempt.BadFormat ∧ attempt.BadPath := by
  cases h <;> simp_all [Passes, Opens, SetupError.alreadySet]

theorem Settles.file_iff (h : attempt.Settles output answer after) :
    (∃ reason, answer = .error (.error (.fileError reason))) ↔
      ¬ attempt.BadFormat ∧ ¬ attempt.BadPath ∧ attempt.BadFile := by
  cases h <;> simp_all [Passes, Opens, SetupError.alreadySet]

theorem Settles.panic_iff (h : attempt.Settles output answer after) :
    (∃ panic, answer = .error (.panic panic)) ↔ attempt.Opens ∧ attempt.Breaks := by
  cases h <;> simp_all [Passes, Opens]

theorem Settles.ok_iff (h : attempt.Settles output answer after) :
    answer = .ok () ↔ attempt.Passes ∧ output = none := by
  cases h <;> simp_all [Passes, Opens]

theorem Settles.second_iff (h : attempt.Settles output answer after) :
    (∃ reason, answer = .error (.error (.initializationFailed reason))) ↔
      attempt.Passes ∧ output ≠ none := by
  cases h <;> simp_all [Passes, Opens, SetupError.alreadySet]

/-- Only a call that succeeds makes a log. -/
theorem Settles.unchanged (h : attempt.Settles output answer after) (hfails : answer ≠ .ok ()) :
    after = output := by
  cases h with
  | first passes free made => exact absurd rfl hfails
  | _ => rfl

theorem Settles.made (h : attempt.Settles output answer after) (hok : answer = .ok ()) :
    after ≠ none := by
  cases h with
  | first passes free made => exact Option.some_ne_none made
  | _ => cases hok

end Settles

section History

variable {earlier : List (Attempt Tree)} {attempt : Attempt Tree}

theorem outputAfter_concat (earlier : List (Attempt Tree)) (attempt : Attempt Tree) :
    outputAfter (earlier ++ [attempt]) = attempt.leaves (outputAfter earlier) := by
  simp [outputAfter]

theorem succeeded_concat :
    Succeeded (earlier ++ [attempt]) ↔
      Succeeded earlier ∨ answerAfter earlier attempt = .ok () := by
  simp only [Succeeded, List.prefix_concat_iff]
  constructor
  · rintro ⟨before, former, hlast | hprefix, hok⟩
    · obtain ⟨rfl, hsame⟩ := List.append_inj' hlast rfl
      obtain rfl := List.singleton_inj.1 hsame
      exact .inr hok
    · exact .inl ⟨before, former, hprefix, hok⟩
  · rintro (⟨before, former, hprefix, hok⟩ | hok)
    · exact ⟨before, former, .inr hprefix, hok⟩
    · exact ⟨earlier, attempt, .inl rfl, hok⟩

/-- A process has a log if and only if one of its calls succeeded. -/
theorem outputAfter_ne_none_iff : outputAfter earlier ≠ none ↔ Succeeded earlier := by
  induction earlier using List.reverseRecOn with
  | nil => simp [outputAfter, Succeeded]
  | append_singleton earlier attempt ih =>
      have hsettles : attempt.Settles (outputAfter earlier) (answerAfter earlier attempt) _ :=
        attempt.settles (outputAfter earlier)
      rw [outputAfter_concat, succeeded_concat, ← ih]
      by_cases hok : answerAfter earlier attempt = .ok ()
      · simp [hok, hsettles.made hok]
      · rw [hsettles.unchanged hok]
        simp [hok]

/-- One of some calls succeeded if and only if one of them passes its checks. -/
theorem succeeded_iff_passes : Succeeded earlier ↔ ∃ former ∈ earlier, former.Passes := by
  induction earlier using List.reverseRecOn with
  | nil => simp [Succeeded]
  | append_singleton earlier attempt ih =>
      rw [succeeded_concat, answerAfter, (attempt.settles _).ok_iff, ih]
      have hfree : outputAfter earlier = none ↔ ¬ ∃ former ∈ earlier, former.Passes := by
        rw [← ih, ← outputAfter_ne_none_iff, not_not]
      rw [hfree]
      by_cases hformer : ∃ former ∈ earlier, former.Passes
      · obtain ⟨former, hmem, hpasses⟩ := hformer
        have hany : ∃ other ∈ earlier ++ [attempt], other.Passes :=
          ⟨former, List.mem_append_left _ hmem, hpasses⟩
        exact ⟨fun _ => hany, fun _ => .inl ⟨former, hmem, hpasses⟩⟩
      · simp only [hformer, not_false_eq_true, and_true, false_or]
        constructor
        · exact fun hpasses => ⟨attempt, by simp, hpasses⟩
        · rintro ⟨other, hmem, hpasses⟩
          rcases List.mem_append.1 hmem with hold | hnew
          · exact absurd ⟨other, hold, hpasses⟩ hformer
          · rwa [← List.mem_singleton.1 hnew]

end History

/-- How a call is answered that a process makes after others: by the first check that it fails.
A call that passes all of them succeeds exactly if none before it did, which is to say if none
before it passes all checks. -/
structure Answered (earlier : List (Attempt Tree)) (attempt : Attempt Tree) : Prop where
  format : (∃ reason, answerAfter earlier attempt = .error (.error (.invalidFormat reason))) ↔
    attempt.BadFormat
  path : (∃ text, answerAfter earlier attempt = .error (.error (.invalidPath text))) ↔
    ¬ attempt.BadFormat ∧ attempt.BadPath
  file : (∃ reason, answerAfter earlier attempt = .error (.error (.fileError reason))) ↔
    ¬ attempt.BadFormat ∧ ¬ attempt.BadPath ∧ attempt.BadFile
  panic : (∃ panic, answerAfter earlier attempt = .error (.panic panic)) ↔
    attempt.Opens ∧ attempt.Breaks
  ok : answerAfter earlier attempt = .ok () ↔ attempt.Passes ∧ ¬ Succeeded earlier
  second : (∃ reason, answerAfter earlier attempt =
    .error (.error (.initializationFailed reason))) ↔ attempt.Passes ∧ Succeeded earlier
  first : answerAfter earlier attempt = .ok () ↔
    attempt.Passes ∧ ∀ former ∈ earlier, ¬ former.Passes
  /-- A call that does not succeed leaves the log as it was. -/
  unchanged : answerAfter earlier attempt ≠ .ok () →
    outputAfter (earlier ++ [attempt]) = outputAfter earlier

/-- Each call that a process makes to set up its log is answered by the first check that it
fails, whatever calls came before, and whatever each of them found. -/
theorem answered_by_first_failing_check (earlier : List (Attempt Tree)) (attempt : Attempt Tree) :
    Answered earlier attempt := by
  have hsettles : attempt.Settles (outputAfter earlier) (answerAfter earlier attempt) _ :=
    attempt.settles (outputAfter earlier)
  have hfree : outputAfter earlier = none ↔ ¬ Succeeded earlier := by
    rw [← outputAfter_ne_none_iff, not_not]
  exact {
    format := hsettles.format_iff
    path := hsettles.path_iff
    file := hsettles.file_iff
    panic := hsettles.panic_iff
    ok := by rw [hsettles.ok_iff, hfree]
    second := by rw [hsettles.second_iff, outputAfter_ne_none_iff]
    first := by
      rw [hsettles.ok_iff, hfree, succeeded_iff_passes]
      simp
    unchanged := by
      rw [outputAfter_concat]
      exact hsettles.unchanged }

section Panics

/-- Without a log file there is no path and no file to be bad. -/
theorem opens_of_no_file {attempt : Attempt Tree} (hformat : attempt.environment.format = none)
    (hfile : attempt.environment.file = none) : attempt.Opens := by
  refine ⟨?_, ?_, ?_⟩
  · rintro ⟨-, text, reason, hsome, -⟩
    cases hformat.symm.trans hsome
  · rintro ⟨text, hsome, -⟩
    cases hfile.symm.trans hsome
  · rintro ⟨text, location, reason, hsome, -⟩
    cases hfile.symm.trans hsome

/-- A system without files, which can open every log file. -/
def alwaysOpens : Backend Unit where
  readFilter := Filter.reading
  openFile _ location _ := (.ok [location.name], ())
  listing _ := []

/-- A call with a blank of more than one byte in front of its filter. -/
def wideBlank : Attempt Unit :=
  ⟨.fromEnvironment, [(Environment.filterVariable, some "\u3000a=warn")], none, alwaysOpens, ()⟩

/-- A call for which there is no room for the thread of its log file. -/
def threadRefused : Attempt Unit :=
  ⟨.fromEnvironment, [(Environment.fileVariable, some "k")], some .noRoom, alwaysOpens, ()⟩

/-- A call with a path that is no text. -/
def pathNotText : Attempt Unit :=
  ⟨.fromEnvironment, [(Environment.fileVariable, none)], none, alwaysOpens, ()⟩

theorem breaks_wideBlank : wideBlank.Breaks := by
  have hsplit : ("\u3000a=warn").splitOn "," = ["\u3000a=warn"] :=
    (Text.splitOn_eq_pieces _ ',').trans (Text.pieces_of_not_mem (by decide))
  have hread : Filter.reading "\u3000a=warn" = .panics (.miscut ⟨false, 1, '\u3000', 0⟩) := by
    rw [Filter.reading, Filter.read, hsplit]
    rfl
  exact .inr ⟨_, _, rfl, hread⟩

theorem opens_threadRefused : threadRefused.Opens := by
  have hpath : Path.ofText "k" = [] ++ [.normal "k"] :=
    Path.ofText_name ⟨by decide, by decide, by decide, by decide⟩
  have hlocation : Location.ofText? "k" = some ⟨[.here], "k"⟩ :=
    Location.ofText?_of_concat hpath
  refine ⟨?_, ?_, ?_⟩
  · rintro ⟨-, text, reason, hsome, -⟩
    cases hsome
  · rintro ⟨text, hsome, hnone⟩
    obtain rfl : "k" = text := Option.some.inj hsome
    cases hlocation.symm.trans hnone
  · rintro ⟨text, location, reason, -, -, hbad⟩
    cases hbad

/-- The first call of a process may panic although its format, its path and its file are good, and
it succeeds with a path that is no text, whether or not such a path names a file. -/
theorem first_call_panics_or_ignores_path :
    (wideBlank.Opens ∧ answerAfter [] wideBlank ≠ .ok ()) ∧
      (threadRefused.Opens ∧ answerAfter [] threadRefused ≠ .ok ()) ∧
      answerAfter [] pathNotText = .ok () := by
  refine ⟨⟨opens_of_no_file rfl rfl, ?_⟩, ⟨opens_threadRefused, ?_⟩, ?_⟩
  · intro hok
    exact ((settles _ _).ok_iff.1 hok).1.2 breaks_wideBlank
  · intro hok
    exact ((settles _ _).ok_iff.1 hok).1.2 (.inl ⟨"k", .noRoom, rfl, rfl⟩)
  · refine (settles _ _).ok_iff.2 ⟨⟨opens_of_no_file rfl rfl, ?_⟩, rfl⟩
    rintro (⟨text, refusal, hsome, -⟩ | ⟨text, panic, hsome, -⟩)
    · cases hsome
    · cases hsome

end Panics

end Attempt
end Log
end HeapFixtures
