import SolidityBuild.Compiler.Reporter
import SolidityBuild.Proofs.Action.Logged
import SolidityBuild.Proofs.StandardJson.Steps

/-! # What one reporter says of many answers

A diagnostic is one line, and its severity decides on which of the two streams. So a report
splits the diagnostics of an answer into two texts, each in their order, and marks the reporter
if the second is that of any diagnostic at all. Nothing unmarks it: what a row of reports says
is found by induction from its first answer on, for a reporter that may be marked already.
-/

namespace SolidityBuild

namespace Diagnostic

/-- The line on which a diagnostic is printed. -/
def line (diagnostic : Diagnostic) : Text :=
  diagnostic.formattedMessage.display ++ "\n"

theorem isWarning_iff (diagnostic : Diagnostic) :
    diagnostic.isWarning = true ↔ diagnostic.severity = .str warning := by
  rw [isWarning]
  cases diagnostic.severity with
  | str severity => simp
  | _ => simp

end Diagnostic

namespace Reporter

/-- The lines of the warnings. -/
def results (diagnostics : List Diagnostic) : Text :=
  Text.join ((diagnostics.filter (·.isWarning)).map Diagnostic.line)

/-- The lines of all others. -/
def messages (diagnostics : List Diagnostic) : Text :=
  Text.join ((diagnostics.filter (!·.isWarning)).map Diagnostic.line)

/-- The reporter after these diagnostics. -/
def marked (reporter : Reporter) (diagnostics : List Diagnostic) : Reporter :=
  ⟨reporter.hasError || diagnostics.any (!·.isWarning)⟩

/-- What is logged of a report. -/
def summary (count : Nat) (reporter : Reporter) : LogRecord :=
  ⟨.debug, "compiler",
    ("reported " ++ toString count ++ " diagnostics, has_error=" ++
      (Json.bool reporter.hasError).display)⟩

theorem results_append (first second : List Diagnostic) :
    results (first ++ second) = results first ++ results second := by
  simp [results]

theorem messages_append (first second : List Diagnostic) :
    messages (first ++ second) = messages first ++ messages second := by
  simp [messages]

theorem marked_nil (reporter : Reporter) : reporter.marked [] = reporter := by
  simp [marked]

theorem marked_append (reporter : Reporter) (first second : List Diagnostic) :
    reporter.marked (first ++ second) = (reporter.marked first).marked second := by
  simp [marked, Bool.or_assoc]

theorem marked_iff (diagnostics : List Diagnostic) :
    (marked {} diagnostics).hasError = true ↔
      ∃ diagnostic ∈ diagnostics, diagnostic.severity ≠ .str Diagnostic.warning := by
  simp [marked, ← Diagnostic.isWarning_iff]

end Reporter

/-- The world after these diagnostics were printed. -/
def World.reported (world : World) (diagnostics : List Diagnostic) : World :=
  { world with
    stdout := world.stdout ++ Reporter.results diagnostics
    stderr := world.stderr ++ Reporter.messages diagnostics }

theorem World.reported_nil (world : World) : world.reported [] = world := by
  simp [reported, Reporter.results, Reporter.messages]

theorem World.reported_append (world : World) (first second : List Diagnostic) :
    world.reported (first ++ second) = (world.reported first).reported second := by
  simp [reported, Reporter.results_append, Reporter.messages_append, Text.append_assoc]

namespace Reporter

theorem reportOne_run (reporter : Reporter) (diagnostic : Diagnostic) (host : Host)
    (world : World) : reporter.reportOne diagnostic host world =
      (.ok (reporter.marked [diagnostic]), world.reported [diagnostic]) := by
  rw [reportOne]
  cases warning : diagnostic.isWarning with
  | true => simp [marked, World.reported, results, messages, warning, Action.bind_run,
      Action.print, Action.update, Diagnostic.line]
  | false => simp [marked, World.reported, results, messages, warning, Action.bind_run,
      Action.printError, Action.update, Diagnostic.line]

theorem reportAll_run (diagnostics : List Diagnostic) (reporter : Reporter) (host : Host)
    (world : World) : reporter.reportAll diagnostics host world =
      (.ok (reporter.marked diagnostics), world.reported diagnostics) := by
  induction diagnostics generalizing reporter world with
  | nil =>
    rw [marked_nil, World.reported_nil]
    rfl
  | cons diagnostic rest ih =>
    rw [reportAll, Action.bind_run_ok (reporter.reportOne_run diagnostic host world), ih,
      ← marked_append, ← World.reported_append, List.singleton_append]

/-- A report prints the diagnostics of an answer, and then it is told to the log. -/
theorem report_run (reporter : Reporter) (answer : CompilationOutput) (host : Host)
    (world : World) : reporter.report (some answer) host world =
      (.ok (reporter.marked answer.diagnostics),
        (world.reported answer.diagnostics).logged
          [summary answer.diagnostics.length (reporter.marked answer.diagnostics)]) := by
  rw [report, Action.bind_run_ok (reportAll_run answer.diagnostics reporter host world),
    Action.bind_run_ok (World.logged_one _ _ _ _ _)]
  rfl

/-- One reporter is given a row of answers, of which some may be absent. Where a report fails,
    the reporter stays what it was. -/
def reportEach (reporter : Reporter) : List (Option CompilationOutput) → Action Reporter
  | [] => return reporter
  | answer :: rest => do
    match ← (reporter.report answer).attempt with
    | .ok reporter => reporter.reportEach rest
    | .error _ => reporter.reportEach rest

/-- The diagnostics of the answers, in order. -/
def told (answers : List (Option CompilationOutput)) : List Diagnostic :=
  answers.flatMap fun answer => (answer.map CompilationOutput.diagnostics).getD []

/-- What reports of these answers write to standard error: the messages of each answer and then
    what the log shows of its summary. Of an absent answer there is nothing to write. -/
inductive Writes (log : Log) : List (Option CompilationOutput) → Text → Prop where
  | nothing : Writes log [] ""
  | absent {rest : List (Option CompilationOutput)} {text : Text} (later : Writes log rest text) :
      Writes log (none :: rest) text
  | present (answer : CompilationOutput) (summary : Text)
      {rest : List (Option CompilationOutput)} {text : Text} (later : Writes log rest text) :
      Writes log (some answer :: rest)
        (messages answer.diagnostics ++ log.emit ⟨.debug, "compiler", summary⟩ ++ text)

theorem Writes.silent {log : Log} {answers : List (Option CompilationOutput)} {text : Text}
    (writes : Writes log answers text)
    (silent : ∀ summary, log.emit ⟨.debug, "compiler", summary⟩ = "") :
    text = messages (told answers) := by
  induction writes with
  | nothing => rfl
  | absent _ ih => exact ih
  | present answer summary _ ih =>
    rw [silent, Text.append_empty, ih, ← messages_append]
    rfl

theorem reportEach_append (reporter : Reporter) (first second : List (Option CompilationOutput)) :
    reporter.reportEach (first ++ second) =
      reporter.reportEach first >>= fun reporter => reporter.reportEach second := by
  induction first generalizing reporter with
  | nil => rfl
  | cons answer first ih =>
    simp only [List.cons_append, reportEach, bind_assoc]
    congr 1
    funext result
    cases result <;> exact ih _

theorem reportEach_run (answers : List (Option CompilationOutput)) (reporter : Reporter)
    (host : Host) (world : World) :
    ∃ last text, reporter.reportEach answers host world =
        (.ok (reporter.marked (told answers)), last) ∧ last.log = world.log ∧
      last.stdout = world.stdout ++ results (told answers) ∧
      last.stderr = world.stderr ++ text ∧ Writes world.log answers text := by
  induction answers generalizing reporter world with
  | nil =>
    refine ⟨world, "", ?_, rfl, (Text.append_empty _).symm, (Text.append_empty _).symm, .nothing⟩
    rw [told, List.flatMap_nil, marked_nil]
    rfl
  | cons answer rest ih =>
    cases answer with
    | none =>
      obtain ⟨last, text, ran, log, stdout, stderr, writes⟩ := ih reporter world
      exact ⟨last, text, ran, log, stdout, stderr, .absent writes⟩
    | some answer =>
      have told_eq : told (some answer :: rest) = answer.diagnostics ++ told rest := rfl
      obtain ⟨last, text, ran, log, stdout, stderr, writes⟩ :=
        ih (reporter.marked answer.diagnostics)
        ((world.reported answer.diagnostics).logged
          [summary answer.diagnostics.length (reporter.marked answer.diagnostics)])
      refine ⟨last, _, ?_, log, ?_, ?_, .present answer
        (summary answer.diagnostics.length (reporter.marked answer.diagnostics)).text writes⟩
      · rw [reportEach, Action.bind_run_ok (Action.attempt_run (report_run _ _ _ _)), told_eq,
          marked_append]
        exact ran
      · rw [stdout, told_eq, results_append, ← Text.append_assoc]
        rfl
      · rw [stderr]
        simp [World.logged, World.reported, Text.append_assoc, summary]

/-- What a new reporter has come to with these answers: it is marked if one of their diagnostics
    is no warning, and every diagnostic was printed once, on the stream that is its own. -/
structure Accounts (answers : List (Option CompilationOutput)) (reporter : Reporter)
    (world last : World) : Prop where
  flag : reporter.hasError = true ↔
    ∃ diagnostic ∈ told answers, diagnostic.severity ≠ .str Diagnostic.warning
  stdout : last.stdout = world.stdout ++ results (told answers)
  stderr : ∃ text, last.stderr = world.stderr ++ text ∧ Writes world.log answers text
  silent : (∀ summary, world.log.emit ⟨.debug, "compiler", summary⟩ = "") →
    last.stderr = world.stderr ++ messages (told answers)

theorem accounts_reportEach (answers : List (Option CompilationOutput)) (host : Host)
    (world : World) :
    ∃ last, reportEach {} answers host world = (.ok (marked {} (told answers)), last) ∧
      Accounts answers (marked {} (told answers)) world last := by
  obtain ⟨last, text, ran, -, stdout, stderr, writes⟩ := reportEach_run answers {} host world
  refine ⟨last, ran, marked_iff _, stdout, ⟨text, stderr, writes⟩, fun silent => ?_⟩
  rw [stderr, writes.silent silent]

/-- Given any answers one after the other, a reporter always comes to be what it should: the next
    report gives the mark that it then has, which it never loses, or it fails for an answer that
    is absent, with the mark and all that was written unchanged. -/
theorem report_accounts (answers : List (Option CompilationOutput))
    (next : Option CompilationOutput) (host : Host) (world : World) :
    ∃ reporter middle, reportEach {} answers host world = (.ok reporter, middle) ∧
      Accounts answers reporter world middle ∧
      match next with
      | some answer => ∃ reporter' last,
          reporter.report (some answer) host middle = (.ok reporter', last) ∧
          Accounts (answers ++ [some answer]) reporter' world last ∧
          (reporter.hasError = true → reporter'.hasError = true)
      | none => reporter.report none host middle = (.error .noOutput, middle) ∧
          reportEach {} (answers ++ [none]) host world = (.ok reporter, middle) := by
  obtain ⟨middle, ran, accounts⟩ := accounts_reportEach answers host world
  refine ⟨_, middle, ran, accounts, ?_⟩
  cases next with
  | none =>
    refine ⟨rfl, ?_⟩
    rw [reportEach_append, Action.bind_run_ok ran]
    rfl
  | some answer =>
    obtain ⟨last, whole, accounts'⟩ := accounts_reportEach (answers ++ [some answer]) host world
    have reported := report_run (marked {} (told answers)) answer host middle
    rw [reportEach_append, Action.bind_run_ok ran, reportEach,
      Action.bind_run_ok (Action.attempt_run reported)] at whole
    refine ⟨_, last, reported.trans ?_, accounts', fun marked => ?_⟩
    · exact whole
    · rw [accounts'.flag]
      obtain ⟨diagnostic, member, other⟩ := accounts.flag.mp marked
      refine ⟨diagnostic, ?_, other⟩
      rw [told, List.flatMap_append]
      exact List.mem_append_left _ member

end Reporter

end SolidityBuild
