import ReleaseTrigger.Proofs.RequestLine
import ReleaseTrigger.Proofs.Run
import ReleaseTrigger.Proofs.Text.Lines

/-! # The audit trail

Whoever audits a run reads on standard error which URL was asked for, which status came back and how the
run was judged. What else is written there, the events that are logged and the report of a failure, never
has a line that reads like one of these, whatever texts of the caller it holds: events start with the time
and stand in one line, and the causes of a failure are written behind a margin.
-/

namespace ReleaseTrigger

/-- A line that announces the request, shows the status or gives the verdict. -/
def isAuditLine (line : Text) : Bool :=
  (Text.of "GET ").isPrefixOf line || (Text.of "Response.Code: ").isPrefixOf line ||
    line == Text.of "Success" || line == Text.of "Failed"

/-- The audit lines of a text, in their order. -/
def auditLines (text : Text) : List Text := (Text.lines text).filter isAuditLine

theorem exists_isAlpha_of_isAuditLine {line : Text} (audit : isAuditLine line = true) :
    ∃ c, line.head? = some c ∧ c.isAlpha = true := by
  rw [isAuditLine, Bool.or_eq_true, Bool.or_eq_true, Bool.or_eq_true] at audit
  obtain ((request | status) | success) | failure := audit
  · obtain ⟨rest, rfl⟩ := List.isPrefixOf_iff_prefix.mp request
    exact ⟨'G', rfl, by decide⟩
  · obtain ⟨rest, rfl⟩ := List.isPrefixOf_iff_prefix.mp status
    exact ⟨'R', rfl, by decide⟩
  · rw [eq_of_beq success]
    exact ⟨'S', rfl, by decide⟩
  · rw [eq_of_beq failure]
    exact ⟨'F', rfl, by decide⟩

theorem Text.IsAside.isAuditLine_eq {line : Text} (aside : line.IsAside) : isAuditLine line = false := by
  by_contra audit
  obtain ⟨c, first, isLetter⟩ := exists_isAlpha_of_isAuditLine (Bool.not_eq_false _ ▸ audit)
  rw [aside.head c first] at isLetter
  cases isLetter

theorem auditLines_cons {line : Text} (unbroken : '\n' ∉ line) (rest : Text) :
    auditLines (line ++ '\n' :: rest) = [line].filter isAuditLine ++ auditLines rest := by
  rw [auditLines, Text.lines_cons unbroken, ← List.singleton_append, List.filter_append, auditLines]

/-! ## The report of a failure -/

/-- A cause is written behind a margin. -/
theorem exists_renderCause_eq (number : Option Nat) (cause : Text) :
    ∃ start : Text, start.IsAside ∧ start ≠ [] ∧ renderCause number cause =
      start ++ cause.flatMap fun c => if c = '\n' then '\n' :: List.replicate start.length ' ' else [c] := by
  refine ⟨_, ?_, ?_, rfl⟩
  · cases number with
    | none => exact Text.isAside_blanks 4
    | some index =>
      apply Text.IsAside.of_forall
      intro c member
      simp only [Text.padLeft, List.mem_append] at member
      obtain (blank | digit) | colon := member
      · exact List.eq_of_mem_replicate blank ▸ by decide
      · refine ⟨?_, Text.isAlpha_of_isDigit (Text.isDigit_of_mem_decimal digit)⟩
        rintro rfl
        exact Text.break_not_mem_decimal index digit
      · revert c
        exact List.forall_iff_forall_mem.mp (by decide)
  · cases number with
    | none => decide
    | some index => simp

theorem isAside_of_mem_lines_renderCause {number : Option Nat} {cause line : Text}
    (member : line ∈ Text.lines (renderCause number cause)) : line.IsAside := by
  obtain ⟨start, aside, some, written⟩ := exists_renderCause_eq number cause
  have margin : List.replicate start.length ' ' ≠ [] := by simpa using some
  rw [written] at member
  exact Text.isAside_of_mem_lines_margin (Text.isAside_blanks _) margin aside some cause line member

theorem RunError.exists_report_eq (error : RunError) :
    ∃ top shown, '\n' ∉ top ∧ (∀ part ∈ shown, ∃ number cause, part = renderCause number cause) ∧
      error.report = Text.of "Error: " ++ top ++ Text.of "\n\nCaused by:\n" ++ List.intercalate ['\n'] shown ++
        ['\n'] := by
  cases error with
  | parameters error =>
    refine ⟨Text.of "Failed to resolve build parameters", [renderCause none error.message], by decide, ?_,
      rfl⟩
    intro part member
    exact ⟨none, _, List.mem_singleton.mp member⟩
  | request failure =>
    refine ⟨Text.of "Failed to trigger Jenkins job",
      (requestErrorMessage failure :: failure.message :: failure.causes).mapIdx
        fun index cause => renderCause (some index) cause, by decide, ?_, rfl⟩
    intro part member
    obtain ⟨index, bound, rfl⟩ := List.mem_mapIdx.mp member
    exact ⟨_, _, rfl⟩

/-- The causes of a failure leave no audit line, since none of their lines starts with a letter. -/
theorem auditLines_renderCauses {shown : List Text}
    (causes : ∀ part ∈ shown, ∃ number cause, part = renderCause number cause) :
    auditLines (List.intercalate ['\n'] shown ++ ['\n']) = [] := by
  rw [auditLines, Text.lines_append_break, List.filter_append, List.append_eq_nil_iff]
  refine ⟨List.filter_eq_nil_iff.mpr ?_, by decide⟩
  intro line member
  rw [Bool.not_eq_true]
  obtain rfl | ⟨part, present, member⟩ := Text.mem_lines_intercalate member
  · decide
  · obtain ⟨number, cause, rfl⟩ := causes part present
    exact (isAside_of_mem_lines_renderCause member).isAuditLine_eq

/-- No line of a report is an audit line, whatever the causes hold. -/
theorem auditLines_report (error : RunError) : auditLines error.report = [] := by
  obtain ⟨top, shown, unbroken, causes, written⟩ := error.exists_report_eq
  have heading : '\n' ∉ Text.of "Error: " ++ top := List.not_mem_append (by decide) unbroken
  have title : Text.of "\n\nCaused by:\n" = '\n' :: '\n' :: (Text.of "Caused by:" ++ ['\n']) := by decide
  have whole : error.report = (Text.of "Error: " ++ top) ++ '\n' :: ([] ++ '\n' ::
      (Text.of "Caused by:" ++ '\n' :: (List.intercalate ['\n'] shown ++ ['\n']))) := by
    rw [written, title]
    simp only [List.append_assoc, List.cons_append, List.nil_append]
  rw [whole, auditLines_cons heading, auditLines_cons List.not_mem_nil, auditLines_cons (by decide),
    auditLines_renderCauses causes]
  rfl

/-! ## Entries -/

/-- The line of an event, without styles. -/
def Log.Event.line (time : Text) (event : Log.Event) : Text :=
  time ++ ' ' :: (event.level.label ++ ' ' :: (event.message ++
    event.fields.flatMap fun field => ' ' :: (field.1 ++ '=' :: field.2)))

theorem Log.Event.text_styled (time : Text) (event : Log.Event) :
    (event.styled time).text = event.line time ++ ['\n'] := by
  simp [Log.Event.styled, Log.Event.line, Styled.text, Styled.one, Styled.plain, List.flatMap_append,
    List.flatMap_assoc]

/-- What an event says stays in one line. -/
structure Log.Event.IsUnbroken (event : Log.Event) : Prop where
  message : '\n' ∉ event.message
  fields : ∀ field ∈ event.fields, '\n' ∉ field.1 ∧ '\n' ∉ field.2

theorem Log.Event.isUnbroken_of_field {level : Log.Level} {source : Log.Source} {message name value : Text}
    (said : '\n' ∉ message) (named : '\n' ∉ name) (given : '\n' ∉ value) :
    Log.Event.IsUnbroken ⟨level, source, message, [(name, value)]⟩ where
  message := said
  fields := List.forall_mem_singleton.mpr ⟨named, given⟩

theorem Log.Event.IsUnbroken.isAside_line {event : Log.Event} (unbroken : event.IsUnbroken) {time : Text}
    (dated : time.IsAside) : (event.line time).IsAside := by
  have start : (time ++ [' ']).IsAside := by
    cases time with
    | nil => exact .of_forall (List.forall_iff_forall_mem.mp (by decide))
    | cons c time => exact dated.append (List.cons_ne_nil c time) (by decide)
  have label : '\n' ∉ event.level.label := by
    cases event.level <;> decide
  have values : '\n' ∉ event.fields.flatMap fun field => ' ' :: (field.1 ++ '=' :: field.2) := by
    intro member
    obtain ⟨field, present, member⟩ := List.mem_flatMap.mp member
    have unbroken := unbroken.fields field present
    simp [unbroken] at member
  have whole : event.line time = (time ++ [' ']) ++ (event.level.label ++ ' ' :: (event.message ++
      event.fields.flatMap fun field => ' ' :: (field.1 ++ '=' :: field.2))) := by
    simp [Log.Event.line]
  rw [whole]
  refine start.append (by simp) ?_
  simp only [List.mem_append, List.mem_cons, not_or]
  exact ⟨label, by decide, unbroken.message, values⟩

/-! ## What is shown -/

/-- How a run shows entries without colours and without a filter of its own. -/
def Display.standard (time : Text) : Display := ⟨false, false, (Log.defaultFilter false).admits, time⟩

theorem Environment.display_eq_standard {environment : Environment}
    (unfiltered : environment.logFilter = none) (uncoloured : environment.noColour ≠ none) (time : Text) :
    environment.display false time = Display.standard time := by
  obtain ⟨value, given⟩ := Option.ne_none_iff_exists'.mp uncoloured
  have plain : environment.coloursRun = false := by
    rw [Environment.coloursRun, given]
    rfl
  rw [Environment.display, plain, unfiltered]
  rfl

theorem admits_defaultFilter (event : Log.Event) :
    (Log.defaultFilter false).admits event = decide (event.level.rank ≤ Log.Level.info.rank) := by
  obtain ⟨level, source, message, fields⟩ := event
  cases source <;> rfl

section

variable {event : Log.Event}

theorem Entry.render_of_shown (shown : event.level.rank ≤ Log.Level.info.rank) (time : Text) :
    (Entry.event event).render (Display.standard time) = event.line time ++ ['\n'] := by
  simp [Entry.render, Display.standard, admits_defaultFilter, shown, Log.Event.text_styled]

theorem Entry.render_of_hidden (hidden : ¬event.level.rank ≤ Log.Level.info.rank) (time : Text) :
    (Entry.event event).render (Display.standard time) = [] := by
  simp [Entry.render, Display.standard, admits_defaultFilter, hidden]

end

/-- What an entry says stays in one line, if it is shown. -/
def Entry.IsUnbroken : Entry → Prop
  | .line text => '\n' ∉ text
  | .verdict _ => True
  | .event happened => happened.level.rank ≤ Log.Level.info.rank → happened.IsUnbroken

/-- The audit lines that an entry leaves. -/
def Entry.auditLines : Entry → List Text
  | .line text => [text].filter isAuditLine
  | .verdict isSuccess => [(Entry.verdictSpan isSuccess).text]
  | .event _ => []

section

variable {time : Text} (dated : time.IsAside)

include dated

theorem auditLines_render_append {entry : Entry} (unbroken : entry.IsUnbroken) (rest : Text) :
    auditLines (entry.render (Display.standard time) ++ rest) = entry.auditLines ++ auditLines rest := by
  cases entry with
  | line text =>
    rw [Entry.render, List.append_assoc, List.singleton_append, auditLines_cons unbroken, Entry.auditLines]
  | verdict isSuccess =>
    have unbroken : '\n' ∉ (Entry.verdictSpan isSuccess).text := by
      cases isSuccess <;> decide
    have counts : [(Entry.verdictSpan isSuccess).text].filter isAuditLine =
        [(Entry.verdictSpan isSuccess).text] := by
      cases isSuccess <;> decide
    have written : (Entry.verdict isSuccess).render (Display.standard time) =
        (Entry.verdictSpan isSuccess).text ++ ['\n'] := rfl
    rw [written, List.append_assoc, List.singleton_append, auditLines_cons unbroken, counts, Entry.auditLines]
  | event happened =>
    rw [Entry.auditLines, List.nil_append]
    -- An event of no interest writes nothing, so only those that are shown have to stay in one line.
    by_cases shown : happened.level.rank ≤ Log.Level.info.rank
    · have aside := (unbroken shown).isAside_line dated
      rw [Entry.render_of_shown shown, List.append_assoc, List.singleton_append,
        auditLines_cons aside.unbroken, List.filter_singleton, aside.isAuditLine_eq]
      rfl
    · rw [Entry.render_of_hidden shown, List.nil_append]

/-- The audit lines of entries are those of each, whatever is written behind them. -/
theorem auditLines_renderAll_append {entries : List Entry} (unbroken : ∀ entry ∈ entries, entry.IsUnbroken)
    (rest : Text) :
    auditLines (Entry.renderAll (Display.standard time) entries ++ rest) =
      entries.flatMap Entry.auditLines ++ auditLines rest := by
  induction entries with
  | nil => rfl
  | cons entry entries ih =>
    rw [Entry.renderAll, List.flatMap_cons, List.append_assoc,
      auditLines_render_append dated (unbroken entry (List.mem_cons_self ..)), List.flatMap_cons,
      List.append_assoc]
    exact congrArg _ (ih fun other member => unbroken other (List.mem_cons_of_mem _ member))

end

/-! ## What a run reports -/

/-- Events for finding errors are not shown, so it does not matter what they say. -/
theorem Entry.isUnbroken_of_debug {event : Log.Event} (level : event.level = .debug) :
    (Entry.event event).IsUnbroken := by
  intro shown
  rw [level] at shown
  exact absurd shown (by decide)

theorem Outcome.isUnbroken_of_mem_entries (outcome : Outcome) :
    ∀ entry ∈ outcome.entries, entry.IsUnbroken := by
  have code := Text.break_not_mem_decimal outcome.status.code
  have line : Entry.IsUnbroken (.line (Text.of "Response.Code: " ++ Text.decimal outcome.status.code)) :=
    List.not_mem_append (by decide) code
  intro entry member
  rw [Outcome.entries, List.mem_append, List.mem_append] at member
  obtain (member | member) | member := member
  · rwa [List.mem_singleton.mp member]
  · split_ifs at member
    · cases member
    · rw [List.mem_singleton.mp member]
      exact fun _ => Log.Event.isUnbroken_of_field (by decide) (by decide) code
  · rw [List.mem_singleton.mp member]
    trivial

theorem Outcome.isUnbroken_conclusion (outcome : Outcome) : outcome.conclusion.1.IsUnbroken := by
  rw [Outcome.conclusion]
  cases outcome.result with
  | ok done =>
    exact fun _ => Log.Event.isUnbroken_of_field (by decide) (by decide) (Quoted.break_not_mem_encode _)
  | error error => exact Entry.isUnbroken_of_debug rfl

theorem Outcome.auditLines_entries (outcome : Outcome) :
    outcome.entries.flatMap Entry.auditLines =
      [Text.of "Response.Code: " ++ Text.decimal outcome.status.code,
        (Entry.verdictSpan outcome.isSuccess).text] := by
  have counts : isAuditLine (Text.of "Response.Code: " ++ Text.decimal outcome.status.code) = true := rfl
  rw [Outcome.entries]
  cases outcome.isSuccess <;> simp [Entry.auditLines, counts]

theorem Outcome.auditLines_conclusion (outcome : Outcome) : outcome.conclusion.1.auditLines = [] := by
  rw [Outcome.conclusion]
  cases outcome.result <;> rfl

/-! ## The trail of a run -/

theorem Url.IsWritten.break_not_mem_render {url : Url} (written : url.IsWritten) : '\n' ∉ url.render := by
  intro member
  cases written.isVisible_of_mem_render member

section

variable {url : Url} (unbroken : '\n' ∉ url.render)

include unbroken

theorem break_not_mem_announced : '\n' ∉ Text.of "GET " ++ url.render :=
  List.not_mem_append (by decide) unbroken

theorem isUnbroken_of_mem_announcement : ∀ entry ∈ announcement url, entry.IsUnbroken := by
  simp only [announcement, List.forall_mem_cons]
  exact ⟨break_not_mem_announced unbroken, Entry.isUnbroken_of_debug rfl, List.forall_mem_nil _⟩

/-- What is announced stands in the first line, since nothing is shown of the parameters. -/
theorem head?_lines_announced (time : Text) (parameters : Parameters) (others : List Entry) (rest : Text) :
    (Text.lines (Entry.renderAll (Display.standard time) (parameters.entry :: (announcement url ++ others)) ++
      rest)).head? = some (Text.of "GET " ++ url.render) := by
  have unseen : ¬Log.Level.debug.rank ≤ Log.Level.info.rank := by decide
  have hidden : parameters.entry.render (Display.standard time) = [] := Entry.render_of_hidden unseen time
  rw [Entry.renderAll, List.flatMap_cons, hidden, List.nil_append, announcement, List.cons_append,
    List.flatMap_cons, Entry.render, List.append_assoc, List.append_assoc, List.singleton_append,
    Text.lines_cons (break_not_mem_announced unbroken), List.head?_cons]

theorem auditLines_announced {time : Text} (dated : time.IsAside) (parameters : Parameters)
    {others : List Entry} (orderly : ∀ entry ∈ others, entry.IsUnbroken) (rest : Text) :
    auditLines (Entry.renderAll (Display.standard time) (parameters.entry :: (announcement url ++ others)) ++
      rest) = (Text.of "GET " ++ url.render) :: (others.flatMap Entry.auditLines ++ auditLines rest) := by
  have all : ∀ entry ∈ parameters.entry :: (announcement url ++ others), entry.IsUnbroken := by
    simp only [List.forall_mem_cons, List.forall_mem_append]
    exact ⟨Entry.isUnbroken_of_debug rfl, isUnbroken_of_mem_announcement unbroken, orderly⟩
  have counts : isAuditLine (Text.of "GET " ++ url.render) = true := rfl
  rw [auditLines_renderAll_append dated all]
  simp [Parameters.entry, announcement, Entry.auditLines, counts]

end

/-- On standard error a run leaves the audit lines that its course asks for, in their order, and no other.
Without parameters there is none. Otherwise the first line of all announces the URL with the parameters,
however many redirects follow; and if an answer is final, the line with its status comes after it, and
then the verdict, which agrees with the exit code. This is so whatever the texts of the caller hold, where
only the usual events are logged, without colours, and each event with a time in front that stands in one
line and starts with no letter. -/
theorem run_auditLines {environment : Environment} {arguments : List Octets}
    {accepted : CommandLine.Arguments} {time : Text}
    (accepts : CommandLine.parse environment arguments = .ok accepted) (quiet : accepted.verbose = false)
    (unfiltered : environment.logFilter = none) (uncoloured : environment.noColour ≠ none)
    (dated : time.IsAside) (endpoint : Http.Endpoint) :
    let finished := run environment arguments endpoint time
    (∀ error, accepted.resolve = .error error → auditLines finished.errors = []) ∧
    ∀ parameters, accepted.resolve = .ok parameters →
      let asked := Text.of "GET " ++ (parameters.addTo accepted.jobUrl).render
      let result := (trigger accepted.settings parameters endpoint 0).result
      (Text.lines finished.errors).head? = some asked ∧
      (∀ failure, result = some (.error failure) → auditLines finished.errors = [asked]) ∧
      (result = none → auditLines finished.errors = [asked]) ∧
      ∀ outcome, result = some (.ok outcome) → auditLines finished.errors =
        [asked, Text.of "Response.Code: " ++ Text.decimal outcome.status.code,
          if finished.exitCode = some 0 then Text.of "Success" else Text.of "Failed"] := by
  have standard : environment.display accepted.verbose time = Display.standard time := by
    rw [quiet]
    exact Environment.display_eq_standard unfiltered uncoloured time
  obtain ⟨value, parsed⟩ := CommandLine.exists_parseJobUrl_of_parse accepts
  intro finished
  constructor
  · intro error fails
    have ends : finished = ⟨some 1, [], (RunError.parameters error).report, []⟩ :=
      run_of_unresolved accepts fails
    rw [ends]
    exact auditLines_report (.parameters error)
  · intro parameters resolves asked result
    have unbroken := ((isWritten_of_parseJobUrl parsed).addTo parameters).break_not_mem_render
    have first (rest : Text) := head?_lines_announced unbroken time parameters [] rest
    have trail (rest : Text) := auditLines_announced unbroken dated parameters (List.forall_mem_nil _) rest
    rw [List.append_nil] at first trail
    rcases course : result with _ | failure | outcome
    · have ends : finished = ⟨none, [], _, _⟩ := run_of_waiting accepts resolves course
      rw [ends, standard, ← List.append_nil (Entry.renderAll _ _)]
      exact ⟨first [], nofun, fun _ => trail [], nofun⟩
    · have ends : finished = ⟨some 1, [], _, _⟩ := run_of_failed accepts resolves course
      have failed := trail (RunError.request failure).report
      rw [auditLines_report] at failed
      rw [ends, standard]
      exact ⟨first _, fun _ _ => failed, nofun, nofun⟩
    · have ends : finished = ⟨_, [], _, _⟩ := run_of_answered accepts resolves course
      have orderly : ∀ entry ∈ outcome.entries ++ [outcome.conclusion.1], entry.IsUnbroken := by
        rw [List.forall_mem_append, List.forall_mem_singleton]
        exact ⟨outcome.isUnbroken_of_mem_entries, outcome.isUnbroken_conclusion⟩
      have first := head?_lines_announced unbroken time parameters
        (outcome.entries ++ [outcome.conclusion.1]) []
      have trail := auditLines_announced unbroken dated parameters orderly []
      rw [List.append_nil] at first trail
      rw [List.flatMap_append, outcome.auditLines_entries, List.flatMap_singleton,
        outcome.auditLines_conclusion] at trail
      rw [ends, standard]
      refine ⟨first, nofun, nofun, ?_⟩
      rintro _ ⟨⟩
      rw [trail]
      cases outcome.isSuccess <;> rfl

/-- A tag that reads like a verdict on a line of its own leaves no line, nor does a reference that is
refused and reads like a request. -/
theorem run_auditLines_forged :
    let environment := Environment.ofList
      [(Text.of "JENKINS_TOKEN", Utf8.encode (Text.of "t")), (Text.of "NO_COLOR", [])]
    let endpoint : Http.Endpoint :=
      ⟨fun _ => true, [.sends (Text.of "HTTP/1.1 302 Found\r\nLocation: /queue\r\n\r\n"),
        .sends (Text.of "HTTP/1.1 503 Unavailable\r\n\r\n")]⟩
    let time := Text.of "2026-01-02T03:04:05.000006Z"
    let arguments (reference : String) :=
      ["--job-url=http://ci.example/job", "--build-ref", reference].map (Utf8.encode ∘ Text.of)
    let forged := "v1\nGET http://ci.example/job\nSuccess\n/"
    auditLines (run environment (arguments "v1\nSuccess") endpoint time).errors =
        [Text.of "GET http://ci.example/job?token=t&BUILD_REF=v1%0ASuccess&IMAGE_TAG=v1%0ASuccess",
          Text.of "Response.Code: 503", Text.of "Failed"] ∧
      auditLines (run environment (arguments forged) endpoint time).errors = [] := by
  intro environment endpoint time arguments forged
  let base : Url :=
    { scheme := .http, username := [], password := none, host := .domain (Text.of "ci.example"),
      port := none, path := [Text.of "job"], query := none, fragment := none }
  let accepted (reference : String) : CommandLine.Arguments :=
    ⟨Text.of "t", Text.of reference, none, base, none, false⟩
  let parameters : Parameters := ⟨Text.of "t", Text.of "v1\nSuccess", Text.of "v1\nSuccess"⟩
  have parsed : CommandLine.parse environment (arguments "v1\nSuccess") = .ok (accepted "v1\nSuccess") := by
    decide +kernel
  have parsed' : CommandLine.parse environment (arguments forged) = .ok (accepted forged) := by
    decide +kernel
  have answered : (trigger (accepted "v1\nSuccess").settings parameters endpoint 0).result =
      some (.ok ⟨parameters.addTo base, ⟨503, by decide⟩⟩) := by
    decide +kernel
  have exitCode : (run environment (arguments "v1\nSuccess") endpoint time).exitCode = some 1 := by
    decide +kernel
  have dated : time.IsAside := by
    refine ⟨by decide, ?_⟩
    intro c first
    obtain rfl : '2' = c := Option.some.inj first
    decide
  have trail := (run_auditLines parsed rfl rfl nofun dated endpoint).2 parameters rfl
  have refused : (accepted forged).resolve = .error ⟨Text.of forged⟩ := by
    decide +kernel
  refine ⟨?_, (run_auditLines parsed' rfl rfl nofun dated endpoint).1 _ refused⟩
  rw [trail.2.2.2 _ answered, exitCode]
  decide +kernel

end ReleaseTrigger
