import ReleaseTrigger.Proofs.Escapes
import ReleaseTrigger.Proofs.JobUrl

/-! # Dot segments

The path of a job URL is what a stack holds after the segments of the text went over it from left to right.
`Path.step` says what one segment does to the stack, and pushing is a fold of it (`Path.reverse_push`). The
stack is a parameter in one respect: which segments a double dot does not take away. Paths keep drive
letters; a stack that keeps nothing ends up with the same segments as long as the text has no drive
letter (`Path.resolve_of_no_driveLetter`).
-/

namespace ReleaseTrigger

namespace Path

/-! ## The stack in reading order -/

/-- The stack, last segment at the end, after one more segment. A double dot takes the last segment away
unless that is one that stays, a single dot does nothing, and any other segment is put on it, escaped. -/
def step (stays : Text → Bool) (stack : List Text) (segment : Text) : List Text :=
  if isDoubleDot segment then (if stack.getLast?.any stays then stack else stack.dropLast)
  else if isSingleDot segment then stack
  else stack ++ [Percent.encode Percent.pathSet segment]

/-- What a dot or a double dot at the end leaves behind it. -/
def closing (segments : List Text) : List Text :=
  if segments.getLast?.any fun last => isSingleDot last || isDoubleDot last then [[]] else []

/-- The stack after all segments of a text. -/
def resolve (stays : Text → Bool) (segments : List Text) : List Text :=
  segments.foldl (step stays) [] ++ closing segments

variable {stays : Text → Bool} {stack : List Text} {segment : Text}

theorem step_of_isDoubleDot (double : isDoubleDot segment = true) :
    step stays stack segment = if stack.getLast?.any stays then stack else stack.dropLast :=
  if_pos double

theorem step_of_isSingleDot (notDouble : ¬isDoubleDot segment = true)
    (single : isSingleDot segment = true) :
    step stays stack segment = stack := by
  rw [step, if_neg notDouble, if_pos single]

theorem step_of_not_dot (notDouble : ¬isDoubleDot segment = true)
    (notSingle : ¬isSingleDot segment = true) :
    step stays stack segment = stack ++ [Percent.encode Percent.pathSet segment] := by
  rw [step, if_neg notDouble, if_neg notSingle]

theorem reverse_pop (stack : List Text) :
    (pop stack).reverse =
      if stack.reverse.getLast?.any isDriveLetter then stack.reverse else stack.reverse.dropLast := by
  cases stack with
  | nil => rfl
  | cons last before =>
    rw [pop, List.reverse_cons, List.getLast?_concat, List.dropLast_concat, Option.any_some]
    split_ifs
    · rw [List.reverse_cons]
    · rfl

theorem closing_cons {others : List Text} (segment : Text) (rest : others ≠ []) :
    closing (segment :: others) = closing others := by
  obtain ⟨next, others, rfl⟩ := List.exists_cons_of_ne_nil rest
  rw [closing, closing, List.getLast?_cons_cons]

/-- Pushing is a step for each segment. -/
theorem reverse_push (stack segments : List Text) :
    (push stack segments).reverse =
      segments.foldl (step isDriveLetter) stack.reverse ++ closing segments := by
  fun_induction push stack segments with
  | case1 stack => exact (List.append_nil _).symm
  | case2 stack last double =>
    rw [List.foldl_cons, List.foldl_nil, step_of_isDoubleDot double, List.reverse_cons, reverse_pop]
    simp [closing, double]
  | case3 stack last notDouble single =>
    rw [List.foldl_cons, List.foldl_nil, step_of_isSingleDot notDouble single, List.reverse_cons]
    simp [closing, single]
  | case4 stack last notDouble notSingle =>
    rw [List.foldl_cons, List.foldl_nil, step_of_not_dot notDouble notSingle, List.reverse_cons]
    simp [closing, notDouble, notSingle]
  | case5 stack segment others rest double ih =>
    rw [ih, List.foldl_cons, step_of_isDoubleDot double, reverse_pop, closing_cons segment rest]
  | case6 stack segment others rest notDouble single ih =>
    rw [ih, List.foldl_cons, step_of_isSingleDot notDouble single, closing_cons segment rest]
  | case7 stack segment others rest notDouble notSingle ih =>
    rw [ih, List.foldl_cons, step_of_not_dot notDouble notSingle, closing_cons segment rest,
      List.reverse_cons]

/-- A path that starts with its slash, or is empty, has the segments that its text is resolved to. -/
theorem ofText_eq_resolve {text : Text} (rooted : ∀ c, text.head? = some c → Url.isSlash c = true) :
    ofText Url.isSlash text = resolve isDriveLetter (List.splitOnP Url.isSlash text.tail) := by
  unfold ofText
  split
  · exact reverse_push [] _
  · rename_i first rest
    rw [if_pos (rooted first rfl)]
    exact reverse_push [] _

/-! ## Texts without drive letters -/

theorem percent_not_mem_of_isDriveLetter {segment : Text} (drive : isDriveLetter segment = true) :
    '%' ∉ segment := by
  unfold isDriveLetter at drive
  split at drive
  · rename_i letter mark
    simp only [Bool.and_eq_true, Bool.or_eq_true, beq_iff_eq] at drive
    obtain ⟨isLetter, isMark⟩ := drive
    intro member
    obtain rfl | member := List.mem_cons.mp member
    · cases isLetter
    · obtain rfl := List.mem_singleton.mp member
      exact absurd isMark (by decide)
  · cases drive

/-- Escaping makes no drive letters. -/
theorem isDriveLetter_encode {segment : Text} (other : isDriveLetter segment = false) :
    isDriveLetter (Percent.encode Percent.pathSet segment) = false := by
  apply Bool.eq_false_iff.mpr
  intro drive
  rw [Percent.encode_of_percent_not_mem (percent_not_mem_of_isDriveLetter drive), other] at drive
  cases drive

/-- A step on a stack without drive letters is that of a stack that keeps nothing, and puts none on it. -/
theorem step_of_no_driveLetter (none : ∀ other ∈ stack, isDriveLetter other = false)
    (plain : isDriveLetter segment = false) :
    step isDriveLetter stack segment = step (fun _ => false) stack segment ∧
      ∀ other ∈ step (fun _ => false) stack segment, isDriveLetter other = false := by
  by_cases double : isDoubleDot segment = true
  · have stays : stack.getLast?.any isDriveLetter = false := by
      cases given : stack.getLast? with
      | none => rfl
      | some last => exact none last (List.mem_of_mem_getLast? given)
    have keeps : (stack.getLast?.any fun _ => false) = false := by
      cases stack.getLast? <;> rfl
    rw [step_of_isDoubleDot double, step_of_isDoubleDot double, stays, keeps]
    exact ⟨rfl, fun other member => none other (List.dropLast_subset _ member)⟩
  by_cases single : isSingleDot segment = true
  · rw [step_of_isSingleDot double single, step_of_isSingleDot double single]
    exact ⟨rfl, none⟩
  · rw [step_of_not_dot double single, step_of_not_dot double single]
    refine ⟨rfl, fun other member => ?_⟩
    obtain member | member := List.mem_append.mp member
    · exact none other member
    · rw [List.mem_singleton.mp member]
      exact isDriveLetter_encode plain

/-- Unless there are drive letters, every segment may be taken away. -/
theorem resolve_of_no_driveLetter {segments : List Text}
    (none : ∀ segment ∈ segments, isDriveLetter segment = false) :
    resolve isDriveLetter segments = resolve (fun _ => false) segments := by
  have run (stack : List Text) (empty : ∀ other ∈ stack, isDriveLetter other = false) :
      segments.foldl (step isDriveLetter) stack = segments.foldl (step fun _ => false) stack := by
    induction segments generalizing stack with
    | nil => rfl
    | cons segment segments ih =>
      obtain ⟨here, none⟩ := List.forall_mem_cons.mp none
      obtain ⟨same, empty⟩ := step_of_no_driveLetter empty here
      rw [List.foldl_cons, List.foldl_cons, same]
      exact ih none _ empty
  rw [resolve, resolve, run [] (by simp)]

end Path

/-! ## Paths of job URLs -/

/-- Dot segments are resolved like a stack, except that a double dot does not take a drive letter away. The
text of a job URL divides into parts; the segments of its path stand between the slashes and backslashes
after the leading one, or there is one empty segment if the text has no path. The path of the URL is what
they are resolved to, and no segment of it is a dot or a double dot. If none of them is a drive letter, a
stack that keeps nothing comes to the same. -/
theorem parseJobUrl_path {value : Text} {url : Url} (accepted : parseJobUrl value = .ok url) :
    (∃ parts : Url.Parts, Url.clean value = parts.text) ∧
      ∀ parts : Url.Parts, Url.clean value = parts.text →
        let raw := List.splitOnP Url.isSlash parts.path.tail
        Path.render url.path = '/' :: List.intercalate ['/'] (Path.resolve Path.isDriveLetter raw) ∧
          ((∀ segment ∈ raw, Path.isDriveLetter segment = false) →
            Path.render url.path = '/' :: List.intercalate ['/'] (Path.resolve (fun _ => false) raw)) ∧
          ∀ segment ∈ List.splitOnP Url.isSlash (Path.render url.path).tail,
            Path.isSingleDot segment = false ∧ Path.isDoubleDot segment = false := by
  constructor
  · obtain ⟨parts, cleaned, -⟩ := Url.Parts.exists_of_parseJobUrl accepted
    exact ⟨parts, cleaned⟩
  · intro parts cleaned raw
    obtain ⟨authority, -, rfl⟩ := parts.read_eq_ok_iff.mp (Url.Parts.read_of_parseJobUrl cleaned accepted)
    have path : (parts.url authority).path = Path.resolve Path.isDriveLetter raw :=
      Path.ofText_eq_resolve parts.rooted
    have written : ∀ segment ∈ (parts.url authority).path, Path.IsWritten segment :=
      Path.isWritten_of_mem_ofText parts.path
    have some : (parts.url authority).path ≠ [] := Path.ofText_ne_nil Url.isSlash parts.path
    have rendered : Path.render (parts.url authority).path =
        '/' :: List.intercalate ['/'] (Path.resolve Path.isDriveLetter raw) := by
      rw [Path.render_eq some, path]
    refine ⟨rendered, fun none => ?_, fun segment member => ?_⟩
    · rw [rendered, Path.resolve_of_no_driveLetter none]
    · rw [Path.render_eq some, List.tail_cons, Text.splitOnP_intercalate (by rfl) some] at member
      · exact ⟨(written segment member).notSingle, (written segment member).notDouble⟩
      · exact fun other present => (written other present).slashless

/-- Backslashes, escaped dots, a drive letter, and a double dot at the end. -/
theorem parseJobUrl_path_untidy :
    let value := Text.of "http://h/a/./b\\%2E.//C:/../é/.%2e?x/.."
    let raw := [Text.of "a", Text.of ".", Text.of "b", Text.of "%2E.", [], Text.of "C:", Text.of "..",
      Text.of "é", Text.of ".%2e"]
    ∃ url, parseJobUrl value = .ok url ∧
      Path.render url.path = '/' :: List.intercalate ['/'] (Path.resolve Path.isDriveLetter raw) ∧
      Path.resolve Path.isDriveLetter raw = [Text.of "a", [], Text.of "C:", []] := by
  intro value raw
  let parts := Url.Parts.ofTexts .http (Text.of "http") (Text.of "//") (Text.of "h")
    (Text.of "/a/./b\\%2E.//C:/../é/.%2e") (Text.of "?x/..") (by decide)
  let url : Url :=
    { scheme := .http, username := [], password := none, host := .domain (Text.of "h"), port := none,
      path := [Text.of "a", [], Text.of "C:", []], query := some (Text.of "x/.."), fragment := none }
  have accepted : parseJobUrl value = .ok url := by decide +kernel
  have cleaned : Url.clean value = parts.text := by decide +kernel
  have split : List.splitOnP Url.isSlash parts.path.tail = raw := by decide +kernel
  obtain ⟨rendered, -⟩ := (parseJobUrl_path accepted).2 parts cleaned
  rw [split] at rendered
  exact ⟨url, accepted, rendered, by decide +kernel⟩

/-- A drive letter stays where a plain stack would lose it. -/
theorem parseJobUrl_path_driveLetter :
    let value := Text.of "http://h/C:/.."
    ∃ (url : Url) (parts : Url.Parts), parseJobUrl value = .ok url ∧ Url.clean value = parts.text ∧
      Path.render url.path = Text.of "/C:/" ∧
      Path.render url.path ≠ '/' :: List.intercalate ['/']
        (Path.resolve (fun _ => false) (List.splitOnP Url.isSlash parts.path.tail)) := by
  let url : Url :=
    { scheme := .http, username := [], password := none, host := .domain (Text.of "h"), port := none,
      path := [Text.of "C:", []], query := none, fragment := none }
  let parts := Url.Parts.ofTexts .http (Text.of "http") (Text.of "//") (Text.of "h") (Text.of "/C:/..") []
    (by decide)
  exact ⟨url, parts, by decide +kernel, by decide +kernel, by decide +kernel, by decide +kernel⟩

end ReleaseTrigger
