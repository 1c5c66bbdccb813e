import ReleaseTrigger.Proofs.JobUrl
import ReleaseTrigger.Proofs.Trigger

/-! # The request line

The first request asks for the path and the query of the job URL with the parameters, and for nothing
else of it. Both are visible text without the marks of other components, so the line has three fields
whatever the values hold, and the values are read back from the second.
-/

namespace ReleaseTrigger

namespace Http

/-- User info has no part in what is asked for. -/
theorem requestTarget_withoutCredentials (url : Url) :
    requestTarget (withoutCredentials url) = requestTarget url := by
  unfold withoutCredentials
  split <;> rfl

theorem exchange_head?_line {endpoint : Endpoint} {served : Nat} {timeout : Option Nat} {url : Url}
    {request : Request} (first : (exchange endpoint served timeout url).requests.head? = some request) :
    request.line = Text.of "GET " ++ requestTarget url ++ Text.of " HTTP/1.1" := by
  rw [List.head?_eq_getElem?] at first
  unfold Request.line
  rw [(exchange_disciplined endpoint served timeout url).starts request first,
    requestTarget_withoutCredentials]

end Http

namespace Url.IsWritten

variable {url : Url} (written : url.IsWritten)

include written

theorem isVisible_of_mem_requestTarget {c : Char} (member : c ∈ Http.requestTarget url) :
    Text.isVisible c = true := by
  obtain member | member := List.mem_append.mp member
  · exact written.isVisible_of_mem_renderPath member
  · exact isVisible_of_mem_marked Percent.querySet_isComponentSet (by rfl) written.query member

theorem head?_requestTarget : (Http.requestTarget url).head? = some '/' := by
  rw [Http.requestTarget, renderPath, Path.render_eq written.path_ne_nil]
  rfl

/-- The line that asks for the path and the query is printable ASCII. -/
theorem isPrintable_of_mem_requestLine {c : Char}
    (member : c ∈ Text.of "GET " ++ Http.requestTarget url ++ Text.of " HTTP/1.1") :
    0x20 ≤ c.toNat ∧ c.toNat ≤ 0x7E := by
  have method : ∀ c ∈ Text.of "GET ", 0x20 ≤ c.toNat ∧ c.toNat ≤ 0x7E :=
    List.forall_iff_forall_mem.mp (by decide)
  have version : ∀ c ∈ Text.of " HTTP/1.1", 0x20 ≤ c.toNat ∧ c.toNat ≤ 0x7E :=
    List.forall_iff_forall_mem.mp (by decide)
  rw [List.mem_append, List.mem_append] at member
  obtain (member | member) | member := member
  · exact method c member
  · have visible := Text.isVisible_iff.mp (written.isVisible_of_mem_requestTarget member)
    exact ⟨by omega, visible.2⟩
  · exact version c member

/-- The line that asks for the path and the query has three fields. -/
theorem splitOn_requestLine :
    List.splitOn ' ' (Text.of "GET " ++ Http.requestTarget url ++ Text.of " HTTP/1.1") =
      [Text.of "GET", Http.requestTarget url, Text.of "HTTP/1.1"] := by
  have joined : Text.of "GET " ++ Http.requestTarget url ++ Text.of " HTTP/1.1" =
      List.intercalate [' '] [Text.of "GET", Http.requestTarget url, Text.of "HTTP/1.1"] := by
    simp [List.intercalate_cons_cons, Text.of]
  have blankless : ' ' ∉ Http.requestTarget url := by
    intro member
    cases written.isVisible_of_mem_requestTarget member
  rw [joined]
  apply List.splitOn_intercalate ' ' _ (List.cons_ne_nil _ _)
  simp only [List.forall_mem_cons]
  exact ⟨by decide, blankless, by decide, List.forall_mem_nil _⟩

end Url.IsWritten

/-- Whatever the values hold, nothing in them gets out of its place. The job URL with the parameters is
visible ASCII. The line of the first request is printable ASCII and divides at its spaces into the method,
the path and the query of that URL, and the version; the second field begins with the path and holds no
fragment, and its query is decoded to the pairs of the job URL and the three parameters. -/
theorem trigger_requestLine {value token buildRef : Text} {imageTag : Option Text} {settings : Settings}
    {parameters : Parameters} (accepted : parseJobUrl value = .ok settings.jobUrl)
    (resolved : Parameters.resolve token buildRef imageTag = .ok parameters) (endpoint : Http.Endpoint)
    (served : Nat) :
    let url := parameters.addTo settings.jobUrl
    (∀ c ∈ url.render, 0x21 ≤ c.toNat ∧ c.toNat ≤ 0x7E) ∧
      ∀ request, (trigger settings parameters endpoint served).requests.head? = some request →
        ∃ query tag, url.query = some query ∧
          (imageTag = some tag ∨ imageTag = none ∧ Parameters.resolveTag buildRef = .ok tag) ∧
          let target := Path.render url.path ++ '?' :: query
          request.line = Text.of "GET " ++ target ++ Text.of " HTTP/1.1" ∧
          (∀ c ∈ request.line, 0x20 ≤ c.toNat ∧ c.toNat ≤ 0x7E) ∧
          List.splitOn ' ' request.line = [Text.of "GET", target, Text.of "HTTP/1.1"] ∧
          target.head? = some '/' ∧ '#' ∉ target ∧
          Text.cut (· == '?') target = (Path.render url.path, some query) ∧
          Form.decodePairs query = Form.decodePairs (settings.jobUrl.query.getD []) ++
            [(Text.of "token", token), (Text.of "BUILD_REF", buildRef), (Text.of "IMAGE_TAG", tag)] := by
  intro url
  have written : url.IsWritten := (isWritten_of_parseJobUrl accepted).addTo parameters
  refine ⟨fun c member => Text.isVisible_iff.mp (written.isVisible_of_mem_render member), ?_⟩
  intro request first
  rw [trigger_requests] at first
  obtain ⟨tag, effective, rfl⟩ := Parameters.resolve_eq_ok_iff.mp resolved
  refine ⟨_, tag, rfl, effective, ?_⟩
  intro target
  have line : request.line = Text.of "GET " ++ target ++ Text.of " HTTP/1.1" :=
    Http.exchange_head?_line first
  refine ⟨line, ?_, ?_, written.head?_requestTarget, ?_, written.cut_query,
    Form.decodePairs_appendAll _ _⟩
  · rw [line]
    exact fun _ => written.isPrintable_of_mem_requestLine
  · rw [line]
    exact written.splitOn_requestLine
  · exact fun member => written.ne_hash_of_mem_query member rfl

/-- Line breaks, a header and a hash in a token stay inside the second field, and neither user info nor
fragment of the job URL is sent in the line. -/
theorem trigger_requestLine_hostile :
    let base : Url :=
      { scheme := .http, username := Text.of "u", password := some (Text.of "p"),
        host := .ipv4 (BitVec.ofNat 32 0x7F000001), port := some 8080, path := [Text.of "job"],
        query := some (Text.of "x=1"), fragment := some (Text.of "top") }
    let token := Text.of "t HTTP/1.1\r\nHost: evil#&token=é"
    let parameters : Parameters := ⟨token, Text.of "master", Text.of "latest"⟩
    let endpoint : Http.Endpoint := ⟨fun _ => true, [.sends (Text.of "HTTP/1.1 201 Created\r\n\r\n")]⟩
    let request : Http.Request :=
      ⟨{ parameters.addTo base with username := [], password := none }, none, some ⟨['u'], ['p']⟩⟩
    let settings : Settings := ⟨base, none⟩
    let target := Text.of
      "/job?x=1&token=t+HTTP%2F1.1%0D%0AHost%3A+evil%23%26token%3D%C3%A9&BUILD_REF=master&IMAGE_TAG=latest"
    parseJobUrl (Text.of "http://u:p@127.0.0.1:8080/job?x=1#top") = .ok settings.jobUrl ∧
      Parameters.resolve token (Text.of "master") none = .ok parameters ∧
      (trigger settings parameters endpoint 0).requests.head? = some request ∧
      List.splitOn ' ' request.line = [Text.of "GET", target, Text.of "HTTP/1.1"] := by
  intro base token parameters endpoint request settings target
  have accepted : parseJobUrl (Text.of "http://u:p@127.0.0.1:8080/job?x=1#top") = .ok settings.jobUrl := by
    decide +kernel
  have resolved : Parameters.resolve token (Text.of "master") none = .ok parameters := by decide
  have first : (trigger settings parameters endpoint 0).requests.head? = some request := by
    decide +kernel
  obtain ⟨query, -, given, -, -, -, fields, -⟩ :=
    (trigger_requestLine accepted resolved endpoint 0).2 request first
  have written : target = Path.render (parameters.addTo base).path ++
      Url.marked '?' (parameters.addTo base).query := by
    decide +kernel
  rw [given] at written
  exact ⟨accepted, resolved, first, written ▸ fields⟩

end ReleaseTrigger
