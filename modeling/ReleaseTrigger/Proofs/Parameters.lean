import ReleaseTrigger.Parameters
import ReleaseTrigger.Proofs.Form
import ReleaseTrigger.Proofs.Tag
import ReleaseTrigger.Url.Printer

/-! # Parameters on the wire

What is resolved holds the token and the reference as they were given, and the tag that was asked
for or derived from the last segment of the reference. Adding parameters to a URL touches nothing but
its query, keeps that query as it stands, and can be undone: whoever decodes the query reads the pairs
of the old one and then the parameters.
-/

namespace ReleaseTrigger.Parameters

/-! ## Resolution -/

theorem resolveTag_eq_ok_iff {reference tag : Text} :
    resolveTag reference = .ok tag ↔ Tag.ofReference? reference = some tag := by
  unfold resolveTag
  cases Tag.ofReference? reference <;> simp

/-- Without a tag, parameters resolve unless the reference is empty or ends in a slash. -/
theorem resolveTag_eq_error_iff {reference : Text} {error : UnresolvableReference} :
    resolveTag reference = .error error ↔
      error = ⟨reference⟩ ∧ (reference = [] ∨ reference.getLast? = some '/') := by
  rw [← Tag.ofReference?_eq_none_iff]
  unfold resolveTag
  cases Tag.ofReference? reference <;> simp [eq_comm]

theorem resolve_eq_ok_iff {token buildRef : Text} {imageTag : Option Text} {parameters : Parameters} :
    resolve token buildRef imageTag = .ok parameters ↔
      ∃ tag, (imageTag = some tag ∨ imageTag = none ∧ resolveTag buildRef = .ok tag) ∧
        parameters = ⟨token, buildRef, tag⟩ := by
  cases imageTag with
  | some given => simp [resolve, eq_comm]
  | none =>
    simp only [resolve, reduceCtorEq, false_or, true_and]
    cases resolveTag buildRef with
    | ok tag => simp [Except.map, eq_comm]
    | error error => simp [Except.map]

theorem resolve_eq_error_iff {token buildRef : Text} {imageTag : Option Text}
    {error : UnresolvableReference} :
    resolve token buildRef imageTag = .error error ↔
      imageTag = none ∧ resolveTag buildRef = .error error := by
  cases imageTag with
  | some given => simp [resolve]
  | none =>
    simp only [resolve, true_and]
    cases resolveTag buildRef <;> simp [Except.map]

theorem pairs_injective : Function.Injective pairs := by
  rintro ⟨token, buildRef, imageTag⟩ ⟨token', buildRef', imageTag'⟩ same
  simp only [pairs, List.cons.injEq, Prod.mk.injEq, true_and, and_true] at same
  obtain ⟨rfl, rfl, rfl⟩ := same
  rfl

theorem pairs_eq_iff {parameters : Parameters} {token buildRef imageTag : Text} :
    parameters.pairs =
        [(Text.of "token", token), (Text.of "BUILD_REF", buildRef), (Text.of "IMAGE_TAG", imageTag)] ↔
      parameters = ⟨token, buildRef, imageTag⟩ := by
  rw [← pairs_injective.eq_iff]
  rfl

/-- The tag of a reference is its last segment, with one exception, and a reference that has none is
refused as it stands. A derived tag is text without slashes, is not the name of the main branch, and is
derived again from itself and from whatever ends in its reference behind a slash. Parameters hold this
tag and the reference if no tag is asked for, and otherwise the tag that is asked for, whatever the
reference. -/
theorem resolve_derivesTag (reference : Text) :
    (∀ tag, resolveTag reference = .ok tag ↔
      ∃ front segment, reference = front ++ segment ∧ (front = [] ∨ front.getLast? = some '/') ∧
        segment ≠ [] ∧ '/' ∉ segment ∧
        tag = if segment = Text.of "master" then Text.of "latest" else segment) ∧
    (∀ error, resolveTag reference = .error error ↔
      error = ⟨reference⟩ ∧ (reference = [] ∨ reference.getLast? = some '/')) ∧
    (∀ tag, resolveTag reference = .ok tag →
      tag ≠ [] ∧ '/' ∉ tag ∧ tag ≠ Text.of "master" ∧ resolveTag tag = .ok tag) ∧
    (∀ front tag, resolveTag (front ++ '/' :: reference) = .ok tag ↔ resolveTag reference = .ok tag) ∧
    ∀ token,
      (∀ parameters, resolve token reference none = .ok parameters ↔
        ∃ tag, resolveTag reference = .ok tag ∧ parameters.pairs =
          [(Text.of "token", token), (Text.of "BUILD_REF", reference), (Text.of "IMAGE_TAG", tag)]) ∧
      (∀ error, resolve token reference none = .error error ↔ resolveTag reference = .error error) ∧
      ∀ tag, ∃ parameters, resolve token reference (some tag) = .ok parameters ∧ parameters.pairs =
        [(Text.of "token", token), (Text.of "BUILD_REF", reference), (Text.of "IMAGE_TAG", tag)] := by
  refine ⟨?_, fun error => resolveTag_eq_error_iff, ?_, ?_, ?_⟩
  · intro tag
    rw [resolveTag_eq_ok_iff]
    exact Tag.ofReference?_eq_some_iff
  · intro tag derived
    have normal := Tag.isNormal_of_ofReference? (resolveTag_eq_ok_iff.mp derived)
    exact ⟨normal.ne_nil, normal.slashless, normal.ne_mainBranch,
      resolveTag_eq_ok_iff.mpr normal.ofReference?_eq⟩
  · intro front tag
    rw [resolveTag_eq_ok_iff, resolveTag_eq_ok_iff, Tag.ofReference?_append]
  · intro token
    refine ⟨?_, ?_, fun tag => ⟨⟨token, reference, tag⟩, rfl, rfl⟩⟩
    · intro parameters
      simp only [resolve_eq_ok_iff, reduceCtorEq, false_or, true_and, pairs_eq_iff]
    · intro error
      simp only [resolve_eq_error_iff, true_and]

/-- The tag of the main branch, at any depth, and a reference that is refused unless a tag is asked for. -/
theorem resolve_derivesTag_nested :
    let reference := Text.of "refs/remotes/origin/master"
    resolveTag reference = .ok (Text.of "latest") ∧
      resolveTag (Text.of "latest") = .ok (Text.of "latest") ∧
      resolve (Text.of "t") (Text.of "refs/heads/") none = .error ⟨Text.of "refs/heads/"⟩ ∧
      ∃ parameters, resolve (Text.of "t") (Text.of "refs/heads/") (some []) = .ok parameters ∧
        parameters.imageTag = [] := by
  intro reference
  have derived : resolveTag reference = .ok (Text.of "latest") := by decide
  obtain ⟨-, -, normal, -⟩ := resolve_derivesTag reference
  obtain ⟨-, refused, -, -, resolved⟩ := resolve_derivesTag (Text.of "refs/heads/")
  obtain ⟨-, fails, given⟩ := resolved (Text.of "t")
  have underivable := (refused _).mpr ⟨rfl, .inr (by decide)⟩
  obtain ⟨parameters, asked, pairs⟩ := given []
  exact ⟨derived, (normal _ derived).2.2.2, (fails _).mpr underivable, parameters, asked,
    pairs_eq_iff.mp pairs ▸ rfl⟩

/-! ## The query -/

/-- The parameters survive the way through a URL. Its query is the old one as it stands, an ampersand
if that is there and not empty, and the three encoded pairs; it is decoded to the pairs of the old one
and the three parameters, unaltered and in order; and everything else about the URL stays. -/
theorem addTo_roundTrip {token buildRef : Text} {imageTag : Option Text} {parameters : Parameters}
    (resolved : resolve token buildRef imageTag = .ok parameters) (base : Url) :
    ∃ tag, (imageTag = some tag ∨ imageTag = none ∧ resolveTag buildRef = .ok tag) ∧
      let url := parameters.addTo base
      let query := base.query.getD []
      let pairs : List Form.Pair :=
        [(Text.of "token", token), (Text.of "BUILD_REF", buildRef), (Text.of "IMAGE_TAG", tag)]
      let divider := if base.query = none ∨ base.query = some [] then [] else ['&']
      url.query = some (query ++ divider ++ List.intercalate ['&'] (pairs.map Form.encodePair)) ∧
      Form.decodePairs (url.query.getD []) = Form.decodePairs query ++ pairs ∧
      { url with query := base.query } = base ∧
      url.render = { base with query := none, fragment := none }.render ++
        '?' :: query ++ divider ++ List.intercalate ['&'] (pairs.map Form.encodePair) ++
        Url.marked '#' base.fragment := by
  obtain ⟨tag, effective, rfl⟩ := resolve_eq_ok_iff.mp resolved
  refine ⟨tag, effective, ?_⟩
  intro url query pairs divider
  have same : Form.divider query = divider := by
    cases given : base.query <;> simp [Form.divider, query, divider, given]
  have whole : url.query = some (query ++ divider ++ Form.encodePairs pairs) := by
    rw [← same, ← Form.appendAll_eq query (List.cons_ne_nil _ _)]
    rfl
  refine ⟨whole, Form.decodePairs_appendAll query pairs, rfl, ?_⟩
  rw [Url.render, whole]
  simp only [Url.render, Url.marked, List.append_assoc, List.append_nil, List.cons_append]
  rfl

/-- A token of reserved characters is read back behind a query with a stray escape. -/
theorem addTo_roundTrip_reserved :
    let parameters : Parameters :=
      ⟨Text.of "a b&c=%é+", Text.of "refs/heads/master", Text.of "latest"⟩
    let base : Url :=
      { scheme := .https, username := [], password := none, host := .domain (Text.of "ci.example"),
        port := none, path := [Text.of "job"], query := some (Text.of "delay=%4&"),
        fragment := some (Text.of "top") }
    resolve parameters.token parameters.buildRef none = .ok parameters ∧
      Form.decodePairs ((parameters.addTo base).query.getD []) =
        [(Text.of "delay", Text.of "%4"), (Text.of "token", Text.of "a b&c=%é+"),
          (Text.of "BUILD_REF", Text.of "refs/heads/master"), (Text.of "IMAGE_TAG", Text.of "latest")] ∧
      (parameters.addTo base).fragment = some (Text.of "top") := by
  intro parameters base
  have resolved : resolve parameters.token parameters.buildRef none = .ok parameters := rfl
  obtain ⟨tag, effective, -, pairs, frame, -⟩ := addTo_roundTrip resolved base
  have derived : tag = Text.of "latest" := by
    obtain given | ⟨-, given⟩ := effective
    · cases given
    · cases given
      rfl
  subst derived
  refine ⟨resolved, ?_, congrArg Url.fragment frame⟩
  rw [pairs]
  decide

end ReleaseTrigger.Parameters
