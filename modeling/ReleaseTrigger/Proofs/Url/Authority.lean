import ReleaseTrigger.Proofs.Percent
import ReleaseTrigger.Proofs.Text.Pieces
import ReleaseTrigger.Proofs.Url.Host
import ReleaseTrigger.Url.Printer

/-! # Authorities

An authority comes apart at its last at sign, at the first colon before that, and at the first colon outside
brackets after it. What is written between these marks is read back.
-/

namespace ReleaseTrigger

namespace Url

/-! ## Components after their marks -/

theorem mem_marked {mark c : Char} {component : Option Text} (member : c ∈ marked mark component) :
    c = mark ∨ ∃ text, component = some text ∧ c ∈ text := by
  cases component with
  | none => cases member
  | some text => exact (List.mem_cons.mp member).imp_right fun member => ⟨text, rfl, member⟩

/-- A component is divided from a text before it by its mark, if the mark is not in the text. -/
theorem cut_marked {mark : Char} {text : Text} (unmarked : ∀ c ∈ text, c ≠ mark)
    (component : Option Text) :
    Text.cut (· == mark) (text ++ marked mark component) = (text, component) := by
  have unmarked : ∀ c ∈ text, (c == mark) = false :=
    fun c member => beq_eq_false_iff_ne.mpr (unmarked c member)
  cases component with
  | none => rw [marked, List.append_nil, Text.cut_of_unmarked unmarked]
  | some component => exact Text.cut_append (by simp) unmarked component

end Url

namespace Authority

/-! ## User info and port -/

theorem parse_eq_ok_iff {scheme : Scheme} {text : Text} {authority : Authority} :
    parse scheme text = .ok authority ↔
      ∃ host port,
        Host.parse (splitPort false (Text.cutLast (· == '@') text).2).1 = .ok host ∧
        parsePort ((splitPort false (Text.cutLast (· == '@') text).2).2.getD []) = .ok port ∧
        authority = ⟨(parseUserInfo ((Text.cutLast (· == '@') text).1.getD [])).1,
          (parseUserInfo ((Text.cutLast (· == '@') text).1.getD [])).2, host, shownPort scheme port⟩ := by
  simp only [parse, bind, Except.bind, pure, Except.pure]
  cases Host.parse (splitPort false (Text.cutLast (· == '@') text).2).1 with
  | error error => simp
  | ok host =>
    cases parsePort ((splitPort false (Text.cutLast (· == '@') text).2).2.getD []) with
    | error error => simp
    | ok port => simp [eq_comm]

theorem escaped_parseUserInfo (text : Text) :
    Percent.Escaped Percent.userInfoSet (parseUserInfo text).1 ∧
      ∀ password, (parseUserInfo text).2 = some password →
        password ≠ [] ∧ Percent.Escaped Percent.userInfoSet password := by
  unfold parseUserInfo
  dsimp only
  refine ⟨Percent.userInfoSet_isComponentSet.escaped_encode _, ?_⟩
  intro password given
  split at given
  · cases given
  · cases given
  · rename_i text some _
    cases given
    refine ⟨?_, Percent.userInfoSet_isComponentSet.escaped_encode _⟩
    rw [ne_eq, Percent.encode_eq_nil_iff]
    exact some

/-- A user name and a password are read back from what is written of them. -/
theorem parseUserInfo_append {username : Text} {password : Option Text}
    (escaped : Percent.Escaped Percent.userInfoSet username)
    (given : ∀ text, password = some text → text ≠ [] ∧ Percent.Escaped Percent.userInfoSet text) :
    parseUserInfo (username ++ Url.marked ':' password) = (username, password) := by
  have unmarked : ∀ c ∈ username, c ≠ ':' := by
    rintro c member rfl
    exact absurd (escaped ':' member) (by decide)
  rw [parseUserInfo, Url.cut_marked unmarked]
  simp only [Percent.encode_of_clean escaped]
  cases password with
  | none => rfl
  | some password =>
    obtain ⟨some, written⟩ := given password rfl
    cases password with
    | nil => exact absurd rfl some
    | cons first rest => simp only [Percent.encode_of_clean written]

theorem le_of_parsePort {digits : Text} {number : Nat} (parsed : parsePort digits = .ok (some number)) :
    number ≤ 65535 := by
  unfold parsePort at parsed
  split_ifs at parsed
  · cases parsed
  · split at parsed
    · cases parsed
    · split_ifs at parsed with bound
      cases parsed
      exact bound

theorem shownPort_eq_some_iff {scheme : Scheme} {port : Option Nat} {number : Nat} :
    shownPort scheme port = some number ↔ port = some number ∧ number ≠ scheme.defaultPort := by
  rw [shownPort, Option.filter_eq_some_iff, decide_eq_true_eq]

/-! ## Host and port -/

theorem splitPort_append {inside : Bool} {text : Text}
    (plain : ∀ c ∈ text, c ≠ '[' ∧ c ≠ ']' ∧ (c = ':' → inside = true)) (rest : Text) :
    splitPort inside (text ++ rest) =
      (text ++ (splitPort inside rest).1, (splitPort inside rest).2) := by
  induction text with
  | nil => rfl
  | cons c text ih =>
    obtain ⟨opens, closes, colon⟩ := plain c (List.mem_cons_self ..)
    have stays : ¬(c = ':' ∧ inside = false) := by
      rintro ⟨mark, outside⟩
      rw [colon mark] at outside
      cases outside
    rw [List.cons_append, splitPort, if_neg stays, if_neg opens, if_neg closes,
      ih fun d member => plain d (List.mem_cons_of_mem _ member)]
    rfl

/-- Nothing but the colon is lost. -/
theorem eq_append_marked_of_splitPort {inside : Bool} {text host : Text} {port : Option Text}
    (split : splitPort inside text = (host, port)) : text = host ++ Url.marked ':' port := by
  induction text generalizing inside host with
  | nil =>
    cases split
    rfl
  | cons c text ih =>
    rw [splitPort] at split
    split_ifs at split with colon
    · cases split
      rw [colon.1]
      rfl
    all_goals
      cases split
      rw [List.cons_append, ← ih rfl]

/-- A text in brackets, or one without brackets and colons. -/
def IsHostText (text : Text) : Prop :=
  (∃ inner, text = '[' :: (inner ++ [']']) ∧ ∀ c ∈ inner, c ≠ '[' ∧ c ≠ ']') ∨
    ∀ c ∈ text, c ≠ '[' ∧ c ≠ ']' ∧ c ≠ ':'

/-- The first colon outside brackets is the one before the port. -/
theorem splitPort_marked {text : Text} (host : IsHostText text) (port : Option Text) :
    splitPort false (text ++ Url.marked ':' port) = (text, port) := by
  have ends : splitPort false (Url.marked ':' port) = ([], port) := by
    cases port <;> rfl
  obtain ⟨inner, rfl, unbracketed⟩ | plain := host
  · have plain : ∀ c ∈ inner, c ≠ '[' ∧ c ≠ ']' ∧ (c = ':' → true = true) :=
      fun c member => ⟨(unbracketed c member).1, (unbracketed c member).2, fun _ => rfl⟩
    have closes : splitPort true (']' :: Url.marked ':' port) = ([']'], port) := by
      rw [splitPort, if_neg (by decide), if_neg (by decide), if_pos rfl, ends]
    rw [List.cons_append, List.append_assoc, List.singleton_append, splitPort, if_neg (by decide),
      if_pos rfl, splitPort_append plain, closes]
  · have plain : ∀ c ∈ text, c ≠ '[' ∧ c ≠ ']' ∧ (c = ':' → false = true) := by
      intro c member
      obtain ⟨opens, closes, colon⟩ := plain c member
      exact ⟨opens, closes, fun mark => absurd mark colon⟩
    rw [splitPort_append plain, ends, List.append_nil]

theorem isHostText_render {host : Host} (written : host.IsWritten) : IsHostText host.render := by
  obtain ⟨text, bracketed, inner⟩ | allowed := Host.render_cases written
  · refine .inl ⟨text, bracketed, fun c member => ?_⟩
    constructor <;>
    · rintro rfl
      obtain alphanumeric | colon := inner _ member
      · cases alphanumeric
      · cases colon
  · refine .inr fun c member => ?_
    refine ⟨?_, ?_, ?_⟩ <;>
    · rintro rfl
      exact absurd (allowed _ member).2 (by decide)

/-- Digits are a port if their value is one, and no digits are none. -/
theorem parsePort_of_isDigit {digits : Text} (isDigit : ∀ c ∈ digits, c.isDigit = true) :
    parsePort digits = if Text.positional 10 digits ≤ 65535 then
      .ok (if digits = [] then none else some (Text.positional 10 digits)) else .error .port := by
  rw [parsePort, if_pos (List.all_eq_true.mpr isDigit)]
  by_cases empty : digits = []
  · rw [empty]
    rfl
  · have read : Text.number? 10 digits = some (Text.positional 10 digits) :=
      Text.number?_eq_some_iff_positional.mpr ⟨empty, Text.isInBase_ten_iff.mpr isDigit, rfl⟩
    rw [if_neg (by simpa using empty), read, if_neg empty]

/-- A port is read back from its numeral. -/
theorem parsePort_decimal {port : Option Nat} (bound : ∀ number, port = some number → number ≤ 65535) :
    parsePort ((port.map Text.decimal).getD []) = .ok port := by
  cases port with
  | none => rfl
  | some number =>
    obtain ⟨some, -, value, -⟩ := Text.eq_decimal_iff.mp (rfl : Text.decimal number = _)
    rw [Option.map_some, Option.getD_some, parsePort_of_isDigit fun _ => Text.isDigit_of_mem_decimal, value,
      if_pos (bound number rfl), if_neg some]

/-! ## All of it -/

/-- How an authority divides: user info before the last at sign, if there is one, then a host, and a port
after a colon. -/
structure Divided (text : Text) (userInfo : Option Text) (host : Text) (port : Option Text) : Prop where
  whole : text = userInfo.elim [] (· ++ ['@']) ++ (host ++ Url.marked ':' port)
  isHostText : IsHostText host
  last : ∀ c ∈ host ++ Url.marked ':' port, c ≠ '@'

namespace Divided

variable {text host host' : Text} {userInfo userInfo' port port' : Option Text}

theorem cutLast (divided : Divided text userInfo host port) :
    Text.cutLast (· == '@') text = (userInfo, host ++ Url.marked ':' port) := by
  have unmarked : ∀ c ∈ host ++ Url.marked ':' port, (c == '@') = false :=
    fun c member => beq_eq_false_iff_ne.mpr (divided.last c member)
  rw [divided.whole]
  cases userInfo with
  | none => exact Text.cutLast_of_unmarked unmarked
  | some login =>
    rw [Option.elim_some, List.append_assoc, List.singleton_append]
    exact Text.cutLast_append (by rfl) login unmarked

/-- An authority divides where it is cut. -/
theorem of_splits {place : Text} (cut : Text.cutLast (· == '@') text = (userInfo, place))
    (split : splitPort false place = (host, port)) (isHostText : IsHostText host) :
    Divided text userInfo host port := by
  obtain rfl := eq_append_marked_of_splitPort split
  rcases Text.cutLast_cases (· == '@') text with
    ⟨before, mark, after, marks, unmarked, rfl, equal⟩ | ⟨unmarked, equal⟩
  · obtain rfl := eq_of_beq marks
    rw [cut, Prod.mk.injEq] at equal
    obtain ⟨rfl, rfl⟩ := equal
    exact ⟨by simp, isHostText, fun c member => beq_eq_false_iff_ne.mp (unmarked c member)⟩
  · rw [cut, Prod.mk.injEq] at equal
    obtain ⟨rfl, rfl⟩ := equal
    exact ⟨rfl, isHostText, fun c member => beq_eq_false_iff_ne.mp (unmarked c member)⟩

/-- There is one way to divide an authority. -/
theorem unique (divided : Divided text userInfo host port) (divided' : Divided text userInfo' host' port') :
    userInfo = userInfo' ∧ host = host' ∧ port = port' := by
  have places := divided.cutLast.symm.trans divided'.cutLast
  rw [Prod.mk.injEq] at places
  have parts := splitPort_marked divided.isHostText port
  rw [places.2, splitPort_marked divided'.isHostText, Prod.mk.injEq] at parts
  exact ⟨places.1, parts.1.symm, parts.2.symm⟩

/-- User info, host and port are read each from its own text, and a fault in the host comes before one in
the port. -/
theorem parse_eq (divided : Divided text userInfo host port) (scheme : Scheme) :
    Authority.parse scheme text = do
      let place ← Host.parse host
      let number ← parsePort (port.getD [])
      return ⟨(parseUserInfo (userInfo.getD [])).1, (parseUserInfo (userInfo.getD [])).2, place,
        shownPort scheme number⟩ := by
  rw [Authority.parse, divided.cutLast]
  dsimp only
  rw [splitPort_marked divided.isHostText]

theorem parse_eq_ok_iff (divided : Divided text userInfo host port) {scheme : Scheme}
    {authority : Authority} :
    Authority.parse scheme text = .ok authority ↔
      ∃ place number, Host.parse host = .ok place ∧ parsePort (port.getD []) = .ok number ∧
        authority = ⟨(parseUserInfo (userInfo.getD [])).1, (parseUserInfo (userInfo.getD [])).2, place,
          shownPort scheme number⟩ := by
  rw [Authority.parse_eq_ok_iff, divided.cutLast, splitPort_marked divided.isHostText]

end Divided

end Authority

end ReleaseTrigger
