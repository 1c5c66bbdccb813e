import ReleaseTrigger.Url.Parser

/-! # Settings

The job is reached under a URL of the web, which has a default, and a request may have a time limit.
-/

namespace ReleaseTrigger

/-- Why a text is not a job URL. -/
inductive JobUrlError where
  | malformed (value : Text) (reason : UrlError)
  | unsupportedScheme (scheme : Text)
deriving DecidableEq, Repr

def JobUrlError.message : JobUrlError → Text
  | malformed value reason =>
    Text.of "invalid job URL '" ++ value ++ Text.of "': " ++ reason.message
  | unsupportedScheme scheme =>
    Text.of "unsupported scheme '" ++ scheme ++ Text.of "' in job URL, expected http or https"

def parseJobUrl (value : Text) : Except JobUrlError Url :=
  match AnyUrl.parse value with
  | .error reason => .error (.malformed value reason)
  | .ok (.foreign url) => .error (.unsupportedScheme url.scheme)
  | .ok (.network url) =>
    if url.scheme.isWeb then .ok url else .error (.unsupportedScheme url.scheme.name)

def defaultJobUrl : Text :=
  Text.of ("https://internal.pingcap.net/idc-jenkins/job/release_advanced_statefulset/" ++
    "buildWithParameters")

/-- Where the job is and how long a request may take. -/
structure Settings where
  jobUrl : Url
  /-- The time limit in seconds. -/
  timeout : Option Nat
deriving DecidableEq, Repr

end ReleaseTrigger
