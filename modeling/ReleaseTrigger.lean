import ReleaseTrigger.Main
import ReleaseTrigger.Session
import ReleaseTrigger.Proofs.Parameters
import ReleaseTrigger.Proofs.JobUrl
import ReleaseTrigger.Proofs.RequestLine
import ReleaseTrigger.Proofs.Session
import ReleaseTrigger.Proofs.Run
import ReleaseTrigger.Proofs.CommandLine.Word
import ReleaseTrigger.Proofs.CommandLine.Occurrence
import ReleaseTrigger.Proofs.CommandLine.Grammar
import ReleaseTrigger.Proofs.CommandLine.Precedence
import ReleaseTrigger.Proofs.CommandLine.Secrecy
import ReleaseTrigger.Proofs.Url.Place
import ReleaseTrigger.Proofs.Confinement
import ReleaseTrigger.Proofs.Query
import ReleaseTrigger.Proofs.Credentials
import ReleaseTrigger.Proofs.DotSegments
import ReleaseTrigger.Proofs.Ipv6Host
import ReleaseTrigger.Proofs.Ipv4Host
import ReleaseTrigger.Proofs.Port
import ReleaseTrigger.Proofs.Spelling
import ReleaseTrigger.Proofs.TimeLimit
import ReleaseTrigger.Proofs.AuditTrail
