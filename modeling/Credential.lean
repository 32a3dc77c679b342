import Credential.KeySource
import Credential.Proofs.Faults
import Credential.Proofs.InformationFlow
import Credential.Proofs.Replay
import Credential.Settings.Environment
import Credential.Proofs.Snapshots
import Credential.Proofs.Rotation
import Credential.Proofs.FailureCodes
import Credential.Proofs.Validity
import Credential.Proofs.Admission
import Credential.Proofs.Malleability
import Credential.Proofs.Policy
import Credential.Proofs.Loading
import Credential.Proofs.Propagation
import Credential.Proofs.Disclosure
import Credential.Proofs.Json.Ambiguity
import Credential.Proofs.OneMeaning
import Credential.Proofs.Json.Numerals
import Credential.Proofs.Finiteness
import Credential.Proofs.Addresses
import Credential.Proofs.Audience.Host
import Credential.Proofs.Audience.Case
import Credential.Proofs.Audience.Unseen
import Credential.Proofs.ChallengeClaim
import Credential.Proofs.Requests
import Credential.Proofs.Number.Written
import Credential.Proofs.Settings.Ranges
import Credential.Proofs.Settings.Independence
import Credential.Proofs.PublicMembers
