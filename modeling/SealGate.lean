import SealGate.Main
import SealGate.Vault.Catalog
import SealGate.Proofs.Reader.Answers
import SealGate.Proofs.Reader.Hostile
import SealGate.Proofs.Session.History
import SealGate.Proofs.Gateway.Holdings
import SealGate.Proofs.Gateway.Access
import SealGate.Proofs.Session.Informed
import SealGate.Proofs.Session.Restart
import SealGate.Proofs.Session.Fidelity
import SealGate.Proofs.Reader.Transparency
import SealGate.Proofs.Reader.Declared
import SealGate.Proofs.Wire.Formats
import SealGate.Proofs.Vault.Catalog
import SealGate.Proofs.Vault.Walk
import SealGate.Proofs.Reader.Refresh
import SealGate.Proofs.Gateway.PassThrough
import SealGate.Proofs.Gateway.Passphrases
import SealGate.Proofs.Gateway.KeySecrecy
import SealGate.Proofs.Session.Theme
import SealGate.Proofs.Session.Failure
import SealGate.Proofs.Reader.Undeclared
import SealGate.Proofs.Vault.Listing
import SealGate.Proofs.Vault.Lookup
import SealGate.Proofs.Gateway.Overlay
import SealGate.Proofs.Gateway.Details
import SealGate.Proofs.Vault.Bounds
import SealGate.Proofs.Http.RangeGrammar
import SealGate.Proofs.Vault.Coverage
import SealGate.Proofs.Vault.Joining
import SealGate.Proofs.Vault.Confining
import SealGate.Proofs.Vault.KeySlots
import SealGate.Proofs.Vault.Alignment
import SealGate.Proofs.Gateway.Folders
import SealGate.Proofs.Vault.Directories
import SealGate.Proofs.Session.Loading
import SealGate.Proofs.Reader.Peeking
import SealGate.Proofs.Gateway.Connection
import SealGate.Proofs.Reader.Disposition
import SealGate.Proofs.Gateway.Spellings
import SealGate.Proofs.Http.Frames
import SealGate.Proofs.Gateway.Failures
import SealGate.Proofs.Gateway.Panics
import SealGate.Proofs.Gateway.Segments
import SealGate.Proofs.Shell.Framing
