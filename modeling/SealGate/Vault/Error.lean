import SealGate.Http.ByteRange
import SealGate.Text.Decimal

/-! What can go wrong while a stored file is fetched and opened. Errors are causes; `message` alone
decides their wording. A cause `reported` carries the words of whoever reported it. -/

namespace SealGate.Vault

/-- Why a `Range` header is refused. -/
inductive RangeFault
  | notText
  | range (cause : Http.ByteRange.Error)
  deriving DecidableEq

/-- Requests that cannot be served as they stand. -/
inductive InvalidRequest
  | noFileId
  | rangeHeader (cause : RangeFault)
  | emptyMasterKey
  | relativePath
  | reported (text : String)
  deriving DecidableEq

/-- Stored data that is not what it should be. -/
inductive Corruption
  | inputEnded
  | headerLength
  | headerText
  | headerVersion (version : UInt16)
  | emptyWrappedKey
  | masterKeyLength
  | wrappedKey
  | fileKeyLength
  | sequenceOverflow
  | truncatedPacket
  | packetFormat
  | packetLength
  | packetSequence
  | packetAuthentication
  | noMetadata
  | metadataLength
  | metadataText
  | indexContentType (contentType : String)
  | indexText
  | repositoryText
  | repositoryVersion (version : UInt16)
  | objectEnded
  | reported (text : String)
  deriving DecidableEq

/-- Failures of an exchange with the origin. -/
inductive OriginFault
  /-- There is no such request, because of one of its headers or its address, which is a URL if the
  fault is not that it is none. -/
  | building (url : Option String)
  | sending (url : String)
  | reading
  | status (code : Nat)
  | reported (text : String)
  deriving DecidableEq

inductive Error
  | invalidPassphrase
  | notFound
  | invalidRequest (cause : InvalidRequest)
  | corrupted (cause : Corruption)
  | timeout
  | origin (cause : OriginFault)
  deriving DecidableEq

def RangeFault.message : RangeFault → String
  | .notText => "failed to convert header to a str"
  | .range cause => cause.message

def InvalidRequest.message : InvalidRequest → String
  | .noFileId => "File ID not found in the URL"
  | .rangeHeader cause => "Cannot parse Range header: " ++ cause.message
  | .emptyMasterKey => "Empty master key"
  | .relativePath => "Path must start with /"
  | .reported text => text

/-- What is said of a JSON text that is malformed or of the wrong shape. -/
def malformedText : String := "malformed JSON"

def Corruption.message : Corruption → String
  | .inputEnded => "input stream ended too quickly"
  | .headerLength => "invalid header length"
  | .headerText => "invalid file header: " ++ malformedText
  | .headerVersion version =>
    "file header uses version " ++ Text.Decimal.render version.toNat ++ " which is not supported"
  | .emptyWrappedKey => "invalid key found in file header"
  | .masterKeyLength => "invalid master key"
  | .wrappedKey => "cannot unwrap file key"
  | .fileKeyLength => "invalid file key length"
  | .sequenceOverflow => "packet sequence number overflow"
  | .truncatedPacket => "truncated packet"
  | .packetFormat => "unsupported packet format"
  | .packetLength => "packet length mismatch"
  | .packetSequence => "packet sequence mismatch"
  | .packetAuthentication => "packet authentication failed"
  | .noMetadata => "missing metadata"
  | .metadataLength => "invalid metadata length"
  | .metadataText => "invalid metadata: " ++ malformedText
  | .indexContentType contentType => "index has content type '" ++ contentType ++ "'"
  | .indexText => "invalid index: " ++ malformedText
  | .repositoryText => "invalid repository info: " ++ malformedText
  | .repositoryVersion version =>
    "unsupported repository version " ++ Text.Decimal.render version.toNat
  | .objectEnded => "object ended before the requested range"
  | .reported text => text

def OriginFault.message : OriginFault → String
  | .building none => "builder error"
  | .building (some url) => "builder error for url (" ++ url ++ ")"
  | .sending url => "error sending request for url (" ++ url ++ ")"
  | .reading => "error decoding response body"
  | .status code => "invalid response status code: " ++ Text.Decimal.render code
  | .reported text => text

/-- What every layer says of a timeout. -/
def timeoutMessage : String := "request timed out"

def Error.message : Error → String
  | .invalidPassphrase => "Invalid passphrase"
  | .notFound => "File not found"
  | .invalidRequest cause => cause.message
  | .corrupted cause => "Invalid data: " ++ cause.message
  | .timeout => timeoutMessage
  | .origin cause => "Upstream request failed: " ++ cause.message

end SealGate.Vault
