import SealGate.Shell.Arguments

/-! What the program says instead of starting. The help shows, next to each option that may come
from the environment, what the environment holds for it. -/

namespace SealGate.Shell

def versionLine : String := "vaultgate 0.1.0"

/-- A variable with its value, as help shows it. -/
def variableNote (env : Environment) (name : String) : String :=
  " [env: " ++ name ++ "=" ++ (env name).getD "" ++ "]"

def defaultNote (value : String) : String := " [default: " ++ value ++ "]"

def helpLines (env : Environment) : List String :=
  ["Decrypting gateway for an encrypted file store", "",
    "Usage: vaultgate [OPTIONS]", "",
    "Options:",
    "      --listen <LISTEN>              Address to accept connections on" ++
      variableNote env listenVariable ++ defaultNote Config.defaultListen.render,
    "      --origin <ORIGIN>              Base URL of the origin server" ++
      variableNote env originVariable ++ defaultNote Config.defaultOrigin,
    "      --data-dir <DATA_DIR>          Directory for the settings database" ++
      variableNote env dataDirectoryVariable,
    "      --timeout-secs <TIMEOUT_SECS>  Timeout for each origin request, in seconds" ++
      defaultNote (Text.Decimal.render Config.defaultTimeout.toNat),
    "      --enable                       " ++
      "Enable the capability at startup regardless of the stored flag",
    "      --console                      Attach a JSON-lines consumer on stdin/stdout",
    "  -h, --help                         Print help",
    "  -V, --version                      Print version"]

/-- The lines for a command line that does not start the gateway. -/
def Stop.explain (env : Environment) : Stop → List String
  | .help => helpLines env
  | .version => [versionLine]
  | .missingValue => ["error: a value is required"]
  | .invalidValue => ["error: invalid value"]
  | .unexpectedValue => ["error: unexpected value"]
  | .unknownArgument => ["error: unexpected argument found"]
  | .repeated => ["error: the argument cannot be used multiple times"]

end SealGate.Shell
