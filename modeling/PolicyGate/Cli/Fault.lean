import PolicyGate.Config.Service

/-!
Faults that end a command, each with a code for programs that read the output.
-/
namespace PolicyGate.Cli

inductive CommandFault where
  | config (fault : ConfigFault)
  | io (reason : String)
  | store (fault : StoreFault)
  | query (fault : QueryFault)
  | auth (fault : AuthFault)
  | serve (reason : String)
deriving DecidableEq

namespace CommandFault

def code : CommandFault → String
  | .config _ => "ROWGATE_CLI_CONFIG_ERROR"
  | .io _ => "ROWGATE_CLI_IO_ERROR"
  | .store _ => "ROWGATE_CLI_STORE_ERROR"
  | .query _ => "ROWGATE_CLI_QUERY_ERROR"
  | .auth _ => "ROWGATE_CLI_AUTH_ERROR"
  | .serve _ => "ROWGATE_CLI_SERVE_FAILED"

def message : CommandFault → String
  | .config fault => fault.message
  | .io reason => reason
  | .store fault => fault.message
  | .query fault => fault.message
  | .auth fault => fault.message
  | .serve reason => reason

def display (fault : CommandFault) : String := fault.code ++ ": " ++ fault.message

end CommandFault
end PolicyGate.Cli
