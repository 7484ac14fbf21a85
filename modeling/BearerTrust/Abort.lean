namespace BearerTrust

inductive Abort where
  | instantOverflow
  | contextInstalled
  | raised (message : String)
deriving DecidableEq, Inhabited

def Abort.message : Abort → String
  | instantOverflow => "overflow when adding duration to instant"
  | contextInstalled => "a validation context is already installed for this request"
  | raised message => message

end BearerTrust
