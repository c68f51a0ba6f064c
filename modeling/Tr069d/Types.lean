/-!
# The data passed between the components

The structures of `include/tr069/Types.hpp`.  A `std::string` and a Lua string
are byte strings; here they are `String`s in which every character stands for
one byte, so that `String.length` is the length in bytes.
-/

namespace Tr069d

structure ParameterValue where
  name : String
  value : String
  type : String := "xsd:string"
  deriving DecidableEq, Repr

structure ParameterInfo where
  name : String
  writable : Bool := false
  deriving DecidableEq, Repr

structure DownloadRequest where
  commandKey : String := ""
  fileType : String := ""
  url : String := ""
  username : String := ""
  password : String := ""
  targetFileName : String := ""
  delaySeconds : Nat := 0
  deriving DecidableEq, Repr

structure TransferResult where
  commandKey : String := ""
  faultCode : Int := 0
  faultString : String := ""
  startTime : String := ""
  completeTime : String := ""
  deriving DecidableEq, Repr

structure ParsedRpc where
  method : String := ""
  cwmpId : String := ""
  parameterNames : List String := []
  parameterValues : List ParameterValue := []
  parameterPath : String := ""
  nextLevel : Bool := false
  parameterKey : String := ""
  commandKey : String := ""
  download : Option DownloadRequest := none
  deriving DecidableEq, Repr

structure RpcResult where
  responseXml : String := ""
  requestReboot : Bool := false
  rebootCommandKey : String := ""
  download : Option DownloadRequest := none
  deriving DecidableEq, Repr

inductive LogLevel
  | debug
  | info
  | warn
  | error
  deriving DecidableEq, Repr

end Tr069d
